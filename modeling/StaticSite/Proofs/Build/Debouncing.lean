import Mathlib.Algebra.Ring.Rat
import StaticSite.Proofs.Build.Watching
import StaticSite.Proofs.Glob.Directories

/-!
# Debouncing over whole runs

A handler that is asked again and again whether a change counts carries one thing from question to question:
the times it noted. Along a run they are the times of the last changes that counted, so an answer can be told
from the history alone: a change counts if a glob matches its path and it is not too soon after the last
change of the same path that counted. The answers about a path are therefore those of the run in which only
that path is asked about, and a question with the answer no can as well not have been asked.

The rule is the same for every kind of time that can be subtracted and compared. It is proved once, for the
noted times alone, and carried over to the handler, whose times are floating-point seconds.

## Main definitions

* `Accepted.decisions`: the decisions of the rule about questions one after the other.
* `Handler.decisions`: those of a handler, each in the state of the world at its time.
* `lastYes`: the time of the last change of a path that counted, told from the history.
* `Debounced`: what decisions on questions look like that are taken by the rule.

## Main results

* `Accepted.debounced`: the decisions of the rule are like that, for every kind of time.
* `Handler.debounced_decisions`: so are those of a new handler, whatever the world does meanwhile, as long as the
  configuration can be read and the globs stay.
-/

namespace StaticSite

open Running

/-! ### Decisions and histories -/

section Rule

variable {T C : Type} {path : C → String} {time : C → T} {matched : String → Bool} {delay : T}

/-- The time of the last question about a path with the answer yes in a history of decisions, or `start` if
there is none. -/
def lastYes (path : C → String) (time : C → T) (start : T) (history : List (C × Bool)) (p : String) : T :=
  ((history.filter fun d => d.2 && path d.1 == p).getLast?.map fun d => time d.1).getD start

theorem lastYes_nil (start : T) (p : String) : lastYes path time start [] p = start := rfl

/-- The last entry of a list, with a first one for the case that there is no other. -/
theorem getD_map_getLast?_cons {α : Type} (f : α → T) (a : α) (as : List α) (start : T) :
    ((a :: as).getLast?.map f).getD start = (as.getLast?.map f).getD (f a) := by
  rw [List.getLast?_cons]
  cases as.getLast? <;> rfl

/-- A decision in front of a history is the last one until another follows. -/
theorem lastYes_cons (start : T) (c : C) (yes : Bool) (history : List (C × Bool)) (p : String) :
    lastYes path time start ((c, yes) :: history) p =
      lastYes path time (if yes = true ∧ path c = p then time c else start) history p := by
  by_cases h : yes = true ∧ path c = p
  · rw [if_pos h, lastYes, List.filter_cons_of_pos (by simpa using h), getD_map_getLast?_cons, lastYes]
  · rw [if_neg h, lastYes, List.filter_cons_of_neg (by simpa using h), lastYes]

/-- Decisions that are no or about other paths do not change the last time. -/
theorem lastYes_of_forall {history : List (C × Bool)} {p : String}
    (h : ∀ d ∈ history, path d.1 = p → d.2 = false) (start : T) :
    lastYes path time start history p = start := by
  induction history generalizing start with
  | nil => rfl
  | cons d history ih =>
    obtain ⟨hd, hhistory⟩ := List.forall_mem_cons.mp h
    rw [lastYes_cons, if_neg, ih hhistory]
    rintro ⟨hyes, hpath⟩
    rw [hd hpath] at hyes
    exact Bool.noConfusion hyes

theorem lastYes_append (start : T) (before after : List (C × Bool)) (p : String) :
    lastYes path time start (before ++ after) p =
      lastYes path time (lastYes path time start before p) after p := by
  induction before generalizing start with
  | nil => rfl
  | cons d before ih =>
    obtain ⟨c, yes⟩ := d
    rw [List.cons_append, lastYes_cons, ih, lastYes_cons]

variable [Zero T] [Sub T] [LT T]

/-- What the decisions on questions look like that are taken by the rule: `ask` puts questions to a new
handler one after the other, and `decisions` are those on `calls`. -/
structure Debounced (path : C → String) (time : C → T) (matched : String → Bool) (delay : T)
    (ask : List C → Except Failure (List (C × Bool))) (calls : List C) (decisions : List (C × Bool)) :
    Prop where
  /-- Every question is decided. -/
  asked : ask calls = .ok decisions
  /-- The decisions are on the questions, in their order. -/
  calls_eq : decisions.map Prod.fst = calls
  /-- A change counts if a glob matches its path and it is not too soon after the last one of the path that
  counted, or after the beginning of time if there is none. -/
  exact : ∀ before call yes after, decisions = before ++ (call, yes) :: after →
    (yes = true ↔
      matched (path call) = true ∧ ¬ time call - lastYes path time 0 before (path call) < delay)
  /-- Of two changes of a path that count one after the other, the second is not too soon after the first. -/
  spaced : ∀ before first between second after,
    decisions = before ++ (first, true) :: (between ++ (second, true) :: after) →
    path second = path first → (∀ d ∈ between, path d.1 = path first → d.2 = false) →
    ¬ time second - time first < delay
  /-- The decisions about a path are those of the run restricted to it. -/
  alone : ∀ p, ask (calls.filter fun c => path c == p) =
    .ok (decisions.filter fun d => path d.1 == p)
  /-- Without a question that was answered no, the other answers are the same. -/
  idle : ∀ before call after, decisions = before ++ (call, false) :: after →
    ask ((before ++ after).map Prod.fst) = .ok (before ++ after)

/-! ### The rule -/

variable [DecidableLT T] {accepted accepted' : Accepted T} {calls : List C}

namespace Accepted

/-- What is noted after a question, if its answer is yes. -/
def decide? (path : C → String) (time : C → T) (matched : String → Bool) (delay : T)
    (accepted : Accepted T) (call : C) : Option (Accepted T) :=
  if matched (path call) then accepted.admit? delay (path call) (time call) else none

/-- The decisions on questions one after the other. -/
def decisions (path : C → String) (time : C → T) (matched : String → Bool) (delay : T) :
    Accepted T → List C → List (C × Bool)
  | _, [] => []
  | accepted, call :: calls =>
    match accepted.decide? path time matched delay call with
    | none => (call, false) :: decisions path time matched delay accepted calls
    | some accepted' => (call, true) :: decisions path time matched delay accepted' calls

/-- A question is decided by the last time that is noted of its path, and notes its time if the answer is
yes. -/
theorem decisions_cons (call : C) :
    decisions path time matched delay accepted (call :: calls) =
      if matched (path call) = true ∧ ¬ time call - accepted.last (path call) < delay then
        (call, true) ::
          decisions path time matched delay (note (path call) (time call) accepted) calls
      else (call, false) :: decisions path time matched delay accepted calls := by
  rw [decisions, decide?, admit?]
  by_cases hmatched : matched (path call) = true
  · by_cases hsoon : time call - accepted.last (path call) < delay
    · rw [if_pos hmatched, if_pos hsoon, if_neg fun h => h.2 hsoon]
    · rw [if_pos hmatched, if_neg hsoon, if_pos ⟨hmatched, hsoon⟩]
  · rw [if_neg hmatched, if_neg fun h => hmatched h.1]

theorem map_fst_decisions (accepted : Accepted T) (calls : List C) :
    (decisions path time matched delay accepted calls).map Prod.fst = calls := by
  induction calls generalizing accepted with
  | nil => rfl
  | cons call calls ih =>
    rw [decisions_cons]
    split
    · rw [List.map_cons, ih]
    · rw [List.map_cons, ih]

/-- What is noted of a path is the time of the last change of it that counted: each decision follows from
those before it. -/
theorem exact_of_decisions {before after : List (C × Bool)} {call : C} {yes : Bool}
    (h : decisions path time matched delay accepted calls = before ++ (call, yes) :: after) :
    yes = true ↔ matched (path call) = true ∧
      ¬ time call - lastYes path time (accepted.last (path call)) before (path call) < delay := by
  induction calls generalizing accepted before with
  | nil => exact absurd h.symm (List.append_ne_nil_of_right_ne_nil _ (List.cons_ne_nil _ _))
  | cons first calls ih =>
    rw [decisions_cons] at h
    cases before with
    | nil =>
      rw [lastYes_nil]
      split at h
      · next hyes =>
        obtain ⟨⟨rfl, rfl⟩, -⟩ := by simpa using h
        exact iff_of_true rfl hyes
      · next hno =>
        obtain ⟨⟨rfl, rfl⟩, -⟩ := by simpa using h
        exact iff_of_false Bool.false_ne_true hno
    | cons d before =>
      split at h
      · obtain ⟨rfl, hrest⟩ := List.cons.inj h
        rw [ih hrest, lastYes_cons, last_note]
        simp only [true_and, eq_comm]
      · obtain ⟨rfl, hrest⟩ := List.cons.inj h
        rw [ih hrest, lastYes_cons, if_neg fun h => Bool.false_ne_true h.1]

/-- The decisions about a path depend on the last time that is noted of that path only. -/
theorem decisions_filter {p : String} (h : accepted.last p = accepted'.last p) :
    decisions path time matched delay accepted (calls.filter fun c => path c == p) =
      (decisions path time matched delay accepted' calls).filter fun d => path d.1 == p := by
  induction calls generalizing accepted accepted' with
  | nil => rfl
  | cons call calls ih =>
    by_cases hpath : path call = p
    · rw [List.filter_cons_of_pos (by simpa using hpath), decisions_cons, decisions_cons, hpath, h]
      have hnote : (note p (time call) accepted).last p = (note p (time call) accepted').last p := by
        rw [last_note, last_note, if_pos rfl, if_pos rfl]
      split
      · rw [List.filter_cons_of_pos (by simpa using hpath), ih hnote]
      · rw [List.filter_cons_of_pos (by simpa using hpath), ih h]
    · rw [List.filter_cons_of_neg (by simpa using hpath), decisions_cons]
      split
      · rw [List.filter_cons_of_neg (by simpa using hpath)]
        refine ih ?_
        rw [last_note, if_neg (Ne.symm hpath), h]
      · rw [List.filter_cons_of_neg (by simpa using hpath), ih h]

/-- A question with the answer no leaves nothing behind. -/
theorem decisions_idle {before after : List (C × Bool)} {call : C}
    (h : decisions path time matched delay accepted calls = before ++ (call, false) :: after) :
    decisions path time matched delay accepted ((before ++ after).map Prod.fst) = before ++ after := by
  induction calls generalizing accepted before with
  | nil => exact absurd h.symm (List.append_ne_nil_of_right_ne_nil _ (List.cons_ne_nil _ _))
  | cons first calls ih =>
    rw [decisions_cons] at h
    cases before with
    | nil =>
      split at h
      · exact absurd (List.cons.inj h).1 (by simp)
      · obtain ⟨-, rfl⟩ := List.cons.inj h
        rw [List.nil_append, map_fst_decisions]
    | cons d before =>
      rw [List.cons_append, List.map_cons, decisions_cons]
      split at h
      · next hyes =>
        obtain ⟨rfl, hrest⟩ := List.cons.inj h
        rw [if_pos hyes, ih hrest]
      · next hno =>
        obtain ⟨rfl, hrest⟩ := List.cons.inj h
        rw [if_neg hno, ih hrest]

/-- Whatever puts questions to the rule has its properties. -/
theorem debounced_of_forall {ask : List C → Except Failure (List (C × Bool))} {calls : List C}
    (hask : ∀ asked, asked.Sublist calls → ask asked = .ok (decisions path time matched delay [] asked)) :
    Debounced path time matched delay ask calls (decisions path time matched delay [] calls) where
  asked := hask calls (.refl calls)
  calls_eq := map_fst_decisions [] calls
  exact _ _ _ _ h := exact_of_decisions h
  spaced before first between second after h hpath hbetween := by
    have heq : decisions path time matched delay [] calls =
        (before ++ (first, true) :: between) ++ (second, true) :: after := by
      rw [h, List.append_assoc, List.cons_append]
    have hlast := ((exact_of_decisions heq).mp rfl).2
    rwa [lastYes_append, lastYes_cons, if_pos ⟨rfl, hpath.symm⟩, hpath, lastYes_of_forall hbetween]
      at hlast
  alone p := by
    rw [hask _ List.filter_sublist, decisions_filter rfl]
  idle before call after h := by
    have hcalls : ((before ++ after).map Prod.fst).Sublist calls := by
      have hall : (decisions path time matched delay [] calls).map Prod.fst = calls :=
        map_fst_decisions [] calls
      rw [← hall, h]
      exact ((List.sublist_cons_self ..).append_left before).map Prod.fst
    rw [hask _ hcalls, decisions_idle h]

/-- **The rule debounces exactly and path by path**, whatever kind of time it is about. -/
theorem debounced (path : C → String) (time : C → T) (matched : String → Bool) (delay : T)
    (calls : List C) :
    Debounced path time matched delay (fun asked => .ok (decisions path time matched delay [] asked))
      calls (decisions path time matched delay [] calls) :=
  debounced_of_forall fun _ _ => rfl

end Accepted

end Rule

/-! ### The handler -/

/-- A question put to a handler, whether a change of a file counts, with the state of the world in which it
is put. -/
structure Inquiry where
  /-- The changed file. -/
  path : String
  /-- The time of the change. -/
  time : Binary64
  /-- The world. -/
  world : World

/-- The configuration of a world can be read, and its globs are these. -/
def World.Watches (globs : List String) (w : World) : Prop :=
  ∃ opts, options w.disk w.project.configDir = .ok opts ∧ iterate opts.globs = .ok (globs.map .text)

/-- Values that are all texts are the texts among them. -/
theorem eq_map_of_textsOf {values : List Value} {texts : List String} (h : textsOf values = .ok texts) :
    values = texts.map .text := by
  induction values generalizing texts with
  | nil => rw [← Except.ok.inj h, List.map_nil]
  | cons v values ih =>
    cases v with
    | text s =>
      rw [textsOf] at h
      rcases hrest : textsOf values with failure | rest
      · rw [hrest] at h
        exact absurd h (by simp [Except.map])
      · rw [hrest] at h
        rw [← Except.ok.inj h, List.map_cons, ih hrest]
    | _ => exact absurd h (by simp [textsOf])

namespace Handler

variable {h : Handler} {w : World} {globs : List String}

/-- The decisions of a handler on questions one after the other, each in its own state of the world. The
handler is carried from each to the next. -/
def decisions : Handler → List Inquiry → Except Failure (List (Inquiry × Bool))
  | _, [] => .ok []
  | h, q :: qs => do
    let (yes, h') ← (h.shouldRebuild q.path q.time q.world).1
    let rest ← decisions h' qs
    .ok ((q, yes) :: rest)

/-- A handler decides by the rule, and carries nothing but the times it noted. -/
theorem shouldRebuild_of_watches (hw : w.Watches globs) (q : Inquiry) :
    h.shouldRebuild q.path q.time w =
      (.ok (match h.accepted.decide? Inquiry.path Inquiry.time (matchedBy globs) h.delay q with
        | none => (false, h)
        | some accepted => (true, { h with accepted })), w) := by
  obtain ⟨opts, hopts, hglobs⟩ := hw
  rw [shouldRebuild, bind_apply, currentOptions_apply hopts]
  simp only [hglobs]
  rw [Running.ofExcept, bind_apply, pure_apply]
  simp only [matchesAny_text]
  rw [Running.ofExcept, bind_apply, pure_apply, Accepted.decide?]
  cases matchedBy globs q.path with
  | false => rfl
  | true =>
    simp only [Bool.not_true, Bool.false_eq_true, if_false, if_true]
    rcases h.accepted.admit? h.delay q.path q.time with _ | accepted <;> rfl

/-- The decisions of a handler are those of the rule. -/
theorem decisions_of_watches {qs : List Inquiry} (hqs : ∀ q ∈ qs, q.world.Watches globs) :
    h.decisions qs =
      .ok (h.accepted.decisions Inquiry.path Inquiry.time (matchedBy globs) h.delay qs) := by
  induction qs generalizing h with
  | nil => rfl
  | cons q qs ih =>
    obtain ⟨hq, hqs⟩ := List.forall_mem_cons.mp hqs
    rw [decisions, shouldRebuild_of_watches hq, Accepted.decisions]
    rcases h.accepted.decide? Inquiry.path Inquiry.time (matchedBy globs) h.delay q with _ | accepted
    · simp only [bind, Except.bind, ih hqs]
    · simp only [bind, Except.bind, ih hqs]

/-- **Debouncing is exact, and path by path.** A new handler is asked about changes at any times, in any
order, while the configuration can be read and the globs are the same. It answers every question. A change
counts if a glob matches its path and it is not too soon after the last change of the same path that counted;
changes of a path that count are spaced accordingly; the answers about a path are those of the run restricted
to it, and a question with the answer no can be left out. For exact times, of which the rule needs no more
than their differences, it is the same. -/
theorem debounced_decisions (views : List String) (delay : Binary64) (globs : List String) (inquiries : List Inquiry)
    (hwatches : ∀ q ∈ inquiries, q.world.Watches globs) :
    (∃ decisions, Debounced Inquiry.path Inquiry.time (matchedBy globs) delay
      (Handler.decisions ⟨views, delay, []⟩) inquiries decisions) ∧
    ∀ (delay : Rat) (calls : List (String × Rat)), ∃ decisions,
      Debounced Prod.fst Prod.snd (matchedBy globs) delay
        (fun asked => .ok (Accepted.decisions Prod.fst Prod.snd (matchedBy globs) delay [] asked))
        calls decisions :=
  ⟨⟨_, Accepted.debounced_of_forall fun _ hasked =>
      decisions_of_watches fun q hq => hwatches q (hasked.subset hq)⟩,
    fun _ _ => ⟨_, Accepted.debounced ..⟩⟩

end Handler

namespace World

/-- A file is said to have changed in the world with one view, at a time in tenths of seconds. -/
def inquiring (path : String) (tenths : Nat) : Inquiry :=
  ⟨path, Binary64.ofDecimal false tenths (-1), oneView⟩

set_option maxRecDepth 100000

/-- The world with one view has the default globs. -/
theorem oneView_watches : oneView.Watches (defaultGlobs "/config" "/src") := by
  obtain ⟨opts, hopts, htexts⟩ : ∃ opts, options oneView.disk oneView.project.configDir = .ok opts ∧
      ((iterate opts.globs).bind textsOf).toOption = some (defaultGlobs "/config" "/src") :=
    exists_options (by decide +kernel)
  rcases hglobs : iterate opts.globs with failure | globs
  · rw [hglobs] at htexts
    exact absurd htexts (by simp [Except.bind, Except.toOption])
  rw [hglobs] at htexts
  exact ⟨opts, hopts, hglobs.trans (congrArg Except.ok (eq_map_of_textsOf (ok_of_toOption htexts)))⟩

/-- The view changes after a second, a tenth and three tenths of a second later, between them another view and
a file that no glob matches: the second change is too soon, the other view is on its own. -/
theorem oneView_debounced :
    (∀ q ∈ [inquiring "/src/views/v.j2" 10, inquiring "/src/views/w.j2" 11, inquiring "/src/views/v.j2" 11,
      inquiring "/src/x.txt" 12, inquiring "/src/views/v.j2" 13],
      q.world.Watches (defaultGlobs "/config" "/src")) ∧
    (∃ decisions, Debounced Inquiry.path Inquiry.time (matchedBy (defaultGlobs "/config" "/src")) fifth
      (Handler.decisions ⟨["v.j2"], fifth, []⟩)
      [inquiring "/src/views/v.j2" 10, inquiring "/src/views/w.j2" 11, inquiring "/src/views/v.j2" 11,
        inquiring "/src/x.txt" 12, inquiring "/src/views/v.j2" 13] decisions) ∧
    ((Handler.decisions ⟨["v.j2"], fifth, []⟩
      [inquiring "/src/views/v.j2" 10, inquiring "/src/views/w.j2" 11, inquiring "/src/views/v.j2" 11,
        inquiring "/src/x.txt" 12, inquiring "/src/views/v.j2" 13]).map
          fun decisions => decisions.map Prod.snd).toOption = some [true, true, false, false, true] := by
  have hwatches : ∀ q ∈ [inquiring "/src/views/v.j2" 10, inquiring "/src/views/w.j2" 11,
      inquiring "/src/views/v.j2" 11, inquiring "/src/x.txt" 12, inquiring "/src/views/v.j2" 13],
      q.world.Watches (defaultGlobs "/config" "/src") := by
    simp only [List.forall_mem_cons]
    exact ⟨oneView_watches, oneView_watches, oneView_watches, oneView_watches, oneView_watches, nofun⟩
  exact ⟨hwatches, (Handler.debounced_decisions ["v.j2"] fifth _ _ hwatches).1, by decide +kernel⟩

end World

end StaticSite
