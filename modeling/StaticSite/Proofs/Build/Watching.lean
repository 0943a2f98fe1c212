import StaticSite.Proofs.Build.Session

/-!
# Watching out of development

Out of development every change that counts has the whole site built, so what earlier changes were left
without is made up for by the next one that counts. What remains is the last change. If it counts, all
pages are as a full build leaves them; it counts unless an earlier change of the same file that counted was
too recent. A last change that comes too soon is lost: nothing looks at it later.

## Main definitions

* `Counted`: the changes that count while changes are handed to a handler.

## Main results

* `deliver_counted`: the time that is noted for a file is that of a change of it that counted.
* `deliver_last`: once a last change that is not too soon has been handled, the disk is as a full build
  leaves it.
* `not_deliver_last`: two changes in too short a time leave the page of the first.
-/

namespace StaticSite

open Running

variable {w w' w₁ : World} {opts : Options} {h h' : Handler} {e e' : Event} {events : List Event}

/-! ### Times that are noted -/

namespace Accepted

variable {T : Type}

/-- What is noted of a path is its new time; what is noted of other paths stays. -/
theorem lookup_note (path : String) (time : T) (accepted : Accepted T) (other : String) :
    (note path time accepted).lookup other = if other = path then some time else accepted.lookup other := by
  induction accepted with
  | nil =>
    rw [note, List.lookup_cons]
    by_cases ho : other = path
    · rw [if_pos ho, beq_iff_eq.mpr ho]
    · rw [if_neg ho, beq_eq_false_iff_ne.mpr ho]
  | cons entry accepted ih =>
    obtain ⟨p, t⟩ := entry
    rw [note]
    by_cases hp : p = path
    · rw [if_pos (beq_iff_eq.mpr hp), List.lookup_cons, List.lookup_cons, ← hp]
      by_cases ho : other = p
      · rw [if_pos ho, beq_iff_eq.mpr ho]
      · rw [if_neg ho, beq_eq_false_iff_ne.mpr ho]
    · rw [if_neg (by simpa using hp), List.lookup_cons, List.lookup_cons, ih]
      by_cases ho : other = p
      · have hother : other ≠ path := fun heq => hp (ho.symm.trans heq)
        rw [beq_iff_eq.mpr ho, if_neg hother, if_neg hother]
      · rw [beq_eq_false_iff_ne.mpr ho]

variable [Zero T]

/-- The time of a path that is noted is its new time; the times of other paths stay. -/
theorem last_note (path : String) (time : T) (accepted : Accepted T) (other : String) :
    (note path time accepted).last other = if other = path then time else accepted.last other := by
  rw [last, lookup_note, last]
  split <;> rfl

/-- A change that counts is noted, and was not too soon. -/
theorem of_admit? [Sub T] [LT T] [DecidableLT T] {accepted accepted' : Accepted T} {delay time : T}
    {path : String} (h : accepted.admit? delay path time = some accepted') :
    ¬time - accepted.last path < delay ∧ accepted' = note path time accepted := by
  rw [admit?] at h
  split at h
  · exact absurd h (by simp)
  · next hlate => exact ⟨hlate, (Option.some.inj h).symm⟩

end Accepted

/-! ### Changes that count -/

/-- The changes that count while changes are handed to a handler. -/
inductive Counted : Handler → List Event → World → Event → Prop
  /-- The first one. -/
  | here {h : Handler} {e : Event} {events : List Event} {w : World} {accepted : Accepted Binary64}
    (routes : h.Routes e { w with disk := w.disk.after e } accepted) : Counted h (e :: events) w e
  /-- One after it. -/
  | later {h h' : Handler} {e e' : Event} {events : List Event} {w w' : World}
    (step : h.onEvent e { w with disk := w.disk.after e } = (.ok h', w'))
    (rest : Counted h' events w' e') : Counted h (e :: events) w e'

/-- What is noted by handling a change is its time, if it counts. -/
theorem Handler.last_onEvent (hstep : h.onEvent e w = (.ok h', w')) (path : String) :
    h'.accepted.last path = h.accepted.last path ∨
      (∃ accepted, h.Routes e w accepted) ∧ Handler.subject e = path ∧
        h'.accepted.last path = e.time := by
  rcases Handler.onEvent_cases hstep with ⟨accepted, messages, hroutes, rfl, -⟩ | ⟨rfl, -⟩
  · obtain ⟨-, -, -, -, -, -, -, hnoted⟩ := id hroutes
    obtain ⟨-, rfl⟩ := Accepted.of_admit? hnoted
    simp only [Accepted.last_note]
    by_cases hsame : path = Handler.subject e
    · exact .inr ⟨⟨_, hroutes⟩, hsame.symm, if_pos hsame⟩
    · exact .inl (if_neg hsame)
  · exact .inl rfl

/-- After changes were handed over, the handler has its views and its delay and the project is the same,
and the time noted for a file is that of a change of it that counted, unless it is the old one. -/
theorem deliver_counted (hall : deliver h events w = (.ok h', w')) :
    h'.views = h.views ∧ h'.delay = h.delay ∧ w'.project = w.project ∧
      ∀ path, h'.accepted.last path = h.accepted.last path ∨
        ∃ e, Counted h events w e ∧ Handler.subject e = path ∧ h'.accepted.last path = e.time := by
  induction events generalizing h w with
  | nil =>
    obtain ⟨hr, rfl⟩ := Prod.ext_iff.mp hall
    obtain rfl := Except.ok.inj hr
    exact ⟨rfl, rfl, rfl, fun path => .inl rfl⟩
  | cons e events ih =>
    rw [deliver_cons] at hall
    obtain ⟨h₁, w₁, hstep, hrest⟩ := exists_of_bind_ok hall
    obtain ⟨hviews, hdelay, hproject⟩ := Handler.onEvent_keeps hstep
    obtain ⟨hviews', hdelay', hproject', hlast⟩ := ih hrest
    refine ⟨hviews'.trans hviews, hdelay'.trans hdelay, hproject'.trans hproject, fun path => ?_⟩
    rcases hlast path with hsame | ⟨e', hcounted, hsubject, htime⟩
    · rcases Handler.last_onEvent hstep path with hsame' | ⟨⟨accepted, hroutes⟩, hsubject, htime⟩
      · exact .inl (hsame.trans hsame')
      · exact .inr ⟨e, .here hroutes, hsubject, hsame.trans htime⟩
    · exact .inr ⟨e', .later hstep hcounted, hsubject, htime⟩

/-- Changes are handed over one after the other. -/
theorem deliver_append (h : Handler) (es fs : List Event) :
    deliver h (es ++ fs) = (do
      let h' ← deliver h es
      deliver h' fs) := by
  induction es generalizing h with
  | nil => simp [deliver]
  | cons e es ih => simp only [List.cons_append, deliver, bind_assoc, ih]

/-! ### The last change -/

/-- **No update is lost while watching, if the last change is not too soon.** Out of development, when a
last change is handled that a glob matches and that comes late enough after the beginning of time and after
all changes of the same file that counted, the disk is left as a full build leaves it. -/
theorem deliver_last {views : List String} {delay : Binary64} {globs : List Value}
    (hdev : w.project.development = false) (hall : deliver ⟨views, delay, []⟩ events w = (.ok h, w₁))
    (hfolder : e.isFolder = false) (hkind : Handler.isRelevant e.kind = true)
    (hopts : options (w₁.disk.after e) w₁.project.configDir = .ok opts)
    (hglobs : iterate opts.globs = .ok globs)
    (hmatch : matchesAny (Handler.subject e) globs = .ok true) (hclock : ¬e.time - 0 < delay)
    (hlate : ∀ e', Counted ⟨views, delay, []⟩ events w e' → Handler.subject e' = Handler.subject e →
      ¬e.time - e'.time < delay) :
    (deliver ⟨views, delay, []⟩ (events ++ [e]) w).2.disk =
      (walk opts.views none { w₁ with disk := w₁.disk.after e }).2.disk := by
  obtain ⟨-, hdelay, hproject, hlast⟩ := deliver_counted hall
  have hnoted : h.accepted.admit? h.delay (Handler.subject e) e.time =
      some (Accepted.note (Handler.subject e) e.time h.accepted) := by
    rw [Accepted.admit?, hdelay, if_neg]
    rcases hlast (Handler.subject e) with hnone | ⟨e', hcounted, hsubject, htime⟩
    · rw [hnone]
      exact hclock
    · rw [htime]
      exact hlate e' hcounted hsubject
  have hroutes : h.Routes e { w₁ with disk := w₁.disk.after e } _ :=
    ⟨hfolder, hkind, opts, globs, hopts, hglobs, hmatch, hnoted⟩
  obtain ⟨r, messages, heq, -⟩ := Handler.onEvent_of_routes hroutes
  have hrebuild : rebuild (Handler.subject e) h.views { w₁ with disk := w₁.disk.after e } =
      walk opts.views none { w₁ with disk := w₁.disk.after e } :=
    rebuild_of_not_development hopts (by rw [hproject, hdev])
  rw [deliver_append, bind_apply, hall]
  simp only
  rw [deliver_cons, bind_apply, heq, hrebuild]
  rcases r with failure | h'
  · rfl
  · simp only
    rw [deliver, pure_apply]

/-! ### Rewriting one view -/

/-- A change that counts is one of those that are handed over. -/
theorem Counted.mem (hc : Counted h events w e) : e ∈ events := by
  induction hc with
  | here => exact List.mem_cons_self
  | later _ _ ih => exact List.mem_cons_of_mem _ ih

namespace World

/-- The one view is rewritten at a time in tenths of seconds. -/
def rewriting (text : String) (tenths : Nat) : Event where
  kind := .modified
  path := "/src/views/v.j2"
  target := ""
  isFolder := false
  time := Binary64.ofDecimal false tenths (-1)
  writes := [(["src", "views", "v.j2"], some (.file (.text text)))]

set_option maxRecDepth 100000

/-- The view is rewritten after a second, and again three tenths of a second later. -/
theorem rewriting_facts : ∃ opts,
    options
      ((deliver ⟨["v.j2"], fifth, []⟩ [rewriting "1" 10] oneView).2.disk.after (rewriting "2" 13))
      (deliver ⟨["v.j2"], fifth, []⟩ [rewriting "1" 10] oneView).2.project.configDir = .ok opts ∧
    (deliver ⟨["v.j2"], fifth, []⟩ [rewriting "1" 10] oneView).1.toOption.isSome = true ∧
    ((iterate opts.globs).bind (matchesAny "/src/views/v.j2")).toOption = some true ∧
    ¬(rewriting "2" 13).time - 0 < fifth ∧ ¬(rewriting "2" 13).time - (rewriting "1" 10).time < fifth :=
  exists_options (by decide +kernel)

/-- Then the disk is as a full build leaves it. -/
theorem rewriting_last : ∃ opts globs h w₁,
    oneView.project.development = false ∧
    deliver ⟨["v.j2"], fifth, []⟩ [rewriting "1" 10] oneView = (.ok h, w₁) ∧
    (rewriting "2" 13).isFolder = false ∧ Handler.isRelevant (rewriting "2" 13).kind = true ∧
    options (w₁.disk.after (rewriting "2" 13)) w₁.project.configDir = .ok opts ∧
    iterate opts.globs = .ok globs ∧
    matchesAny (Handler.subject (rewriting "2" 13)) globs = .ok true ∧
    ¬(rewriting "2" 13).time - 0 < fifth ∧
    (∀ e', Counted ⟨["v.j2"], fifth, []⟩ [rewriting "1" 10] oneView e' →
      Handler.subject e' = Handler.subject (rewriting "2" 13) →
      ¬(rewriting "2" 13).time - e'.time < fifth) ∧
    (deliver ⟨["v.j2"], fifth, []⟩ ([rewriting "1" 10] ++ [rewriting "2" 13]) oneView).2.disk =
      (walk opts.views none { w₁ with disk := w₁.disk.after (rewriting "2" 13) }).2.disk := by
  obtain ⟨opts, hopts, hall, hmatch, hclock, hlate⟩ := rewriting_facts
  obtain ⟨h, w₁, hr⟩ : ∃ h w₁,
      deliver ⟨["v.j2"], fifth, []⟩ [rewriting "1" 10] oneView = (.ok h, w₁) := by
    revert hall
    rcases deliver ⟨["v.j2"], fifth, []⟩ [rewriting "1" 10] oneView with ⟨failure | h, w₁⟩
    · exact fun hall => absurd hall (by simp [Except.toOption])
    · exact fun _ => ⟨h, w₁, rfl⟩
  rw [hr] at hopts
  rcases hglobs : iterate opts.globs with failure | globs
  · rw [hglobs] at hmatch
    exact absurd hmatch (by simp [Except.bind, Except.toOption])
  rw [hglobs] at hmatch
  have hmatch' : matchesAny (Handler.subject (rewriting "2" 13)) globs = .ok true :=
    ok_of_toOption hmatch
  have hlate' : ∀ e', Counted ⟨["v.j2"], fifth, []⟩ [rewriting "1" 10] oneView e' →
      Handler.subject e' = Handler.subject (rewriting "2" 13) →
      ¬(rewriting "2" 13).time - e'.time < fifth := by
    intro e' hcounted _
    rw [List.mem_singleton.mp hcounted.mem]
    exact hlate
  have hdev : oneView.project.development = false := rfl
  have hlast := deliver_last hdev hr rfl rfl hopts hglobs hmatch' hclock hlate'
  exact ⟨opts, globs, h, w₁, hdev, hr, rfl, rfl, hopts, hglobs, hmatch', hclock, hlate', hlast⟩

end World

/-- A last change that comes too soon is lost. The view is rewritten after a second and again a tenth of a
second later, while changes count a fifth of a second after the last one: its page is left with the first
text, where a full build would give it the second. -/
theorem not_deliver_last :
    World.oneView.project.development = false ∧ 0 < World.fifth ∧
    ¬(World.rewriting "1" 10).time < World.fifth ∧
    ¬(World.rewriting "2" 11).time < (World.rewriting "1" 10).time ∧
    (∃ opts, options World.oneView.disk World.oneView.project.configDir = .ok opts ∧
      opts.views = "/src/views" ∧
      ((iterate opts.globs).bind (matchesAny "/src/views/v.j2")).toOption = some true) ∧
    (deliver ⟨["v.j2"], World.fifth, []⟩ [World.rewriting "1" 10, World.rewriting "2" 11]
      World.oneView).2.disk.find? "/dist/v.html" = some (.file (.text "1")) ∧
    (walk "/src/views" none
      (deliver ⟨["v.j2"], World.fifth, []⟩ [World.rewriting "1" 10, World.rewriting "2" 11]
        World.oneView).2).2.disk.find? "/dist/v.html" = some (.file (.text "2")) :=
  ⟨rfl, by decide +kernel, by decide +kernel, by decide +kernel, exists_options (by decide +kernel),
    by decide +kernel, by decide +kernel⟩

end StaticSite
