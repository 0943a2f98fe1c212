import StaticSite.Proofs.Include.Bounded
import StaticSite.Proofs.Include.Graph

/-!
# Circular includes are reported

The compilation of a markdown page follows its includes to a limited depth. Where they lead into a
circle, the limit is reached whatever other fragments do: a fragment that is missing or broken gives
nothing and the next one is asked for, while the failure of an endless recursion is passed on by every
compilation around it, up to the page itself, which reports it once. Where they lead into no circle, and
the limit admits the longest way, it is never reached.

## Main definitions

* `endlessReport`, `Message.IsEndless`: the report about an endless recursion.
* `Compiling.Ends`: what becomes of a compilation that reports no endless recursion.

## Main results

* `Compiling.ends_expandTokens`: what becomes of the includes of a text.
* `Compiling.ends_fragment`: what becomes of a fragment.
* `Site.compile_reports_circle`: a page reports an endless recursion exactly if a circle can be reached.
-/

namespace StaticSite

/-- The report about a page whose includes recurse without an end. -/
def endlessReport (dialect : Dialect) (path : String) : Message :=
  .failure (dialect.title ++ ": includes recurse too deeply") path ""

/-- A message is the report about an endless recursion. -/
def Message.IsEndless (m : Message) : Prop := ∃ dialect path, m = endlessReport dialect path

namespace Compiling

variable {α β : Type}

/-- A computation restores the count of includes, has a result as described, and adds only messages that
report no endless recursion. -/
def Ends (c : Compiling α) (t : Trace) (post : Except Failure α → Prop) : Prop :=
  ∃ r said, c t = (r, ⟨t.messages ++ said, t.including⟩) ∧ (∀ m ∈ said, ¬m.IsEndless) ∧ post r

namespace Ends

variable {c : Compiling α} {f : α → Compiling β} {t : Trace} {P : Except Failure α → Prop}
  {Q : Except Failure β → Prop}

/-- A result. -/
theorem pure {a : α} (h : P (.ok a)) : Ends (pure a : Compiling α) t P :=
  ⟨.ok a, [], by rw [pure_apply, List.append_nil], by simp, h⟩

/-- A failure. -/
theorem throw {e : Failure} (h : P (.error e)) : Ends (throw e : Compiling α) t P :=
  ⟨.error e, [], by rw [throw_apply, List.append_nil], by simp, h⟩

/-- A result that needs no compilation. -/
theorem ofExcept {r : Except Failure α} (h : P r) : Ends (Compiling.ofExcept r) t P := by
  rcases r with e | a
  · exact .throw h
  · exact .pure h

/-- A message that reports no endless recursion. -/
theorem report {m : Message} {P : Except Failure Unit → Prop} (hm : ¬m.IsEndless) (h : P (.ok ())) :
    Ends (Compiling.report m) t P :=
  ⟨.ok (), [m], rfl, by simpa using hm, h⟩

/-- One computation after another. -/
theorem bind (hc : Ends c t P) (herror : ∀ e, P (.error e) → Q (.error e))
    (hf : ∀ a t', t'.including = t.including → P (.ok a) → Ends (f a) t' Q) :
    Ends (c >>= f) t Q := by
  obtain ⟨r, said, hc, hquiet, hpost⟩ := hc
  rcases r with e | a
  · exact ⟨.error e, said, by rw [bind_apply, hc], hquiet, herror e hpost⟩
  · obtain ⟨r', said', hf, hquiet', hpost'⟩ := hf a ⟨t.messages ++ said, t.including⟩ rfl hpost
    refine ⟨r', said ++ said', by rw [bind_apply, hc]; simp only [hf, List.append_assoc], ?_, hpost'⟩
    intro m hm
    exact (List.mem_append.mp hm).elim (hquiet m) (hquiet' m)

/-- A weaker account of the result. -/
theorem imp {Q : Except Failure α → Prop} (hc : Ends c t P) (h : ∀ r, P r → Q r) : Ends c t Q := by
  obtain ⟨r, said, hc, hquiet, hpost⟩ := hc
  exact ⟨r, said, hc, hquiet, h r hpost⟩

/-- A computation inside one include more. -/
theorem counted (hc : Ends c ⟨t.messages, t.including + 1⟩ P) : Ends (StaticSite.counted c) t P := by
  obtain ⟨r, said, hc, hquiet, hpost⟩ := hc
  refine ⟨r, said, ?_, hquiet, hpost⟩
  rw [StaticSite.counted, hc]
  simp only [Nat.add_sub_cancel]

end Ends

/-! ### Fates -/

/-- A result is a text or the failure of an endless recursion; a text if the includes are shallow enough,
the failure if they are circular. -/
structure Fate (shallow circular : Prop) (r : Except Failure α) : Prop where
  /-- There is no other failure. -/
  outcome : (∃ a, r = .ok a) ∨ r = .error .tooDeep
  /-- Shallow includes come to an end. -/
  ends : shallow → ∃ a, r = .ok a
  /-- Circular includes do not. -/
  endless : circular → r = .error .tooDeep

/-- The conditions may be strengthened. -/
theorem Fate.imp {shallow shallow' circular circular' : Prop} {r : Except Failure α}
    (h : Fate shallow circular r) (hs : shallow' → shallow) (hc : circular' → circular) :
    Fate shallow' circular' r :=
  ⟨h.outcome, fun hs' => h.ends (hs hs'), fun hc' => h.endless (hc hc')⟩

/-- A text is the fate of what is not circular. -/
theorem Fate.ok {shallow circular : Prop} {a : α} (h : ¬circular) :
    Fate shallow circular (.ok a : Except Failure α) :=
  ⟨.inl ⟨a, rfl⟩, fun _ => ⟨a, rfl⟩, fun hcircular => absurd hcircular h⟩

/-- The failure of an endless recursion is the fate of what is not shallow. -/
theorem Fate.tooDeep {shallow circular : Prop} (h : ¬shallow) :
    Fate shallow circular (.error .tooDeep : Except Failure α) :=
  ⟨.inr rfl, fun hshallow => absurd hshallow h, fun _ => rfl⟩

/-- What fails is not shallow, and it fails as an endless recursion. -/
theorem Fate.of_error {shallow circular : Prop} {e : Failure}
    (h : Fate shallow circular (.error e : Except Failure α)) : e = .tooDeep ∧ ¬shallow := by
  constructor
  · rcases h.outcome with ⟨a, ha⟩ | he
    · exact absurd ha (by simp)
    · exact Except.error.inj he
  · intro hshallow
    obtain ⟨a, ha⟩ := h.ends hshallow
    exact absurd ha (by simp)

/-- What gives a text is not circular. -/
theorem Fate.of_ok {shallow circular : Prop} {a : α}
    (h : Fate shallow circular (.ok a : Except Failure α)) : ¬circular := fun hcircular =>
  absurd (h.endless hcircular) (by simp)

/-- The includes of a text are asked for from left to right. They come to an end if all of them do, and
do not if one of them does not. The induction is on the tokens of the text. -/
theorem ends_expandTokens (shallow circular : List Char → Prop)
    {ask : List Char → Compiling (List Char)} {n : Nat} {tokens : List Directive.Token}
    (hask : ∀ token ∈ tokens, token.kind = .include → ∀ t, t.including = n →
      Ends (ask token.value) t (Fate (shallow token.value) (circular token.value)))
    {t : Trace} (ht : t.including = n) :
    Ends (Directive.expandTokens ask tokens) t
      (Fate (∀ token ∈ tokens, token.kind = .include → shallow token.value)
        (∃ token ∈ tokens, token.kind = .include ∧ circular token.value)) := by
  induction tokens generalizing t with
  | nil => exact .pure (.ok (by simp))
  | cons token tokens ih =>
    rw [Directive.expandTokens]
    have hrest : ∀ piece t', t'.including = n → ¬(token.kind = .include ∧ circular token.value) →
        Ends (do
            let rest ← Directive.expandTokens ask tokens
            Pure.pure (piece ++ rest) : Compiling (List Char)) t'
          (Fate (∀ token' ∈ token :: tokens, token'.kind = .include → shallow token'.value)
            (∃ token' ∈ token :: tokens, token'.kind = .include ∧ circular token'.value)) := by
      intro piece t' ht' hfirst
      refine (ih (fun token hmem => hask token (List.mem_cons_of_mem _ hmem)) ht').bind ?_ ?_
      · intro e hfate
        obtain ⟨rfl, hdeep⟩ := hfate.of_error
        exact .tooDeep fun h => hdeep fun token hmem => h token (List.mem_cons_of_mem _ hmem)
      · intro rest t'' _ hfate
        refine .pure (.ok ?_)
        rintro ⟨token', hmem, hinclude, hcircular⟩
        rcases List.mem_cons.mp hmem with rfl | hmem
        · exact hfirst ⟨hinclude, hcircular⟩
        · exact hfate.of_ok ⟨token', hmem, hinclude, hcircular⟩
    split
    next hinclude =>
      refine (hask token List.mem_cons_self hinclude t ht).bind ?_ ?_
      · intro e hfate
        obtain ⟨rfl, hdeep⟩ := hfate.of_error
        exact .tooDeep fun h => hdeep (h token List.mem_cons_self hinclude)
      · intro piece t' ht' hfate
        exact hrest piece t' (ht'.trans ht) fun h => hfate.of_ok h.2
    next hother =>
      refine Ends.bind (P := fun r => ∃ a, r = .ok a) (.pure ⟨_, rfl⟩) (by simp) ?_
      intro piece t' ht' _
      exact hrest piece t' (ht'.trans ht) fun h => hother h.1

/-! ### Fragments -/

variable {site : Site} {opts : Options} {path : String} {n : Nat}

/-- What a markdown file converts to. -/
theorem converted?_eq {p : Place} (h : site.disk.fileOf? path = some p) :
    site.converted? opts p = match site.disk.readText path with
      | .ok text => ((Markdown.render ((opts.setting? "markdown").getD .null) text).toOption).map
          String.toList
      | .error _ => none := by
  obtain ⟨c, hfind, hget⟩ := Disk.get?_of_fileOf? h
  have hread : site.disk.readText path = Disk.textOf c := by
    rw [Disk.readText, Disk.content_of_find? hfind]
    rfl
  rw [hread]
  rcases htext : Disk.textOf c with e | text
  · simp only [Site.converted?, hget, htext]
  · simp only [Site.converted?, hget, htext]

/-- What can be read is a file. -/
theorem exists_fileOf?_of_readText {d : Disk} {text : String} (h : d.readText path = .ok text) :
    ∃ p, d.fileOf? path = some p := by
  rcases hfind : d.find? path with _ | (c | _)
  · rw [Disk.find?] at hfind
    rw [Disk.readText, Disk.content, Disk.refuseNull] at h
    by_cases hnull : path.toList.contains (Char.ofNat 0) = true
    · rw [if_pos hnull] at h
      exact absurd h (by simp)
    rw [if_neg hnull] at h hfind
    rcases hl : d.locate path with fault | p
    · rw [hl] at h
      exact absurd h (by simp)
    · rw [hl] at h hfind
      simp only at h hfind
      rw [hfind] at h
      exact absurd h (by simp)
  · exact Disk.exists_fileOf? hfind
  · rw [Disk.readText, Disk.content_of_find? hfind] at h
    exact absurd h (by simp [Disk.contentOf])

/-- What cannot be read converts to nothing. -/
theorem converted?_of_unread {e : Failure} (h : site.disk.readText path = .error e) {p : Place}
    (hfile : site.disk.fileOf? path = some p) : site.converted? opts p = none := by
  rw [converted?_eq hfile, h]

/-- What is read converts to what is rendered of it. -/
theorem converted?_of_read {text : String} (h : site.disk.readText path = .ok text) {p : Place}
    (hfile : site.disk.fileOf? path = some p) : site.converted? opts p =
      ((Markdown.render ((opts.setting? "markdown").getD .null) text).toOption).map String.toList := by
  rw [converted?_eq hfile, h]

/-- What becomes of expanding the includes of a converted text, given what becomes of each. -/
theorem ends_expandIncludes {resolver : Resolver} (shallow circular : List Char → Prop)
    {text : List Char} {t : Trace}
    (hask : ∀ value, Site.Mentions text value → ∀ t', t'.including = t.including →
      Ends (resolver (.ok (String.ofList value)) (.ok .none) #[]) t'
        (Fate (shallow value) (circular value))) :
    Ends (Directive.expandIncludes (fun reference => do
        let (fragment, _) ← resolver (.ok (String.ofList reference)) (.ok .none) #[]
        Pure.pure fragment.toList : List Char → Compiling (List Char)) text) t
      (Fate (∀ value, Site.Mentions text value → shallow value)
        (∃ value, Site.Mentions text value ∧ circular value)) := by
  refine (ends_expandTokens shallow circular (n := t.including)
    (fun token hmem hinclude t' ht' => ?_) rfl).imp fun r hfate => hfate.imp ?_ ?_
  · refine (hask token.value ⟨token, hmem, hinclude, rfl⟩ t' ht').bind ?_ ?_
    · intro e hfate
      obtain ⟨rfl, hdeep⟩ := hfate.of_error
      exact .tooDeep hdeep
    · intro fragment t'' _ hfate
      exact .pure (.ok hfate.of_ok)
  · exact fun h token hmem hinclude => h token.value ⟨token, hmem, hinclude, rfl⟩
  · rintro ⟨value, ⟨token, hmem, hinclude, rfl⟩, hcircular⟩
    exact ⟨token, hmem, hinclude, hcircular⟩

/-- What becomes of converting markdown and expanding its includes, given what becomes of these. -/
theorem ends_renderMarkdown {resolver : Resolver} (shallow circular : List Char → Prop)
    {shallowPage circularPage : Prop} {t : Trace}
    (hopts : options site.disk site.configDir = .ok opts) (store : Template.Store)
    (hask : ∀ p text value, site.disk.fileOf? path = some p → site.converted? opts p = some text →
      Site.Mentions text value → ∀ t', t'.including = t.including →
        Ends (resolver (.ok (String.ofList value)) (.ok .none) #[]) t'
          (Fate (shallow value) (circular value)))
    (hshallow : shallowPage → ∀ p text value, site.disk.fileOf? path = some p →
      site.converted? opts p = some text → Site.Mentions text value → shallow value)
    (hcircular : circularPage → ∃ p text value, site.disk.fileOf? path = some p ∧
      site.converted? opts p = some text ∧ Site.Mentions text value ∧ circular value) :
    Ends (renderMarkdown site resolver path store) t fun r =>
      (shallowPage → r ≠ .error .tooDeep) ∧ (circularPage → r = .error .tooDeep) := by
  -- what fails before it is converted has no includes
  have hunconverted : ∀ e : Failure, e ≠ .tooDeep →
      (∀ p, site.disk.fileOf? path = some p → site.converted? opts p = none) →
      (shallowPage → (.error e : Except Failure (String × Template.Store)) ≠ .error .tooDeep) ∧
        (circularPage → (.error e : Except Failure (String × Template.Store)) = .error .tooDeep) := by
    intro e he hnone
    refine ⟨fun _ heq => he (Except.error.inj heq), fun h => ?_⟩
    obtain ⟨p, text, value, hfile, htext, -⟩ := hcircular h
    rw [hnone p hfile] at htext
    exact absurd htext (by simp)
  unfold renderMarkdown
  refine Ends.bind (P := (· = site.disk.readText path)) (.ofExcept rfl) ?_ ?_
  · intro e hread
    have hbounded := bounded_readText site.disk path
    rw [← hread] at hbounded
    exact hunconverted e (Bounded.error_iff.mp hbounded) fun p => converted?_of_unread hread.symm
  intro text t₁ ht₁ hread
  refine Ends.bind (P := (· = .ok opts)) (.ofExcept hopts) (by simp) ?_
  intro opts' t₂ ht₂ heq
  obtain rfl : opts' = opts := Except.ok.inj heq
  refine Ends.bind (P := (· = Markdown.render ((opts'.setting? "markdown").getD .null) text))
    (.ofExcept rfl) ?_ ?_
  · intro e hrender
    have hbounded := Markdown.bounded_render ((opts'.setting? "markdown").getD .null) text
    rw [← hrender] at hbounded
    refine hunconverted e (Bounded.error_iff.mp hbounded) fun p hfile => ?_
    rw [converted?_of_read hread.symm hfile, ← hrender]
    rfl
  intro converted t₃ ht₃ hrender
  have hconverted : ∀ p, site.disk.fileOf? path = some p →
      site.converted? opts' p = some converted.toList := by
    intro p hfile
    rw [converted?_of_read hread.symm hfile, ← hrender]
    rfl
  obtain ⟨p, hfile⟩ := exists_fileOf?_of_readText hread.symm
  have hincluding : t₃.including = t.including := ht₃.trans (ht₂.trans ht₁)
  refine Ends.bind (ends_expandIncludes shallow circular fun value hmentions t' ht' =>
    hask p _ value hfile (hconverted p hfile) hmentions t' (ht'.trans hincluding)) ?_ ?_
  · intro e hfate
    obtain ⟨rfl, hdeep⟩ := hfate.of_error
    refine ⟨fun h => absurd (fun value hmentions => ?_) hdeep, fun _ => rfl⟩
    exact hshallow h p _ value hfile (hconverted p hfile) hmentions
  · intro included t₄ _ hfate
    have hnot : ¬circularPage := by
      intro h
      obtain ⟨q, text', value, hfile', htext, hmentions, hcirc⟩ := hcircular h
      rw [hconverted q hfile', Option.some.injEq] at htext
      exact hfate.of_ok ⟨value, htext ▸ hmentions, hcirc⟩
    rcases Directive.fillVariables opts'.config included with e | s
    · exact .throw ⟨fun _ => by simp, fun h => absurd h hnot⟩
    · exact .pure ⟨fun _ => by simp, fun h => absurd h hnot⟩

/-- A report with the traceback of a failure reports no endless recursion. -/
theorem not_isEndless_of_detail (title path : String) (e : Failure) :
    ¬(Message.failure (title ++ ": " ++ e.message) path failureDetail).IsEndless := by
  rintro ⟨dialect, path', h⟩
  simp [endlessReport, failureDetail] at h

/-- Inside an include a guard reports no endless recursion. -/
theorem not_isEndless_of_verdict {n : Nat} (hn : n ≠ 0) (title path : String) (store : Template.Store)
    (r : Except Failure (String × Template.Store)) : ∀ m ∈ (verdict title path store n r).2, ¬m.IsEndless := by
  intro m hm
  rcases r with e | ⟨text, store'⟩
  · by_cases he : e = .tooDeep
    · simp [verdict, he, hn] at hm
    · rw [verdict, if_neg he, List.mem_singleton] at hm
      rw [hm]
      exact not_isEndless_of_detail title path e
  · exact absurd hm List.not_mem_nil

/-- Inside an include, the failure of an endless recursion is passed on, and any other one is reported. -/
theorem ends_guarded {body : Compiling (String × Template.Store)} {shallow circular : Prop} {t : Trace}
    (ht : t.including ≠ 0) (title path : String) (store : Template.Store)
    (hbody : Ends body t fun r => (shallow → r ≠ .error .tooDeep) ∧ (circular → r = .error .tooDeep)) :
    Ends (guarded title path body store) t (Fate shallow circular) := by
  obtain ⟨r, said, hbody, hquiet, hshallow, hcircular⟩ := hbody
  refine ⟨(verdict title path store t.including r).1, said ++ (verdict title path store t.including r).2,
    ?_, fun m hm => ?_, ?_⟩
  · rw [← List.append_assoc]
    exact guarded_apply hbody title path store
  · exact (List.mem_append.mp hm).elim (hquiet m) (not_isEndless_of_verdict ht title path store r m)
  · rcases r with e | ⟨text, store'⟩
    · by_cases he : e = .tooDeep
      · rw [verdict, if_pos he, if_neg ht]
        exact .tooDeep fun h => hshallow h (congrArg _ he)
      · rw [verdict, if_neg he]
        exact .ok fun h => he (Except.error.inj (hcircular h))
    · exact .ok fun h => by simpa using hcircular h

/-- A page that is not there is not circular. -/
theorem not_circular_of_not_holds (h : site.disk.holds path = false) : ¬site.Circular opts path := by
  intro hcircular
  obtain ⟨p, -, -, hfile, -⟩ := hcircular.step
  obtain ⟨c, hfind, -⟩ := Disk.get?_of_fileOf? hfile
  rw [Disk.holds, hfind] at h
  exact absurd h (by simp)

/-- What becomes of a markdown fragment, given what becomes of converting and expanding it. -/
theorem ends_fragment {inner : Resolver} {shallow : Prop} {t : Trace} {value : List Char}
    (hopts : options site.disk site.configDir = .ok opts)
    (hmd : Path.extension (String.ofList value) = ".md")
    (hpage : ∀ store t, Ends (renderMarkdown site inner (Site.fragmentPath opts value) store) t fun r =>
      (shallow → r ≠ .error .tooDeep) ∧
        (site.Circular opts (Site.fragmentPath opts value) → r = .error .tooDeep)) :
    Ends (resolveWith site inner (.ok (String.ofList value)) (.ok .none) #[]) t
      (Fate shallow (site.Circular opts (Site.fragmentPath opts value))) := by
  have hext : withExtension opts.ext (String.ofList value) = (String.ofList value, ".md") := by
    rw [withExtension, hmd]
    rfl
  have hdialect : dialectFor ".md" = Pure.pure .markdown := by
    have hmarkdown : Dialect.ofExtension? ".md" = some .markdown := by decide +kernel
    rw [dialectFor, hmarkdown]
  have hcompile : ∀ t, t.including ≠ 0 →
      Ends (compileWith site inner .markdown (Site.fragmentPath opts value) (.ok .none) #[]) t
        (Fate shallow (site.Circular opts (Site.fragmentPath opts value))) := by
    intro t ht
    unfold compileWith
    simp only
    split
    next hnone => exact .pure (.ok (not_circular_of_not_holds (by simpa using hnone)))
    next => exact ends_guarded ht _ _ _ (hpage _ _)
  unfold resolveWith
  refine Ends.bind (P := (· = .ok opts)) (.ofExcept hopts) (by simp) ?_
  intro opts' t₁ _ heq
  obtain rfl : opts' = opts := Except.ok.inj heq
  refine Ends.bind (P := (· = .ok (String.ofList value))) (.ofExcept rfl) (by simp) ?_
  intro reference t₂ _ heq
  obtain rfl : reference = String.ofList value := Except.ok.inj heq
  rw [hext]
  simp only
  rw [hdialect]
  refine Ends.bind (P := (· = .ok .markdown)) (.pure rfl) (by simp) ?_
  intro dialect t₃ _ heq
  obtain rfl : dialect = .markdown := Except.ok.inj heq
  refine (Ends.counted (hcompile _ (Nat.succ_ne_zero _))).bind ?_ ?_
  · intro e hfate
    obtain ⟨rfl, hdeep⟩ := hfate.of_error
    exact .tooDeep hdeep
  · intro text t₄ _ hfate
    exact .pure (.ok hfate.of_ok)

/-- What becomes of a page, with `n` includes to go. The induction is on `n`. -/
theorem ends_page (hopts : options site.disk site.configDir = .ok opts)
    (honly : ∀ q, site.Reaches opts path q → site.OnlyMarkdown opts q) (store : Template.Store)
    (t : Trace) :
    Ends (renderMarkdown site (resolveAt site n) path store) t fun r =>
      (site.Shallow opts n path → r ≠ .error .tooDeep) ∧
        (site.Circular opts path → r = .error .tooDeep) := by
  induction n generalizing path store t with
  | zero =>
    refine ends_renderMarkdown (fun _ => False)
      (fun value => site.Circular opts (Site.fragmentPath opts value)) hopts store ?_ ?_
      Site.Circular.step
    · intro p text value _ _ _ t' _
      exact .throw (.tooDeep id)
    · intro hshallow p text value hfile htext hmentions
      exact hshallow.not_mentions hfile htext hmentions
  | succ n ih =>
    refine ends_renderMarkdown
      (fun value => site.Shallow opts n (Site.fragmentPath opts value))
      (fun value => site.Circular opts (Site.fragmentPath opts value)) hopts store ?_ ?_
      Site.Circular.step
    · intro p text value hfile htext hmentions t' _
      have hmd := honly p ⟨p, hfile, .refl⟩ text value htext hmentions
      exact ends_fragment hopts hmd fun store t =>
        ih (fun q hq => honly q (hq.of_mentions hfile htext hmentions)) store t
    · intro hshallow p text value hfile htext hmentions
      exact hshallow.step hfile htext hmentions

end Compiling

/-! ### Pages -/

namespace Site

variable {site : Site} {opts : Options} {path : String}

/-- **Circular includes are reported exactly when they exist.** A markdown page from which includes lead
into a circle compiles to nothing and is reported once as an endless recursion. From any other page the
compilation comes to an end, if the machine can follow one include more than the longest way through the
includes has, and no endless recursion is reported. -/
theorem compile_reports_circle (hopts : options site.disk site.configDir = .ok opts)
    (honly : ∀ q, site.Reaches opts path q → site.OnlyMarkdown opts q)
    (hdepth : ∀ p way, site.disk.fileOf? path = some p → List.IsChain (site.Includes opts) (p :: way) →
      (p :: way).Nodup → way.length < site.depth)
    (locals : Except Failure Template.Locals) (store : Template.Store) {t : Trace}
    (ht : t.including = 0) :
    ∃ text said, compile site .markdown path locals store t = (.ok text, ⟨t.messages ++ said, 0⟩) ∧
      (site.Circular opts path → text = none ∧ ∃ before, said = before ++ [endlessReport .markdown path] ∧
        ∀ m ∈ before, ¬m.IsEndless) ∧
      (¬site.Circular opts path → ∀ m ∈ said, ¬m.IsEndless) := by
  have hshallow : ¬site.Circular opts path → site.Shallow opts site.depth path := fun h =>
    shallow_of_not_circular h fun p way hfile hchain hnodup => hdepth p way hfile hchain hnodup
  unfold compile compileWith resolve
  rw [bind_apply]
  simp only
  rw [ite_apply']
  by_cases hnone : (!site.disk.holds path) = true
  · have hnot : ¬site.Circular opts path := Compiling.not_circular_of_not_holds (by simpa using hnone)
    rw [if_pos hnone]
    exact ⟨some "", [], by rw [List.append_nil, ← ht]; rfl, fun h => absurd h hnot, fun _ => by simp⟩
  · rw [if_neg hnone]
    obtain ⟨r, said, hpage, hquiet, hends, hendless⟩ :=
      Compiling.ends_page (n := site.depth) hopts honly store t
    rw [guarded, bind_apply, Compiling.attempt, hpage]
    rcases r with e | ⟨text, store'⟩
    · by_cases he : e = .tooDeep
      · subst he
        have hcircular : site.Circular opts path := by
          by_contra h
          exact hends (hshallow h) rfl
        refine ⟨none, said ++ [endlessReport .markdown path], ?_, fun _ => ⟨rfl, said, rfl, hquiet⟩,
          fun h => absurd hcircular h⟩
        simp only
        rw [bind_apply, get_apply]
        simp only [ht]
        rw [← List.append_assoc]
        rfl
      · have hnot : ¬site.Circular opts path := fun h => he (Except.error.inj (hendless h))
        refine ⟨none, said ++ [.failure (Dialect.markdown.title ++ ": " ++ e.message) path failureDetail],
          ?_, fun h => absurd h hnot, fun _ m hm => ?_⟩
        · rw [← List.append_assoc, ← ht]
          cases e <;> first | exact absurd rfl he | rfl
        · rcases List.mem_append.mp hm with hm | hm
          · exact hquiet m hm
          · rw [List.mem_singleton.mp hm]
            exact Compiling.not_isEndless_of_detail _ _ _
    · have hnot : ¬site.Circular opts path := fun h => by simpa using hendless h
      exact ⟨some text, said, by rw [← ht]; rfl, fun h => absurd h hnot, fun _ => hquiet⟩

/-- A site with a page that includes a fragment that is not there and one that includes the page. -/
def circle : Site where
  disk := ⟨[(["src"], .folder),
    (["src", "p.md"], .file (.text "include\x7b\x7bn.md\x7d\x7d include\x7b\x7bq.md\x7d\x7d")),
    (["src", "q.md"], .file (.text "include\x7b\x7bp.md\x7d\x7d"))], "/", "/"⟩
  configDir := "/config"
  depth := 1000

set_option maxRecDepth 100000

/-- The options of the circle load, its files include markdown only, and they include each other. -/
theorem circle_facts : ∃ opts, options circle.disk circle.configDir = .ok opts ∧
    (∀ p ∈ circle.disk.entries.map Prod.fst, ∀ text ∈ circle.converted? opts p,
      ∀ token ∈ Directive.tokenize text, token.kind = .include →
        Path.extension (String.ofList token.value) = ".md") ∧
    circle.disk.fileOf? "/src/p.md" = some ["src", "p.md"] ∧
    (∃ text ∈ circle.converted? opts ["src", "p.md"], ∃ token ∈ Directive.tokenize text,
      token.kind = .include ∧
        circle.disk.fileOf? (fragmentPath opts token.value) = some ["src", "q.md"]) ∧
    ∃ text ∈ circle.converted? opts ["src", "q.md"], ∃ token ∈ Directive.tokenize text,
      token.kind = .include ∧
        circle.disk.fileOf? (fragmentPath opts token.value) = some ["src", "p.md"] :=
  exists_options (by decide +kernel)

/-- The page of the circle compiles to nothing and is reported once. -/
theorem circle_reported : ∃ opts, options circle.disk circle.configDir = .ok opts ∧
    (∀ q, circle.Reaches opts "/src/p.md" q → circle.OnlyMarkdown opts q) ∧
    (∀ p way, circle.disk.fileOf? "/src/p.md" = some p →
      List.IsChain (circle.Includes opts) (p :: way) → (p :: way).Nodup →
        way.length < circle.depth) ∧
    ∃ said, compile circle .markdown "/src/p.md" (.ok .none) #[] ⟨[], 0⟩ =
        (.ok none, ⟨said ++ [endlessReport .markdown "/src/p.md"], 0⟩) ∧
      ∀ m ∈ said, ¬m.IsEndless := by
  obtain ⟨opts, hopts, honly, hfile, ⟨text, htext, token, htoken, hinclude, hq⟩,
    text', htext', token', htoken', hinclude', hp⟩ := circle_facts
  have honly' : ∀ q, circle.Reaches opts "/src/p.md" q → circle.OnlyMarkdown opts q :=
    fun q _ => onlyMarkdown_of_entries honly q
  have hdepth : ∀ p way, circle.disk.fileOf? "/src/p.md" = some p →
      List.IsChain (circle.Includes opts) (p :: way) → (p :: way).Nodup →
        way.length < circle.depth :=
    fun p way hfile hchain hnodup => (length_lt_of_nodup hfile hchain hnodup).trans (by decide)
  have hcircular : circle.Circular opts "/src/p.md" :=
    ⟨["src", "p.md"], ⟨_, hfile, .refl⟩, .tail
      (.single ⟨text, _, htext, ⟨token, htoken, hinclude, rfl⟩, hq⟩)
      ⟨text', _, htext', ⟨token', htoken', hinclude', rfl⟩, hp⟩⟩
  obtain ⟨result, said, hcompile, hreported, -⟩ :=
    compile_reports_circle hopts honly' hdepth (.ok .none) #[] (t := ⟨[], 0⟩) rfl
  obtain ⟨rfl, before, rfl, hquiet⟩ := hreported hcircular
  exact ⟨opts, hopts, honly', hdepth, before, hcompile, hquiet⟩

end Site

end StaticSite
