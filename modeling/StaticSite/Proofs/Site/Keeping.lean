import StaticSite.Proofs.Site.View
import StaticSite.Site.Build

/-!
# What a run keeps

A run keeps an invariant of the world if it leaves a world of that kind whenever it begins in one, whether
it comes to a result or fails. A run made of parts keeps what its parts keep; and what is known of the
result of a part may be used by the parts after it. Most parts of a build only report, count or call
tools; they keep whatever is said of the disk and the project.

## Main definitions

* `Ensures`: a run keeps an invariant, and its result is as it should be.
* `Blind`: an invariant that looks at the disk and the project only.

## Main results

* `Ensures.bind`: parts one after another.
* `Ensures.mapM`: a part for each of some values.
* `Blind.auditPage`, `Blind.compile`: audits and compilations keep what is said of the disk.
-/

namespace StaticSite

open Running

variable {α β : Type} {I : World → Prop} {P : α → Prop} {Q : β → Prop} {c : Running α}

/-- A run keeps an invariant, and its result, if it has one, is as it should be. -/
def Ensures (I : World → Prop) (c : Running α) (P : α → Prop) : Prop :=
  ∀ w, I w → I (c w).2 ∧ ∀ a, (c w).1 = .ok a → P a

namespace Ensures

/-- A result. -/
theorem pure {a : α} (h : P a) : Ensures I (pure a : Running α) P := fun _ hw =>
  ⟨hw, fun _ hb => Except.ok.inj hb ▸ h⟩

/-- A failure. -/
theorem throw (e : Failure) : Ensures I (throw e : Running α) P := fun _ hw =>
  ⟨hw, fun _ hb => absurd hb (by rw [throw_apply]; simp)⟩

/-- Less may be said of the result. -/
theorem mono {P' : α → Prop} (h : Ensures I c P) (hP : ∀ a, P a → P' a) : Ensures I c P' :=
  fun w hw => ⟨(h w hw).1, fun a ha => hP a ((h w hw).2 a ha)⟩

/-- Parts one after another. -/
theorem bind {f : α → Running β} (h : Ensures I c P) (hf : ∀ a, P a → Ensures I (f a) Q) :
    Ensures I (c >>= f) Q := by
  intro w hw
  obtain ⟨hkeeps, hresult⟩ := h w hw
  rw [bind_apply]
  rcases hc : c w with ⟨e | a, w'⟩
  · rw [hc] at hkeeps
    exact ⟨hkeeps, fun b hb => absurd hb (by simp)⟩
  · rw [hc] at hkeeps hresult
    exact hf a (hresult a rfl) w' hkeeps

/-- The world is read. -/
theorem get : Ensures I (get : Running World) I := fun _ hw =>
  ⟨hw, fun _ hb => Except.ok.inj hb ▸ hw⟩

/-- A result that needs no run. -/
theorem ofExcept (r : Except Failure α) : Ensures I (Running.ofExcept r) fun a => r = .ok a := by
  cases r with
  | error e => exact throw e
  | ok a => exact pure rfl

/-- The options are those of a world of the kind. -/
theorem currentOptions :
    Ensures I currentOptions fun opts => ∃ w, I w ∧ options w.disk w.project.configDir = .ok opts :=
  .bind .get fun w hw => (Ensures.ofExcept _).mono fun _ h => ⟨w, hw, h⟩

/-- One of two parts. -/
theorem ite {p : Prop} [Decidable p] {d : Running α} (hc : p → Ensures I c P)
    (hd : ¬p → Ensures I d P) : Ensures I (if p then c else d) P := by
  by_cases hp : p
  · rw [if_pos hp]
    exact hc hp
  · rw [if_neg hp]
    exact hd hp

/-- A part that may fail. -/
theorem attempt (h : Ensures I c P) : Ensures I (attempt c) fun r => ∀ a, r = .ok a → P a := by
  intro w hw
  obtain ⟨hkeeps, hresult⟩ := h w hw
  rw [Running.attempt]
  rcases hc : c w with ⟨r, w'⟩
  rw [hc] at hkeeps hresult
  refine ⟨hkeeps, fun r' hr' a ha => hresult a ?_⟩
  rw [← ha]
  exact Except.ok.inj hr'

/-- A part for each of some values. -/
theorem mapM {f : α → Running β} {as : List α} (h : ∀ a ∈ as, Ensures I (f a) Q) :
    Ensures I (as.mapM f) fun _ => True := by
  induction as with
  | nil => exact pure True.intro
  | cons a as ih =>
    rw [List.mapM_cons]
    refine bind (h a List.mem_cons_self) fun b _ => ?_
    exact bind (ih fun x hx => h x (List.mem_cons_of_mem _ hx)) fun bs _ => pure True.intro

end Ensures

/-! ### Invariants of the disk -/

/-- An invariant looks at the disk and the project only. -/
def Blind (I : World → Prop) : Prop :=
  ∀ w w', I w → w'.disk = w.disk → w'.project = w.project → I w'

namespace Blind

/-- A report. -/
theorem report (hI : Blind I) (m : Message) : Ensures I (report m) fun _ => True :=
  fun w hw => ⟨hI w _ hw rfl rfl, fun _ _ => True.intro⟩

/-- A detail. -/
theorem detail (hI : Blind I) (text : String) : Ensures I (detail text) fun _ => True := by
  refine .bind .get fun w _ => .ite (fun _ => hI.report _) fun _ => ?_
  exact .pure True.intro

/-- A compilation. -/
theorem compile (hI : Blind I) (c : Site → Compiling α) :
    Ensures I (Running.compile c) fun _ => True := by
  intro w hw
  rw [compile_apply]
  exact ⟨hI w _ hw rfl rfl, fun _ _ => True.intro⟩

/-- A call of a tool. -/
theorem call (hI : Blind I) (command : List Value) : Ensures I (call command) fun _ => True :=
  fun w hw => ⟨hI w _ hw rfl rfl, fun _ _ => True.intro⟩

/-- A request to the observer. -/
theorem observe (hI : Blind I) (c : ObserverCall) : Ensures I (observe c) fun _ => True :=
  fun w hw => ⟨hI w _ hw rfl rfl, fun _ _ => True.intro⟩

/-- The end of an audit. -/
theorem auditVerdict (hI : Blind I) (page : String) (result : ToolResult) :
    Ensures I (auditVerdict page result) fun _ => True := by
  cases result with
  | timeout => exact .bind (hI.report _) fun _ _ => .pure True.intro
  | broken => exact .bind (hI.report _) fun _ _ => .pure True.intro
  | exit code out err =>
    refine .ite (fun _ => ?_) fun _ => ?_
    · exact .bind (hI.report _) fun _ _ => .pure True.intro
    · exact .bind (hI.detail _) fun _ _ => .pure True.intro

/-- An audit. -/
theorem auditPage (hI : Blind I) (page : String) : Ensures I (auditPage page) fun _ => True := by
  refine .bind .currentOptions fun opts _ => .bind (.ofExcept _) fun command _ => ?_
  refine .bind (P := fun _ => True) ?_ fun tool _ => ?_
  · unfold findTool
    split
    · exact .bind .get fun w _ => .pure True.intro
    · exact .pure True.intro
  split
  · exact .bind (hI.detail _) fun _ _ => .pure True.intro
  · refine .bind (.ofExcept _) fun setting _ => .bind (.ofExcept _) fun args _ => ?_
    exact .bind .get fun w _ => .bind (hI.call _) fun result _ => hI.auditVerdict page result

/-- A part whose failures of the file system are reported. -/
theorem orReport (hI : Blind I) (target source : String) (h : Ensures I c P) :
    Ensures I (orReport target source c) fun r => ∀ a, r = some a → P a := by
  refine .bind h.attempt fun r hr => ?_
  cases r with
  | ok a =>
    refine .pure fun b hb => ?_
    rw [← Option.some.inj hb]
    exact hr a rfl
  | error e =>
    refine .ite (fun _ => .bind (hI.report _) fun _ _ => ?_) fun _ => .throw e
    exact .pure fun b hb => absurd hb (by simp)

end Blind

end StaticSite
