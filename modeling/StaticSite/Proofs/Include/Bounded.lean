import Mathlib.Tactic.Common
import StaticSite.Markdown.Render
import StaticSite.Site.Disk

/-!
# Failures that are no endless recursion

Reading a file and converting markdown can fail in many ways, but they never run out of depth: the only
recursion of a compilation that can be endless is that of includes. Every function that reads the
settings of markdown is followed once, in the order in which they are built on each other.

## Main definitions

* `Bounded`: a result is not the failure of an endless recursion.

## Main results

* `bounded_readText`: reading a file is bounded.
* `Markdown.bounded_render`: converting markdown is bounded.
-/

namespace StaticSite

/-- A result is not the failure of an endless recursion. -/
def Bounded {α : Type} (r : Except Failure α) : Prop := r ≠ .error .tooDeep

namespace Bounded

variable {α β : Type}

@[simp] theorem ok (a : α) : Bounded (.ok a : Except Failure α) := by simp [Bounded]

@[simp] theorem pure (a : α) : Bounded (Pure.pure a : Except Failure α) := by
  simp [Bounded, Pure.pure, Except.pure]

@[simp] theorem error_iff {e : Failure} :
    Bounded (.error e : Except Failure α) ↔ e ≠ .tooDeep := by
  simp [Bounded]

@[simp] theorem throw_iff {e : Failure} :
    Bounded (throw e : Except Failure α) ↔ e ≠ .tooDeep := error_iff

/-- One bounded step after another. -/
theorem bind {r : Except Failure α} {f : α → Except Failure β} (hr : Bounded r)
    (hf : ∀ a, Bounded (f a)) : Bounded (r >>= f) := by
  rcases r with e | a
  · exact error_iff.mpr (error_iff.mp hr)
  · exact hf a

/-- A choice between bounded results. -/
theorem ite {p : Prop} [Decidable p] {r r' : Except Failure α} (hr : Bounded r) (hr' : Bounded r') :
    Bounded (if p then r else r') := by
  split
  · exact hr
  · exact hr'

/-- A bounded result is changed. -/
theorem map {r : Except Failure α} (f : α → β) (hr : Bounded r) : Bounded (r.map f) := by
  rcases r with e | a
  · simpa [Except.map] using hr
  · simp [Except.map]

/-- A bounded step for every element of a list. -/
theorem mapM {f : α → Except Failure β} (hf : ∀ a, Bounded (f a)) (l : List α) :
    Bounded (l.mapM f) := by
  induction l with
  | nil => simp
  | cons a l ih =>
    rw [List.mapM_cons]
    exact (hf a).bind fun b => ih.bind fun bs => .pure _

/-- A bounded step from element to element of a list. -/
theorem foldlM {f : β → α → Except Failure β} (hf : ∀ b a, Bounded (f b a)) (l : List α) (b : β) :
    Bounded (l.foldlM f b) := by
  induction l generalizing b with
  | nil => simp
  | cons a l ih =>
    rw [List.foldlM_cons]
    exact (hf b a).bind fun b' => ih b'

end Bounded

/-! ### Reading -/

/-- Reading a file is bounded. -/
theorem bounded_readText (d : Disk) (path : String) : Bounded (d.readText path) := by
  have hcontent : Bounded (d.content path) := by
    unfold Disk.content Disk.refuseNull Disk.faultAt
    grind [Bounded.ok, Bounded.error_iff]
  have htext : ∀ c, Bounded (Disk.textOf c) := by
    intro c
    unfold Disk.textOf
    grind [Bounded.ok, Bounded.error_iff]
  unfold Disk.readText
  rcases hc : d.content path with e | c
  · rw [hc] at hcontent
    exact Bounded.error_iff.mpr (Bounded.error_iff.mp hcontent)
  · exact htext c

/-! ### Settings -/

namespace Markdown

open Bounded

theorem bounded_elementsOf (v : Value) : Bounded (elementsOf v) := by
  unfold elementsOf wrongShape
  split <;> simp

theorem bounded_entryOf (i : Nat) (v : Value) : Bounded (entryOf i v) := by
  refine .bind (bounded_elementsOf v) fun items => ?_
  split <;> simp

theorem bounded_entriesOf (v : Value) : Bounded (entriesOf v) := by
  unfold entriesOf
  split
  · simp
  · refine .bind (bounded_elementsOf _) fun items => .bind (.mapM (fun _ => bounded_entryOf _ _) _)
      fun entries => ?_
    split <;> simp

theorem bounded_entriesOfMapping (v : Value) : Bounded (entriesOfMapping v) := by
  unfold entriesOfMapping wrongShape
  split <;> simp

theorem bounded_truthOf (v : Value) : Bounded (truthOf v) := by
  unfold truthOf
  split
  · split <;> simp
  · simp

theorem bounded_integerOf (v : Value) : Bounded (integerOf v) := by
  unfold integerOf wrongShape
  split
  · simp
  · simp
  · simp
  · split <;> simp
  · simp

theorem bounded_textOf (v : Value) : Bounded (textOf v) := by
  unfold textOf wrongShape
  split
  · simp
  · split <;> simp

theorem bounded_choicesOf (table : OptionTable) (entries : List (Value × Value)) :
    Bounded (choicesOf table entries) := by
  unfold choicesOf wrongShape
  simp only
  split
  · refine .foldlM (fun known entry => ?_) _ _
    split
    · split
      · simp
      · exact .bind (bounded_truthOf _) fun _ => by simp
      · simp
    · simp
  · simp

theorem bounded_text (choices : Choices) (key : String) (usual : List Char) :
    Bounded (choices.text key usual) := by
  unfold Choices.text
  split
  · exact bounded_textOf _
  · simp

theorem bounded_levelsOf (v : Value) : Bounded (levelsOf v) := by
  unfold levelsOf
  split
  · split
    · split
      · exact .bind (bounded_integerOf _) fun _ => .bind (bounded_integerOf _) fun _ => by simp
      · exact .bind (.mapM (fun _ => bounded_integerOf _) _) fun _ => by simp
    · exact .map _ (bounded_integerOf _)
  · exact .map _ (bounded_integerOf _)

theorem bounded_contentsOf (choices : Choices) : Bounded (contentsOf choices) := by
  unfold contentsOf
  refine .bind (bounded_integerOf _) fun _ => .bind (bounded_levelsOf _) fun _ => ?_
  repeat' first
    | exact .pure _
    | refine .bind (bounded_text _ _ _) fun _ => ?_

theorem bounded_footnotesOf (choices : Choices) : Bounded (footnotesOf choices) := by
  unfold footnotesOf
  repeat' first
    | exact .pure _
    | refine .bind (bounded_text _ _ _) fun _ => ?_

theorem bounded_smartOf (choices : Choices) : Bounded (smartOf choices) := by
  unfold smartOf
  split
  · exact .bind (bounded_entriesOf _) fun _ => .bind (.mapM (fun entry =>
      .bind (bounded_textOf _) fun _ => .bind (bounded_textOf _) fun _ => .pure _) _) fun _ => .pure _
  · exact .bind (.pure _) fun _ => .pure _

theorem bounded_wikiLinksOf (choices : Choices) : Bounded (wikiLinksOf choices) := by
  unfold wikiLinksOf
  repeat' first
    | exact .pure _
    | refine .bind (bounded_text _ _ _) fun _ => ?_

theorem bounded_extensionOfModule (name : List Char) : Bounded (extensionOfModule name) := by
  unfold extensionOfModule wrongShape noModule noExtension
  simp only
  split
  · simp
  · simp
  · split
    · exact .ite (.ok _) (by simp)
    · simp
  · split
    · exact .ite (.ok _) (by simp)
    · simp
  · exact .ite (.ite (by simp) (by simp)) (by simp)
  · simp

theorem bounded_named (name : String) : Bounded (Extension.named name) := by
  unfold Extension.named noExtension
  split
  · simp
  · exact .bind (bounded_extensionOfModule _) fun _ => .ite (.pure _) (by simp)

namespace Settings

theorem bounded_load (s : Settings) (x : Extension) (entries : List (Value × Value)) :
    Bounded (s.load x entries) := by
  unfold load wrongShape
  cases x with
  | contents =>
    exact .bind (bounded_choicesOf _ _) fun _ => .bind (bounded_contentsOf _) fun _ => .pure _
  | emoji =>
    refine .bind (bounded_choicesOf _ _) fun _ => ?_
    split <;> simp
  | plainFences =>
    exact .bind (bounded_choicesOf _ _) fun _ => .bind (bounded_text _ _ _) fun _ => .pure _
  | footnotes =>
    exact .bind (bounded_choicesOf _ _) fun _ => .bind (bounded_footnotesOf _) fun _ => .pure _
  | smart =>
    exact .bind (bounded_choicesOf _ _) fun _ => .bind (bounded_smartOf _) fun _ => .pure _
  | wikiLinks =>
    exact .bind (bounded_choicesOf _ _) fun _ => .bind (bounded_wikiLinksOf _) fun _ => .pure _
  | several => exact .pure _
  | inert => exact .pure _
  | _ => exact .bind (bounded_choicesOf _ _) fun _ => .pure _

theorem bounded_loadNamed (configs : List (Value × Value)) (s : Settings) (name : Value) :
    Bounded (loadNamed configs s name) := by
  have hmember : ∀ {c : Except Failure (List (Value × Value))} (s : Settings) (short : String),
      Bounded c → Bounded (do let inner ← c; s.load (← Extension.named short) inner) :=
    fun _ _ hc => .bind hc fun _ => .bind (bounded_named _) fun _ => bounded_load _ _ _
  unfold loadNamed wrongShape
  split
  · exact .pure _
  · split
    · refine .bind (bounded_entriesOf _) fun _ => .bind (bounded_named _) fun _ =>
        .ite (.foldlM (fun s short => ?_) _ _) (bounded_load _ _ _)
      split
      · exact hmember s short (bounded_entriesOf _)
      · exact hmember s short (.pure _)
    · refine .bind (.pure _) fun _ => .bind (bounded_named _) fun _ =>
        .ite (.foldlM (fun s short => ?_) _ _) (bounded_load _ _ _)
      split
      · exact hmember s short (bounded_entriesOf _)
      · exact hmember s short (.pure _)
  · simp

theorem bounded_styleNamed (v : Value) : Bounded (styleNamed v) := by
  unfold styleNamed
  split
  · simp only
    split <;> simp
  · simp

theorem bounded_tabLengthOf (v : Value) : Bounded (tabLengthOf v) := by
  unfold tabLengthOf wrongShape
  split <;> simp

/-- Reading the settings of markdown is bounded. -/
theorem bounded_ofValue (v : Value) : Bounded (ofValue v) := by
  unfold ofValue wrongShape
  split
  case' isTrue => refine .bind (bounded_entriesOf _) fun entries => ?_
  case' isFalse => refine .bind (.pure _) fun entries => ?_
  all_goals
    refine .bind (bounded_elementsOf _) fun extensions => .bind (bounded_entriesOfMapping _) fun configs =>
      .bind (bounded_entriesOfMapping _) fun fences => .ite (by simp) ?_
    exact .bind (bounded_tabLengthOf _) fun _ => .bind (.foldlM (bounded_loadNamed _) _ _) fun _ =>
      .bind (bounded_styleNamed _) fun _ => .pure _

end Settings

/-- Converting markdown is bounded. -/
theorem bounded_render (settings : Value) (text : String) : Bounded (render settings text) := by
  refine .bind (Settings.bounded_ofValue settings) fun s => .ite (.pure _) ?_
  split
  · simp [wrongShape]
  · exact .pure _

end Markdown

end StaticSite
