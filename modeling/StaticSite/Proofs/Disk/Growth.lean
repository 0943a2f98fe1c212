import StaticSite.Proofs.Disk.Locate

/-!
# How a disk grows

A build never removes anything: it makes folders where nothing was, and writes files. `Disk.Grown`
says this of two disks, with the places where folders may have been made and those where files may
have been written. It is kept by every step of a build and composes along a run.

## Main definitions

* `Disk.Grown`: everything stays what it is, except for new folders and written files.
* `Disk.Later`: a disk that has grown anywhere.
* `Disk.Blocked`: no folder can ever be made at a place.

## Main results

* `Disk.grown_set_folder`, `Disk.grown_set_file`: the two single steps.
* `Disk.Grown.get?_of_not_touched`: what was not touched is what it was.
* `Disk.Blocked.mono`: a blocked place stays blocked.
-/

namespace StaticSite.Disk

open Path

variable {d d' d'' : Disk} {p q : Place} {made made' written written' : Place → Prop}

/-- Folders were made at some places and files written at some places, and everything else is what
it was. -/
structure Grown (made written : Place → Prop) (d d' : Disk) : Prop where
  /-- The working directory is the same. -/
  cwd : d'.cwd = d.cwd
  /-- The home directory is the same. -/
  home : d'.home = d.home
  /-- The entries still form a tree. -/
  wellFormed : d.WellFormed → d'.WellFormed
  /-- A folder stays a folder. -/
  folder : ∀ p, d.get? p = some .folder → d'.get? p = some .folder
  /-- A file stays a file, with its content unless it was written. -/
  file : ∀ p c, d.get? p = some (.file c) →
    ∃ c', d'.get? p = some (.file c') ∧ (c' = c ∨ written p)
  /-- What is new was made or written. -/
  new : ∀ p, d.get? p = none →
    d'.get? p = none ∨ (d'.get? p = some .folder ∧ made p) ∨
      (∃ c, d'.get? p = some (.file c)) ∧ written p

namespace Grown

/-- Nothing has to happen. -/
theorem refl (made written : Place → Prop) (d : Disk) : Grown made written d d :=
  ⟨rfl, rfl, id, fun _ => id, fun _ c h => ⟨c, h, .inl rfl⟩, fun _ h => .inl h⟩

/-- Growth composes. -/
theorem trans (h : Grown made written d d') (h' : Grown made written d' d'') :
    Grown made written d d'' where
  cwd := h'.cwd.trans h.cwd
  home := h'.home.trans h.home
  wellFormed := h'.wellFormed ∘ h.wellFormed
  folder p := h'.folder p ∘ h.folder p
  file p c hp := by
    obtain ⟨c', hp', hc⟩ := h.file p c hp
    obtain ⟨c'', hp'', hc'⟩ := h'.file p c' hp'
    refine ⟨c'', hp'', ?_⟩
    rcases hc with rfl | hc
    · exact hc'
    · exact .inr hc
  new p hp := by
    rcases h.new p hp with hp' | ⟨hp', hm⟩ | ⟨⟨c, hp'⟩, hw⟩
    · exact h'.new p hp'
    · exact .inr (.inl ⟨h'.folder p hp', hm⟩)
    · obtain ⟨c', hp'', -⟩ := h'.file p c hp'
      exact .inr (.inr ⟨⟨c', hp''⟩, hw⟩)

/-- The places named as touched may be more; where something stands, no folder is made. -/
theorem mono (h : Grown made written d d') (hm : ∀ p, d.get? p = none → made p → made' p)
    (hw : ∀ p, written p → written' p) : Grown made' written' d d' where
  cwd := h.cwd
  home := h.home
  wellFormed := h.wellFormed
  folder := h.folder
  file p c hp := by
    obtain ⟨c', hp', hc⟩ := h.file p c hp
    exact ⟨c', hp', hc.imp_right (hw p)⟩
  new p hp := by
    rcases h.new p hp with hp' | ⟨hp', hmade⟩ | ⟨hc, hwritten⟩
    · exact .inl hp'
    · exact .inr (.inl ⟨hp', hm p hp hmade⟩)
    · exact .inr (.inr ⟨hc, hw p hwritten⟩)

/-- A folder was a folder, or it was made where nothing stood. -/
theorem folder_of (h : Grown made written d d') (hp : d'.get? p = some .folder) :
    d.get? p = some .folder ∨ d.get? p = none ∧ made p := by
  rcases he : d.get? p with _ | e
  · rcases h.new p he with hn | ⟨-, hm⟩ | ⟨⟨c, hc⟩, -⟩
    · simp [hp] at hn
    · exact .inr ⟨rfl, hm⟩
    · simp [hp] at hc
  · cases e with
    | folder => exact .inl rfl
    | file c =>
      obtain ⟨c', hc', -⟩ := h.file p c he
      simp [hp] at hc'

/-- A file was written, or it is the file that it was. -/
theorem file_of (h : Grown made written d d') {c : Content} (hp : d'.get? p = some (.file c)) :
    d.get? p = some (.file c) ∨ written p := by
  rcases he : d.get? p with _ | e
  · rcases h.new p he with hn | ⟨hf, -⟩ | ⟨-, hw⟩
    · simp [hp] at hn
    · simp [hp] at hf
    · exact .inr hw
  · cases e with
    | folder =>
      have := h.folder p he
      simp [hp] at this
    | file c₀ =>
      obtain ⟨c', hc', hc⟩ := h.file p c₀ he
      rw [hp] at hc'
      obtain rfl : c = c' := by simpa using hc'
      rcases hc with rfl | hw
      · exact .inl rfl
      · exact .inr hw

/-- What was not touched is what it was. -/
theorem get?_of_not_touched (h : Grown made written d d') (hm : ¬made p) (hw : ¬written p) :
    d'.get? p = d.get? p := by
  rcases he : d.get? p with _ | e
  · rcases h.new p he with hn | ⟨-, hmade⟩ | ⟨-, hwritten⟩
    · exact hn
    · exact absurd hmade hm
    · exact absurd hwritten hw
  · cases e with
    | folder => exact h.folder p he
    | file c =>
      obtain ⟨c', hc', rfl | hwritten⟩ := h.file p c he
      · exact hc'
      · exact absurd hwritten hw

/-- What stood at a place that was not written stands there as it was. -/
theorem get?_of_isSome (h : Grown made written d d') (hp : (d.get? p).isSome) (hw : ¬written p) :
    d'.get? p = d.get? p := by
  obtain ⟨e, he⟩ := Option.isSome_iff_exists.mp hp
  rw [he]
  cases e with
  | folder => exact h.folder p he
  | file c =>
    obtain ⟨c', hc', rfl | hwritten⟩ := h.file p c he
    · exact hc'
    · exact absurd hwritten hw

/-- Growth can be seen in two steps with different places. -/
theorem trans_of (h : Grown made written d d') (h' : Grown made' written' d' d'') :
    Grown (fun p => made p ∨ made' p) (fun p => written p ∨ written' p) d d'' :=
  (h.mono (fun _ _ => .inl) fun _ => .inl).trans (h'.mono (fun _ _ => .inr) fun _ => .inr)

end Grown

/-- The disk as it may be later in a build. -/
def Later (d d' : Disk) : Prop := Grown (fun _ => True) (fun _ => True) d d'

/-- A disk that has grown is a later one. -/
theorem Grown.later (h : Grown made written d d') : Later d d' :=
  h.mono (fun _ _ _ => trivial) fun _ _ => trivial

/-! ### Single steps -/

/-- Making a folder in a folder. -/
theorem grown_set_folder (hp : p ≠ []) (hnames : ∀ c ∈ p, EntryName c)
    (hparent : d.get? p.dropLast = some .folder) (hnone : d.get? p = none) :
    Grown (· = p) (fun _ => False) d (d.set p .folder) where
  cwd := rfl
  home := rfl
  wellFormed hd := hd.set hp hnames hparent fun _ => rfl
  folder q hq := by
    rw [get?_set hp]
    split
    · rfl
    · exact hq
  file q c hq := by
    rw [get?_set hp, if_neg]
    · exact ⟨c, hq, .inl rfl⟩
    · rintro rfl
      simp [hq] at hnone
  new q hq := by
    rw [get?_set hp]
    split
    · next h => exact .inr (.inl ⟨rfl, h⟩)
    · exact .inl hq

/-- Writing a file in a folder. -/
theorem grown_set_file (hp : p ≠ []) (hnames : ∀ c ∈ p, EntryName c)
    (hparent : d.get? p.dropLast = some .folder) (hnot : d.get? p ≠ some .folder) (c : Content) :
    Grown (fun _ => False) (· = p) d (d.set p (.file c)) where
  cwd := rfl
  home := rfl
  wellFormed hd := hd.set hp hnames hparent fun h => absurd h hnot
  folder q hq := by
    rw [get?_set hp, if_neg]
    · exact hq
    · rintro rfl
      exact hnot hq
  file q c' hq := by
    rw [get?_set hp]
    split
    · next h => exact ⟨c, rfl, .inr h⟩
    · exact ⟨c', hq, .inl rfl⟩
  new q hq := by
    rw [get?_set hp]
    split
    · next h => exact .inr (.inr ⟨⟨c, rfl⟩, h⟩)
    · exact .inl hq

/-! ### Places that stay without a folder -/

/-- No folder can ever be made at a place: a file stands on the way, or a name is too long. -/
def Blocked (d : Disk) (p : Place) : Prop :=
  (∃ q, q <+: p ∧ ∃ c, d.get? q = some (.file c)) ∨ ∃ c ∈ p, maxNameBytes < c.utf8ByteSize

/-- A blocked place stays blocked. -/
theorem Blocked.mono (h : Grown made written d d') (hb : d.Blocked p) : d'.Blocked p := by
  rcases hb with ⟨q, hq, c, hc⟩ | hlong
  · obtain ⟨c', hc', -⟩ := h.file q c hc
    exact .inl ⟨q, hq, c', hc'⟩
  · exact .inr hlong

/-- A folder is not blocked. -/
theorem not_blocked_of_folder (hd : d.WellFormed) (hp : d.get? p = some .folder) : ¬d.Blocked p := by
  rintro (⟨q, ⟨r, rfl⟩, c, hc⟩ | ⟨c, hc, hlong⟩)
  · by_cases hr : r = []
    · rw [hr, List.append_nil, hc] at hp
      exact absurd hp (by simp)
    · have := hd.get?_of_append hr (Option.isSome_iff_exists.mpr ⟨_, hp⟩)
      rw [hc] at this
      exact absurd this (by simp)
  · have := (hd.entryName (Option.isSome_iff_exists.mpr ⟨_, hp⟩) c hc).short
    omega

end StaticSite.Disk
