import StaticSite.Proofs.Disk.Tree

/-!
# Following a path

A path is followed through the folders on the disk, while its place is read off the spelling alone.
The two agree as long as every `..` in the path leaves a folder that exists: such a path is *firm*.
What a firm path finds is what stands at its place, so that two disks with the same entry there show
the same thing under the path.

## Main definitions

* `Disk.Steady`: every `..` among some pieces leaves an existing folder.
* `Disk.Firm`: an absolute path without null characters whose pieces are steady.
* `Path.endsOpen`: a path that only a folder can answer to, as its last piece names nothing.

## Main results

* `Disk.followFrom_ok`: a path that can be followed leads to its place.
* `Disk.locate_mono`: where a path leads, it leads while folders stay.
* `Disk.find?_eq`: what a firm path finds.
* `Disk.followFrom_concat`: when a path to a new entry can be followed.
-/

namespace StaticSite

namespace Path

/-- A piece that names nothing. -/
def isBlankPiece (c : String) : Bool := c.isEmpty || c == "."

/-- The last piece names nothing, so that only a folder answers to the path. -/
def endsOpen (path : String) : Bool := (cuts path).getLast?.any isBlankPiece

@[simp] theorem isBlankPiece_iff {c : String} : isBlankPiece c = true ↔ c = "" ∨ c = "." := by
  simp [isBlankPiece]

/-- A piece that names nothing stays where it is. -/
theorem step_blank {c : String} (h : isBlankPiece c = true) (p : Place) : step p c = p := by
  rcases isBlankPiece_iff.mp h with rfl | rfl <;> rfl

/-- A piece that is neither nothing nor `..` is a name and goes down. -/
theorem step_of_not_blank {c : String} (h : isBlankPiece c = false) (hup : c ≠ "..") (p : Place) :
    step p c = p ++ [c] := by
  rw [Bool.eq_false_iff, ne_eq, isBlankPiece_iff, not_or] at h
  exact step_name p h.1 h.2 hup

end Path

namespace Disk

open Path

variable {d d' : Disk} {p q : Place} {cs : List String} {path : String}

/-! ### Following pieces -/

/-- Only from a folder can a piece be followed. -/
theorem followFrom_of_not_folder (h : d.get? p ≠ some .folder) (c : String) (cs : List String) :
    ∃ e, d.followFrom p (c :: cs) = .error e := by
  rw [followFrom]
  rcases hp : d.get? p with _ | e
  · exact ⟨_, rfl⟩
  · cases e with
    | file content => exact ⟨_, rfl⟩
    | folder => exact absurd hp h

/-- From a folder, a piece is carried out unless it is too long a name. -/
theorem followFrom_of_folder (h : d.get? p = some .folder) (c : String) (cs : List String) :
    d.followFrom p (c :: cs) =
      if isBlankPiece c = false ∧ c ≠ ".." ∧ maxNameBytes < c.utf8ByteSize then .error .nameTooLong
      else d.followFrom (step p c) cs := by
  rw [followFrom, h]
  by_cases hblank : isBlankPiece c = true
  · have : (c.isEmpty || c == ".") = true := hblank
    simp [this, hblank, step_blank hblank]
  · have hb : (c.isEmpty || c == ".") = false := by simpa using hblank
    have hb' : isBlankPiece c = false := Bool.eq_false_iff.mpr hblank
    by_cases hup : c = ".."
    · simp [hup]
    · simp only [hb, hb', Bool.false_eq_true, if_false, beq_eq_false_iff_ne.mpr hup, true_and]
      rw [step_of_not_blank hb' hup]
      by_cases hlong : maxNameBytes < c.utf8ByteSize <;> simp [hlong, hup]

/-- Pieces that can be followed lead to the place that they spell. -/
theorem followFrom_ok (h : d.followFrom p cs = .ok q) : q = descend p cs := by
  induction cs generalizing p with
  | nil => exact (Except.ok.inj h).symm
  | cons c cs ih =>
    by_cases hp : d.get? p = some .folder
    · rw [followFrom_of_folder hp] at h
      split at h
      · exact absurd h (by simp)
      · exact ih h
    · obtain ⟨e, he⟩ := followFrom_of_not_folder hp c cs
      rw [he] at h
      exact absurd h (by simp)

/-- Pieces that can be followed are followed to the same place while folders stay. -/
theorem followFrom_mono (hfolder : ∀ p, d.get? p = some .folder → d'.get? p = some .folder)
    (h : d.followFrom p cs = .ok q) : d'.followFrom p cs = .ok q := by
  induction cs generalizing p with
  | nil => exact h
  | cons c cs ih =>
    by_cases hp : d.get? p = some .folder
    · rw [followFrom_of_folder hp] at h
      rw [followFrom_of_folder (hfolder p hp)]
      split at h
      · exact absurd h (by simp)
      · next hshort =>
        rw [if_neg hshort]
        exact ih h
    · obtain ⟨e, he⟩ := followFrom_of_not_folder hp c cs
      rw [he] at h
      exact absurd h (by simp)

/-- Where a path leads, it leads while folders stay. -/
theorem locate_mono (hcwd : d'.cwd = d.cwd)
    (hfolder : ∀ p, d.get? p = some .folder → d'.get? p = some .folder)
    (h : d.locate path = .ok p) : d'.locate path = .ok p := by
  have hplace : d'.cwdPlace = d.cwdPlace := by rw [cwdPlace, cwdPlace, hcwd]
  rw [locate] at h ⊢
  rw [hplace]
  split at h
  · exact absurd h (by simp)
  next hempty =>
  split at h
  · exact absurd h (by simp)
  next hshort =>
  rw [if_neg hempty, if_neg hshort]
  simp only at h ⊢
  split at h
  · next habsolute =>
    rw [if_pos habsolute]
    exact followFrom_mono hfolder h
  · next hrelative =>
    rw [if_neg hrelative]
    exact followFrom_mono hfolder h

/-- Pieces are followed one after another. -/
theorem followFrom_append (d : Disk) (p : Place) (as bs : List String) :
    d.followFrom p (as ++ bs) =
      match d.followFrom p as with
      | .ok q => d.followFrom q bs
      | .error e => .error e := by
  induction as generalizing p with
  | nil => rfl
  | cons c cs ih =>
    by_cases hp : d.get? p = some .folder
    · rw [List.cons_append, followFrom_of_folder hp, followFrom_of_folder hp]
      split
      · rfl
      · exact ih _
    · rw [List.cons_append, followFrom, followFrom]
      rcases hg : d.get? p with _ | e
      · rfl
      · cases e with
        | file content => rfl
        | folder => exact absurd hg hp

/-- The last of pieces that can be followed is carried out from a folder, and is no name that is too long. -/
theorem followFrom_concat_ok {c : String} (h : d.followFrom p (cs ++ [c]) = .ok q) :
    d.get? (descend p cs) = some .folder ∧ q = step (descend p cs) c ∧
      (isBlankPiece c = false → c ≠ ".." → c.utf8ByteSize ≤ maxNameBytes) := by
  rw [followFrom_append] at h
  rcases hr : d.followFrom p cs with e | r
  · rw [hr] at h
    exact absurd h (by simp)
  rw [hr] at h
  change d.followFrom r [c] = .ok q at h
  rw [← followFrom_ok hr]
  have hfolder : d.get? r = some .folder := by
    by_contra hne
    obtain ⟨e, he⟩ := followFrom_of_not_folder hne c []
    rw [he] at h
    exact absurd h (by simp)
  rw [followFrom_of_folder hfolder] at h
  split at h
  · exact absurd h (by simp)
  next hshort =>
  exact ⟨hfolder, followFrom_ok h,
    fun hblank hup => Nat.not_lt.mp fun hlong => hshort ⟨hblank, hup, hlong⟩⟩

/-- Pieces that can be followed and end with one that names nothing lead to a folder. -/
theorem get?_of_followFrom_concat_blank {c : String} (hc : isBlankPiece c = true)
    (h : d.followFrom p (cs ++ [c]) = .ok q) : d.get? q = some .folder := by
  obtain ⟨hfolder, rfl, -⟩ := followFrom_concat_ok h
  rwa [step_blank hc]

/-! ### Steady pieces -/

/-- Every `..` among the pieces leaves a folder that exists. -/
inductive Steady (d : Disk) : Place → List String → Prop
  | nil (p : Place) : Steady d p []
  | cons {p : Place} {c : String} {cs : List String} (up : c = ".." → d.get? p = some .folder)
      (rest : Steady d (step p c) cs) : Steady d p (c :: cs)

theorem steady_cons {c : String} :
    d.Steady p (c :: cs) ↔ (c = ".." → d.get? p = some .folder) ∧ d.Steady (step p c) cs :=
  ⟨fun | .cons up rest => ⟨up, rest⟩, fun h => .cons h.1 h.2⟩

instance instDecidableSteady (d : Disk) : ∀ (p : Place) (cs : List String), Decidable (d.Steady p cs)
  | p, [] => .isTrue (.nil p)
  | p, c :: cs =>
    have := instDecidableSteady d (step p c) cs
    decidable_of_iff _ steady_cons.symm

theorem steady_append (as bs : List String) :
    d.Steady p (as ++ bs) ↔ d.Steady p as ∧ d.Steady (descend p as) bs := by
  induction as generalizing p with
  | nil => simp [Steady.nil]
  | cons c cs ih => simp [steady_cons, ih, and_assoc]

/-- Pieces that never go up are steady. -/
theorem steady_of_notMem_up (h : ".." ∉ cs) : d.Steady p cs := by
  induction cs generalizing p with
  | nil => exact .nil p
  | cons c cs ih =>
    rw [List.mem_cons, not_or] at h
    exact .cons (fun hc => absurd hc.symm h.1) (ih h.2)

/-- Pieces that can be followed are steady. -/
theorem steady_of_followFrom (h : d.followFrom p cs = .ok q) : d.Steady p cs := by
  induction cs generalizing p with
  | nil => exact .nil p
  | cons c cs ih =>
    by_cases hp : d.get? p = some .folder
    · rw [followFrom_of_folder hp] at h
      split at h
      · exact absurd h (by simp)
      · exact .cons (fun _ => hp) (ih h)
    · obtain ⟨e, he⟩ := followFrom_of_not_folder hp c cs
      rw [he] at h
      exact absurd h (by simp)

/-- Steady pieces stay steady while folders stay. -/
theorem Steady.mono (hfolder : ∀ p, d.get? p = some .folder → d'.get? p = some .folder)
    (h : d.Steady p cs) : d'.Steady p cs := by
  induction h with
  | nil p => exact .nil p
  | cons up _ ih => exact .cons (fun hc => hfolder _ (up hc)) ih

/-- From a place that is no folder, steady pieces only go down. -/
theorem Steady.descend_of_not_folder (hd : d.WellFormed) (hp : d.get? p ≠ some .folder)
    (h : d.Steady p cs) :
    ∃ names, descend p cs = p ++ names ∧ (names = [] → ∀ c ∈ cs, isBlankPiece c = true) := by
  induction cs generalizing p with
  | nil => exact ⟨[], by simp⟩
  | cons c cs ih =>
    obtain ⟨hup, hrest⟩ := steady_cons.mp h
    rw [descend_cons]
    by_cases hc : isBlankPiece c = true
    · rw [step_blank hc] at hrest ⊢
      obtain ⟨names, hnames, hblank⟩ := ih hp hrest
      refine ⟨names, hnames, fun hnil x hx => ?_⟩
      rcases List.mem_cons.mp hx with rfl | hx
      · exact hc
      · exact hblank hnil x hx
    · have hname := step_of_not_blank (Bool.eq_false_iff.mpr hc) (fun h => hp (hup h)) p
      rw [hname] at hrest ⊢
      have hnone := hd.get?_append_eq_none (q := [c]) (by simp) hp
      obtain ⟨names, hnames, -⟩ := ih (by simp [hnone]) hrest
      exact ⟨c :: names, by simp [hnames], by simp⟩

/-- Where steady pieces cannot be followed, their place holds nothing, or a file where only a folder
would do. -/
theorem get?_of_followFrom_error (hd : d.WellFormed) (h : d.Steady p cs) {e : FileFault}
    (he : d.followFrom p cs = .error e) :
    d.get? (descend p cs) = none ∨
      d.get? (descend p cs) ≠ some .folder ∧ cs.getLast?.any isBlankPiece = true := by
  induction cs generalizing p with
  | nil => simp [followFrom] at he
  | cons c cs ih =>
    by_cases hp : d.get? p = some .folder
    · rw [followFrom_of_folder hp] at he
      obtain ⟨-, hrest⟩ := steady_cons.mp h
      split at he
      · next hlong =>
        -- no entry has so long a name, so nothing stands at or below it
        have hname := step_of_not_blank hlong.1 hlong.2.1 p
        have hnone : d.get? (p ++ [c]) = none := by
          by_contra hsome
          have := (hd.entryName (Option.isSome_iff_ne_none.mpr hsome) c (by simp)).short
          exact absurd this (Nat.not_le.mpr hlong.2.2)
        rw [descend_cons, hname]
        rw [hname] at hrest
        obtain ⟨names, hnames, -⟩ := hrest.descend_of_not_folder hd (by simp [hnone])
        rw [hnames]
        by_cases hnil : names = []
        · simp [hnil, hnone]
        · exact .inl (hd.get?_append_eq_none hnil (by simp [hnone]))
      · rw [descend_cons]
        rcases ih hrest he with hnone | ⟨hne, hblank⟩
        · exact .inl hnone
        · refine .inr ⟨hne, ?_⟩
          cases cs with
          | nil => simp at hblank
          | cons x xs => simpa using hblank
    · obtain ⟨names, hnames, hblank⟩ := h.descend_of_not_folder hd hp
      rw [hnames]
      by_cases hnil : names = []
      · subst hnil
        refine .inr ⟨by simpa using hp, ?_⟩
        have hlast := List.getLast?_eq_some_getLast (l := c :: cs) (by simp)
        rw [hlast]
        exact hblank rfl _ (List.getLast_mem _)
      · exact .inl (hd.get?_append_eq_none hnil hp)

/-- What stands where steady pieces lead can be followed, if it is a folder or its name ends the
pieces. -/
theorem followFrom_of_get? (hd : d.WellFormed) (h : d.Steady p cs) {e : Entry}
    (he : d.get? (descend p cs) = some e)
    (hlast : e = .folder ∨ cs.getLast?.any isBlankPiece = false) :
    d.followFrom p cs = .ok (descend p cs) := by
  rcases hf : d.followFrom p cs with fault | q
  · exfalso
    rcases get?_of_followFrom_error hd h hf with hnone | ⟨hne, hblank⟩
    · simp [he] at hnone
    · rcases hlast with rfl | hlast
      · exact hne he
      · simp [hblank] at hlast
  · rw [followFrom_ok hf]

/-! ### Firm paths -/

/-- An absolute path without null characters in which every `..` leaves a folder that exists. -/
structure Firm (d : Disk) (path : String) : Prop where
  /-- It begins at the root. -/
  absolute : isAbsolute path = true
  /-- It holds no null character. -/
  null : Char.ofNat 0 ∉ path.toList
  /-- Every `..` leaves a folder. -/
  steady : d.Steady [] (cuts path)

instance (d : Disk) (path : String) : Decidable (d.Firm path) :=
  decidable_of_iff (isAbsolute path = true ∧ Char.ofNat 0 ∉ path.toList ∧ d.Steady [] (cuts path))
    ⟨fun ⟨h₁, h₂, h₃⟩ => ⟨h₁, h₂, h₃⟩, fun h => ⟨h.absolute, h.null, h.steady⟩⟩

/-- A firm path stays firm while folders stay. -/
theorem Firm.mono (hfolder : ∀ p, d.get? p = some .folder → d'.get? p = some .folder)
    (h : d.Firm path) : d'.Firm path :=
  ⟨h.absolute, h.null, h.steady.mono hfolder⟩

/-- An absolute path is followed from the root. -/
theorem locate_of_isAbsolute (d : Disk) (h : isAbsolute path = true) :
    d.locate path =
      if maxPathBytes < path.utf8ByteSize then .error .nameTooLong
      else d.followFrom [] (cuts path) := by
  have hne : path.isEmpty = false := by
    rw [Bool.eq_false_iff]
    intro hempty
    rw [String.isEmpty_iff.mp hempty] at h
    simp [isAbsolute, Chars.isAbsolute] at h
  have habs : Chars.isAbsolute path.toList = true := h
  simp [locate, hne, habs, cuts]

/-- What a firm path finds is what stands at its place; only a folder answers to a path whose last
piece names nothing, and nothing to one that is too long. -/
theorem find?_eq (hd : d.WellFormed) (h : d.Firm path) :
    d.find? path =
      if maxPathBytes < path.utf8ByteSize then none
      else (d.get? (place path)).filter fun e => e == .folder || !endsOpen path := by
  have hnull : path.toList.contains (Char.ofNat 0) = false := by simpa using h.null
  rw [find?, hnull, if_neg (by simp), locate_of_isAbsolute d h.absolute]
  by_cases hlong : maxPathBytes < path.utf8ByteSize
  · simp [hlong]
  rw [if_neg hlong, if_neg hlong]
  rcases hf : d.followFrom [] (cuts path) with fault | q
  · rcases get?_of_followFrom_error hd h.steady hf with hnone | ⟨hne, hblank⟩
    · simp [place, hnone]
    · rcases hg : d.get? (place path) with _ | e
      · rfl
      · have hne' : e ≠ .folder := fun he => hne (by rw [← place, hg, he])
        have hopen : endsOpen path = true := hblank
        simp [Option.filter, hopen, hne']
  · obtain rfl := followFrom_ok hf
    change d.get? (place path) = _
    by_cases hopen : endsOpen path = true
    · have hfolder : d.get? (place path) = some .folder := by
        rw [cuts_eq_dropLast_append path] at hf
        have hblank : isBlankPiece (baseName path) = true := by
          simpa [endsOpen, getLast?_cuts] using hopen
        have := get?_of_followFrom_concat_blank hblank hf
        rwa [← cuts_eq_dropLast_append path] at this
      simp [Option.filter, hfolder]
    · rw [Bool.not_eq_true] at hopen
      cases d.get? (place path) <;> simp [Option.filter, hopen]

/-- An absolute path under which something is found is firm. -/
theorem Firm.of_find? {e : Entry} (habsolute : isAbsolute path = true) (h : d.find? path = some e) :
    d.Firm path := by
  rw [find?] at h
  by_cases hnull : path.toList.contains (Char.ofNat 0) = true
  · rw [if_pos hnull] at h
    exact absurd h (by simp)
  rw [if_neg hnull] at h
  rcases hl : d.locate path with fault | p
  · rw [hl] at h
    exact absurd h (by simp)
  rw [locate_of_isAbsolute d habsolute] at hl
  split at hl
  · exact absurd hl (by simp)
  · exact ⟨habsolute, by simpa using hnull, steady_of_followFrom hl⟩

/-- What is found under an absolute path stands at its place. -/
theorem get?_of_find? {e : Entry} (habsolute : isAbsolute path = true) (h : d.find? path = some e) :
    d.get? (place path) = some e := by
  rw [find?] at h
  split at h
  · exact absurd h (by simp)
  · split at h
    · next p hl =>
      rw [locate_of_isAbsolute d habsolute] at hl
      split at hl
      · exact absurd hl (by simp)
      · rwa [followFrom_ok hl] at h
    · exact absurd h (by simp)

/-- What stands at the place of a firm path is found under it, if the path ends with a name and is
short. -/
theorem find?_of_get? (hd : d.WellFormed) (h : d.Firm path) (hname : IsName (baseName path))
    (hshort : path.utf8ByteSize ≤ maxPathBytes) {e : Entry} (he : d.get? (place path) = some e) :
    d.find? path = some e := by
  have hopen : endsOpen path = false := by
    rw [endsOpen, getLast?_cuts, Option.any_some, isBlankPiece, Bool.or_eq_false_iff]
    exact ⟨by simpa using hname.ne_empty, by simpa using hname.ne_dot⟩
  rw [find?_eq hd h, if_neg (Nat.not_lt.mpr hshort), he]
  simp [Option.filter, hopen]

/-- A path under which something is found is short. -/
theorem short_of_find? {e : Entry} (h : d.find? path = some e) : path.utf8ByteSize ≤ maxPathBytes := by
  by_contra hlong
  rw [find?] at h
  split at h
  · exact absurd h (by simp)
  · split at h
    · next hl =>
      rw [locate] at hl
      split at hl
      · exact absurd hl (by simp)
      · rw [if_pos (Nat.not_le.mp hlong)] at hl
        exact absurd hl (by simp)
    · exact absurd h (by simp)

/-- Two trees with the same entry at the place of a firm path show the same under it. -/
theorem find?_congr (hd : d.WellFormed) (hd' : d'.WellFormed) (h : d.Firm path) (h' : d'.Firm path)
    (heq : d'.get? (place path) = d.get? (place path)) : d'.find? path = d.find? path := by
  rw [find?_eq hd h, find?_eq hd' h', heq]

/-- A name below a folder that steady pieces lead to can be followed unless it is too long. -/
theorem followFrom_concat (hd : d.WellFormed) (h : d.Steady p cs) {c : String}
    (hc : IsName c) (hfolder : d.get? (descend p cs) = some .folder) :
    d.followFrom p (cs ++ [c]) =
      if maxNameBytes < c.utf8ByteSize then .error .nameTooLong else .ok (descend p cs ++ [c]) := by
  have hblank : isBlankPiece c = false := by
    simpa [isBlankPiece] using ⟨hc.ne_empty, hc.ne_dot⟩
  rw [followFrom_append, followFrom_of_get? hd h hfolder (.inl rfl)]
  change d.followFrom (descend p cs) [c] = _
  rw [followFrom_of_folder hfolder, step_of_not_blank hblank hc.ne_up]
  simp [hblank, hc.ne_up, followFrom]

end Disk

end StaticSite
