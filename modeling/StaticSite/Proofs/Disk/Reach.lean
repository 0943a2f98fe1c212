import StaticSite.Proofs.Disk.Folders
import StaticSite.Proofs.Path.Below

/-!
# Where folders and files may come to be

What making folders and writing a file can touch. Of an absolute path, a folder is only made where a
leading part of the path leads, and a file is only written where the path leads. A path may lead through
places that are not above where it ends, as `a/../b` leads through `a`; but it only makes folders there
if they are missing, and a path whose every `..` leaves a folder that exists makes folders only above its
end. Of any path, absolute or not, a file that is written has the name that ends the path.

## Main definitions

* `Path.Leads`: a leading part of a path leads to a place.

## Main results

* `Path.Leads.prefix_of_steady`: a missing folder on the way is above the end of the path, or is its end.
* `Disk.grown_makeFolders`: folders are only made where the path leads.
* `Disk.grown_writeText`: a file is only written at the end of the path.
* `Disk.grown_makeFolders_anywhere`, `Disk.grown_writeText_anywhere`: the same for any path.
* `Disk.isFile_of_makeFolders`, `Disk.isFile_of_writeText`: only the file system stands in the way.
-/

namespace StaticSite

namespace Path

variable {path root : String} {q : Place} {names : List String}

/-- A leading part of a path leads to a place. -/
def Leads (path : String) (q : Place) : Prop := ∃ init, init <+: cuts path ∧ q = descend [] init

/-- A path leads to its place. -/
theorem leads_place (path : String) : Leads path (place path) := ⟨cuts path, List.prefix_refl _, rfl⟩

/-- Where the directory of a path leads, the path leads. -/
theorem Leads.of_parent (h : Leads (parent path) q) : Leads path q := by
  obtain ⟨init, hinit, rfl⟩ := h
  obtain ⟨k, hk⟩ := cuts_parent path
  have hpre : init <+: (cuts path).dropLast ++ [""] := hk ▸ hinit.trans (List.prefix_append _ _)
  rcases List.prefix_concat_iff.mp hpre with rfl | hpre
  · refine ⟨(cuts path).dropLast, List.dropLast_prefix _, ?_⟩
    rw [descend_append, descend_cons, step_empty, descend_nil]
  · exact ⟨init, hpre.trans (List.dropLast_prefix _), rfl⟩

/-- Where names below a directory lead, the directory leads, unless that is at or below it. -/
theorem Leads.of_below (hnames : ∀ c ∈ names, IsName c) (h : Leads (below root names) q) :
    Leads root q ∨ place root <+: q := by
  induction names using List.reverseRecOn with
  | nil => exact .inl h
  | append_singleton names c ih =>
    have hc := hnames c (by simp)
    have hinit : ∀ x ∈ names, IsName x := fun x hx => hnames x (List.mem_append_left _ hx)
    rw [below_concat] at h
    obtain ⟨init, hpre, rfl⟩ := h
    obtain ⟨start, hcuts, hstart⟩ := cuts_join (p := below root names) (q := c)
      (isAbsolute_of_notMem hc.slash)
    have hplace : descend [] start = place root ++ names := by
      rw [← place_below root hinit, place]
      rcases hstart with heq | heq
      · rw [heq]
      · rw [heq, descend_append, descend_cons, step_empty, descend_nil]
    rw [hcuts, cuts_of_notMem hc.slash] at hpre
    rcases List.prefix_concat_iff.mp hpre with rfl | hpre
    · rw [descend_append, hplace, descend_cons, step_name _ hc.ne_empty hc.ne_dot hc.ne_up, descend_nil,
        List.append_assoc]
      exact .inr (List.prefix_append _ _)
    · refine ih hinit ⟨init, ?_, rfl⟩
      rcases hstart with heq | heq
      · rwa [heq]
      · rw [heq]
        exact hpre.trans (List.prefix_append _ _)

/-- On the way of a path whose every `..` leaves a folder that exists, a missing folder is above the end
of the path, or is its end. -/
theorem Leads.prefix_of_steady {d : Disk} (hd : d.WellFormed) (hsteady : d.Steady [] (cuts path))
    (hq : d.get? q ≠ some .folder) (h : Leads path q) : q <+: place path := by
  obtain ⟨init, ⟨rest, hrest⟩, rfl⟩ := h
  rw [← hrest, Disk.steady_append] at hsteady
  obtain ⟨names, hnames, -⟩ := hsteady.2.descend_of_not_folder hd hq
  rw [place, ← hrest, descend_append, hnames]
  exact List.prefix_append _ _

end Path

namespace Disk

open Path

variable {d d' : Disk} {path text : String} {p : Place}

/-- A path is followed from somewhere, which is the root if the path is absolute. -/
theorem exists_followFrom (h : d.locate path = .ok p) :
    ∃ start, d.followFrom start (cuts path) = .ok p ∧ (isAbsolute path = true → start = []) := by
  have hcuts : (Text.splitOn '/' path.toList).map String.ofList = cuts path := rfl
  by_cases habsolute : isAbsolute path = true
  · rw [locate_of_isAbsolute d habsolute] at h
    split at h
    · exact absurd h (by simp)
    · exact ⟨[], h, fun _ => rfl⟩
  · have hchars : Chars.isAbsolute path.toList ≠ true := habsolute
    rw [locate] at h
    simp only [hcuts, hchars] at h
    split at h
    · exact absurd h (by simp)
    split at h
    · exact absurd h (by simp)
    · exact ⟨d.cwdPlace, h, fun hno => absurd hno habsolute⟩

/-- Pieces that can be followed to where no folder stands end with a name, which is the last of the place. -/
theorem getLast?_of_followFrom (hd : d.WellFormed) {start : Place} {cs : List String} {c : String}
    (h : d.followFrom start (cs ++ [c]) = .ok p) (hp : d.get? p ≠ some .folder) :
    p.getLast? = some c := by
  obtain ⟨hfolder, rfl, -⟩ := followFrom_concat_ok h
  have hblank : isBlankPiece c = false := by
    by_contra hblank
    exact hp (get?_of_followFrom_concat_blank (by simpa using hblank) h)
  have hup : c ≠ ".." := by
    rintro rfl
    rw [step_up] at hp
    exact hp (hd.get?_dropLast (Option.isSome_iff_exists.mpr ⟨_, hfolder⟩))
  rw [step_of_not_blank hblank hup, List.getLast?_concat]

/-- Where a path leads to nothing, that is a name in a folder. -/
theorem locate_new (hd : d.WellFormed) (hnull : Char.ofNat 0 ∉ path.toList)
    (hl : d.locate path = .ok p) (hnone : d.get? p = none) :
    (isAbsolute path = true → p = place path) ∧ p ≠ [] ∧ d.get? p.dropLast = some .folder ∧
      ∀ c ∈ p, EntryName c := by
  obtain ⟨start, hfollow, hstart⟩ := exists_followFrom hl
  have hplace : isAbsolute path = true → p = place path := fun habsolute => by
    rw [hstart habsolute] at hfollow
    exact followFrom_ok hfollow
  rw [cuts_eq_dropLast_append] at hfollow
  obtain ⟨hblank, hup, hshort, hfolder, hp⟩ := followFrom_new hd hfollow hnone
  rw [Bool.eq_false_iff, ne_eq, isBlankPiece_iff, not_or] at hblank
  have hslash : '/' ∉ (baseName path).toList := by
    rw [baseName, String.toList_ofList]
    exact slash_notMem_baseName path.toList
  refine ⟨hplace, by rw [hp]; simp, by rw [hp, List.dropLast_concat]; exact hfolder, fun c hc => ?_⟩
  rw [hp] at hc
  rcases List.mem_append.mp hc with hc | hc
  · exact hd.entryName (Option.isSome_iff_exists.mpr ⟨_, hfolder⟩) c hc
  · rw [List.mem_singleton.mp hc]
    refine ⟨⟨hblank.1, hblank.2, hup, hslash⟩, fun hmem => hnull ?_, hshort⟩
    rw [baseName, String.toList_ofList] at hmem
    rw [← throughSlash_append_baseName path.toList]
    exact List.mem_append_right _ hmem

/-- A path is what stands before the slashes at its end, and these. -/
theorem toList_withoutSlash (path : String) :
    ∃ tail, path.toList = (withoutSlash path).toList ++ tail ∧ ∀ c ∈ tail, c = '/' := by
  obtain ⟨tail, htail, hslash⟩ := trimEnd_append (· == '/') path.toList
  refine ⟨tail, ?_, fun c hc => by simpa using hslash c hc⟩
  rw [withoutSlash, String.toList_ofList]
  exact htail

/-- A path leads where it leads without the slashes at its end. -/
theorem leads_of_withoutSlash (h : Leads (withoutSlash path) p) : Leads path p := by
  obtain ⟨init, hinit, rfl⟩ := h
  obtain ⟨tail, htail, hslash⟩ := toList_withoutSlash path
  have hcuts := cuts_append_slashes (withoutSlash path).toList tail hslash
  rw [← htail, String.ofList_toList, String.ofList_toList] at hcuts
  exact ⟨init, hcuts ▸ hinit.trans (List.prefix_append _ _), rfl⟩

/-- An absolute path is absolute without the slashes at its end, unless nothing is left of it. -/
theorem isAbsolute_withoutSlash (habsolute : isAbsolute path = true) (hne : withoutSlash path ≠ "") :
    isAbsolute (withoutSlash path) = true := by
  obtain ⟨tail, htail, -⟩ := toList_withoutSlash path
  rw [isAbsolute, htail] at habsolute
  rw [isAbsolute]
  rcases hl : (withoutSlash path).toList with _ | ⟨c, cs⟩
  · exact absurd (String.toList_eq_nil_iff.mp hl) hne
  · rw [hl] at habsolute
    simpa [Chars.isAbsolute] using habsolute

/-- Where the folders of a path may be made: if it is absolute, only where it leads. -/
def Making (path : String) (q : Place) : Prop := isAbsolute path = true → Leads path q

/-- Making a folder makes it where the path leads. -/
theorem grown_makeFolder (hd : d.WellFormed) (h : d.makeFolder path = .ok d') :
    Grown (Making path) (fun _ => False) d d' := by
  rw [makeFolder, refuseNull] at h
  split at h
  · exact absurd h (by simp)
  next hok =>
  have hnull : Char.ofNat 0 ∉ path.toList := by
    intro hmem
    rw [if_pos (by simpa using hmem)] at hok
    exact absurd hok (by simp)
  -- the path that is followed
  obtain ⟨path₁, hpath₁, hnull₁, hleads⟩ : ∃ path₁,
      (if path.isEmpty || withoutSlash path == "" then path else withoutSlash path) = path₁ ∧
      Char.ofNat 0 ∉ path₁.toList ∧
      (isAbsolute path = true → isAbsolute path₁ = true ∧ ∀ q, Leads path₁ q → Leads path q) := by
    split
    · exact ⟨path, rfl, hnull, fun habsolute => ⟨habsolute, fun _ => id⟩⟩
    · next hne =>
      rw [Bool.or_eq_true, not_or] at hne
      obtain ⟨tail, htail, -⟩ := toList_withoutSlash path
      refine ⟨_, rfl, fun hmem => hnull ?_, fun habsolute =>
        ⟨isAbsolute_withoutSlash habsolute (by simpa using hne.2), fun _ => leads_of_withoutSlash⟩⟩
      rw [htail]
      exact List.mem_append_left _ hmem
  rw [hpath₁] at h
  split at h
  · exact absurd h (by simp)
  next p hl =>
  split at h
  · exact absurd h (by simp)
  next hnone =>
  obtain ⟨hplace, hne, hparent, hnames⟩ := locate_new hd hnull₁ hl hnone
  simp only [hparent] at h
  rw [← Except.ok.inj h]
  refine (grown_set_folder hne hnames hparent hnone).mono (fun q _ hq habsolute => ?_) fun _ => id
  obtain ⟨habsolute₁, hleads⟩ := hleads habsolute
  refine hleads q ?_
  rw [hq, hplace habsolute₁]
  exact leads_place _

/-- Making the last folder of a path makes it where the path leads. -/
theorem grown_makeLast (hd : d.WellFormed) (path : String) (wentUp : Bool) :
    Grown (Making path) (fun _ => False) d (d.makeLast path wentUp).1 := by
  rw [makeLast]
  split
  · exact .refl _ _ _
  · split
    · next made hmade => exact grown_makeFolder hd hmade
    · split <;> exact .refl _ _ _
    · exact .refl _ _ _

/-- The directory of a path without a slash at its end leads where the path leads. -/
theorem Making.of_lastStep {q : Place} (h : Making (lastStep path).1 q) : Making path q := by
  intro habsolute
  rw [lastStep] at h
  split at h
  · exact (h (isAbsolute_parent (isAbsolute_parent habsolute))).of_parent.of_parent
  · exact (h (isAbsolute_parent habsolute)).of_parent

/-- Making the folders of a path makes them where the path leads. The induction is on the number of
folders above it. -/
theorem grown_makeFoldersWithin (n : Nat) (hd : d.WellFormed) (path : String) :
    Grown (Making path) (fun _ => False) d (makeFoldersWithin n d path).1 := by
  induction n generalizing path with
  | zero => exact .refl _ _ _
  | succ n ih =>
    rw [makeFoldersWithin]
    split
    · exact grown_makeLast hd path false
    · have habove := (ih (lastStep path).1).mono (fun _ _ => Making.of_lastStep) fun _ => id
      split
      · next above _ _ heq =>
        rw [heq] at habove
        exact habove.trans (grown_makeLast (habove.wellFormed hd) path true)
      · next above e _ heq =>
        rw [heq] at habove
        exact habove
      · next above heq =>
        rw [heq] at habove
        exact habove.trans (grown_makeLast (habove.wellFormed hd) path true)

/-- Making the folders of an absolute path makes them where the path leads. -/
theorem grown_makeFolders (hd : d.WellFormed) (habsolute : isAbsolute path = true) :
    Grown (Leads path) (fun _ => False) d (d.makeFolders path).1 :=
  (grown_makeFoldersWithin _ hd path).mono (fun _ _ h => h habsolute) fun _ => id

/-- Making the folders of any path makes folders only. -/
theorem grown_makeFolders_anywhere (hd : d.WellFormed) (path : String) :
    Grown (fun _ => True) (fun _ => False) d (d.makeFolders path).1 :=
  (grown_makeFoldersWithin _ hd path).mono (fun _ _ _ => trivial) fun _ => id

/-- A text that is written is put in a folder, and not in the place of one: where the path leads, which is its
place if it is absolute, under the name that ends the path in any case. -/
theorem exists_of_writeText (hd : d.WellFormed) (h : d.writeText path text = .ok d') :
    ∃ p, d' = d.set p (.file (.text text)) ∧ p ≠ [] ∧ (∀ c ∈ p, EntryName c) ∧
      d.get? p.dropLast = some .folder ∧ d.get? p ≠ some .folder ∧
      (isAbsolute path = true → p = place path) ∧ d.locate path = .ok p ∧
      p.getLast? = some (baseName path) := by
  rw [writeText, writeContent, refuseNull] at h
  split at h
  · exact absurd h (by simp)
  next hok =>
  have hnull : Char.ofNat 0 ∉ path.toList := by
    intro hmem
    rw [if_pos (by simpa using hmem)] at hok
    exact absurd hok (by simp)
  split at h
  · exact absurd h (by simp)
  next p hl =>
  obtain ⟨start, hfollow, hstart⟩ := exists_followFrom hl
  have hplace : isAbsolute path = true → p = place path := fun habsolute => by
    rw [hstart habsolute] at hfollow
    exact followFrom_ok hfollow
  rw [cuts_eq_dropLast_append] at hfollow
  have hlast := getLast?_of_followFrom hd hfollow
  split at h
  · exact absurd h (by simp)
  · next c hc =>
    have hsome := Option.isSome_iff_exists.mpr ⟨_, hc⟩
    have hne : p ≠ [] := by
      rintro rfl
      simp at hc
    rw [← Except.ok.inj h]
    exact ⟨p, rfl, hne, hd.entryName hsome, hd.get?_dropLast hsome, by simp [hc], hplace, hl,
      hlast (by simp [hc])⟩
  · next hnone =>
    obtain ⟨-, hne, hparent, hnames⟩ := locate_new hd hnull hl hnone
    simp only [hparent] at h
    rw [← Except.ok.inj h]
    exact ⟨p, rfl, hne, hnames, hparent, by simp [hnone], hplace, hl, hlast (by simp [hnone])⟩

/-- Writing a text writes a file where an absolute path leads. -/
theorem grown_writeText (hd : d.WellFormed) (habsolute : isAbsolute path = true)
    (h : d.writeText path text = .ok d') : Grown (fun _ => False) (· = place path) d d' := by
  obtain ⟨p, rfl, hne, hnames, hparent, hnot, hplace, -⟩ := exists_of_writeText hd h
  rw [← hplace habsolute]
  exact grown_set_file hne hnames hparent hnot _

/-- Writing a text writes a file with the name that ends the path. -/
theorem grown_writeText_anywhere (hd : d.WellFormed) (h : d.writeText path text = .ok d') :
    Grown (fun _ => False) (fun q => q.getLast? = some (baseName path)) d d' := by
  obtain ⟨p, rfl, hne, hnames, hparent, hnot, -, -, hlast⟩ := exists_of_writeText hd h
  refine (grown_set_file hne hnames hparent hnot _).mono (fun _ _ => id) fun q hq => ?_
  rw [hq]
  exact hlast

/-- A text that was written is there. -/
theorem get?_of_writeText (hd : d.WellFormed) (habsolute : isAbsolute path = true)
    (h : d.writeText path text = .ok d') : d'.get? (place path) = some (.file (.text text)) := by
  obtain ⟨p, rfl, hne, -, -, -, hplace, -⟩ := exists_of_writeText hd h
  rw [← hplace habsolute, get?_set hne, if_pos rfl]

/-! ### What may go wrong -/

variable {e : Failure}

/-- Making a folder goes wrong by a fault of the file system. -/
theorem isFile_of_makeFolder (hnull : Char.ofNat 0 ∉ path.toList) (h : d.makeFolder path = .error e) :
    e.isFile = true := by
  have hno : path.toList.contains (Char.ofNat 0) = false := by simpa using hnull
  rw [makeFolder, refuseNull, hno, if_neg (by simp)] at h
  simp only at h
  split at h
  · rw [← Except.error.inj h]
    rfl
  · split at h
    · rw [← Except.error.inj h]
      rfl
    · split at h
      · exact absurd h (by simp)
      · rw [← Except.error.inj h]
        rfl
      · rw [← Except.error.inj h]
        rfl

/-- Making the last folder of a path goes wrong by a fault of the file system. -/
theorem isFile_of_makeLast (hnull : Char.ofNat 0 ∉ path.toList) {wentUp : Bool}
    (h : (d.makeLast path wentUp).2 = .error e) : e.isFile = true := by
  rw [makeLast] at h
  split at h
  · exact absurd h (by simp)
  split at h
  · exact absurd h (by simp)
  · split at h
    · exact absurd h (by simp)
    · rw [← Except.error.inj h]
      rfl
  · next _ hfail =>
    rw [← Except.error.inj h]
    exact isFile_of_makeFolder hnull hfail

/-- What is left of a path without its last step is part of it, and shorter. -/
theorem lastStep_fst (h : (lastStep path).2 ≠ "") :
    (lastStep path).1.length < path.length ∧
      ∀ c ∈ (lastStep path).1.toList, c ∈ path.toList := by
  rw [lastStep] at h ⊢
  split at h
  · next hempty =>
    rw [if_pos hempty]
    exact ⟨(length_parent_lt h).trans_le (length_parent_le path), fun c hc => mem_parent (mem_parent hc)⟩
  · next hempty =>
    rw [if_neg hempty]
    exact ⟨length_parent_lt h, fun c hc => mem_parent hc⟩

/-- Making the folders of a path goes wrong by a fault of the file system. The induction is on the number
of folders above it. -/
theorem isFile_of_makeFoldersWithin {n : Nat} (hn : path.length < n)
    (hnull : Char.ofNat 0 ∉ path.toList) (h : (makeFoldersWithin n d path).2 = .error e) :
    e.isFile = true := by
  induction n generalizing path e with
  | zero => omega
  | succ n ih =>
    rw [makeFoldersWithin] at h
    split at h
    · exact isFile_of_makeLast hnull h
    next hgo =>
    have hbase : (lastStep path).2 ≠ "" := by
      rintro hempty
      simp [hempty] at hgo
    obtain ⟨hshorter, hmem⟩ := lastStep_fst hbase
    split at h
    · exact isFile_of_makeLast hnull h
    · next above e' _ heq =>
      obtain rfl : e' = e := Except.error.inj h
      exact ih (by omega) (fun hc => hnull (hmem _ hc)) (by rw [heq])
    · exact isFile_of_makeLast hnull h

/-- Making the folders of a path goes wrong by a fault of the file system. -/
theorem isFile_of_makeFolders (hnull : Char.ofNat 0 ∉ path.toList)
    (h : (d.makeFolders path).2 = .error e) : e.isFile = true :=
  isFile_of_makeFoldersWithin (Nat.lt_succ_self _) hnull h

/-- Writing a text goes wrong by a fault of the file system. -/
theorem isFile_of_writeText (hnull : Char.ofNat 0 ∉ path.toList)
    (h : d.writeText path text = .error e) : e.isFile = true := by
  have hno : path.toList.contains (Char.ofNat 0) = false := by simpa using hnull
  rw [writeText, writeContent, refuseNull, hno, if_neg (by simp)] at h
  simp only at h
  split at h
  · rw [← Except.error.inj h]
    rfl
  · split at h
    · rw [← Except.error.inj h]
      rfl
    · exact absurd h (by simp)
    · split at h
      · exact absurd h (by simp)
      · rw [← Except.error.inj h]
        rfl
      · rw [← Except.error.inj h]
        rfl

end Disk

end StaticSite
