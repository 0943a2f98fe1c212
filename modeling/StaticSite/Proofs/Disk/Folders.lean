import StaticSite.Proofs.Disk.Growth
import StaticSite.Proofs.Path.Parent

/-!
# Making folders

What `Disk.makeFolders` leaves behind for a firm path. Folders are made at the places above and at the
place of the path, where nothing was, and nowhere else. The attempt fails only with a fault of the
file system, and on a path of bearable length only where a folder can never be. An attempt repeated
later, after the disk has grown, makes nothing more.

## Main definitions

* `Path.Trimmed`: a path without a slash at its end, or the root.
* `Disk.Fresh`: the last folder of a path is missing and can be made.
* `Disk.FoldersMade`: what an attempt to make folders leaves behind.

## Main results

* `Disk.makeFolder_of_fresh`, `Disk.makeFolder_of_not_fresh`: when one folder is made.
* `Disk.foldersMade`: what making folders leaves behind.
* `Disk.makeFoldersWithin_again`: making them again changes nothing.
-/

namespace StaticSite

namespace Path

/-- A path without a slash at its end, or the root. -/
def Trimmed (path : String) : Prop := baseName path ≠ "" ∨ isRoot path = true

/-- The directory of a path is trimmed. -/
theorem trimmed_parent (path : String) : Trimmed (parent path) := baseName_parent path

/-- A path with a base name does not end with a slash. -/
theorem withoutSlash_eq {path : String} (h : baseName path ≠ "") : Disk.withoutSlash path = path := by
  have hbase := slash_notMem_baseName path.toList
  have hsplit := throughSlash_append_baseName path.toList
  have hne : Chars.baseName path.toList ≠ [] := fun hnil => h (by simp [baseName, hnil])
  obtain ⟨init, last, hlast⟩ := (List.eq_nil_or_concat _).resolve_left hne
  rw [List.concat_eq_append] at hlast
  have hslash : last ≠ '/' := fun hl => hbase (by rw [hlast, hl]; simp)
  rw [hlast, ← List.append_assoc] at hsplit
  rw [Disk.withoutSlash, Text.trimEnd, ← hsplit, List.reverse_append]
  simp [hslash, hsplit]

end Path

namespace Disk

open Path

variable {d d' e : Disk} {p q : Place} {cs : List String} {path : String}

/-! ### One folder -/

/-- Pieces that can be followed to where nothing stands end with a short name below a folder. -/
theorem followFrom_new (hd : d.WellFormed) {c : String} (h : d.followFrom p (cs ++ [c]) = .ok q)
    (hq : d.get? q = none) :
    isBlankPiece c = false ∧ c ≠ ".." ∧ c.utf8ByteSize ≤ maxNameBytes ∧
      d.get? (descend p cs) = some .folder ∧ q = descend p cs ++ [c] := by
  obtain ⟨hfolder, rfl, hshort⟩ := followFrom_concat_ok h
  have hblank : isBlankPiece c = false := by
    by_contra hb
    rw [step_blank (by simpa using hb), hfolder] at hq
    exact absurd hq (by simp)
  have hup : c ≠ ".." := by
    rintro rfl
    rw [step_up, hd.get?_dropLast (Option.isSome_iff_exists.mpr ⟨_, hfolder⟩)] at hq
    exact absurd hq (by simp)
  exact ⟨hblank, hup, hshort hblank hup, hfolder, step_of_not_blank hblank hup _⟩

/-- The last folder of a path is missing and can be made. -/
structure Fresh (d : Disk) (path : String) : Prop where
  /-- The path is short enough. -/
  short : path.utf8ByteSize ≤ maxPathBytes
  /-- Its last piece is a name. -/
  name : IsName (baseName path)
  /-- The name is short enough. -/
  shortName : (baseName path).utf8ByteSize ≤ maxNameBytes
  /-- Its directory is there. -/
  parent : d.get? (place (parent path)) = some .folder
  /-- Nothing is at its place. -/
  none : d.get? (place path) = none

/-- The directory of a firm path is firm. -/
theorem Firm.parent (h : d.Firm path) : d.Firm (Path.parent path) := by
  refine ⟨isAbsolute_parent h.absolute, fun hnull => h.null (mem_parent hnull), ?_⟩
  obtain ⟨k, hk⟩ := cuts_parent path
  have hsteady := h.steady
  rw [cuts_eq_dropLast_append path, steady_append] at hsteady
  have : d.Steady [] ((cuts path).dropLast ++ [""]) :=
    (steady_append _ _).mpr ⟨hsteady.1, .cons (fun h => absurd h (by decide)) (.nil _)⟩
  rw [← hk, steady_append] at this
  exact this.1

/-- A name in a folder can be located, unless the path or the name is too long. -/
theorem Firm.locate_of_parent (hd : d.WellFormed) (h : d.Firm path) (hname : IsName (baseName path))
    (hparent : d.get? (place (Path.parent path)) = some .folder) :
    d.locate path =
      if maxPathBytes < path.utf8ByteSize ∨ maxNameBytes < (baseName path).utf8ByteSize then
        .error .nameTooLong
      else .ok (place path) := by
  have hsteady := h.steady
  rw [cuts_eq_dropLast_append path, steady_append] at hsteady
  have hfollow := followFrom_concat hd hsteady.1 hname (by rwa [descend_dropLast_cuts])
  rw [← cuts_eq_dropLast_append, descend_dropLast_cuts, ← place_eq_append hname] at hfollow
  rw [locate_of_isAbsolute d h.absolute, hfollow]
  by_cases hpath : maxPathBytes < path.utf8ByteSize <;> simp [hpath]

/-- A `..` at the end of a firm path leaves a folder. -/
theorem Firm.get?_parent_of_up (h : d.Firm path) (hup : baseName path = "..") :
    d.get? (place (Path.parent path)) = some .folder := by
  have hsteady := h.steady
  rw [cuts_eq_dropLast_append path, steady_append, descend_dropLast_cuts] at hsteady
  exact (steady_cons.mp hsteady.2).1 hup

/-- What is no folder above the directory of a firm path is above the path too. -/
theorem Firm.prefix_of_parent (hd : d.WellFormed) (h : d.Firm path) (hq : d.get? q ≠ some .folder)
    (hpre : q <+: place (Path.parent path)) : q <+: place path := by
  rw [place_eq_step]
  by_cases hblank : isBlankPiece (baseName path) = true
  · rwa [step_blank hblank]
  by_cases hup : baseName path = ".."
  · -- `..` leaves a folder, above which there are only folders
    obtain ⟨r, hr⟩ := hpre
    have hfolder := h.get?_parent_of_up hup
    rw [← hr] at hfolder
    by_cases hnil : r = []
    · rw [hnil, List.append_nil] at hfolder
      exact absurd hfolder hq
    · exact absurd (hd.get?_of_append hnil (Option.isSome_iff_exists.mpr ⟨_, hfolder⟩)) hq
  · rw [step_of_not_blank (Bool.eq_false_iff.mpr hblank) hup]
    exact hpre.trans (List.prefix_append _ _)

/-- A firm path is blocked if its directory is. -/
theorem Firm.blocked_of_parent (hd : d.WellFormed) (h : d.Firm path)
    (hb : d.Blocked (place (Path.parent path))) : d.Blocked (place path) := by
  rcases hb with ⟨q, hq, c, hc⟩ | ⟨c, hc, hlong⟩
  · exact .inl ⟨q, h.prefix_of_parent hd (by simp [hc]) hq, c, hc⟩
  · refine .inr ⟨c, ?_, hlong⟩
    rw [place_eq_step]
    by_cases hblank : isBlankPiece (baseName path) = true
    · rwa [step_blank hblank]
    by_cases hup : baseName path = ".."
    · have hsome := Option.isSome_iff_exists.mpr ⟨_, h.get?_parent_of_up hup⟩
      have := (hd.entryName hsome c hc).short
      omega
    · rw [step_of_not_blank (Bool.eq_false_iff.mpr hblank) hup]
      exact List.mem_append_left _ hc

/-- Making one folder looks where the path leads. -/
theorem makeFolder_eq (hd : d.WellFormed) (h : d.Firm path) (hbase : baseName path ≠ "") :
    d.makeFolder path =
      match d.locate path with
      | .error fault => .error (faultAt fault path)
      | .ok p =>
        match d.get? p with
        | some _ => .error (faultAt .exists path)
        | none => .ok (d.set p .folder) := by
  have hnull : path.toList.contains (Char.ofNat 0) = false := by simpa using h.null
  rw [makeFolder, refuseNull, hnull, if_neg (by simp), withoutSlash_eq hbase, ite_self]
  rcases hl : d.locate path with fault | p
  · rfl
  rcases hp : d.get? p with _ | entry
  · rw [locate_of_isAbsolute d h.absolute] at hl
    split at hl
    · exact absurd hl (by simp)
    rw [cuts_eq_dropLast_append path] at hl
    obtain ⟨-, -, -, hfolder, rfl⟩ := followFrom_new hd hl hp
    simp [hp, hfolder]
  · simp [hp]

/-- A missing folder is made. -/
theorem makeFolder_of_fresh (hd : d.WellFormed) (h : d.Firm path) (hfresh : d.Fresh path) :
    d.makeFolder path = .ok (d.set (place path) .folder) := by
  have hlocate := h.locate_of_parent hd hfresh.name hfresh.parent
  rw [if_neg (by simp [hfresh.short, hfresh.shortName])] at hlocate
  rw [makeFolder_eq hd h hfresh.name.ne_empty, hlocate]
  simp [hfresh.none]

/-- Any other folder is refused by the file system; that it exists is said of what is there. -/
theorem makeFolder_of_not_fresh (hd : d.WellFormed) (h : d.Firm path) (hbase : baseName path ≠ "")
    (hfresh : ¬d.Fresh path) :
    ∃ fault, d.makeFolder path = .error (faultAt fault path) ∧
      (fault = .exists → d.holds path = true) := by
  rw [makeFolder_eq hd h hbase]
  rcases hl : d.locate path with fault | p
  · refine ⟨fault, rfl, fun hexists => ?_⟩
    -- following pieces never says that something exists
    exfalso
    have key : ∀ (cs : List String) (p : Place), d.followFrom p cs ≠ .error .exists := by
      intro cs
      induction cs with
      | nil => simp [followFrom]
      | cons c cs ih =>
        intro p
        rw [followFrom]
        repeat' split
        all_goals first | exact ih _ | simp
    rw [locate_of_isAbsolute d h.absolute, hexists] at hl
    split at hl
    · exact absurd hl (by simp)
    · exact key _ _ hl
  rcases hp : d.get? p with _ | entry
  · exfalso
    rw [locate_of_isAbsolute d h.absolute] at hl
    split at hl
    · exact absurd hl (by simp)
    next hshort =>
    rw [cuts_eq_dropLast_append path] at hl
    obtain ⟨hblank, hup, hname, hfolder, rfl⟩ := followFrom_new hd hl hp
    rw [descend_dropLast_cuts] at hfolder hp
    have hb : baseName path ≠ "" ∧ baseName path ≠ "." := by
      rw [Bool.eq_false_iff, ne_eq, isBlankPiece_iff, not_or] at hblank
      exact hblank
    have hisName : IsName (baseName path) :=
      ⟨hb.1, hb.2, hup, by simpa [baseName] using slash_notMem_baseName path.toList⟩
    rw [← place_eq_append hisName] at hp
    exact hfresh ⟨by omega, hisName, hname, hfolder, hp⟩
  · refine ⟨.exists, by simp [hp], fun _ => ?_⟩
    have hnull : path.toList.contains (Char.ofNat 0) = false := by simpa using h.null
    rw [holds, find?, hnull, if_neg (by simp), hl]
    simp [hp]

/-! ### A folder with those above it -/

/-- What is found under a firm path is still found after the disk has grown. -/
theorem Grown.holds {made written : Place → Prop} (hg : Grown made written d d')
    (hd : d.WellFormed) (h : d.Firm path) (hpath : d.holds path = true) : d'.holds path = true := by
  have hfirm : d'.Firm path := h.mono hg.folder
  rw [Disk.holds, find?_eq hd h] at hpath
  rw [Disk.holds, find?_eq (hg.wellFormed hd) hfirm]
  split at hpath
  · simp at hpath
  · next hshort =>
    rw [if_neg hshort]
    rcases he : d.get? (place path) with _ | entry
    · simp [he] at hpath
    · cases entry with
      | folder => simp [hg.folder _ he, Option.filter]
      | file c =>
        obtain ⟨c', hc', -⟩ := hg.file _ c he
        simp only [he, Option.filter] at hpath
        simpa [hc', Option.filter] using hpath

/-- What is found under a path stands at its place. -/
theorem get?_isSome_of_holds (hd : d.WellFormed) (h : d.Firm path) (hpath : d.holds path = true) :
    (d.get? (place path)).isSome := by
  rw [holds, find?_eq hd h] at hpath
  split at hpath
  · simp at hpath
  · rcases he : d.get? (place path) with _ | entry
    · simp [he] at hpath
    · simp

/-- A path leads to a folder exactly if it is short and a folder stands at its place. -/
theorem isFolder_iff (hd : d.WellFormed) (h : d.Firm path) :
    d.isFolder path = true ↔
      path.utf8ByteSize ≤ maxPathBytes ∧ d.get? (place path) = some .folder := by
  rw [isFolder, find?_eq hd h]
  by_cases hlong : maxPathBytes < path.utf8ByteSize
  · simp [hlong]
  · rcases he : d.get? (place path) with _ | entry
    · simp [hlong]
    · cases entry with
      | folder => simp [Option.filter]
      | file c => by_cases hopen : endsOpen path = true <;> simp [hlong, Option.filter, hopen]

/-- A file found after folders were made was there before. -/
theorem Grown.holds_of_not_isFolder {made : Place → Prop} (hg : Grown made (fun _ => False) d d')
    (hd : d.WellFormed) (h : d.Firm path) (hpath : d'.holds path = true)
    (hfolder : d'.isFolder path = false) : d.holds path = true := by
  have hfirm : d'.Firm path := h.mono hg.folder
  have hd' := hg.wellFormed hd
  rw [isFolder, find?_eq hd' hfirm] at hfolder
  rw [Disk.holds, find?_eq hd' hfirm] at hpath
  rw [Disk.holds, find?_eq hd h]
  split at hpath
  · simp at hpath
  next hshort =>
  rw [if_neg hshort] at hfolder ⊢
  rcases he : d'.get? (place path) with _ | entry
  · simp [he] at hpath
  · cases entry with
    | folder => simp [he, Option.filter] at hfolder
    | file c =>
      rw [(hg.file_of he).resolve_right id, ← he]
      exact hpath

/-- A place that is blocked after folders were made was blocked before. -/
theorem Grown.blocked_of {made : Place → Prop} (hg : Grown made (fun _ => False) d d')
    (hb : d'.Blocked p) : d.Blocked p := by
  rcases hb with ⟨q, hq, c, hc⟩ | hlong
  · exact .inl ⟨q, hq, c, (hg.file_of hc).resolve_right id⟩
  · exact .inr hlong

/-- In a folder, a path whose last piece is no name leads to a folder. -/
theorem get?_place_of_not_isName (hd : d.WellFormed)
    (hparent : d.get? (place (Path.parent path)) = some .folder) (hname : ¬IsName (baseName path)) :
    d.get? (place path) = some .folder := by
  rw [place_eq_step]
  by_cases hblank : isBlankPiece (baseName path) = true
  · rw [step_blank hblank]
    exact hparent
  by_cases hup : baseName path = ".."
  · rw [hup, step_up]
    exact hd.get?_dropLast (Option.isSome_iff_exists.mpr ⟨_, hparent⟩)
  · rw [isBlankPiece_iff, not_or] at hblank
    exact absurd ⟨hblank.1, hblank.2, hup, by simpa [baseName] using slash_notMem_baseName path.toList⟩
      hname

/-- In a folder, what is neither there nor can be made is blocked. -/
theorem blocked_of_not_fresh (hd : d.WellFormed) (h : d.Firm path)
    (hshort : path.utf8ByteSize ≤ maxPathBytes)
    (hparent : d.get? (place (Path.parent path)) = some .folder) (hfresh : ¬d.Fresh path)
    (hfolder : d.isFolder path = false) : d.Blocked (place path) := by
  have hnot : d.get? (place path) ≠ some .folder := fun hp => by
    rw [(isFolder_iff hd h).mpr ⟨hshort, hp⟩] at hfolder
    exact absurd hfolder (by simp)
  have hname : IsName (baseName path) := by
    by_contra hname
    exact hnot (get?_place_of_not_isName hd hparent hname)
  by_cases hlong : maxNameBytes < (baseName path).utf8ByteSize
  · exact .inr ⟨_, by rw [place_eq_append hname]; simp, hlong⟩
  rcases he : d.get? (place path) with _ | entry
  · exact absurd ⟨hshort, hname, Nat.not_lt.mp hlong, hparent, he⟩ hfresh
  · cases entry with
    | folder => exact absurd he hnot
    | file c => exact .inl ⟨_, List.prefix_refl _, c, he⟩

/-- What an attempt to make the folders of a path leaves behind. -/
structure FoldersMade (d : Disk) (path : String) (made : Disk × Except Failure Unit) : Prop where
  /-- Folders were made above and at the place of the path. -/
  grown : Grown (· <+: place path) (fun _ => False) d made.1
  /-- After a success the folder is there. -/
  folder : made.2 = .ok () → made.1.get? (place path) = some .folder
  /-- A failure is a fault of the file system; that something exists is said of what was there. -/
  fault : ∀ failure, made.2 = .error failure → ∃ fault q, failure = .file fault q ∧
    (fault = .exists → d.holds path = true)
  /-- On a short path only a blocked folder fails. -/
  blocked : path.utf8ByteSize ≤ maxPathBytes → ∀ failure, made.2 = .error failure →
    d.Blocked (place path)

/-- The last step of a path with a base name. -/
theorem lastStep_of_baseName (h : baseName path ≠ "") :
    lastStep path = (Path.parent path, baseName path) := by
  rw [lastStep, if_neg (by rwa [String.isEmpty_iff])]

/-- Making the last folder: it was missing and is made, or it is there, or it cannot be made. -/
theorem makeLast_cases (hd : d.WellFormed) (h : d.Firm path) (hbase : baseName path ≠ "")
    (wentUp : Bool) (hdot : (wentUp && baseName path == ".") = false) :
    (d.Fresh path ∧ d.makeLast path wentUp =
        (d.set (place path) .folder, .ok ())) ∨
      (d.isFolder path = true ∧
        d.makeLast path wentUp = (d, .ok ())) ∨
      (¬d.Fresh path ∧ d.isFolder path = false ∧ ∃ fault,
        d.makeLast path wentUp =
          (d, .error (.file fault (some path))) ∧
        (fault = .exists → d.holds path = true)) := by
  rw [makeLast, lastStep_of_baseName hbase, hdot, if_neg (by simp)]
  by_cases hfresh : d.Fresh path
  · rw [makeFolder_of_fresh hd h hfresh]
    exact .inl ⟨hfresh, rfl⟩
  · obtain ⟨fault, hfault, hexists⟩ := makeFolder_of_not_fresh hd h hbase hfresh
    rw [hfault]
    by_cases hfolder : d.isFolder path = true
    · exact .inr (.inl ⟨hfolder, by simp [faultAt, hfolder]⟩)
    · refine .inr (.inr ⟨hfresh, by simpa using hfolder, fault, ?_, hexists⟩)
      simp [faultAt, hfolder]

/-- Making folders first sees to those above. -/
theorem makeFoldersWithin_succ (h : d.Firm path) (hbase : baseName path ≠ "") (n : Nat) :
    makeFoldersWithin (n + 1) d path =
      if d.holds (Path.parent path) then d.makeLast path false
      else
        match makeFoldersWithin n d (Path.parent path) with
        | (above, .error (.file .exists _)) => above.makeLast path true
        | (above, .error e) => (above, .error e)
        | (above, .ok ()) => above.makeLast path true := by
  have hparent := ne_empty_of_isAbsolute (isAbsolute_parent h.absolute)
  have hbase' : (baseName path).isEmpty = false := by
    rwa [Bool.eq_false_iff, ne_eq, String.isEmpty_iff]
  rw [makeFoldersWithin, lastStep_of_baseName hbase]
  exact if_congr (by simp [hparent, hbase']) rfl rfl

/-! ### The root -/

/-- The pieces of a path made of slashes name nothing. -/
theorem cuts_of_isRoot (h : isRoot path = true) :
    cuts path = "" :: List.replicate path.toList.length "" := by
  have := cuts_append_slashes [] path.toList fun c hc => by
    simpa using List.all_eq_true.mp h c hc
  simpa [cuts, Text.splitOn] using this

/-- A path made of slashes spells the root. -/
theorem place_of_isRoot (h : isRoot path = true) : place path = [] := by
  rw [place, cuts_of_isRoot h, descend_cons, descend_replicate_empty, step_empty]

/-- The root is there already; only too many slashes are refused. -/
theorem makeFoldersWithin_root (hd : d.WellFormed) (h : d.Firm path) (hbase : baseName path = "")
    (hroot : isRoot path = true) (n : Nat) :
    makeFoldersWithin (n + 1) d path = (d, .ok ()) ∨
      maxPathBytes < path.utf8ByteSize ∧
        makeFoldersWithin (n + 1) d path = (d, .error (.file .nameTooLong (some path))) := by
  have hparent : baseName (Path.parent path) = "" := by
    have hsplit := throughSlash_append_baseName path.toList
    have hnil : Chars.baseName path.toList = [] := by
      simpa [baseName, ← String.toList_inj] using hbase
    rw [hnil, List.append_nil] at hsplit
    have hall : (Chars.throughSlash path.toList).all (· == '/') = true := by
      rw [hsplit]
      exact hroot
    rw [baseName, Path.parent, String.toList_ofList, Chars.parent, if_pos hall, hsplit, hnil]
  have hlast : (lastStep path).2.isEmpty = true := by
    rw [lastStep, if_pos (String.isEmpty_iff.mpr hbase), hparent]
    rfl
  have hnull : path.toList.contains (Char.ofNat 0) = false := by simpa using h.null
  have htrim : withoutSlash path = "" := by
    have hall : ∀ c ∈ path.toList.reverse, (c == '/') = true := fun c hc =>
      List.all_eq_true.mp hroot c (List.mem_reverse.mp hc)
    rw [withoutSlash, Text.trimEnd, List.dropWhile_eq_nil_iff.mpr hall]
    rfl
  have hfolder := isFolder_iff hd h
  rw [makeFoldersWithin, hlast, Bool.or_true, Bool.true_or, if_pos rfl, makeLast, Bool.false_and,
    if_neg (by simp), makeFolder, refuseNull, hnull, if_neg (by simp), htrim]
  simp only [beq_self_eq_true, Bool.or_true, if_true]
  rw [locate_of_isAbsolute d h.absolute]
  by_cases hlong : maxPathBytes < path.utf8ByteSize
  · refine .inr ⟨hlong, ?_⟩
    have hno : d.isFolder path = false := by
      rw [Bool.eq_false_iff, ne_eq, hfolder]
      omega
    simp [hlong, faultAt, hno]
  · have hyes : d.isFolder path = true := by
      rw [hfolder, place_of_isRoot hroot]
      exact ⟨by omega, rfl⟩
    have hfollow : d.followFrom [] (cuts path) = .ok [] := by
      have := followFrom_of_get? hd h.steady (e := .folder)
        (by rw [← place, place_of_isRoot hroot]; rfl) (.inl rfl)
      rwa [← place, place_of_isRoot hroot] at this
    simp [hlong, hfollow, faultAt, hyes]

/-! ### What making folders leaves behind -/

/-- The name of a folder that can be made is one that an entry can have. -/
theorem Fresh.entryName (hfresh : d.Fresh path) (h : d.Firm path) : EntryName (baseName path) := by
  refine ⟨hfresh.name, fun hnull => h.null ?_, hfresh.shortName⟩
  rw [baseName, String.toList_ofList] at hnull
  rw [← throughSlash_append_baseName path.toList]
  exact List.mem_append_right _ hnull

/-- Making a missing folder makes no other. -/
theorem Fresh.grown (hd : d.WellFormed) (h : d.Firm path) (hfresh : d.Fresh path) :
    Grown (· = place path) (fun _ => False) d (d.set (place path) .folder) := by
  have hplace := place_eq_append hfresh.name
  have hparent : d.get? (place path).dropLast = some .folder := by
    rw [hplace, List.dropLast_concat]
    exact hfresh.parent
  have hnames : ∀ c ∈ place path, EntryName c := by
    intro c hc
    rw [hplace] at hc
    rcases List.mem_append.mp hc with hc | hc
    · exact hd.entryName (Option.isSome_iff_exists.mpr ⟨_, hfresh.parent⟩) c hc
    · rw [List.mem_singleton.mp hc]
      exact hfresh.entryName h
  have hne : place path ≠ [] := by
    rw [hplace]
    simp
  exact grown_set_folder hne hnames hparent hfresh.none

/-- Making the last folder on a grown disk, once its directory is there or is blocked. -/
theorem foldersMade_makeLast (hd : d.WellFormed) (h : d.Firm path) (hbase : baseName path ≠ "")
    {wentUp : Bool} (hdot : (wentUp && baseName path == ".") = false)
    (hg : Grown (· <+: place path) (fun _ => False) d e)
    (hparent : path.utf8ByteSize ≤ maxPathBytes →
      e.get? (place (Path.parent path)) = some .folder ∨ e.Blocked (place path)) :
    FoldersMade d path (e.makeLast path wentUp) := by
  have he := hg.wellFormed hd
  have hfirm : e.Firm path := h.mono hg.folder
  rcases makeLast_cases he hfirm hbase wentUp hdot with
    ⟨hfresh, heq⟩ | ⟨hfolder, heq⟩ | ⟨hfresh, hfolder, fault, heq, hexists⟩
  · rw [heq]
    have hstep : Grown (· <+: place path) _ e _ := (hfresh.grown he hfirm).mono
      (fun q _ hq => hq ▸ List.prefix_refl _) fun _ => id
    have hne : place path ≠ [] := by
      rw [place_eq_append hfresh.name]
      simp
    exact ⟨hg.trans hstep, fun _ => by rw [get?_set hne, if_pos rfl], fun _ hf => by simp at hf,
      fun _ _ hf => by simp at hf⟩
  · rw [heq]
    exact ⟨hg, fun _ => ((isFolder_iff he hfirm).mp hfolder).2, fun _ hf => by simp at hf,
      fun _ _ hf => by simp at hf⟩
  · rw [heq]
    refine ⟨hg, fun hf => by simp at hf, fun failure hf => ?_, fun hshort _ _ => ?_⟩
    · exact ⟨fault, _, (Except.error.inj hf).symm, fun hx =>
        hg.holds_of_not_isFolder hd h (hexists hx) hfolder⟩
    · refine hg.blocked_of ?_
      rcases hparent hshort with hp | hb
      · exact blocked_of_not_fresh he hfirm hshort hp hfresh hfolder
      · exact hb

/-- Making folders: with its directory there, the last one is made; else those above are, and the last
one after them unless they fail. -/
theorem makeFoldersWithin_cases (h : d.Firm path) (hbase : baseName path ≠ "") {n : Nat}
    (hmade : FoldersMade d (Path.parent path) (makeFoldersWithin n d (Path.parent path))) :
    d.holds (Path.parent path) = true ∧
        makeFoldersWithin (n + 1) d path = d.makeLast path false ∨
      d.holds (Path.parent path) = false ∧
        (makeFoldersWithin n d (Path.parent path)).2 = .ok () ∧
        makeFoldersWithin (n + 1) d path =
          (makeFoldersWithin n d (Path.parent path)).1.makeLast path true ∨
      d.holds (Path.parent path) = false ∧
        (∃ fault q, fault ≠ .exists ∧
          (makeFoldersWithin n d (Path.parent path)).2 = .error (.file fault q)) ∧
        makeFoldersWithin (n + 1) d path = makeFoldersWithin n d (Path.parent path) := by
  rw [makeFoldersWithin_succ h hbase]
  by_cases hholds : d.holds (Path.parent path) = true
  · exact .inl ⟨hholds, by rw [if_pos hholds]⟩
  have hno : d.holds (Path.parent path) = false := by simpa using hholds
  rw [if_neg hholds]
  rcases hr : makeFoldersWithin n d (Path.parent path) with ⟨above, failure | _⟩
  · rw [hr] at hmade
    obtain ⟨fault, q, rfl, hexists⟩ := hmade.fault failure rfl
    have hfault : fault ≠ .exists := fun hx => hholds (hexists hx)
    refine .inr (.inr ⟨hno, ⟨fault, q, hfault, rfl⟩, ?_⟩)
    cases fault with
    | «exists» => exact absurd rfl hfault
    | notFound | badFormat | notDirectory | isDirectory | nameTooLong => rfl
  · exact .inr (.inl ⟨hno, rfl, rfl⟩)

/-- What making folders leaves behind. The induction is on the directories above the path. -/
theorem foldersMade (hd : d.WellFormed) (n : Nat) (hn : path.length < n) (htrim : Trimmed path)
    (h : d.Firm path) : FoldersMade d path (makeFoldersWithin n d path) := by
  induction n generalizing path with
  | zero => omega
  | succ n ih =>
    by_cases hbase : baseName path = ""
    · have hroot := htrim.resolve_left (not_not.mpr hbase)
      rcases makeFoldersWithin_root hd h hbase hroot n with heq | ⟨hlong, heq⟩
      · rw [heq]
        exact ⟨.refl _ _ d, fun _ => by rw [place_of_isRoot hroot]; rfl, fun _ hf => by simp at hf,
          fun _ _ hf => by simp at hf⟩
      · rw [heq]
        exact ⟨.refl _ _ d, fun hf => by simp at hf,
          fun failure hf => ⟨_, _, (Except.error.inj hf).symm, by simp⟩, fun hshort => by omega⟩
    have hlt := length_parent_lt hbase
    have hshorter : (Path.parent path).length < n := by omega
    have hmade := ih hshorter (trimmed_parent path) h.parent
    have hgrown : Grown (· <+: place path) _ d _ := hmade.grown.mono
      (fun q hq hp => h.prefix_of_parent hd (by simp [hq]) hp) fun _ => id
    rcases makeFoldersWithin_cases h hbase hmade with
      ⟨hholds, heq⟩ | ⟨-, hok, heq⟩ | ⟨-, ⟨fault, q, hfault, hfailed⟩, heq⟩
    · rw [heq]
      refine foldersMade_makeLast hd h hbase (by simp) (.refl _ _ d) fun _ => ?_
      obtain ⟨entry, he⟩ := Option.isSome_iff_exists.mp (get?_isSome_of_holds hd h.parent hholds)
      cases entry with
      | folder => exact .inl he
      | file c => exact .inr (h.blocked_of_parent hd (.inl ⟨_, List.prefix_refl _, c, he⟩))
    · rw [heq]
      have hparent := hmade.folder hok
      by_cases hdot : baseName path = "."
      · -- a dot after folders that were just made is not made
        have hplace : place path = place (Path.parent path) := by
          rw [place_eq_step, hdot, step_dot]
        rw [makeLast, lastStep_of_baseName hbase, hdot, if_pos (by rfl)]
        refine ⟨hgrown, fun _ => ?_, fun _ hf => by simp at hf, fun _ _ hf => by simp at hf⟩
        rw [hplace]
        exact hparent
      · exact foldersMade_makeLast hd h hbase (by simp [hdot]) hgrown fun _ => .inl hparent
    · rw [heq]
      refine ⟨hgrown, fun hf => ?_, fun failure hf => ?_, fun hshort _ _ => ?_⟩
      · rw [hfailed] at hf
        exact absurd hf (by simp)
      · rw [hfailed] at hf
        exact ⟨fault, q, (Except.error.inj hf).symm, fun hx => absurd hx hfault⟩
      · exact h.blocked_of_parent hd
          (hmade.blocked ((utf8ByteSize_parent_le path).trans hshort) _ hfailed)

/-! ### Making them again -/

/-- A blocked place below a folder is a file, or its name is too long. -/
theorem Blocked.concat {c : String} (hb : d.Blocked (p ++ [c])) (hp : ¬d.Blocked p) :
    (∃ content, d.get? (p ++ [c]) = some (.file content)) ∨ maxNameBytes < c.utf8ByteSize := by
  rcases hb with ⟨q, hq, content, hc⟩ | ⟨x, hx, hlong⟩
  · rcases List.prefix_concat_iff.mp hq with heq | hq
    · exact .inl ⟨content, by rw [← heq, hc]⟩
    · exact absurd (.inl ⟨q, hq, content, hc⟩) hp
  · rcases List.mem_append.mp hx with hx | hx
    · exact absurd (.inr ⟨x, hx, hlong⟩) hp
    · rw [List.mem_singleton.mp hx] at hlong
      exact .inr hlong

/-- Once an attempt was made, the last folder is there or cannot be made. -/
theorem FoldersMade.not_fresh {made : Disk × Except Failure Unit} (hd : d.WellFormed)
    (hmade : FoldersMade d path made) (hlater : Later made.1 d') : ¬d'.Fresh path := by
  intro hfresh
  have hnone := hfresh.none
  rcases hr : made.2 with failure | _
  · have hb := ((hmade.blocked hfresh.short _ hr).mono hmade.grown).mono hlater
    have hd' := hlater.wellFormed (hmade.grown.wellFormed hd)
    rw [place_eq_append hfresh.name] at hb hnone
    rcases hb.concat (not_blocked_of_folder hd' hfresh.parent) with ⟨content, hc⟩ | hlong
    · rw [hnone] at hc
      exact absurd hc (by simp)
    · exact absurd hfresh.shortName (by omega)
  · have := hlater.folder _ (hmade.folder hr)
    rw [hnone] at this
    exact absurd this (by simp)

/-- Without a folder that can be made, making the last folder does nothing. -/
theorem makeLast_of_not_fresh (hd : d.WellFormed) (h : d.Firm path) (hbase : baseName path ≠ "")
    (hfresh : ¬d.Fresh path) (wentUp : Bool) : (d.makeLast path wentUp).1 = d := by
  by_cases hdot : (wentUp && baseName path == ".") = true
  · rw [makeLast, lastStep_of_baseName hbase, if_pos hdot]
  · rcases makeLast_cases hd h hbase wentUp (by simpa using hdot) with
      ⟨hf, -⟩ | ⟨-, heq⟩ | ⟨-, -, fault, heq, -⟩
    · exact absurd hf hfresh
    · rw [heq]
    · rw [heq]

/-- Making the last folder is growth. -/
theorem later_makeLast (hd : d.WellFormed) (h : d.Firm path) (hbase : baseName path ≠ "")
    (wentUp : Bool) : Later d (d.makeLast path wentUp).1 := by
  by_cases hfresh : d.Fresh path
  · have hdot : (wentUp && baseName path == ".") = false := by
      simp [hfresh.name.ne_dot]
    rcases makeLast_cases hd h hbase wentUp hdot with ⟨-, heq⟩ | ⟨-, heq⟩ | ⟨hf, -⟩
    · rw [heq]
      exact (hfresh.grown hd h).later
    · rw [heq]
      exact .refl _ _ d
    · exact absurd hfresh hf
  · rw [makeLast_of_not_fresh hd h hbase hfresh]
    exact .refl _ _ d

/-- Making folders again later makes nothing more. -/
theorem makeFoldersWithin_again (hd : d.WellFormed) (m n : Nat) (hn : path.length < n)
    (htrim : Trimmed path) (h : d.Firm path) (hlater : Later (makeFoldersWithin n d path).1 d')
    (hm : path.length < m) : (makeFoldersWithin m d' path).1 = d' := by
  induction m generalizing n path with
  | zero => rfl
  | succ m ih =>
    have hmade := foldersMade hd n hn htrim h
    have hall : Later d d' := hmade.grown.later.trans hlater
    have hd' := hall.wellFormed hd
    have h' : d'.Firm path := h.mono hall.folder
    by_cases hbase : baseName path = ""
    · rcases makeFoldersWithin_root hd' h' hbase (htrim.resolve_left (not_not.mpr hbase)) m with
        heq | ⟨-, heq⟩
      · rw [heq]
      · rw [heq]
    have hfresh := hmade.not_fresh hd hlater
    have hlt := length_parent_lt hbase
    have hparent' := foldersMade hd' m (by omega) (trimmed_parent path) h'.parent
    have hsame : d'.holds (Path.parent path) = false →
        (makeFoldersWithin m d' (Path.parent path)).1 = d' := by
      intro hholds
      -- the first attempt went up as well, and left what the second one finds there
      obtain ⟨n, rfl⟩ : ∃ k, n = k + 1 := ⟨n - 1, by omega⟩
      have hparent := foldersMade hd n (by omega) (trimmed_parent path) h.parent
      refine ih n (by omega) (trimmed_parent path) h.parent ?_ (by omega)
      rcases makeFoldersWithin_cases h hbase hparent with ⟨hold, -⟩ | ⟨-, -, heq⟩ | ⟨-, -, heq⟩
      · rw [hall.holds hd h.parent hold] at hholds
        exact absurd hholds (by simp)
      · rw [heq] at hlater
        exact (later_makeLast (hparent.grown.wellFormed hd) (h.mono hparent.grown.folder) hbase
          true).trans hlater
      · rwa [heq] at hlater
    rcases makeFoldersWithin_cases h' hbase hparent' with
      ⟨-, heq⟩ | ⟨hholds, -, heq⟩ | ⟨hholds, -, heq⟩
    · rw [heq, makeLast_of_not_fresh hd' h' hbase hfresh]
    · rw [heq, hsame hholds, makeLast_of_not_fresh hd' h' hbase hfresh]
    · rw [heq, hsame hholds]

end Disk

end StaticSite
