import StaticSite.Proofs.Disk.Reach
import StaticSite.Site.Write

/-!
# Writing a page

A page is put on the disk in two steps: the folders above it are made, and the text is written. Whether
this succeeds can be read off the disk beforehand, and on a disk that only grows the answer stays: a
page that was written can be written again, and one that was refused is refused again.

## Main definitions

* `Disk.putPage`: what writing a page does to the disk.
* `Disk.Writable`: a page can be written.
* `Disk.PagePut`: what an attempt to write a page leaves behind.

## Main results

* `Disk.pagePut`: what writing a page leaves behind.
* `Disk.putPage_leaves`: what it leaves behind on any path.
* `Disk.putPage_again`: writing a page again changes nothing.
* `writeTo_apply`: the part of a run that writes a page.
-/

namespace StaticSite

namespace Disk

open Path

variable {d d' : Disk} {target text : String}

/-- Write a page with the folders above it: what was changed, and what went wrong. -/
def putPage (d : Disk) (target text : String) : Disk × Except Failure Unit :=
  match d.makeFolders (directoryOf target) with
  | (made, .error e) => (made, .error e)
  | (made, .ok ()) =>
    match made.writeText target text with
    | .error e => (made, .error e)
    | .ok written => (written, .ok ())

/-- A page can be written. -/
structure Writable (d : Disk) (target : String) : Prop where
  /-- Its last piece is a name. -/
  name : IsName (baseName target)
  /-- Its path is short enough. -/
  short : target.utf8ByteSize ≤ maxPathBytes
  /-- Its name is short enough. -/
  shortName : (baseName target).utf8ByteSize ≤ maxNameBytes
  /-- Its folder is there or can be made. -/
  parent : ¬d.Blocked (place (Path.parent target))
  /-- No folder is in its place. -/
  file : d.get? (place target) ≠ some .folder

/-- A page that can be written later can be written now. -/
theorem Writable.of_later (hlater : Later d d') (h : d'.Writable target) : d.Writable target :=
  ⟨h.name, h.short, h.shortName, fun hb => h.parent (hb.mono hlater), fun hf => h.file (hlater.folder _ hf)⟩

/-- Where a file is, a file can be written, as long as the path is short. -/
theorem writable_of_file (hd : d.WellFormed) (hname : IsName (baseName target))
    (hshort : target.utf8ByteSize ≤ maxPathBytes) {c : Content}
    (hc : d.get? (place target) = some (.file c)) : d.Writable target := by
  have hsome := Option.isSome_iff_exists.mpr ⟨_, hc⟩
  rw [place_eq_append hname] at hsome
  have hparent := hd.get?_of_append (by simp) hsome
  exact ⟨hname, hshort, (hd.entryName hsome _ (by simp)).short, not_blocked_of_folder hd hparent,
    by simp [hc]⟩

/-! ### The two steps -/

/-- The directory of an absolute path is its spelled directory. -/
theorem directoryOf_eq (h : isAbsolute target = true) : directoryOf target = Path.parent target := by
  have hparent := ne_empty_of_isAbsolute (isAbsolute_parent h)
  rw [directoryOf]
  simp [hparent]

/-- A text is not written to the place of a folder. -/
theorem writeText_of_folder (h : d.Firm target) (hfolder : d.get? (place target) = some .folder)
    (text : String) : ∃ fault, d.writeText target text = .error (faultAt fault target) := by
  have hnull : target.toList.contains (Char.ofNat 0) = false := by simpa using h.null
  rw [writeText, writeContent, refuseNull, hnull, if_neg (by simp)]
  have hlocate := locate_of_isAbsolute d h.absolute
  rcases hl : d.locate target with fault | p
  · exact ⟨d.creationFault target fault, rfl⟩
  · rw [hl] at hlocate
    split at hlocate
    · exact absurd hlocate (by simp)
    · have hp : p = place target := followFrom_ok hlocate.symm
      rw [← hp] at hfolder
      exact ⟨.isDirectory, by simp only [hfolder]⟩

/-- In its folder, a text is written exactly if it can be. -/
theorem writeText_of_parent (hd : d.WellFormed) (h : d.Firm target)
    (hparent : d.get? (place (Path.parent target)) = some .folder) (text : String) :
    d.Writable target ∧
        d.writeText target text = .ok (d.set (place target) (.file (.text text))) ∨
      ¬d.Writable target ∧ ∃ fault, d.writeText target text = .error (faultAt fault target) := by
  by_cases hfolder : d.get? (place target) = some .folder
  · exact .inr ⟨fun hw => hw.file hfolder, writeText_of_folder h hfolder text⟩
  have hname : IsName (baseName target) := by
    by_contra hname
    exact hfolder (get?_place_of_not_isName hd hparent hname)
  have hnull : target.toList.contains (Char.ofNat 0) = false := by simpa using h.null
  have hlocate := h.locate_of_parent hd hname hparent
  rw [writeText, writeContent, refuseNull, hnull, if_neg (by simp)]
  by_cases hlong : maxPathBytes < target.utf8ByteSize ∨ maxNameBytes < (baseName target).utf8ByteSize
  · rw [if_pos hlong] at hlocate
    refine .inr ⟨fun hw => ?_, d.creationFault target .nameTooLong, by simp only [hlocate]⟩
    have hpath := hw.short
    have hbase := hw.shortName
    omega
  rw [if_neg hlong] at hlocate
  rw [not_or, Nat.not_lt, Nat.not_lt] at hlong
  have hdrop : (place target).dropLast = place (Path.parent target) := by
    rw [place_eq_append hname, List.dropLast_concat]
  refine .inl ⟨⟨hname, hlong.1, hlong.2, not_blocked_of_folder hd hparent, hfolder⟩, ?_⟩
  rcases he : d.get? (place target) with _ | entry
  · simp only [hlocate, he, hdrop, hparent]
  · cases entry with
    | folder => exact absurd he hfolder
    | file c => simp only [hlocate, he]

/-- Writing a page that can be written, in its folder, is growth. -/
theorem Writable.grown (hd : d.WellFormed) (h : d.Firm target)
    (hparent : d.get? (place (Path.parent target)) = some .folder) (hw : d.Writable target)
    (text : String) :
    Grown (fun _ => False) (· = place target) d (d.set (place target) (.file (.text text))) := by
  have hname := hw.name
  have hplace := place_eq_append hname
  have hdrop : d.get? (place target).dropLast = some .folder := by
    rw [hplace, List.dropLast_concat]
    exact hparent
  have hne : place target ≠ [] := by
    rw [hplace]
    simp
  refine grown_set_file hne (fun c hc => ?_) hdrop hw.file _
  rw [hplace] at hc
  rcases List.mem_append.mp hc with hc | hc
  · exact hd.entryName (Option.isSome_iff_exists.mpr ⟨_, hparent⟩) c hc
  · rw [List.mem_singleton.mp hc]
    refine ⟨hname, fun hnull => h.null ?_, hw.shortName⟩
    rw [baseName, String.toList_ofList] at hnull
    rw [← throughSlash_append_baseName target.toList]
    exact List.mem_append_right _ hnull

/-! ### A page -/

/-- Writing a page goes wrong by a fault of the file system. -/
theorem isFile_of_putPage (hnull : Char.ofNat 0 ∉ target.toList) {e : Failure}
    (h : (d.putPage target text).2 = .error e) : e.isFile = true := by
  have hdirectory : Char.ofNat 0 ∉ (directoryOf target).toList := by
    rw [directoryOf]
    split
    · decide
    · exact fun hc => hnull (mem_parent hc)
  unfold putPage at h
  rcases hr : d.makeFolders (directoryOf target) with ⟨made, failure | _⟩
  · simp only [hr] at h
    rw [← Except.error.inj h]
    exact isFile_of_makeFolders hdirectory (by rw [hr])
  · simp only [hr] at h
    rcases hw : made.writeText target text with failure | written
    · simp only [hw] at h
      rw [← Except.error.inj h]
      exact isFile_of_writeText hnull hw
    · simp [hw] at h

/-- What an attempt to write a page leaves behind, whatever leads to it: folders are made where its path
leads, and nothing is written unless the page is there then. -/
theorem putPage_leaves (hd : d.WellFormed) (habsolute : isAbsolute target = true) (text : String) :
    ∃ d' r, d.putPage target text = (d', r) ∧
      Grown (Leads target) (fun q => q = place target ∧ r = .ok ()) d d' ∧
      (r = .ok () → d'.get? (place target) = some (.file (.text text))) := by
  have hmade := grown_makeFolders hd (isAbsolute_parent habsolute)
  unfold putPage
  rw [directoryOf_eq habsolute]
  rcases hr : d.makeFolders (Path.parent target) with ⟨made, failure | _⟩
  · rw [hr] at hmade
    exact ⟨made, .error failure, rfl,
      hmade.mono (fun _ _ => Leads.of_parent) fun _ => False.elim, fun h => by simp at h⟩
  · rw [hr] at hmade
    have hd' := hmade.wellFormed hd
    have hleads : Grown (Leads target) (· = place target) d made :=
      hmade.mono (fun _ _ => Leads.of_parent) fun _ => False.elim
    rcases hw : made.writeText target text with e | written
    · exact ⟨made, .error e, by simp only [hw],
        hmade.mono (fun _ _ => Leads.of_parent) fun _ => False.elim, fun h => by simp at h⟩
    · refine ⟨written, .ok (), by simp only [hw], ?_, fun _ => get?_of_writeText hd' habsolute hw⟩
      exact (hleads.trans ((grown_writeText hd' habsolute hw).mono (fun _ _ => False.elim)
        fun _ => id)).mono (fun _ _ => id) fun _ hq => ⟨hq, rfl⟩

/-- What an attempt to write a page leaves behind. -/
structure PagePut (d : Disk) (target text : String) (r : Disk × Except Failure Unit) : Prop where
  /-- Folders were made above the page, and the page was written unless that failed. -/
  grown : Grown (· <+: place (Path.parent target)) (fun q => q = place target ∧ r.2 = .ok ()) d r.1
  /-- After a success the page holds the text. -/
  content : r.2 = .ok () → r.1.get? (place target) = some (.file (.text text))
  /-- It succeeds if the page can be written. -/
  ok_iff : r.2 = .ok () ↔ d.Writable target

/-- What making the folders above a page leaves behind. -/
theorem foldersMade_directoryOf (hd : d.WellFormed) (h : d.Firm target) :
    FoldersMade d (Path.parent target) (d.makeFolders (directoryOf target)) := by
  rw [directoryOf_eq h.absolute, makeFolders]
  exact foldersMade hd _ (Nat.lt_succ_self _) (trimmed_parent target) h.parent

/-- What writing a page leaves behind. -/
theorem pagePut (hd : d.WellFormed) (h : d.Firm target) (text : String) :
    PagePut d target text (d.putPage target text) := by
  have hmade := foldersMade_directoryOf hd h
  unfold putPage
  rcases hr : d.makeFolders (directoryOf target) with ⟨made, failure | _⟩
  · rw [hr] at hmade
    refine ⟨hmade.grown.mono (fun _ _ => id) fun _ => False.elim, fun hf => by simp at hf,
      fun hf => by simp at hf, fun hw => absurd ?_ hw.parent⟩
    exact hmade.blocked ((utf8ByteSize_parent_le target).trans hw.short) _ rfl
  · rw [hr] at hmade
    have hd' := hmade.grown.wellFormed hd
    have h' : made.Firm target := h.mono hmade.grown.folder
    have hparent : made.get? (place (Path.parent target)) = some .folder := hmade.folder rfl
    have hlater : made.Writable target → d.Writable target :=
      Writable.of_later hmade.grown.later
    rcases writeText_of_parent hd' h' hparent text with ⟨hw, heq⟩ | ⟨hw, fault, heq⟩
    · simp only [heq]
      have hstep := hw.grown hd' h' hparent text
      have hne : place target ≠ [] := by
        rw [place_eq_append hw.name]
        simp
      exact ⟨(hmade.grown.mono (fun _ _ => id) fun _ => False.elim).trans
          (hstep.mono (fun _ _ => False.elim) fun _ hq => ⟨hq, rfl⟩),
        fun _ => by rw [get?_set hne, if_pos rfl], fun _ => hlater hw, fun _ => rfl⟩
    · simp only [heq]
      refine ⟨hmade.grown.mono (fun _ _ => id) fun _ => False.elim, fun hf => by simp at hf,
        fun hf => by simp at hf, fun hold =>
          absurd ⟨hold.name, hold.short, hold.shortName, ?_, ?_⟩ hw⟩
      · exact not_blocked_of_folder hd' hparent
      · -- a folder made above the page is not in its place
        intro hf
        rcases hmade.grown.folder_of hf with hf | ⟨-, hpre⟩
        · exact hold.file hf
        · have := hpre.length_le
          rw [place_eq_append hold.name, List.length_append, List.length_singleton] at this
          omega

/-- Writing a page again, on a disk that has grown and still holds what was written, changes nothing
and succeeds exactly if it did before. -/
theorem putPage_again (hd : d.WellFormed) (h : d.Firm target)
    (hlater : Later (d.putPage target text).1 d')
    (hkept : (d.putPage target text).2 = .ok () →
      d'.get? (place target) = some (.file (.text text))) :
    (d'.putPage target text).1 = d' ∧
      ((d'.putPage target text).2 = .ok () ↔ (d.putPage target text).2 = .ok ()) := by
  have hput := pagePut hd h text
  have hall : Later d d' := hput.grown.later.trans hlater
  have hd' := hall.wellFormed hd
  have h' : d'.Firm target := h.mono hall.folder
  have hput' := pagePut hd' h' text
  have hiff : (d'.putPage target text).2 = .ok () ↔ (d.putPage target text).2 = .ok () := by
    rw [hput'.ok_iff]
    refine ⟨fun hw => hput.ok_iff.mpr (hw.of_later hall), fun hok => ?_⟩
    have hw := hput.ok_iff.mp hok
    exact writable_of_file hd' hw.name hw.short (hkept hok)
  refine ⟨?_, hiff⟩
  -- the folders were made the first time
  have hmade' := foldersMade_directoryOf hd' h'
  have hsame : (d'.makeFolders (directoryOf target)).1 = d' := by
    have hfirst : Later (d.makeFolders (directoryOf target)).1 d' := by
      refine Grown.trans ?_ hlater
      have hmade := foldersMade_directoryOf hd h
      unfold putPage
      rcases hr : d.makeFolders (directoryOf target) with ⟨made, failure | _⟩
      · exact .refl _ _ _
      · rw [hr] at hmade
        have hd₁ := hmade.grown.wellFormed hd
        have h₁ : made.Firm target := h.mono hmade.grown.folder
        rcases writeText_of_parent hd₁ h₁ (hmade.folder rfl) text with
          ⟨hw, heq⟩ | ⟨-, fault, heq⟩
        · simp only [heq]
          exact (hw.grown hd₁ h₁ (hmade.folder rfl) text).later
        · simp only [heq]
          exact .refl _ _ _
    rw [directoryOf_eq h.absolute, makeFolders] at hfirst ⊢
    exact makeFoldersWithin_again hd _ _ (Nat.lt_succ_self _) (trimmed_parent target) h.parent hfirst
      (Nat.lt_succ_self _)
  have hagain : d'.Writable target → d'.get? (place target) = some (.file (.text text)) := fun hw =>
    hkept (hiff.mp (hput'.ok_iff.mpr hw))
  unfold putPage
  rcases hr : d'.makeFolders (directoryOf target) with ⟨made, failure | _⟩
  · rw [hr] at hsame
    exact hsame
  · rw [hr] at hsame hmade'
    obtain rfl : made = d' := hsame
    rcases writeText_of_parent hd' h' (hmade'.folder rfl) text with ⟨hw, heq⟩ | ⟨-, fault, heq⟩
    · have hne : place target ≠ [] := by
        rw [place_eq_append hw.name]
        simp
      simp only [heq]
      exact set_of_get? hne (hagain hw)
    · simp only [heq]

end Disk

end StaticSite
