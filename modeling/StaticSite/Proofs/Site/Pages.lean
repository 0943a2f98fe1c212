import StaticSite.Proofs.Site.Destination
import StaticSite.Proofs.Site.Views

/-!
# The pages of the views below a directory

The views below a directory have their pages at the same place below the distribution directory, the
last name turned into that of a page. This holds for every directory at or below the views directory,
as long as it is no view itself.

## Main definitions

* `pagePath`: the names of the page of a view.

## Main results

* `IsView.destination_eq`: where the page of a view goes.
* `IsView.pagePath_injective`: different views have different pages.
-/

namespace StaticSite

open Path

variable {d : Disk} {root dist cwd : String} {names names' mid : List String} {layout : Layout}

/-! ### Names below a directory -/

/-- The last name below a directory is the last name of the path. -/
theorem Path.isName_baseName_below (hroot : isAbsolute root = true) (hnames : ∀ c ∈ names, IsName c)
    (hne : names ≠ []) : IsName (baseName (below root names)) := by
  obtain ⟨init, c, rfl⟩ := (List.eq_nil_or_concat names).resolve_left hne
  have hc := hnames c (by simp)
  rw [List.concat_eq_append, below_concat, baseName_join (isAbsolute_below hroot init) hc.slash]
  exact hc

/-- A folder above a path below a directory is at or above the directory, or below it. -/
theorem Path.above_or_below_of_parent (hroot : isAbsolute root = true) (hnames : ∀ c ∈ names, IsName c)
    (hne : names ≠ []) {q : Place} (hq : q <+: place (parent (below root names))) :
    q <+: place root ∨ place root <+: q := by
  have hparent : place (parent (below root names)) <+: place root ++ names := by
    rw [← place_below root hnames, place_eq_append (isName_baseName_below hroot hnames hne)]
    exact List.prefix_append _ _
  exact List.prefix_or_prefix_of_prefix (hq.trans hparent) (List.prefix_append _ _)

/-! ### Names of pages -/

/-- The names of the page of a view: those of the view, the last one turned into that of a page. -/
def pagePath (names : List String) : List String :=
  names.dropLast ++ (names.getLast?.map pageFile).toList

@[simp] theorem pagePath_concat (init : List String) (c : String) :
    pagePath (init ++ [c]) = init ++ [pageFile c] := by
  simp [pagePath]

/-- The names of different views, given by their directories and last names, have different pages. -/
theorem pagePath_concat_injective {init init' : List String} {c c' : String} (hc : IsName c)
    (hending : hasEnding c templateExt = true) (hc' : IsName c')
    (hending' : hasEnding c' templateExt = true)
    (heq : pagePath (init ++ [c]) = pagePath (init' ++ [c'])) : init ++ [c] = init' ++ [c'] := by
  rw [pagePath_concat, pagePath_concat] at heq
  obtain ⟨hinit, hlast⟩ := List.append_inj' heq (by simp)
  rw [hinit, pageFile_injective hc hending hc' hending' (List.singleton_inj.mp hlast)]

namespace IsView

/-- The names of a view below the directory end with the name of a view. -/
theorem exists_concat (hd : d.WellFormed) (hroot : isAbsolute root = true) (h : IsView d root names)
    (hne : names ≠ []) :
    ∃ init c, names = init ++ [c] ∧ IsName c ∧ hasEnding c templateExt = true := by
  obtain ⟨init, c, rfl⟩ := (List.eq_nil_or_concat names).resolve_left hne
  rw [List.concat_eq_append] at h hne ⊢
  have hc := (h.entryName hd c (by simp)).toIsName
  have hending := h.ending
  rw [below_concat, hasEnding_join (isAbsolute_below hroot init) hc.slash (by decide)] at hending
  exact ⟨init, c, rfl, hc, hending⟩

/-- The names of a page are names without null characters. -/
theorem isName_pagePath (hd : d.WellFormed) (hroot : isAbsolute root = true) (h : IsView d root names) :
    ∀ c ∈ pagePath names, IsName c ∧ Char.ofNat 0 ∉ c.toList := by
  by_cases hne : names = []
  · simp [hne, pagePath]
  have hentry := h.entryName hd
  obtain ⟨init, c, rfl, hc, hending⟩ := h.exists_concat hd hroot hne
  intro x hx
  rw [pagePath_concat] at hx
  rcases List.mem_append.mp hx with hx | hx
  · have := hentry x (List.mem_append_left _ hx)
    exact ⟨this.toIsName, this.null⟩
  · rw [List.mem_singleton.mp hx]
    exact ⟨isName_pageFile hc hending, null_notMem_pageFile hc hending (hentry c (by simp)).null⟩

/-- The page of a view has a name. -/
theorem pagePath_ne_nil (hd : d.WellFormed) (hroot : isAbsolute root = true) (h : IsView d root names)
    (hne : names ≠ []) : pagePath names ≠ [] := by
  obtain ⟨init, c, rfl, -, -⟩ := h.exists_concat hd hroot hne
  simp

/-- Different views below the directory have different pages. -/
theorem pagePath_injective (hd : d.WellFormed) (hroot : isAbsolute root = true)
    (h : IsView d root names) (h' : IsView d root names') (hne : names ≠ []) (hne' : names' ≠ [])
    (heq : pagePath names = pagePath names') : names = names' := by
  obtain ⟨init, c, rfl, hc, hending⟩ := h.exists_concat hd hroot hne
  obtain ⟨init', c', rfl, hc', hending'⟩ := h'.exists_concat hd hroot hne'
  exact pagePath_concat_injective hc hending hc' hending' heq

/-- The page of a view below a directory at or below the views directory is at the same place below the
distribution directory. -/
theorem destination_eq (hd : d.WellFormed) (hroot : isAbsolute root = true) (h : IsView d root names)
    (hne : names ≠ []) (hext : layout.ext = templateExt) (hcwd : isAbsolute cwd = true)
    (hviews : isAbsolute layout.views = true) (hdist : isAbsolute layout.dist = true)
    (hmid : place root = place layout.views ++ mid) :
    layout.destination cwd (below root names) = .ok (below layout.dist (mid ++ pagePath names)) := by
  have hentry := h.entryName hd
  obtain ⟨init, c, rfl, hc, hending⟩ := h.exists_concat hd hroot hne
  have hplace : place (below root init) = place layout.views ++ (mid ++ init) := by
    rw [place_below root fun x hx => (hentry x (List.mem_append_left _ hx)).toIsName, hmid,
      List.append_assoc]
  rw [below_concat, pagePath_concat, ← List.append_assoc]
  exact Layout.destination_join hext hcwd hviews hdist (isAbsolute_below hroot init) hc hending hplace

end IsView

end StaticSite
