import StaticSite.Page.Affected
import StaticSite.Proofs.Path.Below
import StaticSite.Proofs.Site.Destination

/-!
# What a change affects

Whatever a change is and however its path is spelled, what it affects lies within the views directory: the
changed file if that does, the view that owns the directory of the changed file, or all the views.

## Main results

* `exists_classify`: a change at an absolute path affects something.
* `classify_single`, `classify_inferred`, `classify_walk`: what it is.
* `prefix_of_classify`: what a change affects lies within the views directory.
-/

namespace StaticSite

open Path

variable {cwd changed viewsDir : String} {views : List String} {a : Affected}

/-- The name of a view without the extension is what stands before the ending. -/
theorem stem_eq {view ext : String} {start : List Char} (hslash : '/' ∉ view.toList)
    (hstart : view.toList = start ++ ext.toList) : stem view ext = String.ofList start := by
  have hbase : (baseName view).toList = view.toList := by
    rw [baseName, String.toList_ofList, Chars.baseName_of_notMem hslash]
  rw [stem, hbase]
  split
  · next hext =>
    rw [String.isEmpty_iff.mp hext, String.toList_empty, List.append_nil] at hstart
    rw [hstart]
  · rw [hstart, Text.stripEnd?, List.reverse_append, Text.stripStart?_append, Option.map_some,
      List.reverse_reverse, Option.getD_some]

/-- A view is named by its name without the extension, and the extension. -/
theorem stem_append {view ext : String} (hslash : '/' ∉ view.toList)
    (h : hasEnding view ext = true) : stem view ext ++ ext = view := by
  obtain ⟨start, hstart⟩ := hasEnding_iff.mp h
  rw [← String.toList_inj, String.toList_append, stem_eq hslash hstart, String.toList_ofList, hstart]

/-- The name of a view without its extension holds no slash. -/
theorem slash_notMem_stem (view ext : String) : '/' ∉ (stem view ext).toList := by
  have hbase : '/' ∉ (baseName view).toList := by
    rw [baseName, String.toList_ofList]
    exact slash_notMem_baseName view.toList
  rw [stem, String.toList_ofList]
  split
  · exact hbase
  · rcases hstrip : Text.stripEnd? ext.toList (baseName view).toList with _ | short
    · exact hbase
    · rw [Text.stripEnd?, Option.map_eq_some_iff] at hstrip
      obtain ⟨rest, hrest, rfl⟩ := hstrip
      intro hmem
      have hmem' : '/' ∈ (baseName view).toList.reverse := by
        rw [← Text.append_of_stripStart? hrest]
        exact List.mem_append_right _ (List.mem_reverse.mp hmem)
      exact hbase (List.mem_reverse.mp hmem')

/-- The view that owns a change is named by a name. -/
theorem isName_stem_append (view : String) : IsName (stem view templateExt ++ templateExt) := by
  have hlist : (stem view templateExt ++ templateExt).toList =
      (stem view templateExt).toList ++ ['.', 'j', '2'] := by
    rw [String.toList_append]
    rfl
  have hlong : 3 ≤ (stem view templateExt ++ templateExt).toList.length := by
    rw [hlist, List.length_append]
    simp
  refine ⟨fun he => ?_, fun he => ?_, fun he => ?_, fun hmem => ?_⟩
  · rw [he] at hlong
    exact absurd hlong (by decide)
  · rw [he] at hlong
    exact absurd hlong (by decide)
  · rw [he] at hlong
    exact absurd hlong (by decide)
  · rw [hlist, List.mem_append] at hmem
    exact hmem.elim (slash_notMem_stem view templateExt) (by decide)

/-- A change at a path affects something. -/
theorem exists_classify_of_ne_empty (hempty : changed ≠ "") (cwd : String) (views : List String)
    (viewsDir ext : String) : ∃ a, classify cwd changed views viewsDir ext = .ok a := by
  delta classify
  rcases owner? changed views viewsDir ext with _ | view
  · rw [within, if_neg (by simp [hempty])]
    rcases isWithin cwd changed viewsDir with _ | _
    · exact ⟨_, rfl⟩
    · exact ⟨_, rfl⟩
  · exact ⟨_, rfl⟩

/-- A change at an absolute path affects something. -/
theorem exists_classify (hchanged : isAbsolute changed = true) (cwd : String) (views : List String)
    (viewsDir ext : String) : ∃ a, classify cwd changed views viewsDir ext = .ok a :=
  exists_classify_of_ne_empty (by simpa using ne_empty_of_isAbsolute hchanged) cwd views viewsDir ext

/-- A change that affects everything affects the views directory. -/
theorem classify_walk {ext : String} (h : classify cwd changed views viewsDir ext = .ok a)
    (hextent : a.extent = .walk) : a.target = viewsDir := by
  delta classify at h
  split at h
  · rw [← Except.ok.inj h] at hextent
    exact absurd hextent (by simp)
  · split at h
    · exact absurd h (by simp)
    · rw [← Except.ok.inj h] at hextent
      exact absurd hextent (by simp)
    · rw [← Except.ok.inj h]

/-- A change that affects one file alone affects the changed file. -/
theorem classify_single {ext : String} (h : classify cwd changed views viewsDir ext = .ok a)
    (hextent : a.extent = .single) : a.target = changed := by
  delta classify at h
  split at h
  · rw [← Except.ok.inj h] at hextent
    exact absurd hextent (by simp)
  · split at h
    · exact absurd h (by simp)
    · rw [← Except.ok.inj h]
    · rw [← Except.ok.inj h] at hextent
      exact absurd hextent (by simp)

/-- A change that affects a view by its directory affects one of the views that are known. -/
theorem classify_inferred {ext : String} (h : classify cwd changed views viewsDir ext = .ok a)
    (hextent : a.extent = .inferred) :
    ∃ view ∈ views, a.target = Path.join viewsDir (stem view ext ++ ext) := by
  delta classify at h
  split at h
  · next view hview =>
    refine ⟨view, ?_, by rw [← Except.ok.inj h]⟩
    rw [owner?] at hview
    split at hview
    · exact absurd hview (by simp)
    · exact List.mem_of_find?_eq_some hview
  · split at h
    · exact absurd h (by simp)
    · rw [← Except.ok.inj h] at hextent
      exact absurd hextent (by simp)
    · rw [← Except.ok.inj h] at hextent
      exact absurd hextent (by simp)

/-- What a change affects lies within the views directory, as seen from the working directory. -/
theorem prefix_of_classify (hcwd : isAbsolute cwd = true)
    (h : classify cwd changed views viewsDir templateExt = .ok a) :
    placeFrom cwd viewsDir <+: placeFrom cwd a.target := by
  delta classify at h
  split at h
  · next view hview =>
    rw [← Except.ok.inj h]
    simp only
    rw [placeFrom_join_name (isName_stem_append view)]
    exact List.prefix_append _ _
  · split at h
    · exact absurd h (by simp)
    · next hwithin =>
      rw [← Except.ok.inj h]
      rw [within] at hwithin
      split at hwithin
      · exact absurd hwithin (by simp)
      · exact (isWithin_iff hcwd changed viewsDir).mp (Except.ok.inj hwithin)
    · obtain rfl := Except.ok.inj h
      exact List.prefix_refl _

/-- What a change at an absolute path affects has an absolute path. -/
theorem isAbsolute_of_classify {ext : String} (hviews : isAbsolute viewsDir = true)
    (hchanged : isAbsolute changed = true) (h : classify cwd changed views viewsDir ext = .ok a) :
    isAbsolute a.target = true := by
  delta classify at h
  split at h
  · rw [← Except.ok.inj h]
    exact isAbsolute_join hviews
  · split at h
    · exact absurd h (by simp)
    · rw [← Except.ok.inj h]
      exact hchanged
    · rw [← Except.ok.inj h]
      exact hviews

end StaticSite
