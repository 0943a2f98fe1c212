import StaticSite.Proofs.Path.Canonical
import StaticSite.Proofs.Site.Affected

/-!
# Which view owns a change

A change is owned by the views whose name is the name of the directory of the changed file, unless that directory
is the views directory itself. So whether a change is owned, and what is built again for it, is a matter of the
names of the views only: the search for the first view that fits finds one name, whichever view bears it first.

A change without an owner concerns the changed file if that lies within the views directory, and every view if
not. A file directly inside the views directory has no owner, even if a view has the name of that directory.

## Main definitions

* `IsOwned`: some view owns a change.

## Main results

* `owner?_eq_none_iff`, `stem_of_owner?`: the view that is found owns the change, and one is found if there is one.
* `classify_characterized`: what a change affects.
-/

namespace StaticSite

open Path

variable {cwd changed viewsDir ext view : String} {views others : List String}

/-- Some view owns a change: the changed file is not directly inside the views directory, and the name of its
directory is the name of the view without the extension. -/
def IsOwned (changed : String) (views : List String) (viewsDir ext : String) : Prop :=
  normalize (parent changed) ≠ normalize viewsDir ∧
    baseName (parent changed) ∈ views.map fun view => stem view ext

instance (changed : String) (views : List String) (viewsDir ext : String) :
    Decidable (IsOwned changed views viewsDir ext) :=
  inferInstanceAs (Decidable (_ ∧ _))

/-! ### The search for an owner -/

/-- The view that is found is one of the views, and bears the name of the directory of the changed file. -/
theorem stem_of_owner? (h : owner? changed views viewsDir ext = some view) :
    view ∈ views ∧ stem view ext = baseName (parent changed) := by
  rw [owner?] at h
  split at h
  · exact absurd h (by simp)
  · exact ⟨List.mem_of_find?_eq_some h, by simpa using List.find?_some h⟩

/-- No view is found exactly if the change has no owner. -/
theorem owner?_eq_none_iff :
    owner? changed views viewsDir ext = none ↔ ¬ IsOwned changed views viewsDir ext := by
  rw [owner?]
  split
  · next hparent => exact iff_of_true rfl fun howned => howned.1 (beq_iff_eq.mp hparent)
  · next hparent =>
    rw [List.find?_eq_none]
    constructor
    · rintro hnone ⟨-, hname⟩
      obtain ⟨view, hview, hstem⟩ := List.mem_map.mp hname
      exact hnone view hview (beq_iff_eq.mpr hstem)
    · intro hnot view hview hstem
      exact hnot ⟨fun heq => hparent (beq_iff_eq.mpr heq), List.mem_map.mpr ⟨view, hview, beq_iff_eq.mp hstem⟩⟩

/-- What a change affects is told by its owner first, and by where it lies if it has none. -/
theorem classify_eq (hchanged : changed ≠ "") :
    classify cwd changed views viewsDir ext = .ok (
      if IsOwned changed views viewsDir ext then
        ⟨.inferred, Path.join viewsDir (baseName (parent changed) ++ ext)⟩
      else if isWithin cwd changed viewsDir then ⟨.single, changed⟩ else ⟨.walk, viewsDir⟩) := by
  unfold classify
  rcases hview : owner? changed views viewsDir ext with _ | view
  · rw [if_neg (owner?_eq_none_iff.mp hview), within, if_neg (by simpa using hchanged)]
    cases isWithin cwd changed viewsDir <;> rfl
  · have howned : IsOwned changed views viewsDir ext := by
      rw [← not_not (a := IsOwned _ _ _ _), ← owner?_eq_none_iff, hview]
      exact Option.some_ne_none view
    rw [if_pos howned, ← (stem_of_owner? hview).2]

/-- Whether a change is owned is a matter of the names of the views. -/
theorem isOwned_congr (h : ∀ name, name ∈ views.map (fun view => stem view ext) ↔
    name ∈ others.map fun view => stem view ext) :
    IsOwned changed views viewsDir ext ↔ IsOwned changed others viewsDir ext := by
  rw [IsOwned, IsOwned, h]

/-! ### Names of views -/

/-- Where all names end with the extension, an owned change affects a file named by one of them. -/
theorem exists_view_of_isOwned (hviews : ∀ view ∈ views, hasEnding view ext = true ∧ '/' ∉ view.toList)
    (h : IsOwned changed views viewsDir ext) : baseName (parent changed) ++ ext ∈ views := by
  obtain ⟨view, hview, hstem⟩ := List.mem_map.mp h.2
  obtain ⟨hending, hslash⟩ := hviews view hview
  rw [← hstem, stem_append hslash hending]
  exact hview

/-- A file directly inside the views directory lies within it. -/
theorem isWithin_of_parent (hcwd : isAbsolute cwd = true) (hname : IsName (baseName changed))
    (hparent : normalize (parent changed) = normalize viewsDir) : isWithin cwd changed viewsDir = true := by
  rw [isWithin_iff hcwd, placeFrom_eq_append hname, placeFrom_eq_of_normalize hparent]
  exact List.prefix_append _ _

/-! ### What a change affects -/

/-- **What a change affects.** An owned change affects the view that is named by the directory of the changed
file; another one affects the changed file if it lies within the views directory, and every view if not. The views
matter through their names without the extension only. If the views are listed by their file names, the one that
is affected is among them. A file directly inside the views directory, however that is spelled, is affected alone,
even if a view bears the name of the views directory. -/
theorem classify_characterized (hcwd : isAbsolute cwd = true) (hchanged : changed ≠ "") (views : List String)
    (viewsDir ext : String) :
    (classify cwd changed views viewsDir ext =
        .ok ⟨.inferred, Path.join viewsDir (baseName (parent changed) ++ ext)⟩ ↔
      IsOwned changed views viewsDir ext) ∧
    (classify cwd changed views viewsDir ext = .ok ⟨.single, changed⟩ ↔
      ¬ IsOwned changed views viewsDir ext ∧ placeFrom cwd viewsDir <+: placeFrom cwd changed) ∧
    (classify cwd changed views viewsDir ext = .ok ⟨.walk, viewsDir⟩ ↔
      ¬ IsOwned changed views viewsDir ext ∧ ¬ placeFrom cwd viewsDir <+: placeFrom cwd changed) ∧
    (∀ others : List String, (∀ name, name ∈ views.map (fun view => stem view ext) ↔
        name ∈ others.map fun view => stem view ext) →
      classify cwd changed views viewsDir ext = classify cwd changed others viewsDir ext) ∧
    ((∀ view ∈ views, hasEnding view ext = true ∧ '/' ∉ view.toList) →
      ∀ a, classify cwd changed views viewsDir ext = .ok a → a.extent = .inferred →
        ∃ view ∈ views, a.target = Path.join viewsDir view) ∧
    (normalize (parent changed) = normalize viewsDir → IsName (baseName changed) →
      classify cwd changed views viewsDir ext = .ok ⟨.single, changed⟩) := by
  rw [← isWithin_iff hcwd]
  simp only [classify_eq hchanged]
  refine ⟨?_, ?_, ?_, fun others h => ?_, fun hviews a ha hextent => ?_, fun hparent hname => ?_⟩
  · split_ifs <;> simp_all
  · split_ifs <;> simp_all
  · split_ifs <;> simp_all
  · rw [if_congr (isOwned_congr h) rfl rfl]
  · split_ifs at ha with howned hwithin
    · exact ⟨_, exists_view_of_isOwned hviews howned, by rw [← Except.ok.inj ha]⟩
    · rw [← Except.ok.inj ha] at hextent
      exact absurd hextent nofun
    · rw [← Except.ok.inj ha] at hextent
      exact absurd hextent nofun
  · rw [if_neg fun howned => howned.1 hparent, if_pos (isWithin_of_parent hcwd hname hparent)]

/-- Beside a view `home` in a directory `home`: a file of the view's own directory, and one directly inside the
views directory, which is spelled in another way. -/
theorem homeViews_classified :
    isAbsolute "/w" = true ∧ "/w/home/home/a.j2" ≠ "" ∧ "/w/./home//a.j2" ≠ "" ∧
      classify "/w" "/w/home/home/a.j2" ["home.j2", "a.j2"] "/w/home/" ".j2" =
        .ok ⟨.inferred, "/w/home/home.j2"⟩ ∧
      classify "/w" "/w/./home//a.j2" ["home.j2", "a.j2"] "/w/home/" ".j2" =
        .ok ⟨.single, "/w/./home//a.j2"⟩ := by
  refine ⟨by decide, by decide, by decide, ?_, ?_⟩
  · exact (classify_characterized (by decide) (by decide) ["home.j2", "a.j2"] "/w/home/" ".j2").1.mpr
      ⟨by decide, by decide⟩
  · exact (classify_characterized (by decide) (by decide) ["home.j2", "a.j2"] "/w/home/" ".j2").2.2.2.2.2
      (by decide) ⟨by decide, by decide, by decide, by decide⟩

end StaticSite
