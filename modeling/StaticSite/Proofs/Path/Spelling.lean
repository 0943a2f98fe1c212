import StaticSite.Proofs.Path.Parent
import StaticSite.Proofs.Path.Rooted

/-!
# Spellings of one path

The same path can be spelled with more slashes than needed, with `.` and `..`, or as seen from the working
directory. Its canonical spelling leaves no choice but one: two slashes at the beginning are kept, although
they lead where one does. So two paths are the same if their canonical spellings agree but for such a slash,
and this is so exactly if they have the same place.

## Main definitions

* `Path.SamePath`: two paths are the same.
* `Path.StrictlyWithin`: a path lies within a directory and is not that directory.

## Main results

* `Path.samePath_iff`: two paths are the same exactly if they have the same place.
* `Path.strictlyWithin_iff`: a path lies strictly within a directory if some names lead down to it.
-/

namespace StaticSite.Path

variable {cwd p q root : String}

/-! ### The same path -/

/-- Two paths are the same: their canonical spellings agree, but for a second slash at the beginning. -/
def SamePath (cwd p q : String) : Prop :=
  absolute cwd p = absolute cwd q ∨ absolute cwd p = "/" ++ absolute cwd q ∨
    absolute cwd q = "/" ++ absolute cwd p

instance (cwd p q : String) : Decidable (SamePath cwd p q) := by
  unfold SamePath
  infer_instance

/-- Two paths are the same exactly if they have the same place. -/
theorem samePath_iff (hcwd : isAbsolute cwd = true) (p q : String) :
    SamePath cwd p q ↔ placeFrom cwd p = placeFrom cwd q := by
  constructor
  · intro h
    have hplace : place (absolute cwd p) = place (absolute cwd q) := by
      rcases h with h | h | h <;> rw [h]
      · rw [place_slash]
      · rw [place_slash]
    rwa [place_absolute hcwd, place_absolute hcwd] at hplace
  · intro h
    rw [SamePath, absolute_eq_fromRoot hcwd p, absolute_eq_fromRoot hcwd q, h]
    generalize (leadingSlashes (if isAbsolute p then p else cwd) == 2) = double
    generalize (leadingSlashes (if isAbsolute q then q else cwd) == 2) = double'
    cases double <;> cases double'
    · exact .inl rfl
    · exact .inr (.inr (slash_fromRoot _).symm)
    · exact .inr (.inl (slash_fromRoot _).symm)
    · exact .inl rfl

/-! ### Within a directory -/

/-- A path lies within a directory and is not that directory. -/
def StrictlyWithin (cwd p root : String) : Prop :=
  isWithin cwd p root = true ∧ ¬SamePath cwd p root

instance (cwd p root : String) : Decidable (StrictlyWithin cwd p root) := by
  unfold StrictlyWithin
  infer_instance

/-- A path lies strictly within a directory if some names lead down to it. -/
theorem strictlyWithin_iff (hcwd : isAbsolute cwd = true) (p root : String) :
    StrictlyWithin cwd p root ↔ ∃ names, names ≠ [] ∧ placeFrom cwd p = placeFrom cwd root ++ names := by
  rw [StrictlyWithin, isWithin_iff hcwd, samePath_iff hcwd]
  constructor
  · rintro ⟨⟨names, hnames⟩, hne⟩
    refine ⟨names, ?_, hnames.symm⟩
    rintro rfl
    rw [List.append_nil] at hnames
    exact hne hnames.symm
  · rintro ⟨names, hne, hnames⟩
    refine ⟨⟨names, hnames.symm⟩, fun heq => hne ?_⟩
    rw [heq] at hnames
    simpa using hnames

end StaticSite.Path
