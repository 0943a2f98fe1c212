import StaticSite.Proofs.Path.Below
import StaticSite.Proofs.Path.Canonical

/-!
# Canonical spellings that begin at the root

A canonical spelling that begins at the root is a slash or two, and then names with a slash between neighbours. It
says where it leads and whether two slashes stand at its beginning, and nothing else: two such spellings that agree in
both are the same. So what is known of these two is all that is to know of the canonical spelling of a path.

## Main definitions

* `Path.leadingSlashes`: how many slashes stand at the beginning.
* `Path.fromRoot`: two slashes or one, and names.
* `Path.IsCanonical`: a canonical spelling that begins at the root.

## Main results

* `Path.IsCanonical.eq_of_place`: canonical spellings of one place differ in the slashes at their beginning only.
* `Path.isCanonical_iff`: they are the fixed points of the canonical spelling.
* `Path.IsCanonical.isName_of_mem_cuts`: their pieces are names.
* `Path.absolute_eq_fromRoot`: the spelling of a path seen from a working directory.
-/

namespace StaticSite.Path

variable {cwd p q : String} {names : List String}

/-! ### Slashes at the beginning -/

/-- How many slashes stand at the beginning. -/
def leadingSlashes (p : String) : Nat := (p.toList.takeWhile (· == '/')).length

/-- An absolute path keeps two slashes if exactly two stand there, and one otherwise. -/
theorem root_eq_ite (h : isAbsolute p = true) :
    Chars.root p.toList = if leadingSlashes p = 2 then ['/', '/'] else ['/'] := by
  rw [isAbsolute] at h
  rw [leadingSlashes]
  generalize p.toList = s at h ⊢
  rcases s with _ | ⟨a, _ | ⟨b, _ | ⟨c, cs⟩⟩⟩
  · exact absurd h (by simp [Chars.isAbsolute])
  all_goals obtain rfl : a = '/' := by simpa [Chars.isAbsolute] using h
  · rfl
  · by_cases hb : b = '/' <;> simp [Chars.root, hb]
  · by_cases hb : b = '/' <;> by_cases hc : c = '/' <;> simp [Chars.root, hb, hc]

/-- No slash stands at the beginning of a path that is not absolute. -/
theorem takeWhile_slash_eq_nil (h : isAbsolute p = false) : p.toList.takeWhile (· == '/') = [] := by
  rw [isAbsolute] at h
  generalize p.toList = s at h ⊢
  rcases s with _ | ⟨c, cs⟩
  · rfl
  · rw [List.takeWhile_cons_of_neg]
    simpa [Chars.isAbsolute] using h

/-- A path that is put to a directory leaves the slashes at its beginning. -/
theorem leadingSlashes_join (hcwd : isAbsolute cwd = true) (hp : isAbsolute p = false) :
    leadingSlashes (join cwd p) = leadingSlashes cwd := by
  have hne : cwd.toList ≠ [] := by simpa using ne_empty_of_isAbsolute hcwd
  rw [leadingSlashes, leadingSlashes, join, String.toList_ofList, Chars.join, if_neg (by simpa [isAbsolute] using hp)]
  split
  · rw [List.takeWhile_append, takeWhile_slash_eq_nil hp, List.append_nil]
    split
    · next hall => exact hall.symm
    · rfl
  · next hlast =>
    -- a directory that does not end with a slash is not made of slashes
    rw [List.takeWhile_append, if_neg]
    intro hlength
    have hall := List.takeWhile_eq_self_iff.mp ((List.takeWhile_prefix _).eq_of_length hlength)
    refine hlast (Bool.or_eq_true_iff.mpr (.inr ?_))
    rw [List.getLast?_eq_some_getLast hne]
    simpa using hall _ (List.getLast_mem hne)

/-! ### Canonical spellings -/

/-- Two slashes or one, and then names with a slash between neighbours. -/
def fromRoot (double : Bool) (names : List String) : String := (if double then "//" else "/") ++ spelled names

/-- A canonical spelling that begins at the root. -/
def IsCanonical (p : String) : Prop := ∃ double names, (∀ c ∈ names, IsName c) ∧ p = fromRoot double names

/-- One slash more makes two of one. -/
theorem slash_fromRoot (names : List String) : "/" ++ fromRoot false names = fromRoot true names := by
  rw [fromRoot, fromRoot, ← String.append_assoc]
  rfl

/-- The names stand one below another. -/
theorem fromRoot_eq_below (double : Bool) (hnames : ∀ c ∈ names, IsName c) :
    fromRoot double names = below (if double then "//" else "/") names := by
  rw [fromRoot]
  generalize hslashes : (if double then "//" else "/") = slashes
  by_cases hnil : names = []
  · rw [hnil, below_nil]
    exact String.append_empty
  · have hroot : isAbsolute slashes = true := by rw [← hslashes]; cases double <;> rfl
    have hlast : slashes.toList.getLast? = some '/' := by rw [← hslashes]; cases double <;> rfl
    have hrelative : Chars.isAbsolute (spelled names).toList = false := isAbsolute_spelled hnames
    rw [← join_spelled hroot hnames hnil, join, Chars.join, if_neg (by simp [hrelative]), if_pos (by simp [hlast]),
      ← String.toList_append, String.ofList_toList]

/-- They are the place of the path. -/
theorem place_fromRoot (double : Bool) (hnames : ∀ c ∈ names, IsName c) : place (fromRoot double names) = names := by
  have hroot : place (if double then "//" else "/") = [] := by cases double <;> rfl
  rw [fromRoot_eq_below double hnames, place_below _ hnames, hroot, List.nil_append]

/-- No other slash stands at the beginning. -/
theorem leadingSlashes_fromRoot (double : Bool) (hnames : ∀ c ∈ names, IsName c) :
    leadingSlashes (fromRoot double names) = if double then 2 else 1 := by
  have hslashes : (if double then "//" else "/").toList = List.replicate (if double then 2 else 1) '/' := by
    cases double <;> rfl
  have hall : ∀ c ∈ List.replicate (if double then 2 else 1) '/', (c == '/') = true := fun c hc =>
    beq_iff_eq.mpr (List.eq_of_mem_replicate hc)
  rw [leadingSlashes, fromRoot, String.toList_append, hslashes, List.takeWhile_append_of_pos hall,
    takeWhile_slash_eq_nil (isAbsolute_spelled hnames), List.append_nil, List.length_replicate]

/-- A canonical spelling begins at the root. -/
theorem IsCanonical.isAbsolute (h : IsCanonical p) : isAbsolute p = true := by
  obtain ⟨double, names, hnames, rfl⟩ := h
  rw [fromRoot_eq_below double hnames]
  exact isAbsolute_below (by cases double <;> rfl) names

/-- Canonical spellings of one place differ in the slashes at their beginning only. -/
theorem IsCanonical.eq_of_place (hp : IsCanonical p) (hq : IsCanonical q) (hplace : place p = place q)
    (hslashes : leadingSlashes p = 2 ↔ leadingSlashes q = 2) : p = q := by
  obtain ⟨double, names, hnames, rfl⟩ := hp
  obtain ⟨double', names', hnames', rfl⟩ := hq
  rw [place_fromRoot double hnames, place_fromRoot double' hnames'] at hplace
  rw [leadingSlashes_fromRoot double hnames, leadingSlashes_fromRoot double' hnames'] at hslashes
  have hsame : double = double' := by cases double <;> cases double' <;> simp_all
  rw [hplace, hsame]

/-! ### Paths in their canonical spelling -/

/-- The canonical spelling of an absolute path keeps two slashes if exactly two stand there, and has the names of its
place. -/
theorem normalize_eq_fromRoot (h : isAbsolute p = true) : normalize p = fromRoot (leadingSlashes p == 2) (place p) := by
  rw [normalize, normalize_eq h, root_eq_ite h, String.ofList_append, fromRoot, spelled]
  by_cases htwo : leadingSlashes p = 2 <;> simp [htwo]

/-- It is canonical. -/
theorem isCanonical_normalize (h : isAbsolute p = true) : IsCanonical (normalize p) :=
  ⟨_, place p, fun _ => isName_of_mem_place, normalize_eq_fromRoot h⟩

/-- It leads where the path leads. -/
theorem place_normalize (h : isAbsolute p = true) : place (normalize p) = place p := by
  rw [normalize_eq_fromRoot h, place_fromRoot _ fun _ => isName_of_mem_place]

/-- Two slashes stand at its beginning if exactly two stand there in the path. -/
theorem leadingSlashes_normalize (h : isAbsolute p = true) :
    leadingSlashes (normalize p) = 2 ↔ leadingSlashes p = 2 := by
  rw [normalize_eq_fromRoot h, leadingSlashes_fromRoot _ fun _ => isName_of_mem_place]
  by_cases htwo : leadingSlashes p = 2 <;> simp [htwo]

/-- A path is canonical if it is absolute and its own canonical spelling. -/
theorem isCanonical_iff (p : String) : IsCanonical p ↔ isAbsolute p = true ∧ normalize p = p := by
  constructor
  · intro h
    have habsolute := h.isAbsolute
    exact ⟨habsolute, (isCanonical_normalize habsolute).eq_of_place h (place_normalize habsolute)
      (leadingSlashes_normalize habsolute)⟩
  · rintro ⟨habsolute, hspelling⟩
    exact hspelling ▸ isCanonical_normalize habsolute

instance (p : String) : Decidable (IsCanonical p) := decidable_of_iff' _ (isCanonical_iff p)

/-- Every piece of a canonical path is a name, but for those beside the slashes at its beginning. -/
theorem IsCanonical.isName_of_mem_cuts (h : IsCanonical p) {c : String} (hc : c ∈ cuts p) (hne : c ≠ "") :
    IsName c := by
  obtain ⟨habsolute, hspelling⟩ := (isCanonical_iff p).mp h
  have hpieces := filter_splitOn_normalize habsolute
  rw [← String.toList_ofList (l := Chars.normalize p.toList), ← normalize, hspelling] at hpieces
  obtain ⟨piece, hpiece, rfl⟩ := List.mem_map.mp hc
  have hkept : piece ∈ (place p).map String.toList := by
    rw [← hpieces, List.mem_filter]
    refine ⟨hpiece, ?_⟩
    rcases piece with _ | ⟨x, xs⟩
    · exact absurd rfl hne
    · rfl
  obtain ⟨name, hname, rfl⟩ := List.mem_map.mp hkept
  rw [String.ofList_toList]
  exact isName_of_mem_place hname

/-- Wherever it is seen from, a canonical path is spelled as it is. -/
theorem IsCanonical.absolute_eq (h : IsCanonical p) (cwd : String) : absolute cwd p = p := by
  obtain ⟨habsolute, hspelling⟩ := (isCanonical_iff p).mp h
  rw [Path.absolute_eq, if_pos habsolute, hspelling]

/-! ### Paths seen from a working directory -/

/-- Seen from an absolute working directory, a path is spelled by its place, with two slashes at the beginning if exactly
two stand there in the path, or in the working directory if the path is not absolute. -/
theorem absolute_eq_fromRoot (hcwd : isAbsolute cwd = true) (p : String) :
    absolute cwd p = fromRoot (leadingSlashes (if isAbsolute p then p else cwd) == 2) (placeFrom cwd p) := by
  rw [absolute_eq, placeFrom]
  by_cases hp : isAbsolute p = true
  · rw [if_pos hp, if_pos hp, if_pos hp, normalize_eq_fromRoot hp]
  · have hrelative : isAbsolute p = false := by simpa using hp
    rw [if_neg hp, if_neg hp, if_neg hp, normalize_eq_fromRoot (isAbsolute_join hcwd),
      leadingSlashes_join hcwd hrelative, place_join hrelative]

/-- That is canonical. -/
theorem isCanonical_absolute (hcwd : isAbsolute cwd = true) (p : String) : IsCanonical (absolute cwd p) :=
  ⟨_, placeFrom cwd p, fun _ => isName_of_mem_placeFrom, absolute_eq_fromRoot hcwd p⟩

/-- It leads where the path leads from there. -/
theorem place_absolute (hcwd : isAbsolute cwd = true) (p : String) : place (absolute cwd p) = placeFrom cwd p := by
  rw [absolute_eq_fromRoot hcwd, place_fromRoot _ fun _ => isName_of_mem_placeFrom]

/-- Two slashes stand at its beginning as they do in the path or the working directory. -/
theorem leadingSlashes_absolute (hcwd : isAbsolute cwd = true) (p : String) :
    leadingSlashes (absolute cwd p) = 2 ↔ leadingSlashes (if isAbsolute p then p else cwd) = 2 := by
  rw [absolute_eq_fromRoot hcwd, leadingSlashes_fromRoot _ fun _ => isName_of_mem_placeFrom]
  generalize leadingSlashes (if isAbsolute p then p else cwd) = n
  by_cases htwo : n = 2 <;> simp [htwo]

/-- From a canonical working directory, nothing is that directory. -/
theorem IsCanonical.absolute_empty (h : IsCanonical cwd) : absolute cwd "" = cwd :=
  (isCanonical_absolute h.isAbsolute "").eq_of_place h (place_absolute h.isAbsolute "")
    (leadingSlashes_absolute h.isAbsolute "")

end StaticSite.Path
