import StaticSite.Path.Directory
import StaticSite.Proofs.Path.Parent
import StaticSite.Proofs.Path.Rooted

/-!
# Configured directories are canonical

Three things are done to a configured directory: the home of a user is put in, the path is seen from the working
directory, and it is spelled canonically. The place of the path and the slashes at its beginning are followed through
them, and they determine what comes out. A directory in canonical spelling keeps both, and so it is left as it is,
wherever it is seen from.

## Main definitions

* `Path.NamesUser`: the user that a path begins with, and the rest of the path.

## Main results

* `Path.NamesUser.place_expandHome`: the home of a known user stands in the place of the name.
* `Path.directory_characterized`: what a configured directory is.
* `Path.not_directory_canonical`: the name of a user with a null character makes no directory.
-/

namespace StaticSite.Path

variable {cwd p name tail home : String} {homes : Homes}

/-! ### The homes of users -/

/-- The path is `~`, the name of a user, and nothing or what follows from the next slash on. -/
structure NamesUser (p name tail : String) : Prop where
  /-- These are its parts. -/
  parts : p = "~" ++ name ++ tail
  /-- The name ends before the slash. -/
  slash : '/' ∉ name.toList
  /-- The slash comes next. -/
  tail : tail = "" ∨ isAbsolute tail = true

/-- A path without `~` at its beginning names no user. -/
theorem homeOwner?_eq_none {s : List Char} (h : s.head? ≠ some '~') : Chars.homeOwner? s = none := by
  unfold Chars.homeOwner?
  split
  · exact absurd rfl h
  · rfl

/-- The user is found by the name up to the next slash. -/
theorem NamesUser.homeOwner?_eq (h : NamesUser p name tail) :
    Chars.homeOwner? p.toList = some name.toList ∧ p.toList.dropWhile (· != '/') = tail.toList := by
  have hchars : p.toList = '~' :: (name.toList ++ tail.toList) := by
    rw [h.parts, String.toList_append, String.toList_append]
    rfl
  have hall : ∀ c ∈ name.toList, (c != '/') = true := fun c hc => bne_iff_ne.mpr fun hslash => h.slash (hslash ▸ hc)
  have hrest : tail.toList.takeWhile (· != '/') = [] ∧ tail.toList.dropWhile (· != '/') = tail.toList := by
    rcases h.tail with rfl | htail
    · exact ⟨rfl, rfl⟩
    · rw [isAbsolute] at htail
      generalize tail.toList = s at htail ⊢
      rcases s with _ | ⟨c, cs⟩
      · exact ⟨rfl, rfl⟩
      · obtain rfl : c = '/' := by simpa [Chars.isAbsolute] using htail
        exact ⟨rfl, rfl⟩
  constructor
  · rw [hchars, Chars.homeOwner?, List.takeWhile_append_of_pos hall, hrest.1, List.append_nil]
  · rw [hchars, List.dropWhile_cons_of_pos (by decide), List.dropWhile_append_of_pos hall, hrest.2]

/-- A user that is found is named. -/
theorem exists_namesUser {owner : List Char} (h : Chars.homeOwner? p.toList = some owner) :
    ∃ tail, NamesUser p (String.ofList owner) tail := by
  unfold Chars.homeOwner? at h
  split at h
  · next rest hp =>
    obtain rfl := Option.some.inj h
    refine ⟨String.ofList (rest.dropWhile (· != '/')), ?_, fun hslash => ?_, ?_⟩
    · rw [String.append_assoc, ← String.ofList_append, List.takeWhile_append_dropWhile, ← String.toList_inj, hp,
        String.toList_append, String.toList_ofList, String.toList_ofList]
      rfl
    · rw [String.toList_ofList] at hslash
      exact absurd (List.mem_takeWhile_imp hslash) (by decide)
    · rcases hrest : rest.dropWhile (· != '/') with _ | ⟨c, cs⟩
      · exact .inl rfl
      · have hc := List.head_dropWhile_not (· != '/') (l := rest) (by simp [hrest])
        refine .inr ?_
        rw [isAbsolute, String.toList_ofList, Chars.isAbsolute]
        simpa [hrest] using hc
  · exact absurd h (by simp)

/-- A user cannot be looked up if a null character is in the name. -/
theorem ownerHasNull_iff (p : String) :
    ownerHasNull p = true ↔ ∃ name tail, NamesUser p name tail ∧ Char.ofNat 0 ∈ name.toList := by
  rw [ownerHasNull, Option.any_eq_true]
  constructor
  · rintro ⟨owner, howner, hnull⟩
    obtain ⟨tail, huser⟩ := exists_namesUser howner
    exact ⟨_, tail, huser, by simpa using hnull⟩
  · rintro ⟨name, tail, huser, hnull⟩
    exact ⟨name.toList, huser.homeOwner?_eq.1, by simpa using hnull⟩

/-- A path stays as it is if it names no user, or one whose home is not known. -/
theorem expandHome_eq_self
    (h : p.toList.head? ≠ some '~' ∨ ∃ name tail, NamesUser p name tail ∧ homes.find? name = none) :
    expandHome homes p = p := by
  have hnone : (Chars.homeOwner? p.toList).bind homes.chars? = none := by
    rcases h with h | ⟨name, tail, huser, hfind⟩
    · rw [homeOwner?_eq_none h]
      rfl
    · rw [huser.homeOwner?_eq.1, Option.bind_some, Homes.chars?, String.ofList_toList, hfind]
      rfl
  rw [expandHome, Chars.expandHome, hnone, String.ofList_toList]

/-- A home without the slashes at its end leads where the home leads. -/
theorem descend_cuts_trimEnd (s : List Char) (start : Place) :
    descend start (cuts (String.ofList (Text.trimEnd (· == '/') s))) = descend start (cuts (String.ofList s)) := by
  obtain ⟨ending, hs, hslash⟩ := trimEnd_append (· == '/') s
  conv => rhs; rw [hs]
  rw [cuts_append_slashes _ _ fun c hc => beq_iff_eq.mp (hslash c hc), descend_append, descend_replicate_empty]

/-- What follows from a slash on is followed from where the path before it leads. -/
theorem descend_cuts_append (htail : tail = "" ∨ isAbsolute tail = true) (s : List Char) (start : Place) :
    descend start (cuts (String.ofList (s ++ tail.toList))) =
      descend (descend start (cuts (String.ofList s))) (cuts tail) := by
  rcases htail with rfl | htail
  · rw [String.toList_empty, List.append_nil]
    rfl
  · obtain ⟨rest, hrest⟩ : ∃ rest, tail.toList = '/' :: rest := by
      rw [isAbsolute, Chars.isAbsolute, beq_iff_eq] at htail
      exact ⟨_, List.eq_cons_of_mem_head? htail⟩
    have hcuts := descend_cuts_slash (descend start (cuts (String.ofList s))) rest
    rw [← hrest, String.ofList_toList] at hcuts
    rw [hcuts, hrest, cuts_append_slash, descend_append]

/-- The home of a known user stands in the place of the name. -/
theorem NamesUser.place_expandHome (h : NamesUser p name tail) (hfind : homes.find? name = some home)
    (hhome : isAbsolute home = true) :
    isAbsolute (expandHome homes p) = true ∧ place (expandHome homes p) = descend (place home) (cuts tail) := by
  obtain ⟨howner, hdrop⟩ := h.homeOwner?_eq
  have hchars : homes.chars? name.toList = some home.toList := by
    rw [Homes.chars?, String.ofList_toList, hfind]
    rfl
  have hplace := descend_cuts_trimEnd home.toList []
  obtain ⟨ending, hending, -⟩ := trimEnd_append (· == '/') home.toList
  rw [String.ofList_toList] at hplace
  rw [expandHome, Chars.expandHome, howner, Option.bind_some, hchars]
  simp only [hdrop]
  generalize Text.trimEnd (· == '/') home.toList = trimmed at hplace hending ⊢
  rw [place, place, ← hplace, ← descend_cuts_append h.tail]
  split
  · next hempty =>
    -- the home is the root, and nothing follows
    rw [List.isEmpty_iff.mp hempty]
    exact ⟨rfl, rfl⟩
  · next hempty =>
    refine ⟨?_, rfl⟩
    rw [isAbsolute, String.toList_ofList]
    rcases trimmed with _ | ⟨c, cs⟩
    · rcases h.tail with rfl | htail
      · exact absurd rfl hempty
      · exact htail
    · rw [isAbsolute, hending] at hhome
      exact hhome

/-! ### Configured directories -/

/-- A directory can be configured unless it begins with the name of a user that cannot be looked up. From a canonical
working directory, nothing is no special case. -/
theorem directory_eq (hcwd : IsCanonical cwd) (homes : Homes) (p : String) :
    directory cwd homes p =
      if ownerHasNull p then .error nullOwner else .ok (absolute cwd (expandHome homes p)) := by
  rw [directory]
  split
  · next hempty =>
    obtain rfl := String.isEmpty_iff.mp hempty
    rw [if_neg (by decide), expandHome_eq_self (.inl (by decide)), hcwd.absolute_empty]
  · rfl

/-- A canonical directory is left as it is, wherever it is seen from and whoever's homes are known. -/
theorem IsCanonical.directory_eq (h : IsCanonical p) (cwd : String) (homes : Homes) :
    directory cwd homes p = .ok p := by
  have hfirst : p.toList.head? ≠ some '~' := by
    have habsolute := h.isAbsolute
    rw [Path.isAbsolute, Chars.isAbsolute, beq_iff_eq] at habsolute
    rw [habsolute]
    decide
  rw [directory, ne_empty_of_isAbsolute h.isAbsolute, ownerHasNull, homeOwner?_eq_none hfirst,
    expandHome_eq_self (.inl hfirst), h.absolute_eq]
  rfl

/-- **Configured directories are canonical.** Seen from a canonical working directory, a configured directory is a
canonical spelling, and is left as it is when it is configured again, from wherever. If the path does not begin with
`~`, or begins with a user whose home is not known, the directory is where the path leads from the working directory;
and two slashes stand at its beginning if exactly two stand there in the path, or in the working directory if the path
is not absolute. With a user whose home is known, it is where the rest of the path leads from that home. Only if the
name of the user holds a null character there is no directory. -/
theorem directory_characterized (hcwd : IsCanonical cwd) (homes : Homes) (p : String) :
    ((∃ name tail, NamesUser p name tail ∧ Char.ofNat 0 ∈ name.toList) → directory cwd homes p = .error nullOwner) ∧
    ((∀ name tail, NamesUser p name tail → Char.ofNat 0 ∉ name.toList) →
      ∃ dir, directory cwd homes p = .ok dir ∧ IsCanonical dir ∧
        (∀ cwd' homes', directory cwd' homes' dir = .ok dir) ∧
        ((p.toList.head? ≠ some '~' ∨ ∃ name tail, NamesUser p name tail ∧ homes.find? name = none) →
          place dir = placeFrom cwd p ∧
            (leadingSlashes dir = 2 ↔ leadingSlashes (if isAbsolute p then p else cwd) = 2)) ∧
        ∀ name tail home, NamesUser p name tail → homes.find? name = some home → isAbsolute home = true →
          place dir = descend (place home) (cuts tail)) := by
  rw [directory_eq hcwd, ← ownerHasNull_iff]
  refine ⟨fun hnull => if_pos hnull, fun hname => ?_⟩
  have hnull : ¬ownerHasNull p = true := by
    rw [ownerHasNull_iff]
    rintro ⟨name, tail, huser, hmem⟩
    exact hname name tail huser hmem
  have hcanonical := isCanonical_absolute hcwd.isAbsolute (expandHome homes p)
  refine ⟨absolute cwd (expandHome homes p), if_neg hnull, hcanonical, hcanonical.directory_eq, fun hplain => ?_,
    fun name tail home huser hfind hhome => ?_⟩
  · rw [expandHome_eq_self hplain]
    exact ⟨place_absolute hcwd.isAbsolute p, leadingSlashes_absolute hcwd.isAbsolute p⟩
  · obtain ⟨habsolute, hplace⟩ := huser.place_expandHome hfind hhome
    rw [place_absolute hcwd.isAbsolute, placeFrom, if_pos habsolute, hplace]

/-- The homes of two users, one of them on another machine. -/
def Homes.pair : Homes := ⟨"/home/me/", fun name => if name = "you" then some "//net/you" else none⟩

/-- A directory beside the home of the other user, and one above the root. -/
theorem pair_directories : IsCanonical "/w" ∧
    (∃ dir, directory "/w" .pair "~you/../a//b/." = .ok dir ∧ IsCanonical dir ∧ place dir = ["net", "a", "b"] ∧
      directory "/" (.single "/") dir = .ok dir) ∧
    ∃ dir, directory "/w" .pair "//../x/..//y/" = .ok dir ∧ place dir = ["y"] ∧ leadingSlashes dir = 2 := by
  have hcwd : IsCanonical "/w" := by decide
  refine ⟨hcwd, ?_, ?_⟩
  · have hnull := mt (ownerHasNull_iff "~you/../a//b/.").mpr (by decide)
    obtain ⟨dir, hdir, hcanonical, hstays, -, hhome⟩ := (directory_characterized hcwd .pair "~you/../a//b/.").2
      fun name tail huser hmem => hnull ⟨name, tail, huser, hmem⟩
    refine ⟨dir, hdir, hcanonical, ?_, hstays _ _⟩
    rw [hhome "you" "/../a//b/." "//net/you" ⟨by decide, by decide, .inr (by decide)⟩ (by decide) (by decide)]
    decide
  · have hnull := mt (ownerHasNull_iff "//../x/..//y/").mpr (by decide)
    obtain ⟨dir, hdir, -, -, hplain, -⟩ := (directory_characterized hcwd .pair "//../x/..//y/").2
      fun name tail huser hmem => hnull ⟨name, tail, huser, hmem⟩
    obtain ⟨hplace, hslashes⟩ := hplain (.inl (by decide))
    exact ⟨dir, hdir, hplace.trans (by decide), hslashes.mpr (by decide)⟩

/-- The name of a user with a null character makes no directory: it is not left as it is, though nobody is known by
it. -/
theorem not_directory_canonical : IsCanonical "/w" ∧ isAbsolute Homes.pair.own = true ∧
    Homes.pair.find? "\x00" = none ∧ directory "/w" .pair "~\x00" = .error nullOwner ∧
    ¬∃ dir, directory "/w" .pair "~\x00" = .ok dir := by
  have hcwd : IsCanonical "/w" := by decide
  have hrefused : directory "/w" .pair "~\x00" = .error nullOwner :=
    (directory_eq hcwd _ _).trans (if_pos (by decide))
  refine ⟨hcwd, by decide, by decide, hrefused, ?_⟩
  rintro ⟨dir, hdir⟩
  rw [hrefused] at hdir
  exact absurd hdir (by simp)

end StaticSite.Path
