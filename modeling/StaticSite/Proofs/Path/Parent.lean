import Mathlib.Data.List.Induction
import StaticSite.Proofs.Path.Place

/-!
# The directory of a path

The directory of a path is its spelling up to the last slash, without slashes at the end. Its pieces
are those of the path before the last one, so that a path spells one step from its directory.

## Main results

* `Path.cuts_parent`: the pieces of the directory of a path.
* `Path.place_eq_step`: the place of a path is one step from that of its directory.
* `Path.placeFrom_eq_append`: the same from any working directory, for a path that ends with a name.
* `Path.baseName_parent`: the directory of a path has a base name, or is the root.
-/

namespace StaticSite.Path

open Text

/-! ### Slashes at the end -/

/-- A text is its trimmed form and trimmed characters after it. -/
theorem trimEnd_append (p : Char → Bool) (s : List Char) :
    ∃ tail, s = trimEnd p s ++ tail ∧ ∀ c ∈ tail, p c = true := by
  refine ⟨(s.reverse.takeWhile p).reverse, ?_, fun c hc => ?_⟩
  · rw [trimEnd, ← List.reverse_append, List.takeWhile_append_dropWhile, List.reverse_reverse]
  · exact List.mem_takeWhile_imp (List.mem_reverse.mp hc)

/-- A trimmed text does not end with a trimmed character. -/
theorem getLast?_trimEnd {p : Char → Bool} {s : List Char} {c : Char}
    (h : (trimEnd p s).getLast? = some c) : p c = false := by
  rw [trimEnd, List.getLast?_reverse] at h
  rcases hd : s.reverse.dropWhile p with _ | ⟨x, xs⟩
  · simp [hd] at h
  · have := List.head_dropWhile_not p (l := s.reverse) (by simp [hd])
    rw [hd] at h
    simp only [List.head?_cons, Option.some.injEq] at h
    simpa [hd, h] using this

/-- Slashes after a path are pieces without a text. -/
theorem cuts_append_slashes (a tail : List Char) (h : ∀ c ∈ tail, c = '/') :
    cuts (String.ofList (a ++ tail)) =
      cuts (String.ofList a) ++ List.replicate tail.length "" := by
  induction tail using List.reverseRecOn with
  | nil => simp
  | append_singleton init last ih =>
    obtain rfl : last = '/' := h last (by simp)
    have hinit := ih fun c hc => h c (List.mem_append_left _ hc)
    have hcut := cuts_append_slash (a ++ init) []
    have hnil : cuts (String.ofList []) = [""] := rfl
    rw [← List.append_assoc, hcut, hinit, hnil, List.length_append, List.length_singleton,
      List.replicate_succ', List.append_assoc]

/-- Pieces without a text stay where they are. -/
theorem descend_replicate_empty (p : Place) (k : Nat) : descend p (List.replicate k "") = p := by
  induction k with
  | zero => rfl
  | succ k ih => rw [List.replicate_succ, descend_cons, step_empty, ih]

/-! ### The directory -/

/-- The path is made of slashes. -/
def isRoot (p : String) : Bool := p.toList.all (· == '/')

/-- The pieces of the directory of a path, with as many empty ones as slashes were trimmed, are those
of the path before its last piece, and an empty one. -/
theorem cuts_parent (p : String) :
    ∃ k, cuts (parent p) ++ List.replicate k "" = (cuts p).dropLast ++ [""] := by
  rw [← (cuts_throughSlash p).1, parent, Chars.parent]
  split
  · exact ⟨0, by simp⟩
  · obtain ⟨tail, htail, hslash⟩ :=
      trimEnd_append (· == '/') (Chars.throughSlash p.toList)
    have hslash : ∀ c ∈ tail, c = '/' := fun c hc => by simpa using hslash c hc
    refine ⟨tail.length, ?_⟩
    rw [← cuts_append_slashes _ _ hslash, ← htail]

/-- The directory of a path leads where the pieces before the last one do. -/
theorem descend_cuts_parent (start : Place) (p : String) :
    descend start (cuts (parent p)) = descend start (cuts p).dropLast := by
  obtain ⟨k, hk⟩ := cuts_parent p
  have hplace := congrArg (descend start) hk
  rwa [descend_append, descend_replicate_empty, descend_append, descend_cons, step_empty,
    descend_nil] at hplace

/-- The pieces before the last one lead to the place of the directory. -/
theorem descend_dropLast_cuts (p : String) : descend [] (cuts p).dropLast = place (parent p) :=
  (descend_cuts_parent [] p).symm

/-- The place of a path is one step from that of its directory. -/
theorem place_eq_step (p : String) : place p = step (place (parent p)) (baseName p) := by
  rw [← descend_dropLast_cuts, place, cuts_eq_dropLast_append p, descend_append]
  simp

/-- The place of a path whose last piece is a name is that name below the place of its directory. -/
theorem place_eq_append {p : String} (h : IsName (baseName p)) :
    place p = place (parent p) ++ [baseName p] := by
  rw [place_eq_step, step_name _ h.ne_empty h.ne_dot h.ne_up]

/-- The directory of a path is a beginning of it. -/
theorem prefix_parent (p : String) : (parent p).toList <+: p.toList := by
  have hthrough : Chars.throughSlash p.toList <+: p.toList :=
    ⟨_, throughSlash_append_baseName p.toList⟩
  rw [parent, String.toList_ofList, Chars.parent]
  split
  · exact hthrough
  · obtain ⟨tail, htail, -⟩ := trimEnd_append (· == '/') (Chars.throughSlash p.toList)
    exact List.IsPrefix.trans ⟨tail, htail.symm⟩ hthrough

/-- A path begins with its directory and a slash, if it has one. -/
theorem join_parent_prefix {p : String} (h : parent p ≠ "") : (join (parent p) "").toList <+: p.toList := by
  have hne : Chars.parent p.toList ≠ [] := fun hnil => h (by rw [parent, hnil])
  have hthrough : Chars.throughSlash p.toList <+: p.toList :=
    ⟨_, throughSlash_append_baseName p.toList⟩
  refine List.IsPrefix.trans ?_ hthrough
  rw [parent, join, String.toList_ofList, String.toList_ofList, String.toList_empty]
  rw [Chars.parent] at hne ⊢
  split at hne
  · next hall =>
    -- a directory made of slashes ends with one already
    obtain ⟨a, ha⟩ := (throughSlash_eq p.toList).resolve_left hne
    have hjoin : Chars.join (Chars.throughSlash p.toList) [] = Chars.throughSlash p.toList := by
      rw [Chars.join, if_neg (by decide), if_pos (by simp [ha]), List.append_nil]
    exact ⟨[], by rw [if_pos hall, hjoin, List.append_nil]⟩
  · next hall =>
    rw [if_neg hall, Chars.join, if_neg (by decide)]
    obtain ⟨tail, htail, hslash⟩ := trimEnd_append (· == '/') (Chars.throughSlash p.toList)
    have hlast : (trimEnd (· == '/') (Chars.throughSlash p.toList)).getLast? ≠ some '/' := fun hlast =>
      absurd (getLast?_trimEnd hlast) (by decide)
    rw [if_neg (by simp [hne, hlast])]
    -- what was trimmed are slashes, and at least one
    obtain ⟨a, ha⟩ := (throughSlash_eq p.toList).resolve_left fun hnil => hall (by simp [hnil])
    cases tail with
    | nil =>
      rw [List.append_nil] at htail
      rw [← htail, ha] at hlast
      simp at hlast
    | cons c tail =>
      obtain rfl : c = '/' := by simpa using hslash c List.mem_cons_self
      exact ⟨tail, by rw [List.append_assoc]; exact htail.symm⟩

/-- The directory of an absolute path is absolute. -/
theorem isAbsolute_parent {p : String} (h : isAbsolute p = true) : isAbsolute (parent p) = true := by
  have hthrough : Chars.isAbsolute (Chars.throughSlash p.toList) = true := by
    have hsplit := throughSlash_append_baseName p.toList
    rw [isAbsolute] at h
    rcases ht : Chars.throughSlash p.toList with _ | ⟨c, cs⟩
    · -- without a slash there is no absolute path
      rw [ht, List.nil_append] at hsplit
      have hbase := slash_notMem_baseName p.toList
      rw [hsplit] at hbase
      have := isAbsolute_of_notMem hbase
      rw [isAbsolute, h] at this
      exact absurd this (by simp)
    · rw [← hsplit, ht] at h
      simpa [Chars.isAbsolute] using h
  rw [isAbsolute, parent, String.toList_ofList, Chars.parent]
  split
  · exact hthrough
  · next hall =>
    obtain ⟨tail, htail, hslash⟩ := trimEnd_append (· == '/') (Chars.throughSlash p.toList)
    rcases ht : trimEnd (· == '/') (Chars.throughSlash p.toList) with _ | ⟨c, cs⟩
    · rw [ht, List.nil_append] at htail
      rw [htail] at hall
      exact absurd (List.all_eq_true.mpr hslash) hall
    · rw [htail, ht] at hthrough
      simpa [Chars.isAbsolute] using hthrough

/-- The directory of a path has a base name, or is made of slashes. -/
theorem baseName_parent (p : String) : baseName (parent p) ≠ "" ∨ isRoot (parent p) = true := by
  rw [parent, Chars.parent]
  split
  · next hall => exact .inr (by simpa [isRoot] using hall)
  · refine or_iff_not_imp_right.mpr fun hroot hbase => hroot ?_
    -- a spelling that does not end with a slash has a base name, unless it is empty
    rcases hl : (trimEnd (· == '/') (Chars.throughSlash p.toList)).getLast? with _ | c
    · rw [List.getLast?_eq_none_iff] at hl
      simp [isRoot, hl]
    · have hc := getLast?_trimEnd hl
      obtain ⟨init, hinit⟩ := List.getLast?_eq_some_iff.mp hl
      rw [hinit, baseName, String.toList_ofList, Chars.baseName] at hbase
      rw [beq_eq_false_iff_ne] at hc
      have := congrArg String.toList hbase
      simp [hc] at this

/-- The directory of a path is no longer than the path. -/
theorem utf8ByteSize_parent_le (p : String) : (parent p).utf8ByteSize ≤ p.utf8ByteSize := by
  have hsplit := throughSlash_append_baseName p.toList
  have hthrough : (String.ofList (Chars.throughSlash p.toList)).utf8ByteSize ≤ p.utf8ByteSize := by
    have hp := congrArg (fun l => (String.ofList l).utf8ByteSize) hsplit
    rw [String.ofList_append, String.utf8ByteSize_append, String.ofList_toList] at hp
    omega
  refine le_trans ?_ hthrough
  rw [parent, Chars.parent]
  split
  · exact le_refl _
  · obtain ⟨tail, htail, -⟩ := trimEnd_append (· == '/') (Chars.throughSlash p.toList)
    have hp := congrArg (fun l => (String.ofList l).utf8ByteSize) htail
    rw [String.ofList_append, String.utf8ByteSize_append] at hp
    omega

/-- The directory of a path is part of what stands up to its last slash. -/
theorem length_parent_le_throughSlash (p : String) :
    (parent p).length ≤ (Chars.throughSlash p.toList).length := by
  rw [← String.length_toList, parent, String.toList_ofList, Chars.parent]
  split
  · exact le_refl _
  · obtain ⟨tail, htail, -⟩ := trimEnd_append (· == '/') (Chars.throughSlash p.toList)
    have hp := congrArg List.length htail
    rw [List.length_append] at hp
    omega

/-- The directory of a path is not longer. -/
theorem length_parent_le (p : String) : (parent p).length ≤ p.length := by
  have hsplit := congrArg List.length (throughSlash_append_baseName p.toList)
  have hparent := length_parent_le_throughSlash p
  rw [List.length_append, String.length_toList] at hsplit
  omega

/-- A path with a base name is longer than its directory. -/
theorem length_parent_lt {p : String} (h : baseName p ≠ "") : (parent p).length < p.length := by
  have hsplit := congrArg List.length (throughSlash_append_baseName p.toList)
  have hbase : 0 < (Chars.baseName p.toList).length := by
    rw [List.length_pos_iff]
    intro hnil
    exact h (by simp [baseName, hnil])
  have hparent := length_parent_le_throughSlash p
  rw [List.length_append, String.length_toList] at hsplit
  omega

/-- Every character of the directory of a path is one of the path. -/
theorem mem_parent {p : String} {c : Char} (h : c ∈ (parent p).toList) : c ∈ p.toList :=
  (prefix_parent p).subset h

/-- The directory of a path begins at the root exactly if the path does. -/
theorem isAbsolute_parent_eq (p : String) : isAbsolute (parent p) = isAbsolute p := by
  by_cases h : isAbsolute p = true
  · rw [h, isAbsolute_parent h]
  · rw [Bool.not_eq_true] at h
    rw [h]
    obtain ⟨rest, hrest⟩ := prefix_parent p
    rw [isAbsolute] at h ⊢
    rcases hl : (parent p).toList with _ | ⟨c, cs⟩
    · rfl
    · rw [← hrest, hl] at h
      exact h

/-- A path whose last piece is a name is that name below its directory, wherever both are seen from. -/
theorem placeFrom_eq_append {p : String} (h : IsName (baseName p)) (cwd : String) :
    placeFrom cwd p = placeFrom cwd (parent p) ++ [baseName p] := by
  rw [placeFrom_eq, placeFrom_eq, isAbsolute_parent_eq, descend_cuts_parent]
  conv => lhs; rw [cuts_eq_dropLast_append p]
  rw [descend_append, descend_cons, step_name _ h.ne_empty h.ne_dot h.ne_up, descend_nil]

end StaticSite.Path
