import Mathlib.Data.List.TakeWhile
import StaticSite.Path.Basic

/-!
# The cuts of a path

A path is read as the list of its pieces between slashes. This module says how the pieces of a path
come about when paths are put together or taken apart: the operations on spellings become
operations on lists of pieces, and nothing after this module looks at a slash again.

## Main results

* `splitOn_join`: cutting what was joined gives its pieces back.
* `Path.cuts_join`: the pieces of a joined path.
* `Path.cuts_throughSlash_append`: the pieces of a path whose last piece is replaced.
-/

namespace StaticSite

namespace Text

/-! ### Cutting off a beginning -/

/-- A known beginning and the rest are the text. -/
theorem append_of_stripStart? {start text rest : List Char}
    (h : stripStart? start text = some rest) : start ++ rest = text := by
  induction start generalizing text with
  | nil => simpa [stripStart?, eq_comm] using h
  | cons c start ih =>
    cases text with
    | nil => simp [stripStart?] at h
    | cons x text =>
      rw [stripStart?] at h
      split at h
      · next heq => rw [List.cons_append, ih h, beq_iff_eq.mp heq]
      · exact absurd h (by simp)

/-- The rest of a text after a known beginning. -/
theorem stripStart?_append (start rest : List Char) :
    stripStart? start (start ++ rest) = some rest := by
  induction start with
  | nil => rfl
  | cons c start ih => rw [List.cons_append, stripStart?, if_pos (beq_self_eq_true c), ih]

/-! ### Cutting at a character -/

/-- A cut always leaves a piece. -/
@[simp] theorem splitOn_ne_nil (sep : Char) (s : List Char) : splitOn sep s ≠ [] := by
  cases s with
  | nil => simp [splitOn]
  | cons c cs =>
    rw [splitOn]
    split
    · simp
    · split <;> simp

/-- A text without the separator is one piece. -/
theorem splitOn_of_notMem {sep : Char} {s : List Char} (h : sep ∉ s) : splitOn sep s = [s] := by
  induction s with
  | nil => rfl
  | cons c cs ih =>
    rw [List.mem_cons, not_or] at h
    rw [splitOn, ih h.2]
    simp [Ne.symm h.1]

/-- A separator cuts: the pieces before it and the pieces after it. -/
theorem splitOn_append_cons (sep : Char) (a b : List Char) :
    splitOn sep (a ++ sep :: b) = splitOn sep a ++ splitOn sep b := by
  induction a with
  | nil => simp [splitOn]
  | cons c cs ih =>
    by_cases hc : c = sep
    · simp [splitOn, hc, ih]
    · rcases hs : splitOn sep cs with _ | ⟨piece, pieces⟩
      · exact absurd hs (splitOn_ne_nil sep cs)
      · simp [splitOn, hc, ih, hs]

/-- No piece holds the separator. -/
theorem notMem_of_mem_splitOn {sep : Char} {s c : List Char} (h : c ∈ splitOn sep s) :
    sep ∉ c := by
  induction s generalizing c with
  | nil => simp_all [splitOn]
  | cons x xs ih =>
    rw [splitOn] at h
    split at h
    · rcases List.mem_cons.mp h with rfl | h
      · simp
      · exact ih h
    · next hx =>
      have hx : ¬x = sep := by simpa using hx
      rcases hs : splitOn sep xs with _ | ⟨piece, pieces⟩
      · exact absurd hs (splitOn_ne_nil sep xs)
      · rw [hs] at h ih
        rcases List.mem_cons.mp h with rfl | h
        · simp [Ne.symm hx, ih List.mem_cons_self]
        · exact ih (List.mem_cons_of_mem _ h)

/-- Cutting a joined text gives the pieces back. -/
theorem splitOn_join {sep : Char} {pieces : List (List Char)} (hne : pieces ≠ [])
    (h : ∀ c ∈ pieces, sep ∉ c) : splitOn sep (join [sep] pieces) = pieces := by
  induction pieces with
  | nil => exact absurd rfl hne
  | cons piece rest ih =>
    have hp := h piece List.mem_cons_self
    cases rest with
    | nil => simpa [join] using splitOn_of_notMem hp
    | cons next rest =>
      have := ih (by simp) fun c hc => h c (List.mem_cons_of_mem _ hc)
      simp only [join, List.append_assoc, List.singleton_append]
      rw [splitOn_append_cons, splitOn_of_notMem hp, this]
      rfl

end Text

namespace Path

open Text

/-! ### The pieces of a path -/

/-- The pieces of a path between its slashes. -/
def cuts (p : String) : List String := (splitOn '/' p.toList).map String.ofList

@[simp] theorem cuts_ne_nil (p : String) : cuts p ≠ [] := by simp [cuts]

/-- No piece of a path holds a slash. -/
theorem slash_notMem_of_mem_cuts {p c : String} (h : c ∈ cuts p) : '/' ∉ c.toList := by
  obtain ⟨cs, hcs, rfl⟩ := List.mem_map.mp h
  simpa using notMem_of_mem_splitOn hcs

/-- A text without a slash is one piece. -/
theorem cuts_of_notMem {p : String} (h : '/' ∉ p.toList) : cuts p = [p] := by
  simp [cuts, splitOn_of_notMem h]

/-- Two paths around a slash: the pieces of the one and then those of the other. -/
theorem cuts_append_slash (a b : List Char) :
    cuts (String.ofList (a ++ '/' :: b)) = cuts (String.ofList a) ++ cuts (String.ofList b) := by
  simp [cuts, splitOn_append_cons]

/-- The pieces of a joined path are those of its two parts, where an empty last piece of the first
part is dropped. -/
theorem cuts_join {p q : String} (hq : Chars.isAbsolute q.toList = false) :
    ∃ start, cuts (join p q) = start ++ cuts q ∧
      (cuts p = start ∨ cuts p = start ++ [""]) := by
  rw [join, Chars.join, if_neg (by simp [hq])]
  by_cases hempty : p.toList = []
  · exact ⟨[], by simp [hempty, cuts], .inr (by simp [cuts, hempty, splitOn])⟩
  by_cases hlast : p.toList.getLast? = some '/'
  · obtain ⟨a, ha⟩ := List.getLast?_eq_some_iff.mp hlast
    refine ⟨cuts (String.ofList a), ?_, .inr ?_⟩
    · rw [if_pos (by simp [hlast]), ha, List.append_assoc, List.singleton_append,
        cuts_append_slash]
      simp
    · have := cuts_append_slash a []
      rw [← ha] at this
      simpa [cuts, splitOn] using this
  · refine ⟨cuts p, ?_, .inl rfl⟩
    rw [if_neg (by simp [hempty, hlast]), cuts_append_slash]
    simp

/-! ### The last piece -/

/-- A path is what stands through its last slash, and its base name. -/
theorem throughSlash_append_baseName (p : List Char) :
    Chars.throughSlash p ++ Chars.baseName p = p := by
  rw [Chars.throughSlash, Chars.baseName, ← List.reverse_append, List.takeWhile_append_dropWhile,
    List.reverse_reverse]

/-- A base name holds no slash. -/
theorem slash_notMem_baseName (p : List Char) : '/' ∉ Chars.baseName p := by
  intro h
  have := List.mem_takeWhile_imp (List.mem_reverse.mp h)
  simp at this

/-- What stands through the last slash is nothing or ends with that slash. -/
theorem throughSlash_eq (p : List Char) :
    Chars.throughSlash p = [] ∨ ∃ a, Chars.throughSlash p = a ++ ['/'] := by
  rw [Chars.throughSlash]
  rcases hd : p.reverse.dropWhile (· != '/') with _ | ⟨c, rest⟩
  · exact .inl rfl
  · have hc : c = '/' := by
      have := List.head_dropWhile_not (· != '/') (l := p.reverse) (by simp [hd])
      simpa [hd] using this
    exact .inr ⟨rest.reverse, by simp [hc]⟩

/-- The pieces through the last slash are all but the last, and then nothing. -/
theorem cuts_throughSlash (p : String) :
    cuts (String.ofList (Chars.throughSlash p.toList)) = (cuts p).dropLast ++ [""] ∧
      (cuts p).getLast? = some (baseName p) := by
  have hbase := slash_notMem_baseName p.toList
  have hp := throughSlash_append_baseName p.toList
  rcases throughSlash_eq p.toList with h | ⟨a, h⟩
  · rw [h, List.nil_append] at hp
    rw [hp] at hbase
    rw [cuts_of_notMem hbase, h, baseName, hp]
    simp [cuts, splitOn]
  · have hcuts : cuts p = cuts (String.ofList a) ++ [baseName p] := by
      have := cuts_append_slash a (Chars.baseName p.toList)
      have hpiece : cuts (baseName p) = [baseName p] :=
        cuts_of_notMem (by simpa [baseName] using hbase)
      rw [h, List.append_assoc, List.singleton_append] at hp
      rw [hp, String.ofList_toList] at this
      rw [this, ← hpiece, baseName]
    rw [h, cuts_append_slash, hcuts]
    simp [cuts, splitOn]

/-- The last piece of a path is its base name. -/
theorem getLast?_cuts (p : String) : (cuts p).getLast? = some (baseName p) :=
  (cuts_throughSlash p).2

/-- The pieces of a path are those before its base name, and the base name. -/
theorem cuts_eq_dropLast_append (p : String) : cuts p = (cuts p).dropLast ++ [baseName p] := by
  obtain ⟨l, hl⟩ := List.getLast?_eq_some_iff.mp (getLast?_cuts p)
  rw [hl]
  simp

/-- Another base name in the place of the last piece. -/
theorem cuts_throughSlash_append (p : String) {n : List Char} (hn : '/' ∉ n) :
    cuts (String.ofList (Chars.throughSlash p.toList ++ n)) =
      (cuts p).dropLast ++ [String.ofList n] := by
  rcases throughSlash_eq p.toList with h | ⟨a, h⟩
  · have hp := throughSlash_append_baseName p.toList
    have hbase := slash_notMem_baseName p.toList
    rw [h, List.nil_append] at hp
    rw [hp] at hbase
    have hpiece : cuts (String.ofList n) = [String.ofList n] := cuts_of_notMem (by simpa using hn)
    rw [h, List.nil_append, cuts_of_notMem hbase, hpiece]
    rfl
  · have h' := (cuts_throughSlash p).1
    rw [h, cuts_append_slash] at h'
    have hstart : cuts (String.ofList a) = (cuts p).dropLast := by
      have : cuts (String.ofList []) = [""] := rfl
      rw [this] at h'
      exact List.append_inj_left' h' rfl
    have hpiece : cuts (String.ofList n) = [String.ofList n] := cuts_of_notMem (by simpa using hn)
    rw [h, List.append_assoc, List.singleton_append, cuts_append_slash, hstart, hpiece]

/-- A base name put after what stands through the last slash of a path is a base name. -/
theorem baseName_throughSlash_append (p : String) {n : List Char} (hn : '/' ∉ n) :
    baseName (String.ofList (Chars.throughSlash p.toList ++ n)) = String.ofList n := by
  have hlast := getLast?_cuts (String.ofList (Chars.throughSlash p.toList ++ n))
  rw [cuts_throughSlash_append p hn, List.getLast?_concat] at hlast
  exact (Option.some.inj hlast).symm

end Path

end StaticSite
