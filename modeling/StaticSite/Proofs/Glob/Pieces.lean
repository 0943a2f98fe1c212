import StaticSite.Glob.Basic

/-!
# What the pieces of a glob match

The pieces of a glob are matched one after another, so a text is matched by pieces put together exactly if it can
be cut into texts that the parts match. Literal characters match themselves and nothing else, and `*` matches every
text, slashes included.

## Main results

* `Glob.matchPieces_append_iff`: pieces put together.
* `Glob.matchPieces_many_iff`, `Glob.matchPieces_exactly_iff`: a `*`, and literal characters.
* `Glob.parse_append`: a literal beginning of a glob stands for itself.
-/

namespace StaticSite.Glob

variable {ps qs : List Piece} {s t : List Char}

/-! ### Matching -/

/-- The endings of a text are what remains after a part of it. -/
theorem mem_endings_iff : t ∈ endings s ↔ t <:+ s := by
  induction s with
  | nil => rw [endings, List.mem_singleton, List.suffix_nil]
  | cons c s ih => rw [endings, List.mem_cons, ih, List.suffix_cons_iff]

/-- A `*` matches any text, and what remains is matched by the pieces after it. -/
theorem matchPieces_many_iff :
    matchPieces (.many :: ps) s = true ↔ ∃ a b, a ++ b = s ∧ matchPieces ps b = true := by
  rw [matchPieces, List.any_eq_true]
  constructor
  · rintro ⟨b, hb, hmatch⟩
    obtain ⟨a, rfl⟩ := mem_endings_iff.mp hb
    exact ⟨a, b, rfl, hmatch⟩
  · rintro ⟨a, b, rfl, hmatch⟩
    exact ⟨b, mem_endings_iff.mpr (List.suffix_append a b), hmatch⟩

/-- A piece admits a character. -/
def Piece.admits : Piece → Char → Bool
  | .many, _ => true
  | .one, _ => true
  | .exactly a, c => c == a
  | .range negated ranges, c => inRanges ranges c != negated

/-- A piece other than `*` matches one character. -/
theorem matchPieces_cons_iff {piece : Piece} (h : piece ≠ .many) :
    matchPieces (piece :: ps) s = true ↔
      ∃ c rest, s = c :: rest ∧ piece.admits c = true ∧ matchPieces ps rest = true := by
  have hnil : matchPieces (piece :: ps) [] = false := by
    cases piece with
    | many => exact absurd rfl h
    | _ => rfl
  have hcons : ∀ c rest, matchPieces (piece :: ps) (c :: rest) = (piece.admits c && matchPieces ps rest) := by
    cases piece with
    | many => exact absurd rfl h
    | _ => exact fun _ _ => rfl
  cases s with
  | nil =>
    rw [hnil]
    exact ⟨nofun, fun ⟨_, _, heq, _⟩ => absurd heq nofun⟩
  | cons c rest =>
    rw [hcons, Bool.and_eq_true]
    constructor
    · exact fun hmatch => ⟨c, rest, rfl, hmatch⟩
    · rintro ⟨c, rest, heq, hmatch⟩
      obtain ⟨rfl, rfl⟩ := List.cons.inj heq
      exact hmatch

/-- Pieces put together match the texts put together of what they match. The induction is on the first pieces: what
a `*` among them matches comes before what is left of them. -/
theorem matchPieces_append_iff :
    matchPieces (ps ++ qs) s = true ↔
      ∃ a b, a ++ b = s ∧ matchPieces ps a = true ∧ matchPieces qs b = true := by
  induction ps generalizing s with
  | nil =>
    constructor
    · exact fun h => ⟨[], s, rfl, rfl, h⟩
    · rintro ⟨a, b, rfl, ha, hb⟩
      rw [List.isEmpty_iff.mp ha]
      exact hb
  | cons piece ps ih =>
    rw [List.cons_append]
    by_cases hmany : piece = .many
    · subst hmany
      rw [matchPieces_many_iff]
      constructor
      · rintro ⟨start, rest, rfl, hrest⟩
        obtain ⟨a, b, rfl, ha, hb⟩ := ih.mp hrest
        exact ⟨start ++ a, b, List.append_assoc .., matchPieces_many_iff.mpr ⟨start, a, rfl, ha⟩, hb⟩
      · rintro ⟨a, b, rfl, ha, hb⟩
        obtain ⟨start, rest, rfl, hrest⟩ := matchPieces_many_iff.mp ha
        exact ⟨start, rest ++ b, (List.append_assoc ..).symm, ih.mpr ⟨rest, b, rfl, hrest, hb⟩⟩
    · rw [matchPieces_cons_iff hmany]
      constructor
      · rintro ⟨c, rest, rfl, hc, hrest⟩
        obtain ⟨a, b, rfl, ha, hb⟩ := ih.mp hrest
        exact ⟨c :: a, b, rfl, (matchPieces_cons_iff hmany).mpr ⟨c, a, rfl, hc, ha⟩, hb⟩
      · rintro ⟨a, b, rfl, ha, hb⟩
        obtain ⟨c, rest, rfl, hc, hrest⟩ := (matchPieces_cons_iff hmany).mp ha
        exact ⟨c, rest ++ b, rfl, hc, ih.mpr ⟨rest, b, rfl, hrest, hb⟩⟩

/-- Literal characters match themselves. -/
theorem matchPieces_exactly_iff : matchPieces (s.map .exactly) t = true ↔ t = s := by
  induction s generalizing t with
  | nil => exact List.isEmpty_iff
  | cons c s ih =>
    rw [List.map_cons]
    cases t with
    | nil => simp [matchPieces]
    | cons d t => simp [matchPieces, ih]

/-! ### Parsing -/

/-- A literal beginning of a glob stands for itself. -/
theorem parse_append (h : ∀ c ∈ s, isWildcard c = false) (rest : List Char) :
    parse (s ++ rest) = s.map .exactly ++ parse rest := by
  induction s with
  | nil => rfl
  | cons c s ih =>
    obtain ⟨hc, hs⟩ := List.forall_mem_cons.mp h
    simp only [isWildcard, Bool.or_eq_false_iff] at hc
    rw [List.cons_append, parse, parseFrom, if_neg (by simp [hc]), if_neg (by simp [hc]),
      if_neg (by simp [hc])]
    exact congrArg _ (ih hs)

end StaticSite.Glob
