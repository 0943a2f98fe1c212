import StaticSite.Proofs.Glob.Pieces
import StaticSite.Proofs.Path.Cuts
import StaticSite.Site.Watch

/-!
# What a glob with `**/` matches

A `**/` in a glob stands for directories, and it may stand for none. A glob is tried as it is, and then each `**/`
has to stand for one directory at least, since its slash has to be there; and it is tried without all of its `**/`,
and then each of them stands for none. There is no third try. So a path is matched exactly if every `**/` stands
for some directories in it or every `**/` stands for none; if one stands for some and another one for none, the
path is passed over. A glob with one `**/` has no such paths.

The last part of a glob may hold wildcards and is matched by any text, also one with slashes in it.

## Main definitions

* `Glob.Part`, `Glob.ofParts`: a glob made of literal parts, `**/`, and a last part.
* `Glob.Spells`: a text has the literal parts of a glob, and directories in the places of its `**/`.
* `matchedBy`: some glob of a list matches a path.

## Main results

* `Glob.replaceAll_ofParts`: the variant of a glob without its `**/`.
* `Glob.accepts_ofParts_iff`: the paths that such a glob matches.
* `matchesAny_ofParts`: the same of a list with one glob.
* `not_matches_independently`: that each `**/` stands for some directories or for none is not enough.
-/

namespace StaticSite

namespace Glob

/-- A part of a glob before its last one. -/
inductive Part
  /-- A text without wildcards, and a slash. -/
  | literal (s : List Char) (plain : ∀ c ∈ s, isWildcard c = false)
  /-- Any directories. -/
  | anyDirectory

variable {parts : List Part} {last path s t : List Char} {p q : Nat → Prop}

/-- How a part is written. -/
def Part.glob : Part → List Char
  | .literal s _ => s ++ ['/']
  | .anyDirectory => Glob.anyDirectory

/-- The glob that is made of parts and a last one. -/
def ofParts (parts : List Part) (last : List Char) : List Char := parts.flatMap Part.glob ++ last

/-- Directories one below another. -/
def directories (names : List (List Char)) : List Char := names.flatMap fun name => name ++ ['/']

/-- A text has the literal parts of a glob, and in the place of each `**/` as many directories as may stand there. -/
inductive Spells (p : Nat → Prop) : List Part → List Char → Prop
  | nil : Spells p [] []
  | literal {parts : List Part} {start s : List Char} {plain : ∀ c ∈ s, isWildcard c = false}
      (h : Spells p parts start) : Spells p (.literal s plain :: parts) (s ++ '/' :: start)
  | anyDirectory {parts : List Part} {start : List Char} (names : List (List Char))
      (hnames : ∀ name ∈ names, '/' ∉ name) (hcount : p names.length) (h : Spells p parts start) :
      Spells p (.anyDirectory :: parts) (directories names ++ start)

/-! ### The glob as it is -/

/-- The pieces of a part. -/
def Part.pieces : Part → List Piece
  | .literal s _ => s.map .exactly ++ [.exactly '/']
  | .anyDirectory => [.many, .many, .exactly '/']

/-- A glob has the pieces of its parts. -/
theorem parse_ofParts (parts : List Part) (last : List Char) :
    parse (ofParts parts last) = parts.flatMap Part.pieces ++ parse last := by
  induction parts with
  | nil => rfl
  | cons part parts ih =>
    rw [ofParts, List.flatMap_cons, List.append_assoc, List.flatMap_cons, List.append_assoc, ← ih]
    cases part with
    | literal s plain =>
      rw [Part.glob, Part.pieces, List.append_assoc, parse_append plain, List.append_assoc]
      rfl
    | anyDirectory => rfl

/-- The names between the slashes of a text, each with a slash after it, are the text and a slash. -/
theorem directories_splitOn (s : List Char) : directories (Text.splitOn '/' s) = s ++ ['/'] := by
  induction s with
  | nil => rfl
  | cons c s ih =>
    rw [Text.splitOn]
    split
    · next hc => rw [directories, List.flatMap_cons, ← directories, ih, beq_iff_eq.mp hc]; rfl
    · rcases hs : Text.splitOn '/' s with _ | ⟨name, names⟩
      · exact absurd hs (Text.splitOn_ne_nil '/' s)
      · rw [hs] at ih
        exact congrArg (c :: ·) ih

/-- The pieces of `**/` match what ends with a slash, and that is some directories. -/
theorem matchPieces_anyDirectory_iff : matchPieces Part.anyDirectory.pieces s = true ↔
    ∃ names, (∀ name ∈ names, '/' ∉ name) ∧ 0 < names.length ∧ directories names = s := by
  have hslash : ∀ {t : List Char}, matchPieces [.exactly '/'] t = true ↔ t = ['/'] :=
    @matchPieces_exactly_iff ['/']
  simp only [Part.pieces, matchPieces_many_iff, hslash]
  constructor
  · rintro ⟨a, _, rfl, b, _, rfl, rfl⟩
    refine ⟨Text.splitOn '/' (a ++ b), fun _ => Text.notMem_of_mem_splitOn,
      List.length_pos_iff.mpr (Text.splitOn_ne_nil _ _), ?_⟩
    rw [directories_splitOn, List.append_assoc]
  · rintro ⟨names, -, hpos, rfl⟩
    obtain ⟨before, name, rfl⟩ := (List.eq_nil_or_concat names).resolve_left (List.length_pos_iff.mp hpos)
    exact ⟨directories before, name ++ ['/'], by simp [directories], name, ['/'], rfl, rfl⟩

/-- The pieces of a literal part match it. -/
theorem matchPieces_literal_iff {plain : ∀ c ∈ t, isWildcard c = false} :
    matchPieces (Part.literal t plain).pieces s = true ↔ s = t ++ ['/'] := by
  have hpieces : (Part.literal t plain).pieces = (t ++ ['/']).map .exactly := by
    rw [Part.pieces, List.map_append]
    rfl
  rw [hpieces, matchPieces_exactly_iff]

/-- The pieces of parts match what has directories in the place of every `**/`. -/
theorem matchPieces_parts_iff :
    matchPieces (parts.flatMap Part.pieces) s = true ↔ Spells (0 < ·) parts s := by
  induction parts generalizing s with
  | nil =>
    rw [List.flatMap_nil]
    constructor
    · intro h
      rw [List.isEmpty_iff.mp h]
      exact .nil
    · rintro ⟨⟩
      rfl
  | cons part parts ih =>
    rw [List.flatMap_cons, matchPieces_append_iff]
    cases part with
    | literal t plain =>
      simp only [matchPieces_literal_iff, ih]
      constructor
      · rintro ⟨_, start, rfl, rfl, h⟩
        rw [List.append_assoc]
        exact .literal h
      · rintro (_ | h)
        exact ⟨t ++ ['/'], _, List.append_assoc .., rfl, h⟩
    | anyDirectory =>
      simp only [matchPieces_anyDirectory_iff, ih]
      constructor
      · rintro ⟨_, start, rfl, ⟨names, hnames, hcount, rfl⟩, h⟩
        exact .anyDirectory names hnames hcount h
      · rintro (_ | _ | ⟨names, hnames, hcount, h⟩)
        exact ⟨directories names, _, rfl, ⟨names, hnames, hcount, rfl⟩, h⟩

/-! ### The glob without its `**/` -/

/-- The part stays when the `**/` are taken away. -/
def Part.isLiteral : Part → Bool
  | .literal .. => true
  | .anyDirectory => false

/-- A text without a slash has no `**/`. -/
theorem replaceFrom_of_notMem (h : '/' ∉ s) : Text.replaceFrom anyDirectory [] 0 s = s := by
  induction s with
  | nil => rfl
  | cons c s ih =>
    have hnot : ¬anyDirectory.isPrefixOf (c :: s) = true := fun hpre =>
      h ((List.isPrefixOf_iff_prefix.mp hpre).subset (by decide))
    rw [Text.replaceFrom, if_neg hnot, ih fun hs => h (List.mem_cons_of_mem c hs)]

/-- A text without wildcards stays as it is. -/
theorem replaceFrom_append (h : ∀ c ∈ s, isWildcard c = false) (rest : List Char) :
    Text.replaceFrom anyDirectory [] 0 (s ++ rest) = s ++ Text.replaceFrom anyDirectory [] 0 rest := by
  induction s with
  | nil => rfl
  | cons c s ih =>
    obtain ⟨hc, hs⟩ := List.forall_mem_cons.mp h
    have hnot : ¬anyDirectory.isPrefixOf (c :: (s ++ rest)) = true := by
      intro hpre
      have hstar : '*' = c := (List.cons_prefix_cons.mp (List.isPrefixOf_iff_prefix.mp hpre)).1
      exact absurd hc (by rw [← hstar]; decide)
    rw [List.cons_append, Text.replaceFrom, if_neg hnot, ih hs, List.cons_append]

/-- Without its `**/` a glob is made of its literal parts. -/
theorem replaceAll_ofParts (hlast : '/' ∉ last) (parts : List Part) :
    Text.replaceAll anyDirectory [] (ofParts parts last) = ofParts (parts.filter Part.isLiteral) last := by
  show Text.replaceFrom anyDirectory [] 0 _ = _
  induction parts with
  | nil => exact replaceFrom_of_notMem hlast
  | cons part parts ih =>
    rw [ofParts, List.flatMap_cons, List.append_assoc, ← ofParts]
    cases part with
    | literal t plain =>
      have hplain : ∀ c ∈ t ++ ['/'], isWildcard c = false :=
        List.forall_mem_append.mpr ⟨plain, List.forall_mem_singleton.mpr rfl⟩
      rw [Part.glob, replaceFrom_append hplain, ih, List.filter_cons_of_pos rfl, ofParts, ofParts,
        List.flatMap_cons, List.append_assoc (Part.glob _), Part.glob]
    | anyDirectory => rw [List.filter_cons_of_neg (by decide), ← ih]; rfl

/-- What has the literal parts only has no directories in the place of a `**/`. -/
theorem spells_filter_iff : Spells p (parts.filter Part.isLiteral) s ↔ Spells (· = 0) parts s := by
  induction parts generalizing s with
  | nil => exact ⟨by rintro ⟨⟩; exact .nil, by rintro ⟨⟩; exact .nil⟩
  | cons part parts ih =>
    cases part with
    | literal t plain =>
      rw [List.filter_cons_of_pos rfl]
      constructor
      · rintro (_ | h)
        exact .literal (ih.mp h)
      · rintro (_ | h)
        exact .literal (ih.mpr h)
    | anyDirectory =>
      rw [List.filter_cons_of_neg (by decide), ih]
      constructor
      · exact fun h => .anyDirectory [] (List.forall_mem_nil _) rfl h
      · rintro (_ | _ | ⟨names, -, hcount, h⟩)
        rw [List.length_eq_zero_iff.mp hcount]
        exact h

/-! ### Both tries -/

/-- A glob accepts a path that has directories in the place of every `**/`, and one that has none in the place of
any. -/
theorem accepts_ofParts_iff (hlast : '/' ∉ last) : accepts (ofParts parts last) path = true ↔
    ∃ start leaf, start ++ leaf = path ∧ (Spells (0 < ·) parts start ∨ Spells (· = 0) parts start) ∧
      matchesPath last leaf = true := by
  have hparts : ∀ parts : List Part, matchesPath (ofParts parts last) path = true ↔
      ∃ start leaf, start ++ leaf = path ∧ Spells (0 < ·) parts start ∧ matchesPath last leaf = true := by
    intro parts
    rw [matchesPath, parse_ofParts, matchPieces_append_iff]
    simp only [matchPieces_parts_iff, matchesPath]
  rw [accepts, Bool.or_eq_true, replaceAll_ofParts hlast, hparts, hparts]
  simp only [spells_filter_iff, or_and_right, and_or_left, exists_or]

/-- How many directories may stand in the place of a `**/` does not matter if there is none. -/
theorem Spells.of_literals (h : Spells p parts s) (hnone : ∀ part ∈ parts, part.isLiteral = true) :
    Spells q parts s := by
  induction h with
  | nil => exact .nil
  | literal _ ih => exact .literal (ih fun part hpart => hnone part (List.mem_cons_of_mem _ hpart))
  | anyDirectory => exact absurd (hnone _ List.mem_cons_self) (by decide)

/-- With one `**/` at most, every `**/` stands for some directories or every one for none. -/
theorem Spells.pos_or_zero (h : Spells p parts s) (hone : parts.countP (fun part => !part.isLiteral) ≤ 1) :
    Spells (0 < ·) parts s ∨ Spells (· = 0) parts s := by
  induction h with
  | nil => exact .inl .nil
  | literal _ ih => exact (ih hone).imp .literal .literal
  | @anyDirectory parts _ names hnames _ h =>
    -- The rest of the glob has no `**/`, so this one alone decides.
    rw [List.countP_cons_of_pos rfl] at hone
    have hnone := List.countP_eq_zero.mp (Nat.le_zero.mp (Nat.le_of_succ_le_succ hone))
    have hrest : ∀ part ∈ parts, part.isLiteral = true := by simpa using hnone
    rcases Nat.eq_zero_or_pos names.length with hzero | hpos
    · exact .inr (.anyDirectory names hnames hzero (h.of_literals hrest))
    · exact .inl (.anyDirectory names hnames hpos (h.of_literals hrest))

end Glob

open Glob

/-- One of the globs matches a path. -/
def matchedBy (globs : List String) (path : String) : Bool :=
  globs.any fun glob => accepts glob.toList path.toList

/-- Globs that are texts are tried until one matches. -/
theorem matchesAny_text (globs : List String) (path : String) :
    matchesAny path (globs.map .text) = .ok (matchedBy globs path) := by
  induction globs with
  | nil => rfl
  | cons glob globs ih =>
    rw [List.map_cons, matchesAny, matchedBy, List.any_cons]
    split
    · next haccepts => rw [haccepts, Bool.true_or]
    · next haccepts => rw [ih, Bool.eq_false_iff.mpr haccepts, Bool.false_or, matchedBy]

/-- A list with one glob matches what the glob accepts. -/
theorem matchesAny_singleton (path glob : String) :
    matchesAny path [.text glob] = .ok (accepts glob.toList path.toList) := by
  rw [← List.map_singleton (f := Value.text), matchesAny_text, matchedBy, List.any_cons,
    List.any_nil, Bool.or_false]

/-- A glob made of literal parts, `**/` and a last part without a slash matches a path exactly if the path is spelled
with directories in the place of every `**/` or with none in the place of any, before a text that the last part
matches. With one `**/` at most it matches every path that is spelled with any number of directories in its place. -/
theorem matchesAny_ofParts (parts : List Part) {last : List Char} (hlast : '/' ∉ last) :
    (∀ path, matchesAny (String.ofList path) [.text (String.ofList (ofParts parts last))] = .ok true ↔
      ∃ start leaf, start ++ leaf = path ∧ (Spells (0 < ·) parts start ∨ Spells (· = 0) parts start) ∧
        matchesPath last leaf = true) ∧
    (parts.countP (fun part => !part.isLiteral) ≤ 1 → ∀ start leaf, Spells (fun _ => True) parts start →
      matchesPath last leaf = true →
      matchesAny (String.ofList (start ++ leaf)) [.text (String.ofList (ofParts parts last))] = .ok true) := by
  have hiff : ∀ path, matchesAny (String.ofList path) [.text (String.ofList (ofParts parts last))] = .ok true ↔
      ∃ start leaf, start ++ leaf = path ∧ (Spells (0 < ·) parts start ∨ Spells (· = 0) parts start) ∧
        matchesPath last leaf = true := by
    intro path
    rw [matchesAny_singleton, String.toList_ofList, String.toList_ofList, Except.ok.injEq, accepts_ofParts_iff hlast]
  refine ⟨hiff, fun hone start leaf hstart hleaf => ?_⟩
  exact (hiff _).mpr ⟨start, leaf, rfl, hstart.pos_or_zero hone, hleaf⟩

/-- The sources in a folder and below it are matched by one glob. -/
theorem sources_matched :
    '/' ∉ "*.j2".toList ∧
    matchesAny "/w/src/b.j2" [.text "/w/src/**/*.j2"] = .ok true ∧
    matchesAny "/w/src/a/b.j2" [.text "/w/src/**/*.j2"] = .ok true := by
  let parts : List Part := [.literal "/w/src".toList (by simp [isWildcard]), .anyDirectory]
  have hlast : '/' ∉ "*.j2".toList := by decide
  have hglob : String.ofList (ofParts parts "*.j2".toList) = "/w/src/**/*.j2" := by decide
  have hmatched := (matchesAny_ofParts parts hlast).2 (by decide)
  rw [hglob] at hmatched
  have hnone := hmatched _ "b.j2".toList (.literal (.anyDirectory [] (by decide) trivial .nil)) (by decide)
  have hsome := hmatched _ "b.j2".toList (.literal (.anyDirectory ["a".toList] (by decide) trivial .nil)) (by decide)
  exact ⟨hlast, hnone, hsome⟩

/-- Each `**/` of a glob stands for some directories or for none in a path, and the glob does not match it: the
first one stands for a directory and the second one for none. -/
theorem not_matches_independently :
    let parts : List Part := [.literal ['a'] (List.forall_mem_singleton.mpr rfl), .anyDirectory,
      .literal ['b'] (List.forall_mem_singleton.mpr rfl), .anyDirectory]
    String.ofList (ofParts parts "*.j2".toList) = "a/**/b/**/*.j2" ∧
    Spells (fun _ => True) parts "a/x/b/".toList ∧ matchesPath "*.j2".toList "c.j2".toList = true ∧
    matchesAny "a/x/b/c.j2" [.text "a/**/b/**/*.j2"] = .ok false := by
  refine ⟨by decide, ?_, by decide, by decide⟩
  exact .literal (.anyDirectory [['x']] (by decide) trivial
    (.literal (.anyDirectory [] (by decide) trivial .nil)))

end StaticSite
