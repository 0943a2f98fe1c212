import StaticSite.Directive.Token
import StaticSite.Proofs.Path.Cuts
import StaticSite.Value.Field

/-!
# What a dotted path leads to

A segment leads from a mapping to the value under it and from an indexed collection to the element whose index it
spells in decimal digits. A path leads to a value if its segments do, one after another; otherwise there is a
first segment that cannot be followed, and this is the field that is reported missing.

There is one exception. Characters such as a superscript two count as digits and have no decimal value, and a
number of more than 4300 digits is not read. A segment made of such digits is taken for an index of a collection,
and reading it fails with an error of its own. So a path finds its value or the missing field exactly if it meets
no such segment at a collection.

## Main definitions

* `Value.Follows`, `Value.Unreadable`: one segment that leads somewhere, and one that cannot be read.
* `Value.Walks`, `Value.StopsAt`, `Value.Meets`: the segments lead to a value, the first one that cannot be
  followed, and some segment on the way cannot be read.

## Main results

* `Value.step_cases`: what one segment does.
* `Value.field_characterized`: what a path leads to.
* `Value.not_found_or_missing`: a variable whose path neither leads to a value nor has a missing field.
-/

namespace StaticSite.Value

variable {v w : Value} {key stop : List Char} {keys : List (List Char)} {items : List Value} {path p k : String}

/-! ### One segment -/

/-- A segment spells an index: it is made of decimal digits. -/
def IsIndex (key : List Char) : Prop := key ≠ [] ∧ ∀ c ∈ key, Text.isDecimal c = true

/-- A segment leads from a value to another one. -/
inductive Follows (v : Value) (key : List Char) (w : Value) : Prop
  /-- From a mapping, by key. -/
  | key (h : v.get? (String.ofList key) = some w)
  /-- From an indexed collection, by an index that is not too great. -/
  | item (items : List Value) (hitems : v.elements? = some items) (hindex : IsIndex key)
      (h : items[decimalNumber key]? = some w)

/-- A segment looks like an index and cannot be read as a number: it is made of digits, and some of them are not
decimal, or there are too many. -/
def NoNumber (key : List Char) : Prop :=
  key ≠ [] ∧ (∀ c ∈ key, Text.isDigit c = true) ∧
    ((∃ c ∈ key, Text.isDecimal c = false) ∨ maxIntegerDigits < key.length)

/-- A segment cannot be read at a value: that is an indexed collection, and the segment looks like an index. -/
def Unreadable (v : Value) (key : List Char) : Prop := v.elements?.isSome = true ∧ NoNumber key

/-- Decimal digits are digits. -/
theorem isDigit_of_isDecimal {c : Char} (h : Text.isDecimal c = true) : Text.isDigit c = true := by
  rw [Text.isDigit, h, Bool.true_or]

/-- What looks like an index and cannot be read is an error. -/
theorem index_of_noNumber (h : NoNumber key) (items : List Value) : ∃ reason, index items key = .error reason := by
  obtain ⟨hne, hdigits, hunread⟩ := h
  rw [index, if_neg (by simpa [hne] using hdigits)]
  split
  · exact ⟨_, rfl⟩
  · next hdecimal =>
    rw [if_pos]
    · exact ⟨_, rfl⟩
    · refine hunread.resolve_left ?_
      rintro ⟨c, hc, hnot⟩
      simp only [Bool.not_eq_true', Bool.not_eq_false, List.all_eq_true] at hdecimal
      rw [hdecimal c hc] at hnot
      exact Bool.noConfusion hnot

/-- An index that can be read gives the element, if it is not too great. -/
theorem index_of_isIndex (h : IsIndex key) (hread : ¬ NoNumber key) (items : List Value) :
    index items key = .ok items[decimalNumber key]? := by
  obtain ⟨hne, hdecimal⟩ := h
  have hdigits : ∀ c ∈ key, Text.isDigit c = true := fun c hc => isDigit_of_isDecimal (hdecimal c hc)
  have hshort : ¬ maxIntegerDigits < key.length := fun hlong => hread ⟨hne, hdigits, .inr hlong⟩
  rw [index, if_neg (by simpa [hne] using hdigits), if_neg (by simpa using hdecimal), if_neg hshort]

/-- What does not look like an index gives nothing. -/
theorem index_of_not_isIndex (h : ¬ IsIndex key) (hread : ¬ NoNumber key) (items : List Value) :
    index items key = .ok none := by
  rw [index, if_pos]
  rw [Bool.or_eq_true, List.isEmpty_iff, Bool.not_eq_true', or_iff_not_imp_left]
  intro hne
  rw [Bool.eq_false_iff, ne_eq, List.all_eq_true]
  intro hdigits
  refine hread ⟨hne, hdigits, .inl ?_⟩
  by_contra hnone
  refine h ⟨hne, fun c hc => ?_⟩
  by_contra hc'
  exact hnone ⟨c, hc, by simpa using hc'⟩

/-- A mapping is no indexed collection. -/
theorem elements?_of_get? {s : String} (h : v.get? s = some w) : v.elements? = none := by
  cases v with
  | dict entries => rfl
  | _ => exact absurd h nofun

/-- An indexed collection has no keys. -/
theorem get?_of_elements? (h : v.elements? = some items) (s : String) : v.get? s = none := by
  rcases hget : v.get? s with _ | w
  · rfl
  · rw [elements?_of_get? hget] at h
    exact absurd h nofun

/-- A segment leads from a mapping to the value under it. -/
theorem follows_of_get? (h : v.get? (String.ofList key) = some w) (u : Value) : Follows v key u ↔ w = u := by
  constructor
  · rintro (hu | ⟨items, hitems, -, -⟩)
    · exact Option.some.inj (h.symm.trans hu)
    · exact absurd ((get?_of_elements? hitems _).symm.trans h) nofun
  · rintro rfl
    exact .key h

/-- A segment leads from an indexed collection to the element whose index it spells. -/
theorem follows_of_elements? (h : v.elements? = some items) (u : Value) :
    Follows v key u ↔ IsIndex key ∧ items[decimalNumber key]? = some u := by
  constructor
  · rintro (hu | ⟨items', hitems, hindex, hu⟩)
    · exact absurd ((get?_of_elements? h _).symm.trans hu) nofun
    · rw [Option.some.inj (h.symm.trans hitems)]
      exact ⟨hindex, hu⟩
  · rintro ⟨hindex, hu⟩
    exact .item items h hindex hu

/-- **What one segment does.** It cannot be read, or it leads nowhere, or it leads to one value. -/
theorem step_cases (v : Value) (key : List Char) :
    (Unreadable v key ∧ ∃ reason, v.step key = .error reason) ∨
    (¬ Unreadable v key ∧ (∀ w, ¬ Follows v key w) ∧ v.step key = .ok none) ∨
    (¬ Unreadable v key ∧ ∃ u, (∀ w, Follows v key w ↔ u = w) ∧ v.step key = .ok (some u)) := by
  rw [step, Unreadable]
  rcases hget : v.get? (String.ofList key) with _ | u
  · rcases hitems : v.elements? with _ | items
    · refine .inr (.inl ⟨nofun, ?_, rfl⟩)
      rintro w (h | ⟨items, h, -, -⟩)
      · exact absurd (hget.symm.trans h) nofun
      · exact absurd (hitems.symm.trans h) nofun
    · dsimp only
      by_cases hread : NoNumber key
      · exact .inl ⟨⟨rfl, hread⟩, index_of_noNumber hread items⟩
      refine .inr ?_
      simp only [follows_of_elements? hitems]
      by_cases hindex : IsIndex key
      · rw [index_of_isIndex hindex hread]
        rcases items[decimalNumber key]? with _ | u
        · exact .inl ⟨fun h => hread h.2, fun _ h => absurd h.2 nofun, rfl⟩
        · exact .inr ⟨fun h => hread h.2, u, by simp [hindex], rfl⟩
      · exact .inl ⟨fun h => hread h.2, fun _ h => hindex h.1, index_of_not_isIndex hindex hread items⟩
  · rw [elements?_of_get? hget]
    exact .inr (.inr ⟨nofun, u, follows_of_get? hget, rfl⟩)

/-! ### All segments -/

/-- The segments lead from a value to another one, one after another. -/
def Walks : Value → List (List Char) → Value → Prop
  | v, [], w => v = w
  | v, key :: keys, w => ∃ u, Follows v key u ∧ Walks u keys w

/-- The first segment that cannot be followed. -/
def StopsAt : Value → List (List Char) → List Char → Prop
  | _, [], _ => False
  | v, key :: keys, stop =>
    (∀ u, ¬ Follows v key u) ∧ key = stop ∨ ∃ u, Follows v key u ∧ StopsAt u keys stop

/-- Some segment that the others lead to cannot be read. -/
def Meets : Value → List (List Char) → Prop
  | _, [] => False
  | v, key :: keys => Unreadable v key ∨ ∃ u, Follows v key u ∧ Meets u keys

/-- The segments are followed to a value if they lead there and all of them can be read. -/
theorem follow_eq_ok_iff : follow path v keys = .ok w ↔ Walks v keys w ∧ ¬ Meets v keys := by
  induction keys generalizing v with
  | nil => simp [follow, Walks, Meets]
  | cons key keys ih =>
    rw [follow, Walks, Meets]
    rcases step_cases v key with ⟨hun, reason, hstep⟩ | ⟨hread, hnone, hstep⟩ | ⟨hread, u, hfollows, hstep⟩
    · simp [hstep, hun]
    · simp [hstep, hnone]
    · simp [hstep, hread, hfollows, ih]

/-- A missing field is the first segment that cannot be followed, if those before it can be read. -/
theorem follow_eq_missing_iff :
    follow path v keys = .error (.missing p k) ↔ p = path ∧ StopsAt v keys k.toList ∧ ¬ Meets v keys := by
  induction keys generalizing v with
  | nil => simp [follow, StopsAt]
  | cons key keys ih =>
    rw [follow, StopsAt, Meets]
    rcases step_cases v key with ⟨hun, reason, hstep⟩ | ⟨hread, hnone, hstep⟩ | ⟨hread, u, hfollows, hstep⟩
    · simp [hstep, hun]
    · have hkey : String.ofList key = k ↔ key = k.toList := by rw [← String.toList_inj, String.toList_ofList]
      simp [hstep, hread, hnone, hkey, eq_comm (a := path)]
    · simp [hstep, hread, hfollows, ih]

/-- An index that cannot be read is reported if the segments before it can be followed. -/
theorem follow_eq_badIndex_iff : (∃ reason, follow path v keys = .error (.badIndex reason)) ↔ Meets v keys := by
  induction keys generalizing v with
  | nil => simp [follow, Meets]
  | cons key keys ih =>
    rw [follow, Meets]
    rcases step_cases v key with ⟨hun, reason, hstep⟩ | ⟨hread, hnone, hstep⟩ | ⟨hread, u, hfollows, hstep⟩
    · simp [hstep, hun]
    · simp [hstep, hread, hnone]
    · simp [hstep, hread, hfollows, ih]

/-- Nothing is shown on the way. -/
theorem follow_ne_unshown (path : String) (v : Value) (keys : List (List Char)) (reason : String) :
    follow path v keys ≠ .error (.unshown reason) := by
  induction keys generalizing v with
  | nil => simp [follow]
  | cons key keys ih =>
    rw [follow]
    rcases step_cases v key with ⟨-, reason, hstep⟩ | ⟨-, -, hstep⟩ | ⟨-, u, -, hstep⟩
    · simp [hstep]
    · simp [hstep]
    · simp [hstep, ih]

/-- The segments of a dotted path. -/
def segments (path : String) : List (List Char) := Text.splitOn '.' path.toList

/-- **What a path leads to.** It finds the value that its segments lead to, or reports the first segment that cannot
be followed as missing, together with the whole path. This is so exactly if it meets no index that cannot be read;
where it does, that is reported, and nothing else can happen. -/
theorem field_characterized (v : Value) (path : String) :
    (∀ w, v.field path = .ok w ↔ Walks v (segments path) w ∧ ¬ Meets v (segments path)) ∧
    (∀ p key, v.field path = .error (.missing p key) ↔
      p = path ∧ StopsAt v (segments path) key.toList ∧ ¬ Meets v (segments path)) ∧
    ((∃ w, v.field path = .ok w) ∨ (∃ key, v.field path = .error (.missing path key)) ↔
      ¬ Meets v (segments path)) ∧
    ((∃ reason, v.field path = .error (.badIndex reason)) ↔ Meets v (segments path)) ∧
    ∀ reason, v.field path ≠ .error (.unshown reason) := by
  refine ⟨fun w => follow_eq_ok_iff, fun p key => follow_eq_missing_iff, ⟨?_, fun hread => ?_⟩,
    follow_eq_badIndex_iff, follow_ne_unshown path v _⟩
  · rintro (⟨w, hfound⟩ | ⟨key, hmissing⟩)
    · exact (follow_eq_ok_iff.mp hfound).2
    · exact (follow_eq_missing_iff.mp hmissing).2.2
  · rcases hfield : v.field path with (⟨p, key⟩ | reason | reason) | w
    · obtain ⟨rfl, -⟩ := follow_eq_missing_iff.mp hfield
      exact .inr ⟨key, rfl⟩
    · exact absurd (follow_eq_badIndex_iff.mp ⟨reason, hfield⟩) hread
    · exact absurd hfield (follow_ne_unshown path v _ reason)
    · exact .inl ⟨w, rfl⟩

/-- A mapping with a list. -/
def listed : Value := .dict [(.text "a", .list [.text "x"])]

/-- A text with a variable whose name ends with a superscript two. -/
def superscript : List Char := "\x7b\x7b this.a.² \x7d\x7d".toList

/-- A path can be the name of a variable and neither lead to a value nor have a missing field. -/
theorem not_found_or_missing :
    Directive.tokenize superscript = [⟨.variable, "this.a.²".toList, superscript⟩] ∧
    ¬ ((∃ w, listed.field "a.²" = .ok w) ∨ ∃ p key, listed.field "a.²" = .error (.missing p key)) := by
  have hfield : listed.field "a.²" = .error (.badIndex "invalid literal for int() with base 10: '²'") := rfl
  refine ⟨by decide +kernel, ?_⟩
  rw [hfield]
  simp

end StaticSite.Value
