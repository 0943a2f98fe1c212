import StaticSite.Proofs.Value.Field

/-!
# Paths that are put together

Two dotted paths with a dot between them are one path: its segments are those of the first and then those of the
second, whatever the two are, also if one of them is empty or begins or ends with a dot. So the second is asked of
the value that the first leads to, and what fails in the first fails in the whole. Only the path that an error names
is another one, since a missing field is reported with the whole path.

## Main definitions

* `FieldError.ofPath`: an error as one of another path.

## Main results

* `Value.follow_append`: segments are followed to the value that the first of them lead to, and from there.
* `Value.field_append`: a path that is put together, as one equation.
* `Value.field_composes`: what it finds and which field it misses.
-/

namespace StaticSite

/-- The error of a path, told of another path. -/
def FieldError.ofPath (path : String) : FieldError → FieldError
  | .missing _ key => .missing path key
  | e => e

namespace Value

/-- The segments of a path that is put together. -/
theorem segments_append (p q : String) : segments (p ++ "." ++ q) = segments p ++ segments q := by
  have hchars : (p ++ "." ++ q).toList = p.toList ++ '.' :: q.toList := by
    rw [String.toList_append, String.toList_append, List.append_assoc]
    rfl
  rw [segments, hchars, Text.splitOn_append_cons, segments, segments]

/-- Segments are followed to the value that the first of them lead to, and the others from there. -/
theorem follow_append (path : String) (v : Value) (first second : List (List Char)) :
    follow path v (first ++ second) = (follow path v first).bind fun u => follow path u second := by
  induction first generalizing v with
  | nil => rfl
  | cons key keys ih =>
    rw [List.cons_append, follow, follow]
    rcases v.step key with reason | _ | u
    · rfl
    · rfl
    · exact ih u

/-- The path matters to the error of a missing field alone. -/
theorem follow_eq_mapError (path other : String) (v : Value) (keys : List (List Char)) :
    follow path v keys = (follow other v keys).mapError (·.ofPath path) := by
  induction keys generalizing v with
  | nil => rfl
  | cons key keys ih =>
    rw [follow, follow]
    rcases v.step key with reason | _ | u
    · rfl
    · rfl
    · exact ih u

/-- A path that is put together asks the value at the end of its first part for its second part. -/
theorem field_append (v : Value) (p q : String) :
    v.field (p ++ "." ++ q) =
      ((v.field p).bind fun u => u.field q).mapError (·.ofPath (p ++ "." ++ q)) := by
  change follow _ v (segments (p ++ "." ++ q)) = _
  rw [segments_append, follow_append, follow_eq_mapError _ p v]
  change ((v.field p).mapError _).bind _ = _
  rcases v.field p with e | u
  · rfl
  · exact follow_eq_mapError _ q u (segments q)

/-- **Paths compose.** A path that is put together leads to a value exactly if its first part leads to some value
and its second part leads from there to that value; it misses a field exactly if its first part does, or if that leads
to some value from which its second part misses the field. The path that is reported is the whole one. An index that
cannot be read is reported from the part that holds it. -/
theorem field_composes (v : Value) (p q : String) :
    (∀ w, v.field (p ++ "." ++ q) = .ok w ↔ ∃ u, v.field p = .ok u ∧ u.field q = .ok w) ∧
    (∀ key, (∃ path, v.field (p ++ "." ++ q) = .error (.missing path key)) ↔
      (∃ path, v.field p = .error (.missing path key)) ∨
        ∃ u, v.field p = .ok u ∧ ∃ path, u.field q = .error (.missing path key)) ∧
    (∀ path key, v.field (p ++ "." ++ q) = .error (.missing path key) → path = p ++ "." ++ q) ∧
    ∀ reason, v.field (p ++ "." ++ q) = .error (.badIndex reason) ↔
      v.field p = .error (.badIndex reason) ∨ ∃ u, v.field p = .ok u ∧ u.field q = .error (.badIndex reason) := by
  rw [field_append]
  rcases v.field p with e | u
  · cases e <;> simp [Except.bind, Except.mapError, FieldError.ofPath]
  · rcases hq : u.field q with e | w
    · cases e <;> simp [Except.bind, Except.mapError, FieldError.ofPath, hq]
    · simp [Except.bind, Except.mapError, hq]

end Value

end StaticSite
