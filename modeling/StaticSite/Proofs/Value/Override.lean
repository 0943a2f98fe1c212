import StaticSite.Value.Override

/-!
# What overriding keeps

Overrides are laid over defaults key by key. What holds of every value under a key, in the defaults and in the
overrides, holds of every value under that key in the result, as long as laying one such value over another
gives one again: for a value that is no mapping this is so in any case, since it replaces what stood there.

## Main definitions

* `Value.eachUnder`: each value under a text key of a mapping is as it should be.

## Main results

* `Value.override_of_not_dict`: what is no mapping replaces what stood there.
* `Value.eachUnder_override`: what overriding keeps.
-/

namespace StaticSite.Value

variable {key : String} {p : Value → Bool} {k v : Value} {entries lower upper : List (Value × Value)}

/-- Each value under a text key of a mapping is as it should be; what is no mapping has no keys. -/
def eachUnder (key : String) (p : Value → Bool) : Value → Bool
  | dict entries => entries.all fun (k, v) => !same k (text key) || p v
  | _ => true

/-! ### Text keys -/

/-- Only a text is the same as a text. -/
theorem same_text_iff {s : String} : same k (text s) = true ↔ k = text s := by
  cases k <;> simp [same, asInteger?]

/-- A text is the same as itself only. -/
theorem text_same_iff {s : String} : same (text s) k = true ↔ k = text s := by
  cases k with
  | text s' => rw [same_text_iff, eq_comm]
  | _ => simp [same, asInteger?]

/-- Each value is as it should be if the first one is, if it stands under the key, and the others are. -/
theorem eachUnder_cons :
    (dict ((k, v) :: entries)).eachUnder key p = true ↔
      (k = text key → p v = true) ∧ (dict entries).eachUnder key p = true := by
  rw [eachUnder, eachUnder, List.all_cons, Bool.and_eq_true, Bool.or_eq_true, Bool.not_eq_true',
    ← same_text_iff, Bool.eq_false_iff, ← Decidable.imp_iff_not_or]

/-- The value that is found under the key is as it should be. -/
theorem eachUnder_find? (h : (dict entries).eachUnder key p = true)
    (hv : find? (text key) entries = some v) : p v = true := by
  induction entries with
  | nil => exact absurd hv (by simp [find?])
  | cons entry entries ih =>
    obtain ⟨k, w⟩ := entry
    obtain ⟨hfirst, hrest⟩ := eachUnder_cons.mp h
    rw [find?] at hv
    split at hv
    · next hsame =>
      rw [← Option.some.inj hv]
      exact hfirst (same_text_iff.mp hsame)
    · exact ih hrest hv

/-- So is the value of a mapping under the key. -/
theorem eachUnder_get? {m : Value} (h : m.eachUnder key p = true) (hv : m.get? key = some v) :
    p v = true := by
  cases m with
  | dict entries => exact eachUnder_find? h hv
  | _ => exact absurd hv (by simp [get?])

/-! ### Overriding -/

/-- Writing an entry that is as it should be keeps the others. -/
theorem eachUnder_store (h : (dict entries).eachUnder key p = true) (hv : k = text key → p v = true) :
    (dict (store k v entries)).eachUnder key p = true := by
  induction entries with
  | nil => exact eachUnder_cons.mpr ⟨hv, h⟩
  | cons entry entries ih =>
    obtain ⟨k', w⟩ := entry
    obtain ⟨hfirst, hrest⟩ := eachUnder_cons.mp h
    rw [store]
    split
    · next hsame =>
      -- the key that was there stays, and is the same
      refine eachUnder_cons.mpr ⟨fun hk => hv ?_, hrest⟩
      rw [hk] at hsame
      exact text_same_iff.mp hsame
    · exact eachUnder_cons.mpr ⟨hfirst, ih hrest⟩

/-- What is no mapping replaces what stood there. -/
theorem override_of_not_dict (h : v.isDict = false) (old : Value) : override old v = v := by
  cases v with
  | dict entries => exact absurd h (by simp [isDict])
  | _ => rfl

variable (hp : ∀ old v, p old = true → p v = true → p (override old v) = true)
include hp

/-- Entries laid over entries keep what each value under the key is. The induction is on the upper entries, as
they are laid one after another. -/
theorem eachUnder_overrideEntries (hl : (dict lower).eachUnder key p = true)
    (hu : (dict upper).eachUnder key p = true) :
    (dict (overrideEntries lower upper)).eachUnder key p = true := by
  induction upper generalizing lower with
  | nil => exact hl
  | cons entry upper ih =>
    obtain ⟨k, v⟩ := entry
    obtain ⟨hfirst, hrest⟩ := eachUnder_cons.mp hu
    rw [overrideEntries]
    refine ih (eachUnder_store hl fun hk => ?_) hrest
    subst hk
    rcases hold : find? (text key) lower with _ | old
    · exact hfirst rfl
    · exact hp old v (eachUnder_find? hl hold) (hfirst rfl)

/-- Overriding keeps what each value under a key is, if it keeps that of the values themselves. -/
theorem eachUnder_override {m m' : Value} (hl : m.eachUnder key p = true)
    (hu : m'.eachUnder key p = true) : (m.override m').eachUnder key p = true := by
  cases m' with
  | dict upper =>
    cases m with
    | dict lower => exact eachUnder_overrideEntries hp hl hu
    | _ => exact hu
  | _ => rfl

end StaticSite.Value
