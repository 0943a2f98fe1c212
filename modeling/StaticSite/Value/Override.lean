import StaticSite.Value.Basic

/-!
# Overriding defaults

Settings are defaults with overrides laid over them: mappings are merged key by key at every depth,
anything else replaces what stood there. Keys of the defaults keep their places and new keys follow
in the order of the overrides.

## Main definitions

* `Value.override`: overrides laid over defaults.
-/

namespace StaticSite.Value

mutual

/-- Lay one value over another: two mappings are merged, otherwise the upper value stands. -/
def override (lower : Value) : Value → Value
  | dict upper =>
    match lower with
    | dict entries => dict (overrideEntries entries upper)
    | _ => dict upper
  | upper => upper

/-- Lay the entries of one mapping over those of another, in order. -/
def overrideEntries (lower : List (Value × Value)) : List (Value × Value) → List (Value × Value)
  | [] => lower
  | (k, v) :: upper =>
    let merged := match find? k lower with
      | some old => override old v
      | none => v
    overrideEntries (store k merged lower) upper

end

end StaticSite.Value
