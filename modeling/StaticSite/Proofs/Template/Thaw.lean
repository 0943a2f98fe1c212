import StaticSite.Site.Compile

/-!
# Settings as data

Settings are put into the store of a template cell by cell. A store only grows by that, and what was put
into it can be read back from it and from every store that it has grown to: the datum *shows* the value.

## Main definitions

* `Store.Shows`: a value can be read back from a datum, now and later.
* `Value.HasTextKeys`: all keys of the settings are texts.

## Main results

* `Store.thaw_shows`: settings in the store show the settings.
* `find?_entriesIn`, `textKeys_entriesIn_iff`: the names of the settings and of their data.
-/

namespace StaticSite

open Template (Datum Store)

variable {store : Store} {config : Value} {entries : List (Value × Value)} {name : String}

namespace Template.Store

variable {s s' : Store}

/-! ### Reading back -/

/-- A datum shows a value: wherever the store has grown to, the value is read back from the datum, if
the reading goes deep enough. -/
def Shows (s : Store) (d : Datum) (v : Value) : Prop :=
  ∀ s' : Store, s.toList <+: s'.toList → ∀ n, sizeOf v < n → s'.freezeAt n d = v

/-- What is shown is shown in every store that the store grows to. -/
theorem Shows.mono {d : Datum} {v : Value} (h : s.Shows d v) (hgrown : s.toList <+: s'.toList) :
    s'.Shows d v :=
  fun t ht => h t (hgrown.trans ht)

/-- A reading that goes deep enough goes at least one step deep. -/
theorem shows_of_succ {d : Datum} {v : Value} (h : ∀ s' : Store, s.toList <+: s'.toList → ∀ n,
    sizeOf v ≤ n → s'.freezeAt (n + 1) d = v) : s.Shows d v := by
  rintro s' hs' (_ | n) hn
  · exact absurd hn (Nat.not_lt_zero _)
  · exact h s' hs' n (Nat.le_of_lt_succ hn)

/-- A store grows by a cell. -/
theorem prefix_push (s : Store) (c : Cell) : s.toList <+: (s.push c).toList := by
  rw [Array.toList_push]
  exact List.prefix_append _ _

/-- A new cell stays what it is. -/
theorem cell_of_prefix_push {c : Cell} (h : (s.push c).toList <+: s'.toList) : s'.cell s.size = c := by
  obtain ⟨more, hmore⟩ := h
  rw [cell, ← Array.getElem?_toList, ← hmore, Array.toList_push, List.append_assoc,
    ← Array.length_toList, List.getElem?_append_right (Nat.le_refl _), Nat.sub_self]
  rfl

/-- New elements stay what they are. -/
theorem items_of_prefix_push {ds : List Datum} (h : (s.push (.items ds)).toList <+: s'.toList) :
    s'.items s.size = ds := by
  rw [items, cell_of_prefix_push h]

/-- New entries stay what they are. -/
theorem entries_of_prefix_push {es : List (Datum × Datum)}
    (h : (s.push (.entries es)).toList <+: s'.toList) : s'.entries s.size = es := by
  rw [Store.entries, cell_of_prefix_push h]

mutual

/-- Putting a value into the store only lets it grow. -/
theorem prefix_thaw (s : Store) : ∀ v, s.toList <+: (s.thaw v).2.toList
  | .null | .bool _ | .int _ | .float _ | .text _ | .bytes _ | .date _ | .moment _ => List.prefix_rfl
  | .tuple xs => prefix_thawItems s xs
  | .list xs | .set xs => (prefix_thawItems s xs).trans (prefix_push _ _)
  | .dict es => (prefix_thawEntries s es).trans (prefix_push _ _)

/-- Putting values into the store only lets it grow. -/
theorem prefix_thawItems (s : Store) : ∀ xs, s.toList <+: (s.thawItems xs).2.toList
  | [] => List.prefix_rfl
  | x :: xs => (prefix_thaw s x).trans (prefix_thawItems _ xs)

/-- Putting entries into the store only lets it grow. -/
theorem prefix_thawEntries (s : Store) : ∀ es, s.toList <+: (s.thawEntries es).2.toList
  | [] => List.prefix_rfl
  | (k, v) :: es => ((prefix_thaw s k).trans (prefix_thaw _ v)).trans (prefix_thawEntries _ es)

end

mutual

/-- What is put into the store shows the value that it was. -/
theorem thaw_shows (s : Store) : ∀ v, (s.thaw v).2.Shows (s.thaw v).1 v
  | .null | .bool _ | .int _ | .float _ | .text _ | .bytes _ | .date _ | .moment _ =>
    shows_of_succ fun _ _ _ _ => rfl
  | .list xs => shows_of_succ fun s' hs' n hn => by
    show Value.list _ = _
    rw [items_of_prefix_push hs', thawItems_show s xs s' ((prefix_push _ _).trans hs') n
      (by rw [Value.list.sizeOf_spec] at hn; omega)]
  | .set xs => shows_of_succ fun s' hs' n hn => by
    show Value.set _ = _
    rw [items_of_prefix_push hs', thawItems_show s xs s' ((prefix_push _ _).trans hs') n
      (by rw [Value.set.sizeOf_spec] at hn; omega)]
  | .tuple xs => shows_of_succ fun s' hs' n hn => by
    show Value.tuple _ = _
    rw [thawItems_show s xs s' hs' n (by rw [Value.tuple.sizeOf_spec] at hn; omega)]
  | .dict es => shows_of_succ fun s' hs' n hn => by
    show Value.dict _ = _
    rw [entries_of_prefix_push hs', thawEntries_show s es s' ((prefix_push _ _).trans hs') n
      (by rw [Value.dict.sizeOf_spec] at hn; omega)]

/-- What is put into the store shows the values that they were. -/
theorem thawItems_show (s : Store) : ∀ xs, ∀ s' : Store, (s.thawItems xs).2.toList <+: s'.toList →
    ∀ n, sizeOf xs ≤ n → (s.thawItems xs).1.map (s'.freezeAt n) = xs
  | [], _, _, _, _ => rfl
  | x :: xs, s', hs', n, hn => by
    have hsize : sizeOf (x :: xs) = 1 + sizeOf x + sizeOf xs := List.cons.sizeOf_spec x xs
    exact List.cons_eq_cons.mpr ⟨thaw_shows s x s' ((prefix_thawItems _ xs).trans hs') n (by omega),
      thawItems_show (s.thaw x).2 xs s' hs' n (by omega)⟩

/-- What is put into the store shows the entries that they were. -/
theorem thawEntries_show (s : Store) : ∀ es, ∀ s' : Store,
    (s.thawEntries es).2.toList <+: s'.toList → ∀ n, sizeOf es ≤ n →
    ((s.thawEntries es).1.map fun (k, v) => (s'.freezeAt n k, s'.freezeAt n v)) = es
  | [], _, _, _, _ => rfl
  | (k, v) :: es, s', hs', n, hn => by
    have hsize : sizeOf ((k, v) :: es) = 1 + sizeOf (k, v) + sizeOf es := List.cons.sizeOf_spec _ es
    have hentry : sizeOf (k, v) = 1 + sizeOf k + sizeOf v := Prod.mk.sizeOf_spec k v
    have hlater := (prefix_thawEntries ((s.thaw k).2.thaw v).2 es).trans hs'
    have hkey := thaw_shows s k s' ((prefix_thaw _ v).trans hlater) n (by omega)
    have hvalue := thaw_shows (s.thaw k).2 v s' hlater n (by omega)
    exact List.cons_eq_cons.mpr ⟨Prod.ext hkey hvalue,
      thawEntries_show ((s.thaw k).2.thaw v).2 es s' hs' n (by omega)⟩

end

end Template.Store

/-! ### The names of the settings -/

/-- All keys of the settings are texts. -/
def Value.HasTextKeys (config : Value) : Prop :=
  ∀ entries, config = .dict entries → ∀ entry ∈ entries, ∃ s, entry.1 = .text s

namespace Template

/-- An entry stands under a name. -/
def isKeyed (name : String) : Datum × Datum → Bool := fun (k, _) =>
  match k with
  | .text s _ => s == name
  | _ => false

namespace Store

variable {s' : Store}

/-- A key that is put into the store is a name if and only if it was the same as the name. -/
theorem isKeyed_thaw (store : Store) (name : String) (k : Value) (d : Datum) :
    isKeyed name ((store.thaw k).1, d) = Value.same k (.text name) := by
  cases k with
  | text s => simp [isKeyed, thaw, Value.same]
  | _ => simp [isKeyed, thaw, alloc, Value.same, Value.asInteger?]

/-- What is found under a name shows what was found there before. -/
theorem find?_thawEntries (store : Store) (name : String) (entries : List (Value × Value))
    (hgrown : (store.thawEntries entries).2.toList <+: s'.toList) :
    Option.Rel (fun entry v => s'.Shows entry.2 v)
      ((store.thawEntries entries).1.find? (isKeyed name)) (Value.find? (.text name) entries) := by
  induction entries generalizing store with
  | nil => exact .none
  | cons entry entries ih =>
    obtain ⟨k, v⟩ := entry
    rw [Value.find?, thawEntries, List.find?_cons, isKeyed_thaw]
    cases Value.same k (.text name) with
    | true =>
      exact .some ((thaw_shows (store.thaw k).2 v).mono ((prefix_thawEntries _ entries).trans hgrown))
    | false => exact ih _ hgrown

/-- All keys are texts in the store if and only if they were. -/
theorem textKeys_thawEntries_iff (store : Store) :
    textKeys (store.thawEntries entries).1 = true ↔ ∀ entry ∈ entries, ∃ s, entry.1 = .text s := by
  induction entries generalizing store with
  | nil => simp [thawEntries, textKeys]
  | cons entry entries ih =>
    obtain ⟨k, v⟩ := entry
    rw [thawEntries, textKeys, List.all_cons, Bool.and_eq_true, ← textKeys, ih, List.forall_mem_cons]
    refine and_congr_left fun _ => ?_
    cases k <;> simp [thaw, alloc]

end Store

end Template

/-- The entries of the settings in the store are those of the mapping. -/
theorem entriesIn_thaw_dict (store : Store) (entries : List (Value × Value)) :
    entriesIn (store.thaw (.dict entries)).2 (store.thaw (.dict entries)).1 =
      (store.thawEntries entries).1 := by
  simp [Template.Store.thaw, Template.Store.alloc, entriesIn, Template.Store.entries,
    Template.Store.cell]

/-- What is found under a name among the entries of the settings is what the settings have there. -/
theorem find?_entriesIn (store : Store) (config : Value) (name : String) :
    Option.Rel (fun entry v => (store.thaw config).2.Shows entry.2 v)
      ((entriesIn (store.thaw config).2 (store.thaw config).1).find? (Template.isKeyed name))
      (config.get? name) := by
  cases config with
  | dict entries =>
    rw [entriesIn_thaw_dict]
    exact Template.Store.find?_thawEntries store name entries (Template.Store.prefix_push _ _)
  | _ => exact .none

/-- All entries of the settings in the store have texts for keys if and only if the settings do. -/
theorem textKeys_entriesIn_iff (store : Store) (config : Value) :
    textKeys (entriesIn (store.thaw config).2 (store.thaw config).1) = true ↔ config.HasTextKeys := by
  cases config with
  | dict entries =>
    rw [entriesIn_thaw_dict, Template.Store.textKeys_thawEntries_iff]
    constructor
    · rintro h entries' heq
      rwa [← Value.dict.inj heq]
    · intro h
      exact h entries rfl
  | _ => exact ⟨fun _ _ => nofun, fun _ => rfl⟩

end StaticSite
