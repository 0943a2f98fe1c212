import StaticSite.Proofs.Value.Override

/-!
# Overriding, path by path

Defaults and overrides are nested mappings, and what stands in one of them stands at a path of keys. Overriding is
told path by path: a value of the overrides stands where it stood, and a value of the defaults stands where the
overrides leave its path open, that is, hold nothing there and nothing but mappings above. Wherever both are
mappings, the keys of the defaults come first, in their order, and then those that are new.

The overrides are laid over the defaults one entry after another, so an entry must not be met twice: the keys of
a mapping are different texts (`Keyed`), at every depth (`IsNested`). What the defaults are made of matters for the
laws at the end only.

## Main definitions

* `Value.Keyed`, `Value.IsNested`: mappings with different texts for keys, and such mappings at every depth.
* `Value.at?`: the value at a path of keys.
* `Value.LeavesOpen`: a value holds nothing at a path, and nothing but mappings above.

## Main results

* `Value.find?_overrideEntries`, `Value.keys_overrideEntries`: one level of overriding.
* `Value.at?_override_iff`: the values that are no mappings.
* `Value.at?_override_of_both`: the place where both sides hold something.
* `Value.override_pathwise`: overriding, path by path, with its laws.
-/

namespace StaticSite.Value

variable {key : String} {path : List String} {k v w m d o leaf : Value}
  {entries lower upper : List (Value × Value)}

/-! ### Entries -/

/-- A mapping is made of entries. -/
theorem exists_entries_of_isDict (h : v.isDict = true) : ∃ entries, v = dict entries := by
  cases v with
  | dict entries => exact ⟨entries, rfl⟩
  | _ => exact absurd h (by simp [isDict])

/-- What is no mapping has no keys. -/
theorem get?_of_not_dict (h : v.isDict = false) (key : String) : v.get? key = none := by
  cases v with
  | dict entries => exact absurd h (by simp [isDict])
  | _ => rfl

/-- What has a key is a mapping. -/
theorem isDict_of_get? (h : v.get? key = some w) : v.isDict = true := by
  cases v with
  | dict entries => rfl
  | _ => exact absurd h (by simp [get?])

/-- The first entry is found under its key. -/
theorem find?_cons_self (key : String) (v : Value) (entries : List (Value × Value)) :
    find? (text key) ((text key, v) :: entries) = some v := by
  rw [find?, if_pos (same_text_iff.mpr rfl)]

/-- The first entry is passed over for any other key. -/
theorem find?_cons_of_ne (h : k ≠ text key) (v : Value) (entries : List (Value × Value)) :
    find? (text key) ((k, v) :: entries) = find? (text key) entries := by
  rw [find?, if_neg (by rwa [same_text_iff])]

/-- Nothing is found under a text exactly if it is no key. -/
theorem find?_eq_none_iff : find? (text key) entries = none ↔ text key ∉ entries.map Prod.fst := by
  induction entries with
  | nil => simp [find?]
  | cons entry entries ih =>
    obtain ⟨k, v⟩ := entry
    by_cases h : k = text key
    · rw [h, find?_cons_self]
      simp
    · rw [find?_cons_of_ne h, ih, List.map_cons, List.mem_cons, not_or]
      exact ⟨fun hrest => ⟨Ne.symm h, hrest⟩, And.right⟩

/-- What was written under a text is found under it. -/
theorem find?_store_self (key : String) (v : Value) (entries : List (Value × Value)) :
    find? (text key) (store (text key) v entries) = some v := by
  induction entries with
  | nil => exact find?_cons_self key v []
  | cons entry entries ih =>
    obtain ⟨k, w⟩ := entry
    rw [store]
    split
    · next hsame => rw [same_text_iff.mp hsame, find?_cons_self]
    · next hsame => rw [find?_cons_of_ne (mt same_text_iff.mpr hsame), ih]

/-- What is found under another text is what was. -/
theorem find?_store_of_ne (h : k ≠ text key) (v : Value) (entries : List (Value × Value)) :
    find? (text key) (store k v entries) = find? (text key) entries := by
  induction entries with
  | nil => exact find?_cons_of_ne h v []
  | cons entry entries ih =>
    obtain ⟨k', w⟩ := entry
    rw [store]
    split
    · next hsame =>
      -- the key that was there is the same as `k`, so it is another one than the text
      have hne : k' ≠ text key := by
        rintro rfl
        exact h (text_same_iff.mp hsame)
      rw [find?_cons_of_ne hne, find?_cons_of_ne hne]
    · rw [find?, find?, ih]

/-- Writing what is there changes nothing. -/
theorem store_of_find? (h : find? (text key) entries = some v) : store (text key) v entries = entries := by
  induction entries with
  | nil => exact absurd h (by simp [find?])
  | cons entry entries ih =>
    obtain ⟨k, w⟩ := entry
    rw [find?] at h
    rw [store]
    split
    · next hsame =>
      rw [if_pos hsame] at h
      rw [Option.some.inj h]
    · next hsame =>
      rw [if_neg hsame] at h
      rw [ih h]

/-- A key that is written stays where it is, or comes last if it is new. -/
theorem keys_store (key : String) (v : Value) (entries : List (Value × Value)) :
    (store (text key) v entries).map Prod.fst =
      entries.map Prod.fst ++ if (find? (text key) entries).isNone then [text key] else [] := by
  induction entries with
  | nil => rfl
  | cons entry entries ih =>
    obtain ⟨k, w⟩ := entry
    rw [store, find?]
    split
    · simp
    · rw [List.map_cons, ih, List.map_cons, List.cons_append]

/-! ### Nested mappings -/

/-- The keys of a mapping are different texts. -/
structure Keyed (entries : List (Value × Value)) : Prop where
  /-- Each key is a text. -/
  isText : ∀ entry ∈ entries, ∃ key, entry.1 = text key
  /-- No key stands twice. -/
  nodup : (entries.map Prod.fst).Nodup

/-- The first key is a text that does not come again. -/
theorem Keyed.cons (h : Keyed ((k, v) :: entries)) :
    ∃ key, k = text key ∧ find? (text key) entries = none ∧ Keyed entries := by
  obtain ⟨key, rfl⟩ := h.isText (k, v) List.mem_cons_self
  obtain ⟨hnotMem, hnodup⟩ := List.nodup_cons.mp h.nodup
  exact ⟨key, rfl, find?_eq_none_iff.mpr hnotMem,
    fun entry hentry => h.isText entry (List.mem_cons_of_mem _ hentry), hnodup⟩

/-- Every entry is found under its key. -/
theorem Keyed.find?_of_mem (h : Keyed entries) (hmem : (k, v) ∈ entries) :
    ∃ key, k = text key ∧ find? (text key) entries = some v := by
  induction entries with
  | nil => exact absurd hmem List.not_mem_nil
  | cons entry entries ih =>
    obtain ⟨k', w⟩ := entry
    obtain ⟨key', rfl, hnone, hrest⟩ := h.cons
    rcases List.mem_cons.mp hmem with heq | hmem
    · obtain ⟨rfl, rfl⟩ := Prod.mk.inj heq
      exact ⟨key', rfl, find?_cons_self key' v entries⟩
    · obtain ⟨key, rfl, hfound⟩ := ih hrest hmem
      refine ⟨key, rfl, (find?_cons_of_ne ?_ w entries).trans hfound⟩
      intro heq
      rw [heq, hfound] at hnone
      exact Option.some_ne_none v hnone

/-- What is found is one of the entries. -/
theorem mem_of_find? (h : find? (text key) entries = some v) : (text key, v) ∈ entries := by
  induction entries with
  | nil => exact absurd h (by simp [find?])
  | cons entry entries ih =>
    obtain ⟨k, w⟩ := entry
    rw [find?] at h
    split at h
    · next hsame =>
      rw [same_text_iff.mp hsame, Option.some.inj h]
      exact List.mem_cons_self
    · exact List.mem_cons_of_mem _ (ih h)

/-- Mappings with different texts for keys, at every depth down to values that are no mappings. -/
inductive IsNested : Value → Prop
  | leaf {v : Value} (h : v.isDict = false) : IsNested v
  | dict {entries : List (Value × Value)} (hkeyed : Keyed entries)
      (hvalues : ∀ entry ∈ entries, IsNested entry.2) : IsNested (dict entries)

theorem IsNested.keyed (h : IsNested (.dict entries)) : Keyed entries := by
  cases h with
  | leaf h => exact absurd h (by simp [isDict])
  | dict hkeyed _ => exact hkeyed

/-- What is found in a nested mapping is one. -/
theorem IsNested.of_get? (h : IsNested m) (hv : m.get? key = some v) : IsNested v := by
  cases h with
  | leaf h => exact absurd hv (by simp [get?_of_not_dict h])
  | dict _ hvalues => exact hvalues _ (mem_of_find? hv)

/-! ### One level -/

/-- A value laid over what was found, if anything was. -/
def overlaid (old? : Option Value) (v : Value) : Value :=
  match old? with
  | some old => override old v
  | none => v

theorem overrideEntries_cons (lower : List (Value × Value)) (k v : Value) (upper : List (Value × Value)) :
    overrideEntries lower ((k, v) :: upper) =
      overrideEntries (store k (overlaid (find? k lower) v) lower) upper := by
  rw [overrideEntries]
  rfl

/-- What is found under a key: what the defaults hold, with what the overrides hold laid over it. The induction is
on the overrides; as no key comes twice, each is laid over what the defaults held. -/
theorem find?_overrideEntries (h : Keyed upper) (lower : List (Value × Value)) :
    find? (text key) (overrideEntries lower upper) =
      match find? (text key) upper with
      | some v => some (overlaid (find? (text key) lower) v)
      | none => find? (text key) lower := by
  induction upper generalizing lower with
  | nil => rfl
  | cons entry upper ih =>
    obtain ⟨k, v⟩ := entry
    obtain ⟨key', rfl, hnone, hrest⟩ := h.cons
    rw [overrideEntries_cons, ih hrest]
    by_cases heq : key' = key
    · subst heq
      rw [hnone, find?_cons_self]
      exact find?_store_self _ _ _
    · have hne : text key' ≠ text key := fun h => heq (text.inj h)
      rw [find?_cons_of_ne hne, find?_store_of_ne hne]

/-- The keys are those of the defaults and then the new ones, each in their order. -/
theorem keys_overrideEntries (h : Keyed upper) (lower : List (Value × Value)) :
    (overrideEntries lower upper).map Prod.fst =
      lower.map Prod.fst ++ (upper.map Prod.fst).filter fun k => (find? k lower).isNone := by
  induction upper generalizing lower with
  | nil => rw [overrideEntries, List.map_nil, List.filter_nil, List.append_nil]
  | cons entry upper ih =>
    obtain ⟨k, v⟩ := entry
    obtain ⟨key, rfl, hnone, hrest⟩ := h.cons
    have hsame : ∀ k ∈ upper.map Prod.fst,
        (find? k (store (text key) (overlaid (find? (text key) lower) v) lower)).isNone =
          (find? k lower).isNone := by
      intro k hk
      obtain ⟨entry, hentry, rfl⟩ := List.mem_map.mp hk
      obtain ⟨other, hother⟩ := hrest.isText entry hentry
      rw [hother, find?_store_of_ne]
      rintro heq
      rw [← heq] at hother
      exact find?_eq_none_iff.mp hnone (hother ▸ hk)
    rw [overrideEntries_cons, ih hrest, keys_store, List.filter_congr hsame, List.map_cons,
      List.filter_cons, List.append_assoc]
    cases find? (text key) lower <;> rfl

/-- What is under a key of one mapping laid over another. -/
theorem get?_override (hd : d.isDict = true) (ho : o.isDict = true) (hnested : IsNested o) (key : String) :
    (override d o).get? key =
      match o.get? key with
      | some v => some (overlaid (d.get? key) v)
      | none => d.get? key := by
  obtain ⟨lower, rfl⟩ := exists_entries_of_isDict hd
  obtain ⟨upper, rfl⟩ := exists_entries_of_isDict ho
  exact find?_overrideEntries hnested.keyed lower

/-- What lies over a mapping is one if it was one. -/
theorem isDict_override (ho : o.isDict = true) (d : Value) : (override d o).isDict = true := by
  obtain ⟨upper, rfl⟩ := exists_entries_of_isDict ho
  cases d <;> rfl

/-! ### Paths -/

/-- The value at a path of keys through nested mappings. -/
def at? : Value → List String → Option Value
  | v, [] => some v
  | v, key :: path => (v.get? key).bind fun w => at? w path

@[simp] theorem at?_nil (v : Value) : v.at? [] = some v := rfl

theorem at?_cons (v : Value) (key : String) (path : List String) :
    v.at? (key :: path) = (v.get? key).bind fun w => w.at? path := rfl

/-- A value leaves a path open: it holds nothing there, and nothing but mappings above. -/
def LeavesOpen (v : Value) (path : List String) : Prop :=
  v.at? path = none ∧ ∀ above, above <+: path → ∀ w, v.at? above = some w → w.isDict = true

theorem not_leavesOpen_nil (v : Value) : ¬ LeavesOpen v [] := fun h => Option.some_ne_none v h.1

/-- A mapping leaves a path open if what it holds under the first key does. -/
theorem leavesOpen_cons (hv : v.isDict = true) :
    LeavesOpen v (key :: path) ↔ ∀ w, v.get? key = some w → LeavesOpen w path := by
  rw [LeavesOpen, at?_cons]
  rcases hw : v.get? key with _ | w
  · refine iff_of_true ⟨rfl, fun above habove u hu => ?_⟩ nofun
    rcases List.prefix_cons_iff.mp habove with rfl | ⟨rest, rfl, -⟩
    · rwa [← Option.some.inj hu]
    · rw [at?_cons, hw] at hu
      exact absurd hu nofun
  · simp only [Option.some.injEq, forall_eq']
    refine and_congr_right fun _ => ⟨fun h above habove u hu => ?_, fun h above habove u hu => ?_⟩
    · refine h (key :: above) (List.cons_prefix_cons.mpr ⟨rfl, habove⟩) u ?_
      rwa [at?_cons, hw]
    · rcases List.prefix_cons_iff.mp habove with rfl | ⟨rest, rfl, hrest⟩
      · rwa [← Option.some.inj hu]
      · rw [at?_cons, hw] at hu
        exact h rest hrest u hu

/-- A value that is no mapping leaves no path open. -/
theorem not_leavesOpen_of_not_dict (hv : v.isDict = false) (path : List String) : ¬ LeavesOpen v path := by
  intro h
  have hroot := h.2 [] List.nil_prefix v rfl
  rw [hv] at hroot
  exact absurd hroot Bool.false_ne_true

/-- A value that is no mapping holds itself and nothing else. -/
theorem at?_of_not_dict (hv : v.isDict = false) (h : v.at? path = some w) : path = [] := by
  cases path with
  | nil => rfl
  | cons key path =>
    rw [at?_cons, get?_of_not_dict hv] at h
    exact absurd h nofun

/-- What is no mapping is replaced by what lies over it. -/
theorem override_of_not_dict_lower (h : d.isDict = false) (v : Value) : override d v = v := by
  cases v with
  | dict upper =>
    cases d with
    | dict lower => exact absurd h (by simp [isDict])
    | _ => rfl
  | _ => rfl

/-- **The values that are no mappings.** They stand where the overrides hold one, and where the defaults do and
the overrides leave the path open. The induction is on the path. -/
theorem at?_override_iff (hd : d.isDict = true) (ho : o.isDict = true) (hnested : IsNested o)
    (hleaf : leaf.isDict = false) :
    (override d o).at? path = some leaf ↔
      o.at? path = some leaf ∨ d.at? path = some leaf ∧ LeavesOpen o path := by
  have hroot : ∀ {u : Value}, u.isDict = true → u ≠ leaf := by
    rintro u hu rfl
    rw [hu] at hleaf
    exact Bool.noConfusion hleaf
  induction path generalizing d o with
  | nil => simp [hroot (isDict_override ho d), hroot ho, not_leavesOpen_nil]
  | cons key path ih =>
    rw [at?_cons, at?_cons, at?_cons, get?_override hd ho hnested, leavesOpen_cons ho]
    rcases hv : o.get? key with _ | v
    · simp
    rcases hold : d.get? key with _ | old
    · simp [overlaid]
    simp only [Option.bind_some, Option.some.injEq, forall_eq', overlaid]
    by_cases hvd : v.isDict = true
    · by_cases holdd : old.isDict = true
      · exact ih holdd hvd (hnested.of_get? hv)
      · -- the mapping stands over a value, which can hold the leaf only by being it
        rw [Bool.not_eq_true] at holdd
        rw [override_of_not_dict_lower holdd]
        refine (or_iff_left ?_).symm
        rintro ⟨hat, hopen⟩
        rw [at?_of_not_dict holdd hat] at hopen
        exact not_leavesOpen_nil v hopen
    · rw [Bool.not_eq_true] at hvd
      rw [override_of_not_dict hvd]
      exact (or_iff_left fun h => not_leavesOpen_of_not_dict hvd path h.2).symm

/-- **Where both sides hold something**, it is laid one over the other. -/
theorem at?_override_of_both (hnested : IsNested o) (hd : d.at? path = some v) (ho : o.at? path = some w) :
    (override d o).at? path = some (override v w) := by
  induction path generalizing d o with
  | nil => rw [at?_nil, Option.some.inj hd, Option.some.inj ho]
  | cons key path ih =>
    rw [at?_cons] at hd ho
    obtain ⟨v', hv', hd⟩ := Option.bind_eq_some_iff.mp hd
    obtain ⟨w', hw', ho⟩ := Option.bind_eq_some_iff.mp ho
    rw [at?_cons, get?_override (isDict_of_get? hv') (isDict_of_get? hw') hnested, hw', hv']
    exact ih (hnested.of_get? hw') hd ho

/-! ### Laws -/

/-- Nothing changes if each entry that is laid over is there already. -/
theorem overrideEntries_eq_self (hkeyed : Keyed upper)
    (h : ∀ key v, (text key, v) ∈ upper → ∃ old, find? (text key) lower = some old ∧ override old v = old) :
    overrideEntries lower upper = lower := by
  induction upper with
  | nil => rfl
  | cons entry upper ih =>
    obtain ⟨k, v⟩ := entry
    obtain ⟨key, rfl, -, hrest⟩ := hkeyed.cons
    obtain ⟨old, hold, hsame⟩ := h key v List.mem_cons_self
    have hstay : store (text key) (overlaid (find? (text key) lower) v) lower = lower := by
      rw [hold]
      exact (congrArg (store (text key) · lower) hsame).trans (store_of_find? hold)
    rw [overrideEntries_cons, hstay]
    exact ih hrest fun key v hmem => h key v (List.mem_cons_of_mem _ hmem)

/-- A nested mapping laid over itself is itself. -/
theorem override_self (h : IsNested d) : override d d = d := by
  induction h with
  | leaf h => exact override_of_not_dict h _
  | dict hkeyed _ ih =>
    refine congrArg dict (overrideEntries_eq_self hkeyed fun key v hmem => ?_)
    obtain ⟨key', hkey, hfound⟩ := hkeyed.find?_of_mem hmem
    rw [text.inj hkey]
    exact ⟨v, hfound, ih _ hmem⟩

/-- Overrides laid over a second time change nothing. -/
theorem override_override (h : IsNested o) (d : Value) : override (override d o) o = override d o := by
  induction h generalizing d with
  | leaf h => rw [override_of_not_dict h, override_of_not_dict h]
  | @dict upper hkeyed hvalues ih =>
    cases hd : d.isDict with
    | false =>
      rw [override_of_not_dict_lower hd]
      exact override_self (.dict hkeyed hvalues)
    | true =>
      obtain ⟨lower, rfl⟩ := exists_entries_of_isDict hd
      refine congrArg dict (overrideEntries_eq_self hkeyed fun key v hmem => ?_)
      obtain ⟨key', hkey, hfound⟩ := hkeyed.find?_of_mem hmem
      rw [← text.inj hkey] at hfound
      rw [find?_overrideEntries hkeyed, hfound]
      refine ⟨_, rfl, ?_⟩
      cases find? (text key) lower with
      | none => exact override_self (hvalues _ hmem)
      | some old => exact ih _ hmem old

/-- Writing a new entry puts it at the end. -/
theorem store_of_find?_eq_none (h : find? (text key) entries = none) (v : Value) :
    store (text key) v entries = entries ++ [(text key, v)] := by
  induction entries with
  | nil => rfl
  | cons entry entries ih =>
    obtain ⟨k, w⟩ := entry
    rw [find?] at h
    split at h
    · exact absurd h (Option.some_ne_none w)
    · next hsame => rw [store, if_neg hsame, ih h, List.cons_append]

/-- Overrides of which nothing is there yet come after what is there. -/
theorem overrideEntries_of_new (hkeyed : Keyed upper)
    (h : ∀ key, text key ∈ upper.map Prod.fst → find? (text key) lower = none) :
    overrideEntries lower upper = lower ++ upper := by
  induction upper generalizing lower with
  | nil => rw [overrideEntries, List.append_nil]
  | cons entry upper ih =>
    obtain ⟨k, v⟩ := entry
    obtain ⟨key, rfl, hnone, hrest⟩ := hkeyed.cons
    have hnew : find? (text key) lower = none := h key List.mem_cons_self
    rw [overrideEntries_cons, hnew, store_of_find?_eq_none hnew, ih hrest, List.append_assoc]
    · rfl
    · intro other hother
      have hne : text key ≠ text other := by
        intro heq
        rw [heq] at hnone
        exact find?_eq_none_iff.mp hnone hother
      rw [← store_of_find?_eq_none hnew, find?_store_of_ne hne]
      exact h other (List.mem_cons_of_mem _ hother)

/-- The value at a path of a nested mapping is a nested mapping, or none. -/
theorem IsNested.of_at? (h : IsNested m) (hv : m.at? path = some v) : IsNested v := by
  induction path generalizing m with
  | nil => rwa [← Option.some.inj hv]
  | cons key path ih =>
    obtain ⟨w, hw, hv⟩ := Option.bind_eq_some_iff.mp hv
    exact ih (h.of_get? hw) hv

/-- **Overriding, path by path.** A value that is no mapping stands in the result where the overrides hold it, or
where the defaults hold it and the overrides leave the path open, and nowhere else. Where both sides hold a
mapping, its keys are those of the defaults and then the new ones, each in their order. So overrides without
entries change nothing, overrides of nothing stand as they are, and laying a mapping over itself, or overrides
over what they have been laid over, changes nothing. -/
theorem override_pathwise (hd : IsNested (dict lower)) (ho : IsNested (dict upper)) :
    (∀ path leaf, leaf.isDict = false →
      ((override (dict lower) (dict upper)).at? path = some leaf ↔
        (dict upper).at? path = some leaf ∨
          (dict lower).at? path = some leaf ∧ LeavesOpen (dict upper) path)) ∧
    (∀ path below above, (dict lower).at? path = some (dict below) →
      (dict upper).at? path = some (dict above) →
      ∃ merged, (override (dict lower) (dict upper)).at? path = some (dict merged) ∧
        merged.map Prod.fst =
          below.map Prod.fst ++ (above.map Prod.fst).filter fun k => (find? k below).isNone) ∧
    override (dict lower) (dict []) = dict lower ∧
    override (dict []) (dict upper) = dict upper ∧
    override (dict lower) (dict lower) = dict lower ∧
    override (override (dict lower) (dict upper)) (dict upper) = override (dict lower) (dict upper) := by
  refine ⟨fun path leaf hleaf => at?_override_iff rfl rfl ho hleaf, fun path below above hbelow habove => ?_,
    rfl, ?_, override_self hd, override_override ho (dict lower)⟩
  · exact ⟨_, at?_override_of_both ho hbelow habove, keys_overrideEntries (ho.of_at? habove).keyed below⟩
  · exact congrArg dict (overrideEntries_of_new ho.keyed fun _ _ => rfl)

/-- Defaults: a mapping and two values. -/
def sampleDefaults : List (Value × Value) :=
  [(text "entry", dict [(text "views", text "views"), (text "depth", int 1)]), (text "watch", dict []),
    (text "src", text "src")]

/-- Overrides: a mapping over a mapping, a value over a mapping and a mapping over a value. -/
def sampleOverrides : List (Value × Value) :=
  [(text "src", dict [(text "main", text "a")]), (text "entry", dict [(text "views", text "pages")]),
    (text "watch", null)]

/-- Both are nested mappings. -/
theorem isNested_sample : IsNested (dict sampleDefaults) ∧ IsNested (dict sampleOverrides) := by
  have hleaf : ∀ s, IsNested (text s) := fun s => .leaf rfl
  constructor
  · refine .dict ⟨by simp [sampleDefaults], by simp [sampleDefaults]⟩ ?_
    simp only [sampleDefaults, List.forall_mem_cons, List.not_mem_nil, false_imp_iff, implies_true, and_true]
    refine ⟨.dict ⟨by simp, by simp⟩ ?_, .dict ⟨by simp, by simp⟩ (by simp), hleaf _⟩
    simpa using ⟨hleaf _, .leaf rfl⟩
  · refine .dict ⟨by simp [sampleOverrides], by simp [sampleOverrides]⟩ ?_
    simp only [sampleOverrides, List.forall_mem_cons, List.not_mem_nil, false_imp_iff, implies_true, and_true]
    refine ⟨.dict ⟨by simp, by simp⟩ ?_, .dict ⟨by simp, by simp⟩ ?_, .leaf rfl⟩
    · simpa using hleaf _
    · simpa using hleaf _

/-- The overrides laid over the defaults: a value of either side, and the keys. -/
theorem sample_pathwise :
    IsNested (dict sampleDefaults) ∧ IsNested (dict sampleOverrides) ∧
      (override (dict sampleDefaults) (dict sampleOverrides)).at? ["entry", "depth"] = some (int 1) ∧
      (override (dict sampleDefaults) (dict sampleOverrides)).at? ["watch"] = some null ∧
      ∃ merged, override (dict sampleDefaults) (dict sampleOverrides) = dict merged ∧
        merged.map Prod.fst = [text "entry", text "watch", text "src"] := by
  obtain ⟨hd, ho⟩ := isNested_sample
  obtain ⟨hleaf, hkeys, -⟩ := override_pathwise hd ho
  have hopen : LeavesOpen (dict sampleOverrides) ["entry", "depth"] := by
    refine (leavesOpen_cons rfl).mpr fun w hw => ?_
    obtain rfl : dict [(text "views", text "pages")] = w := Option.some.inj hw
    exact (leavesOpen_cons rfl).mpr fun w hw => absurd hw nofun
  obtain ⟨merged, hmerged, hnames⟩ := hkeys [] sampleDefaults sampleOverrides rfl rfl
  exact ⟨hd, ho, (hleaf _ _ rfl).mpr (.inr ⟨rfl, hopen⟩), (hleaf _ _ rfl).mpr (.inl rfl), merged,
    Option.some.inj hmerged, hnames⟩

end StaticSite.Value
