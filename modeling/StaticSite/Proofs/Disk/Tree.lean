import Mathlib.Data.List.Induction
import Mathlib.Data.List.Perm.Subperm
import Mathlib.Data.List.Nodup
import Mathlib.Data.String.Basic
import StaticSite.Proofs.Path.Place

/-!
# The tree on a disk

The entries of a disk form a tree: every entry has a proper name and stands in a folder, and no place
has two entries. The operations of `StaticSite.Site.Disk` are described by what stands at each place
afterwards, so that nothing after this module looks at the list of entries again.

## Main definitions

* `Disk.EntryName`: the names that entries can have.
* `Disk.WellFormed`: the entries form a tree.

## Main results

* `Disk.get?_set`: what stands at a place after an entry was written.
* `Disk.WellFormed.get?_of_append`: what lies above an entry is a folder.
* `Disk.mem_children`, `Disk.children_sorted`: the names in a folder, in strict order.
-/

namespace StaticSite

/-! ### Names -/

instance (c : String) : Decidable (Path.IsName c) :=
  decidable_of_iff (c ≠ "" ∧ c ≠ "." ∧ c ≠ ".." ∧ '/' ∉ c.toList)
    ⟨fun ⟨h₁, h₂, h₃, h₄⟩ => ⟨h₁, h₂, h₃, h₄⟩,
      fun h => ⟨h.ne_empty, h.ne_dot, h.ne_up, h.slash⟩⟩

namespace Disk

/-- A name that an entry can have. -/
structure EntryName (c : String) : Prop extends Path.IsName c where
  /-- It holds no null character. -/
  null : Char.ofNat 0 ∉ c.toList
  /-- It is short enough. -/
  short : c.utf8ByteSize ≤ maxNameBytes

instance (c : String) : Decidable (EntryName c) :=
  decidable_of_iff (Path.IsName c ∧ Char.ofNat 0 ∉ c.toList ∧ c.utf8ByteSize ≤ maxNameBytes)
    ⟨fun ⟨h₁, h₂, h₃⟩ => ⟨h₁, h₂, h₃⟩, fun h => ⟨h.toIsName, h.null, h.short⟩⟩

/-! ### Entries -/

variable {d : Disk} {p q : Place} {e : Entry}

/-- The root is a folder. -/
@[simp] theorem get?_root (d : Disk) : d.get? [] = some .folder := rfl

/-- Away from the root, the entries say what stands at a place. -/
theorem get?_eq_lookup (h : p ≠ []) : d.get? p = d.entries.lookup p := by
  rw [get?, if_neg (by simpa using h)]

/-- What is looked up is an entry. -/
theorem mem_of_lookup {entries : List (Place × Entry)} (h : entries.lookup p = some e) :
    (p, e) ∈ entries := by
  induction entries with
  | nil => simp [List.lookup_nil] at h
  | cons x xs ih =>
    obtain ⟨q, old⟩ := x
    rw [List.lookup_cons] at h
    split at h
    · next hq =>
      obtain rfl : p = q := by simpa using hq
      obtain rfl : old = e := by simpa using h
      exact List.mem_cons_self
    · exact List.mem_cons_of_mem _ (ih h)

/-- Every entry is found under its place. -/
theorem lookup_isSome_of_mem {entries : List (Place × Entry)} (h : p ∈ entries.map Prod.fst) :
    (entries.lookup p).isSome := by
  induction entries with
  | nil => simp at h
  | cons x xs ih =>
    obtain ⟨q, old⟩ := x
    rw [List.lookup_cons]
    split
    · rfl
    · next hq =>
      rcases List.mem_cons.mp h with h | h
      · simp [h] at hq
      · exact ih h

/-- What is found after an entry was written: the entry at its place, and what was there elsewhere. -/
theorem lookup_setEntry (entries : List (Place × Entry)) (p q : Place) (e : Entry) :
    (setEntry p e entries).lookup q = if q = p then some e else entries.lookup q := by
  induction entries with
  | nil =>
    rw [setEntry, List.lookup_cons, List.lookup_nil]
    by_cases h : q = p
    · simp [h]
    · rw [beq_false_of_ne h, if_neg h]
  | cons x xs ih =>
    obtain ⟨r, old⟩ := x
    rw [setEntry]
    by_cases hr : r = p
    · rw [if_pos (by simpa using hr), List.lookup_cons, List.lookup_cons, hr]
      by_cases h : q = p
      · simp [h]
      · rw [beq_false_of_ne h, if_neg h]
    · rw [if_neg (by simpa using hr), List.lookup_cons, List.lookup_cons, ih]
      by_cases h : q = r
      · simp [h, hr]
      · rw [beq_false_of_ne h]

/-- Writing what is there already changes nothing. -/
theorem setEntry_of_lookup {entries : List (Place × Entry)} (h : entries.lookup p = some e) :
    setEntry p e entries = entries := by
  induction entries with
  | nil => simp [List.lookup_nil] at h
  | cons x xs ih =>
    obtain ⟨q, old⟩ := x
    rw [List.lookup_cons] at h
    rw [setEntry]
    by_cases hq : q = p
    · subst hq
      obtain rfl : old = e := by simpa using h
      simp
    · rw [beq_false_of_ne (Ne.symm hq)] at h
      rw [if_neg (by simpa using hq), ih h]

/-- The places of the entries after one was written: its own place, and those there were. -/
theorem mem_map_setEntry {entries : List (Place × Entry)} :
    q ∈ (setEntry p e entries).map Prod.fst ↔ q = p ∨ q ∈ entries.map Prod.fst := by
  induction entries with
  | nil => simp [setEntry]
  | cons x xs ih =>
    obtain ⟨r, old⟩ := x
    rw [setEntry]
    by_cases hr : r = p
    · rw [if_pos (by simpa using hr), hr]
      simp
    · rw [if_neg (by simpa using hr), List.map_cons, List.map_cons, List.mem_cons, List.mem_cons, ih]
      exact or_left_comm

/-- No place gets a second entry. -/
theorem nodup_setEntry {entries : List (Place × Entry)} (h : (entries.map Prod.fst).Nodup) :
    ((setEntry p e entries).map Prod.fst).Nodup := by
  induction entries with
  | nil => simp [setEntry]
  | cons x xs ih =>
    obtain ⟨r, old⟩ := x
    rw [List.map_cons, List.nodup_cons] at h
    rw [setEntry]
    by_cases hr : r = p
    · rw [if_pos (by simpa using hr), ← hr]
      simpa using h
    · rw [if_neg (by simpa using hr), List.map_cons, List.nodup_cons]
      refine ⟨fun hmem => ?_, ih h.2⟩
      rcases mem_map_setEntry.mp hmem with hrp | hmem
      · exact hr hrp
      · exact h.1 hmem

@[simp] theorem set_cwd (d : Disk) (p : Place) (e : Entry) : (d.set p e).cwd = d.cwd := rfl

@[simp] theorem set_home (d : Disk) (p : Place) (e : Entry) : (d.set p e).home = d.home := rfl

/-- What stands at a place after an entry was written below the root. -/
theorem get?_set (hp : p ≠ []) (q : Place) :
    (d.set p e).get? q = if q = p then some e else d.get? q := by
  by_cases hq : q = []
  · subst hq
    simp [Ne.symm hp]
  · rw [get?_eq_lookup hq, get?_eq_lookup hq, set, lookup_setEntry]

/-- Writing what stands there already changes nothing. -/
theorem set_of_get? (hp : p ≠ []) (h : d.get? p = some e) : d.set p e = d := by
  rw [get?_eq_lookup hp] at h
  rw [set, setEntry_of_lookup h]

/-! ### The tree -/

/-- The entries of a disk form a tree. -/
structure WellFormed (d : Disk) : Prop where
  /-- No place has two entries. -/
  nodup : (d.entries.map Prod.fst).Nodup
  /-- Every entry has a proper name. -/
  names : ∀ p ∈ d.entries.map Prod.fst, ∀ c ∈ p, EntryName c
  /-- Every entry stands in a folder. -/
  parents : ∀ p ∈ d.entries.map Prod.fst, d.get? p.dropLast = some .folder

instance (d : Disk) : Decidable d.WellFormed :=
  decidable_of_iff ((d.entries.map Prod.fst).Nodup ∧
      (∀ p ∈ d.entries.map Prod.fst, ∀ c ∈ p, EntryName c) ∧
      ∀ p ∈ d.entries.map Prod.fst, d.get? p.dropLast = some .folder)
    ⟨fun ⟨h₁, h₂, h₃⟩ => ⟨h₁, h₂, h₃⟩, fun h => ⟨h.nodup, h.names, h.parents⟩⟩

/-- What stands below the root is an entry. -/
theorem mem_of_get? (hp : p ≠ []) (h : (d.get? p).isSome) : p ∈ d.entries.map Prod.fst := by
  obtain ⟨e, he⟩ := Option.isSome_iff_exists.mp h
  rw [get?_eq_lookup hp] at he
  exact List.mem_map.mpr ⟨(p, e), mem_of_lookup he, rfl⟩

namespace WellFormed

/-- The names on the way to what stands somewhere are proper. -/
theorem entryName (hd : d.WellFormed) (h : (d.get? p).isSome) : ∀ c ∈ p, EntryName c := by
  by_cases hp : p = []
  · simp [hp]
  · exact hd.names p (mem_of_get? hp h)

/-- What stands below the root stands in a folder. -/
theorem get?_dropLast (hd : d.WellFormed) (h : (d.get? p).isSome) :
    d.get? p.dropLast = some .folder := by
  by_cases hp : p = []
  · simp [hp]
  · exact hd.parents p (mem_of_get? hp h)

/-- What lies above an entry is a folder. -/
theorem get?_of_append (hd : d.WellFormed) (hq : q ≠ []) (h : (d.get? (p ++ q)).isSome) :
    d.get? p = some .folder := by
  induction q using List.reverseRecOn with
  | nil => exact absurd rfl hq
  | append_singleton init last ih =>
    have hup : d.get? (p ++ init) = some .folder := by
      have := hd.get?_dropLast h
      rwa [← List.append_assoc, List.dropLast_concat] at this
    by_cases hinit : init = []
    · rwa [hinit, List.append_nil] at hup
    · exact ih hinit (by simp [hup])

/-- Nothing stands below a place that is no folder. -/
theorem get?_append_eq_none (hd : d.WellFormed) (hq : q ≠ []) (h : d.get? p ≠ some .folder) :
    d.get? (p ++ q) = none := by
  by_contra hne
  exact h (hd.get?_of_append hq (Option.isSome_iff_ne_none.mpr hne))

/-- Writing an entry into a folder keeps the tree, unless a folder would become a file. -/
theorem set (hd : d.WellFormed) (hp : p ≠ []) (hnames : ∀ c ∈ p, EntryName c)
    (hparent : d.get? p.dropLast = some .folder)
    (hkind : d.get? p = some .folder → e = .folder) : (d.set p e).WellFormed := by
  refine ⟨nodup_setEntry hd.nodup, fun q hq => ?_, fun q hq => ?_⟩
  · rcases mem_map_setEntry.mp hq with rfl | hq
    · exact hnames
    · exact hd.names q hq
  · have hfolder : d.get? q.dropLast = some .folder := by
      rcases mem_map_setEntry.mp hq with rfl | hq
      · exact hparent
      · exact hd.parents q hq
    rw [get?_set hp]
    split
    · next h =>
      rw [hkind (h ▸ hfolder)]
    · exact hfolder

/-- A place is at most as deep as there are entries. -/
theorem length_le (hd : d.WellFormed) (h : (d.get? p).isSome) :
    p.length ≤ d.entries.length := by
  have hnodup : ((List.range p.length).map fun k => p.take (k + 1)).Nodup := by
    refine List.nodup_range.map_on fun i hi j hj hij => ?_
    have := congrArg List.length hij
    rw [List.mem_range] at hi hj
    simp only [List.length_take] at this
    omega
  have hsub : ((List.range p.length).map fun k => p.take (k + 1)) ⊆ d.entries.map Prod.fst := by
    intro q hq
    obtain ⟨k, hk, rfl⟩ := List.mem_map.mp hq
    rw [List.mem_range] at hk
    have hne : p.take (k + 1) ≠ [] := by
      intro hnil
      have := congrArg List.length hnil
      simp only [List.length_take, List.length_nil] at this
      omega
    refine mem_of_get? hne ?_
    by_cases hrest : p.drop (k + 1) = []
    · rwa [List.take_of_length_le (List.drop_eq_nil_iff.mp hrest)]
    · rw [hd.get?_of_append hrest (by rwa [List.take_append_drop])]
      rfl
  simpa using (List.subperm_of_subset hnodup hsub).length_le

end WellFormed

/-! ### The names in a folder -/

/-- A name leads from a folder to the entry of that name. -/
theorem childName?_eq_some {name : String} : childName? p q = some name ↔ q = p ++ [name] := by
  rw [childName?]
  constructor
  · intro h
    split at h
    · next hd =>
      obtain rfl : _ = name := by simpa using h
      have key : ∀ p q : Place, (Path.Chars.dropCommon p q).1 = [] →
          q = p ++ (Path.Chars.dropCommon p q).2 := by
        intro p
        induction p with
        | nil => intro q _; cases q <;> rfl
        | cons x xs ih =>
          intro q hq
          cases q with
          | nil => simp [Path.Chars.dropCommon] at hq
          | cons y ys =>
            rw [Path.Chars.dropCommon] at hq ⊢
            split at hq
            · next hxy =>
              obtain rfl : x = y := by simpa using hxy
              simpa using ih ys hq
            · simp at hq
      have := key p q (by rw [hd])
      rwa [hd] at this
    · simp at h
  · rintro rfl
    rw [Path.dropCommon_append]

end Disk

namespace Text

/-! ### Sorting -/

variable {α : Type}

/-- Inserting adds the element. -/
theorem insertSorted_perm (before : α → α → Bool) (x : α) (xs : List α) :
    (insertSorted before x xs).Perm (x :: xs) := by
  induction xs with
  | nil => exact .refl _
  | cons y ys ih =>
    rw [insertSorted]
    split
    · exact .refl _
    · exact (ih.cons y).trans (.swap x y ys)

/-- Sorting keeps the elements. -/
theorem sortBy_perm (before : α → α → Bool) (xs : List α) : (sortBy before xs).Perm xs := by
  have key : ∀ (xs sorted : List α),
      (xs.foldl (fun sorted x => insertSorted before x sorted) sorted).Perm (sorted ++ xs) := by
    intro xs
    induction xs with
    | nil => simp
    | cons x xs ih =>
      intro sorted
      rw [List.foldl_cons]
      refine (ih _).trans ?_
      refine ((insertSorted_perm before x sorted).append_right xs).trans ?_
      exact (List.perm_middle).symm
  simpa [sortBy] using key xs []

/-- Inserting keeps the order. -/
theorem insertSorted_pairwise [LinearOrder α] {x : α} {xs : List α} (h : xs.Pairwise (· ≤ ·)) :
    (insertSorted (fun a b => decide (a < b)) x xs).Pairwise (· ≤ ·) := by
  induction xs with
  | nil => simp [insertSorted]
  | cons y ys ih =>
    rw [List.pairwise_cons] at h
    rw [insertSorted]
    split
    · next hxy =>
      have hxy : x < y := by simpa using hxy
      refine List.pairwise_cons.mpr ⟨fun z hz => ?_, List.pairwise_cons.mpr h⟩
      rcases List.mem_cons.mp hz with rfl | hz
      · exact hxy.le
      · exact hxy.le.trans (h.1 z hz)
    · next hxy =>
      have hyx : y ≤ x := by simpa using hxy
      refine List.pairwise_cons.mpr ⟨fun z hz => ?_, ih h.2⟩
      rcases List.mem_cons.mp ((insertSorted_perm _ x ys).mem_iff.mp hz) with rfl | hz
      · exact hyx
      · exact h.1 z hz

/-- Sorting puts the elements into order. -/
theorem sortBy_pairwise [LinearOrder α] (xs : List α) :
    (sortBy (fun a b => decide (a < b)) xs).Pairwise (· ≤ ·) := by
  have key : ∀ (xs sorted : List α), sorted.Pairwise (· ≤ ·) →
      (xs.foldl (fun sorted x => insertSorted (fun a b => decide (a < b)) x sorted) sorted).Pairwise
        (· ≤ ·) := by
    intro xs
    induction xs with
    | nil => exact fun _ h => h
    | cons x xs ih => exact fun sorted h => ih _ (insertSorted_pairwise h)
  exact key xs [] .nil

end Text

namespace Disk

variable {d d' : Disk} {p : Place}

/-- The names in a folder are those of the entries directly below it. -/
theorem mem_children {name : String} :
    name ∈ d.children p ↔ (d.get? (p ++ [name])).isSome := by
  rw [children, (Text.sortBy_perm _ _).mem_iff, List.mem_filterMap,
    get?_eq_lookup (by simp)]
  constructor
  · rintro ⟨⟨q, e⟩, hmem, hq⟩
    rw [childName?_eq_some] at hq
    exact lookup_isSome_of_mem (List.mem_map.mpr ⟨(q, e), hmem, hq⟩)
  · intro h
    obtain ⟨e, he⟩ := Option.isSome_iff_exists.mp h
    exact ⟨_, mem_of_lookup he, childName?_eq_some.mpr rfl⟩

/-- The names in a folder of a tree stand in strict order. -/
theorem children_sorted (hd : d.WellFormed) (p : Place) : (d.children p).Pairwise (· < ·) := by
  have hnodup : (d.children p).Nodup := by
    rw [children, (Text.sortBy_perm _ _).nodup_iff]
    have : (d.entries.map Prod.fst).filterMap (childName? p) =
        d.entries.filterMap fun e => childName? p e.1 := by
      rw [List.filterMap_map]
      rfl
    change (d.entries.filterMap fun e => childName? p e.1).Nodup
    rw [← this]
    refine List.Nodup.filterMap (fun a b name ha hb => ?_) hd.nodup
    rw [Option.mem_def, childName?_eq_some] at ha hb
    rw [ha, hb]
  have hsorted : (d.children p).Pairwise (· ≤ ·) := Text.sortBy_pairwise _
  exact (hsorted.and hnodup).imp fun h => lt_of_le_of_ne h.1 h.2

/-- Two trees with the same entries directly below a place have the same names there, in the same
order. -/
theorem children_congr (hd : d.WellFormed) (hd' : d'.WellFormed)
    (h : ∀ name, (d.get? (p ++ [name])).isSome ↔ (d'.get? (p ++ [name])).isSome) :
    d.children p = d'.children p := by
  have hperm : (d.children p).Perm (d'.children p) := by
    rw [List.perm_ext_iff_of_nodup ((children_sorted hd p).imp ne_of_lt)
      ((children_sorted hd' p).imp ne_of_lt)]
    intro name
    rw [mem_children, mem_children, h]
  exact hperm.eq_of_pairwise (fun _ _ _ _ h₁ h₂ => absurd h₂ (lt_asymm h₁))
    (children_sorted hd p) (children_sorted hd' p)

end Disk

end StaticSite
