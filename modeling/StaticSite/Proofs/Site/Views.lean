import Mathlib.Data.List.Lex
import Mathlib.Data.List.Sort
import StaticSite.Proofs.Site.Walk

/-!
# The views below a directory

Which views a plan holds, and in which order, without following the plan: a view is a path that ends
like a template and has no such path above it, and the views are met in the reverse of the order of
their names, compared from the directory downwards. Two disks with the same views below a directory
give the same plan for them.

## Main definitions

* `IsView`: names below a directory that lead to a view.
* `viewsBelow`: the views of a plan.
* `MetBefore`: names below a directory that a walk meets before others.

## Main results

* `viewsBelow_eq`: the views of a plan are those below the directory, each once, in reverse order.
* `IsView.metBefore`: in reverse order means that children that are listed later are met before.
* `viewsBelow_congr`: disks with the same views below a directory have the same plan for them.
-/

namespace StaticSite

open Path

/-- Names below a directory that lead to a view: something is there, it ends like a template, and what
is above it can be read and does not. -/
structure IsView (d : Disk) (root : String) (names : List String) : Prop where
  /-- Something is there, unless it is the directory itself. -/
  there : names = [] ∨ (d.get? (place root ++ names)).isSome
  /-- It ends like a template. -/
  ending : hasEnding (below root names) templateExt = true
  /-- Nothing above it, from the directory on, ends like a template or has too long a path. -/
  above : ∀ init rest, names = init ++ rest → rest ≠ [] →
    hasEnding (below root init) templateExt = false ∧
      (below root init).utf8ByteSize ≤ Disk.maxPathBytes

/-- The views that a walk meets, in the order in which it meets them. -/
def viewsBelow (d : Disk) (n : Nat) (root : String) : List String :=
  (visits d n root).filterMap Visit.view?

/-- A plan builds its views. -/
theorem mem_viewsBelow {d : Disk} {n : Nat} {root view : String} :
    view ∈ viewsBelow d n root ↔ .view view ∈ visits d n root := by
  rw [viewsBelow, List.mem_filterMap]
  constructor
  · rintro ⟨v, hv, heq⟩
    cases v with
    | view path =>
      obtain rfl : path = view := by simpa [Visit.view?] using heq
      exact hv
    | skip path => simp [Visit.view?] at heq
    | unreadable path => simp [Visit.view?] at heq
  · exact fun h => ⟨_, h, rfl⟩

variable {d d' : Disk} {root c : String} {names rest : List String}

/-- The names of a view are those of entries. -/
theorem IsView.entryName (hd : d.WellFormed) (h : IsView d root names) : ∀ c ∈ names, Disk.EntryName c := by
  intro c hc
  rcases h.there with rfl | hsome
  · exact absurd hc List.not_mem_nil
  · exact hd.entryName hsome c (List.mem_append_right _ hc)

/-- A view below a directory that is no view itself is one below a child. -/
theorem isView_cons (hc : IsName c) (hroot : hasEnding root templateExt = false)
    (hshort : root.utf8ByteSize ≤ Disk.maxPathBytes)
    (hsome : (d.get? (place root ++ [c])).isSome) :
    IsView d root (c :: rest) ↔ IsView d (Path.join root c) rest := by
  have hplace : place root ++ c :: rest = place (Path.join root c) ++ rest := by
    rw [place_join_name hc, List.append_assoc, List.singleton_append]
  constructor
  · intro h
    refine ⟨?_, h.ending, fun init tail heq hne => ?_⟩
    · rw [← hplace]
      exact .inr (h.there.resolve_left (by simp))
    · exact h.above (c :: init) tail (by rw [heq, List.cons_append]) hne
  · intro h
    refine ⟨.inr ?_, h.ending, fun init tail heq hne => ?_⟩
    · rcases h.there with rfl | hthere
      · exact hsome
      · rwa [hplace]
    · cases init with
      | nil => exact ⟨hroot, hshort⟩
      | cons x init =>
        rw [List.cons_append, List.cons.injEq] at heq
        obtain ⟨rfl, heq⟩ := heq
        exact h.above init tail heq hne

/-- The directory itself is a view if it ends like a template, and then nothing below it is. -/
theorem isView_of_hasEnding (hroot : hasEnding root templateExt = true) :
    IsView d root names ↔ names = [] := by
  constructor
  · intro h
    by_contra hne
    have := (h.above [] names rfl hne).1
    rw [below_nil, hroot] at this
    exact absurd this (by simp)
  · rintro rfl
    refine ⟨.inl rfl, hroot, fun init rest heq hne => ?_⟩
    rw [eq_comm, List.append_eq_nil_iff] at heq
    exact absurd heq.2 hne

/-- Below what cannot be read as a directory there is no view. -/
theorem not_isView (hd : d.WellFormed) (hfirm : d.Firm root)
    (hroot : hasEnding root templateExt = false) (hlist : ∀ children, d.list root ≠ .ok children) :
    ¬IsView d root names := by
  intro h
  rcases h.there with rfl | hthere
  · have := h.ending
    rw [below_nil, hroot] at this
    exact absurd this (by simp)
  · by_cases hnil : names = []
    · subst hnil
      have := h.ending
      rw [below_nil, hroot] at this
      exact absurd this (by simp)
    · refine hlist _ ((Disk.list_eq_ok hd hfirm).mpr ⟨?_, hd.get?_of_append hnil hthere, rfl⟩)
      exact (h.above [] names rfl hnil).2

/-- A file cannot be read as a directory. -/
theorem list_ne_ok_of_isFile (hd : d.WellFormed) (hfirm : d.Firm root) (hfile : d.isFile root = true)
    (children : List String) : d.list root ≠ .ok children := by
  intro hl
  obtain ⟨-, hfolder, -⟩ := (Disk.list_eq_ok hd hfirm).mp hl
  rw [Disk.isFile, Disk.find?_eq hd hfirm, hfolder] at hfile
  split at hfile
  · next heq =>
    split at heq
    · exact absurd heq (by simp)
    · simp [Option.filter] at heq
  · exact absurd hfile (by simp)

/-- A view in a directory is below a child of it. -/
theorem IsView.mem_children {c : String} {rest : List String} (hd : d.WellFormed)
    (h : IsView d root (c :: rest)) : c ∈ d.children (place root) := by
  have hthere := h.there.resolve_left (by simp)
  rw [Disk.mem_children]
  by_cases hrest : rest = []
  · rwa [hrest] at hthere
  · rw [show place root ++ c :: rest = (place root ++ [c]) ++ rest by simp] at hthere
    rw [hd.get?_of_append hrest hthere]
    rfl

/-- Lists that descend, put together behind heads that descend, descend. -/
theorem pairwise_flatMap_cons {heads : List String} {tails : String → List (List String)}
    (hheads : heads.Pairwise (· > ·)) (htails : ∀ c ∈ heads, (tails c).Pairwise (· > ·)) :
    (heads.flatMap fun c => (tails c).map (c :: ·)).Pairwise (· > ·) := by
  rw [List.pairwise_flatMap]
  refine ⟨fun c hc => ?_, hheads.imp fun hlt x hx y hy => ?_⟩
  · rw [List.pairwise_map]
    exact (htails c hc).imp fun h => List.cons_lt_cons_iff.mpr (.inr ⟨rfl, h⟩)
  · obtain ⟨as, -, rfl⟩ := List.mem_map.mp hx
    obtain ⟨bs, -, rfl⟩ := List.mem_map.mp hy
    exact List.cons_lt_cons_iff.mpr (.inl hlt)

/-- The views of a plan are those below the directory, each once, and in the reverse of the order of
their names. The induction is on the number of nested directories. -/
theorem viewsBelow_eq (hd : d.WellFormed) (hfirm : d.Firm root) {n : Nat} (hn : 0 < n)
    (hfuel : d.entries.length < n + (place root).length) :
    ∃ found : List (List String), viewsBelow d n root = found.map (below root) ∧
      found.Pairwise (· > ·) ∧ ∀ names, names ∈ found ↔ IsView d root names := by
  induction n generalizing root with
  | zero => omega
  | succ n ih =>
    rw [viewsBelow, visits]
    by_cases hroot : hasEnding root templateExt = true
    · rw [if_pos hroot]
      refine ⟨[[]], rfl, List.pairwise_singleton _ _, fun names => ?_⟩
      rw [isView_of_hasEnding hroot, List.mem_singleton]
    have hroot' : hasEnding root templateExt = false := by simpa using hroot
    rw [if_neg hroot]
    by_cases hfile : d.isFile root = true
    · rw [if_pos hfile]
      refine ⟨[], rfl, .nil, fun names => ?_⟩
      simp [not_isView hd hfirm hroot' (list_ne_ok_of_isFile hd hfirm hfile)]
    rw [if_neg hfile]
    rcases hl : d.list root with e | children
    · refine ⟨[], rfl, .nil, fun names => ?_⟩
      simp [not_isView hd hfirm hroot' (by simp [hl])]
    obtain ⟨hshort, hfolder, hchildren⟩ := (Disk.list_eq_ok hd hfirm).mp hl
    have hsome : ∀ c ∈ children, (d.get? (place root ++ [c])).isSome := fun c hc =>
      Disk.isSome_of_mem_list hd hfirm hl hc
    have hname : ∀ c ∈ children, Disk.EntryName c := fun c hc =>
      Disk.entryName_of_mem_list hd hl hc
    have hbelow : ∀ c ∈ children, ∃ found : List (List String),
        viewsBelow d n (Path.join root c) = found.map (below (Path.join root c)) ∧
          found.Pairwise (· > ·) ∧ ∀ names, names ∈ found ↔ IsView d (Path.join root c) names := by
      intro c hc
      obtain ⟨hn', hfuel'⟩ := Disk.depth_of_mem_list hd hfirm hl hc hfuel
      exact ih (hfirm.join_name (hname c hc).toIsName (hname c hc).null) hn' hfuel'
    choose! found hviews hsorted hmem using hbelow
    refine ⟨children.reverse.flatMap fun c => (found c).map (c :: ·), ?_, ?_, fun names => ?_⟩
    · simp only [List.filterMap_flatMap, List.map_flatMap, List.map_map]
      rw [List.flatMap_congr]
      intro c hc
      exact hviews c (List.mem_reverse.mp hc)
    · refine pairwise_flatMap_cons ?_ fun c hc => hsorted c (List.mem_reverse.mp hc)
      rw [List.pairwise_reverse, hchildren]
      exact Disk.children_sorted hd _
    · simp only [List.mem_flatMap, List.mem_reverse, List.mem_map]
      constructor
      · rintro ⟨c, hc, rest, hrest, rfl⟩
        rw [isView_cons (hname c hc).toIsName hroot' hshort (hsome c hc)]
        exact (hmem c hc rest).mp hrest
      · intro h
        cases names with
        | nil =>
          have := h.ending
          rw [below_nil, hroot'] at this
          exact absurd this (by simp)
        | cons c rest =>
          have hc : c ∈ children := by
            rw [hchildren]
            exact h.mem_children hd
          refine ⟨c, hc, rest, (hmem c hc rest).mpr ?_, rfl⟩
          exact (isView_cons (hname c hc).toIsName hroot' hshort (hsome c hc)).mp h

/-- Every view is met once. -/
theorem viewsBelow_nodup (hd : d.WellFormed) (hfirm : d.Firm root) {n : Nat} (hn : 0 < n)
    (hfuel : d.entries.length < n + (place root).length) : (viewsBelow d n root).Nodup := by
  obtain ⟨found, hviews, hsorted, hmem⟩ := viewsBelow_eq hd hfirm hn hfuel
  rw [hviews]
  refine List.Nodup.map_on (fun names hnames names' hnames' heq => ?_)
    (hsorted.imp fun h => (ne_of_lt h).symm)
  have hplace := congrArg place heq
  rw [place_below _ fun c hc => (((hmem _).mp hnames).entryName hd c hc).toIsName,
    place_below _ fun c hc => (((hmem _).mp hnames').entryName hd c hc).toIsName] at hplace
  exact List.append_cancel_left hplace

/-! ### The order of a walk -/

/-- Names below a directory are met before others: where the ways part, in a directory, they go on to a
child that is listed later. -/
def MetBefore (d : Disk) (root : String) (names names' : List String) : Prop :=
  ∃ init c c' rest rest' children, names = init ++ c :: rest ∧ names' = init ++ c' :: rest' ∧
    d.list (below root init) = .ok children ∧ [c', c].Sublist children

/-- Where lists in order part, their elements are in order, unless the first one goes on as the second
one. -/
theorem exists_parting {as bs : List String} (h : as < bs) :
    (∃ rest, rest ≠ [] ∧ bs = as ++ rest) ∨
      ∃ init a b as' bs', as = init ++ a :: as' ∧ bs = init ++ b :: bs' ∧ a < b := by
  induction as generalizing bs with
  | nil =>
    refine .inl ⟨bs, ?_, rfl⟩
    rintro rfl
    exact List.not_lt_nil _ h
  | cons a as ih =>
    cases bs with
    | nil => exact absurd h (List.not_lt_nil _)
    | cons b bs =>
      rcases List.cons_lt_cons_iff.mp h with hlt | ⟨rfl, hlt⟩
      · exact .inr ⟨[], a, b, as, bs, rfl, rfl, hlt⟩
      · rcases ih hlt with ⟨rest, hne, rfl⟩ | ⟨init, x, y, as', bs', rfl, rfl, hxy⟩
        · exact .inl ⟨rest, hne, rfl⟩
        · exact .inr ⟨a :: init, x, y, as', bs', rfl, rfl, hxy⟩

/-- A view whose names come later is met before. -/
theorem IsView.metBefore (hd : d.WellFormed) (hfirm : d.Firm root) {names' : List String}
    (h : IsView d root names) (h' : IsView d root names') (hlt : names' < names) :
    MetBefore d root names names' := by
  rcases exists_parting hlt with ⟨rest, hne, heq⟩ | ⟨init, c', c, rest', rest, rfl, rfl, hcc⟩
  · -- nothing is met below a view
    have := (h.above names' rest heq hne).1
    rw [h'.ending] at this
    exact absurd this (by simp)
  · have hentry := h.entryName hd
    have hinit : ∀ x ∈ init, Disk.EntryName x := fun x hx => hentry x (List.mem_append_left _ hx)
    have hplace := place_below root fun x hx => (hinit x hx).toIsName
    have hthere : ∀ {x : String} {xs : List String}, IsView d root (init ++ x :: xs) →
        x ∈ d.children (place (below root init)) := by
      intro x xs hview
      have hsome := hview.there.resolve_left (by simp)
      rw [hplace, Disk.mem_children]
      by_cases hxs : xs = []
      · rw [hxs, ← List.append_assoc] at hsome
        exact hsome
      · rw [show place root ++ (init ++ x :: xs) = (place root ++ init ++ [x]) ++ xs by simp] at hsome
        rw [hd.get?_of_append hxs hsome]
        rfl
    have hfolder : d.get? (place (below root init)) = some .folder := by
      have hsome := h.there.resolve_left (by simp)
      rw [← List.append_assoc, ← hplace] at hsome
      exact hd.get?_of_append (by simp) hsome
    refine ⟨init, c, c', rest, rest', _, rfl, rfl, (Disk.list_eq_ok hd ?_).mpr
      ⟨(h.above init _ rfl (by simp)).2, hfolder, rfl⟩, ?_⟩
    · exact hfirm.below fun x hx => ⟨(hinit x hx).toIsName, (hinit x hx).null⟩
    · have hsub : [c', c] ⊆ d.children (place (below root init)) := by
        simp [hthere h, hthere h']
      have hnodup : [c', c].Nodup := by simpa using ne_of_lt hcc
      exact List.sublist_of_subperm_of_pairwise (hnodup.subperm hsub)
        (by simpa using hcc) (Disk.children_sorted hd _)

/-- Two disks with the same views below a directory give the same plan for them. -/
theorem viewsBelow_congr (hd : d.WellFormed) (hd' : d'.WellFormed) (hfirm : d.Firm root)
    (hfirm' : d'.Firm root) {n n' : Nat} (hn : 0 < n) (hn' : 0 < n')
    (hfuel : d.entries.length < n + (place root).length)
    (hfuel' : d'.entries.length < n' + (place root).length)
    (hsame : ∀ names, IsView d root names ↔ IsView d' root names) :
    viewsBelow d' n' root = viewsBelow d n root := by
  obtain ⟨found, hviews, hsorted, hmem⟩ := viewsBelow_eq hd hfirm hn hfuel
  obtain ⟨found', hviews', hsorted', hmem'⟩ := viewsBelow_eq hd' hfirm' hn' hfuel'
  have hperm : found'.Perm found := by
    rw [List.perm_ext_iff_of_nodup (hsorted'.imp fun h => (ne_of_lt h).symm)
      (hsorted.imp fun h => (ne_of_lt h).symm)]
    exact fun names => by rw [hmem', hmem, hsame]
  rw [hviews, hviews', hperm.eq_of_pairwise (fun _ _ _ _ h₁ h₂ => absurd h₂ (lt_asymm h₁)) hsorted'
    hsorted]

end StaticSite
