import StaticSite.Proofs.Disk.Locate

/-!
# Names below a directory

The paths that a walk goes through are names put one after another to the directory where it begins.
Their places, their endings and their ways from the directory are read off the names.

## Main definitions

* `Path.below`: names put one after another to a directory.
* `Path.spelled`: the way down that names spell.

## Main results

* `Path.place_below`: the place of names below a directory.
* `Path.hasEnding_join`: a path ends as its last name does.
* `Path.join_spelled`: the way down, put to a directory as a whole.
* `Disk.Firm.below`: names below a firm directory are firm.
-/

namespace StaticSite

namespace Path

variable {p q c root : String} {names : List String}

/-! ### One name -/

/-- What a path is put after is the same for every path put to it. -/
theorem Chars.join_eq_append (p : List Char) :
    ∃ start, ∀ q, Chars.isAbsolute q = false → Chars.join p q = start ++ q := by
  by_cases hlast : (p.isEmpty || p.getLast? == some '/') = true
  · exact ⟨p, fun q hq => by rw [Chars.join, if_neg (by simp [hq]), if_pos hlast]⟩
  · refine ⟨p ++ ['/'], fun q hq => ?_⟩
    rw [Chars.join, if_neg (by simp [hq]), if_neg hlast, List.append_assoc, List.singleton_append]

/-- What a path is put after ends with a slash, if there is any of it. -/
theorem Chars.join_nil_eq (p : List Char) : Chars.join p [] = [] ∨ ∃ a, Chars.join p [] = a ++ ['/'] := by
  rw [Chars.join, if_neg (by simp [Chars.isAbsolute]), List.append_nil]
  split
  · next hp =>
    rw [Bool.or_eq_true, List.isEmpty_iff, beq_iff_eq, List.getLast?_eq_some_iff] at hp
    exact hp
  · exact .inr ⟨p, rfl⟩

/-- Two names put one after another are put as a whole. -/
theorem Chars.join_join (p : List Char) {q r : List Char} (hq : Chars.isAbsolute q = false)
    (hne : q ≠ []) (hlast : q.getLast? ≠ some '/') (hr : Chars.isAbsolute r = false) :
    Chars.join (Chars.join p q) r = Chars.join p (q ++ '/' :: r) := by
  obtain ⟨start, hstart⟩ := Chars.join_eq_append p
  have hqr : Chars.isAbsolute (q ++ '/' :: r) = false := by
    obtain ⟨x, xs, rfl⟩ := List.exists_cons_of_ne_nil hne
    exact hq
  have hend : (start ++ q).getLast? ≠ some '/' := by
    rwa [List.getLast?_append_of_ne_nil _ hne]
  have hnil : start ++ q ≠ [] := by simp [hne]
  rw [hstart q hq, hstart _ hqr, Chars.join, if_neg (by simp [hr]), if_neg, List.append_assoc]
  rw [Bool.or_eq_true, List.isEmpty_iff, beq_iff_eq, not_or]
  exact ⟨hnil, hend⟩

/-- A path put after another one stands after what any path is put after there. -/
theorem toList_join_eq (p : String) {q : String} (hq : isAbsolute q = false) :
    (join p q).toList = (join p "").toList ++ q.toList := by
  obtain ⟨start, hstart⟩ := Chars.join_eq_append p.toList
  rw [join, join, String.toList_ofList, String.toList_ofList, hstart q.toList hq, String.toList_empty,
    hstart [] rfl, List.append_nil]

/-- A path joined to an absolute one stands after a slash. -/
theorem toList_join (hp : isAbsolute p = true) (hq : isAbsolute q = false) :
    ∃ start, (join p q).toList = start ++ '/' :: q.toList ∧ p.toList <+: start ++ ['/'] := by
  have hne : p.toList ≠ [] := by
    intro hnil
    rw [isAbsolute, hnil] at hp
    exact absurd hp (by simp [Chars.isAbsolute])
  rw [isAbsolute] at hq
  rw [join, String.toList_ofList, Chars.join, if_neg (by simp [hq])]
  by_cases hlast : p.toList.getLast? = some '/'
  · obtain ⟨start, hstart⟩ := List.getLast?_eq_some_iff.mp hlast
    refine ⟨start, ?_, hstart ▸ List.prefix_refl _⟩
    rw [if_pos (by simp [hlast]), hstart]
    simp
  · refine ⟨p.toList, ?_, List.prefix_append _ _⟩
    rw [if_neg (by simp [hlast, hne])]

/-- The base name of a name put to a directory is the name. -/
theorem baseName_join (hp : isAbsolute p = true) (hc : '/' ∉ c.toList) : baseName (join p c) = c := by
  obtain ⟨start, hstart, -⟩ := toList_join hp (isAbsolute_of_notMem hc)
  rw [baseName, hstart, Chars.baseName, List.reverse_append, List.reverse_cons, List.append_assoc,
    List.takeWhile_append_of_pos fun x hx => by
      have : x ∈ c.toList := List.mem_reverse.mp hx
      rw [bne_iff_ne]
      rintro rfl
      exact hc this]
  simp

/-- A path ends with a slashless text exactly if its last name does. -/
theorem hasEnding_join (hp : isAbsolute p = true) (hc : '/' ∉ c.toList) {ending : String}
    (hending : '/' ∉ ending.toList) : hasEnding (join p c) ending = hasEnding c ending := by
  obtain ⟨start, hstart, -⟩ := toList_join hp (isAbsolute_of_notMem hc)
  rw [Bool.eq_iff_iff, hasEnding, hasEnding, hstart, Text.endsWith, Text.endsWith,
    List.isPrefixOf_iff_prefix, List.isPrefixOf_iff_prefix, List.reverse_prefix,
    List.reverse_prefix]
  constructor
  · rintro ⟨init, hinit⟩
    rcases List.append_eq_append_iff.mp hinit with ⟨t, -, ht⟩ | ⟨t, -, ht⟩
    · cases t with
      | nil =>
        rw [List.nil_append] at ht
        exact absurd (ht ▸ List.mem_cons_self) hending
      | cons x xs =>
        rw [ht] at hending
        simp at hending
    · cases t with
      | nil =>
        rw [List.nil_append] at ht
        exact absurd (ht ▸ List.mem_cons_self) hending
      | cons x xs =>
        rw [List.cons_append, List.cons.injEq] at ht
        exact ⟨xs, ht.2.symm⟩
  · rintro ⟨init, hinit⟩
    exact ⟨start ++ '/' :: init, by rw [← hinit]; simp⟩

/-- Every character of a joined path is a slash or one of the two parts. -/
theorem mem_join {x : Char} (h : x ∈ (join p q).toList) : x = '/' ∨ x ∈ p.toList ∨ x ∈ q.toList := by
  rw [join, String.toList_ofList, Chars.join] at h
  split at h
  · exact .inr (.inr h)
  · split at h
    · exact .inr (List.mem_append.mp h)
    · rcases List.mem_append.mp h with h | h
      · exact .inr (.inl h)
      · exact (List.mem_cons.mp h).imp_right .inr

/-- A path joined to another one begins at the root exactly if that does, unless it stands alone. -/
theorem isAbsolute_join_eq (hq : isAbsolute q = false) : isAbsolute (join p q) = isAbsolute p := by
  by_cases hp : isAbsolute p = true
  · rw [hp, isAbsolute_join hp]
  · rw [Bool.not_eq_true] at hp
    rw [hp]
    rw [isAbsolute] at hp hq ⊢
    rw [join, String.toList_ofList, Chars.join, if_neg (by simp [hq])]
    rcases hl : p.toList with _ | ⟨x, xs⟩
    · simpa using hq
    · rw [hl] at hp
      split <;> simpa [Chars.isAbsolute] using hp

/-- A name joined to a path spells the entry of that name, wherever the path is seen from. -/
theorem placeFrom_join_name (hc : IsName c) (cwd : String) :
    placeFrom cwd (join p c) = placeFrom cwd p ++ [c] := by
  have hrelative := isAbsolute_of_notMem hc.slash
  obtain ⟨start, hcuts, hstart⟩ := cuts_join (p := p) hrelative
  have hbefore : ∀ q, descend q start = descend q (cuts p) := by
    intro q
    rcases hstart with heq | heq
    · rw [heq]
    · rw [heq, descend_append, descend_cons, step_empty, descend_nil]
  rw [placeFrom_eq, placeFrom_eq, isAbsolute_join_eq hrelative, hcuts, cuts_of_notMem hc.slash,
    descend_append, hbefore, descend_cons, step_name _ hc.ne_empty hc.ne_dot hc.ne_up, descend_nil]

/-! ### Names one after another -/

/-- Names put one after another to a directory. -/
def below (root : String) (names : List String) : String := names.foldl join root

@[simp] theorem below_nil (root : String) : below root [] = root := rfl

theorem below_append (root : String) (as bs : List String) :
    below root (as ++ bs) = below (below root as) bs := List.foldl_append

theorem below_concat (root : String) (names : List String) (c : String) :
    below root (names ++ [c]) = join (below root names) c := below_append root names [c]

/-- Names below an absolute directory make an absolute path. -/
theorem isAbsolute_below (h : isAbsolute root = true) (names : List String) :
    isAbsolute (below root names) = true := by
  induction names generalizing root with
  | nil => exact h
  | cons c cs ih => exact ih (isAbsolute_join h)

/-- The place of names below a directory. -/
theorem place_below (root : String) (h : ∀ c ∈ names, IsName c) :
    place (below root names) = place root ++ names := by
  induction names generalizing root with
  | nil => simp
  | cons c cs ih =>
    have hrest : ∀ x ∈ cs, IsName x := fun x hx => h x (List.mem_cons_of_mem _ hx)
    change place (below (join root c) cs) = _
    rw [ih _ hrest, place_join_name (h c List.mem_cons_self), List.append_assoc,
      List.singleton_append]

/-- The place of names below a directory, wherever it is seen from. -/
theorem placeFrom_below (cwd root : String) (h : ∀ c ∈ names, IsName c) :
    placeFrom cwd (below root names) = placeFrom cwd root ++ names := by
  induction names generalizing root with
  | nil => simp
  | cons c cs ih =>
    have hrest : ∀ x ∈ cs, IsName x := fun x hx => h x (List.mem_cons_of_mem _ hx)
    change placeFrom cwd (below (join root c) cs) = _
    rw [ih _ hrest, placeFrom_join_name (h c List.mem_cons_self), List.append_assoc,
      List.singleton_append]

/-! ### The way down -/

/-- The way down that names spell. -/
def spelled (names : List String) : String :=
  String.ofList (Text.join ['/'] (names.map String.toList))

/-- A way down does not begin at the root. -/
theorem isAbsolute_spelled (h : ∀ c ∈ names, IsName c) : isAbsolute (spelled names) = false := by
  rw [spelled, isAbsolute, String.toList_ofList]
  cases names with
  | nil => rfl
  | cons c cs =>
    have hc := h c List.mem_cons_self
    rcases hl : c.toList with _ | ⟨x, xs⟩
    · exact absurd (by rwa [String.toList_eq_nil_iff] at hl) hc.ne_empty
    · have hx : x ≠ '/' := fun hx => hc.slash (by rw [hl, hx]; exact List.mem_cons_self)
      have hhead : (Text.join ['/'] ((c :: cs).map String.toList)).head? = some x := by
        cases cs with
        | nil => simp [Text.join, hl]
        | cons d ds =>
          rw [List.map_cons, List.map_cons, Text.join, hl]
          · rfl
          · simp
      rw [Chars.isAbsolute, hhead]
      simpa using hx

/-- The way down, put to a directory as a whole, leads where its names do one after another. -/
theorem join_spelled (hroot : isAbsolute root = true) (h : ∀ c ∈ names, IsName c) (hne : names ≠ []) :
    join root (spelled names) = below root names := by
  induction names generalizing root with
  | nil => exact absurd rfl hne
  | cons c cs ih =>
    have hc := h c List.mem_cons_self
    have hrest : ∀ x ∈ cs, IsName x := fun x hx => h x (List.mem_cons_of_mem _ hx)
    by_cases hcs : cs = []
    · subst hcs
      simp [spelled, Text.join, below]
    change _ = below (join root c) cs
    rw [← ih (isAbsolute_join hroot) hrest hcs]
    -- both paths are the directory, a slash, the name, a slash and the rest
    have hspelled : (spelled (c :: cs)).toList = c.toList ++ '/' :: (spelled cs).toList := by
      obtain ⟨d, ds, rfl⟩ := List.exists_cons_of_ne_nil hcs
      rw [spelled, spelled, String.toList_ofList, String.toList_ofList, List.map_cons, List.map_cons,
        Text.join]
      · simp
      · simp
    have hlast : c.toList.getLast? ≠ some '/' := fun hget =>
      hc.slash (List.mem_of_getLast? hget)
    have hnil : c.toList ≠ [] := fun hnil => hc.ne_empty (by rwa [String.toList_eq_nil_iff] at hnil)
    have := Chars.join_join root.toList (isAbsolute_of_notMem hc.slash) hnil hlast
      (isAbsolute_spelled hrest)
    rw [join, hspelled, ← this, join, join, String.toList_ofList]

/-- Names without null characters, below a directory without one, make a path without one. -/
theorem null_notMem_below (hroot : Char.ofNat 0 ∉ root.toList)
    (hnames : ∀ c ∈ names, Char.ofNat 0 ∉ c.toList) : Char.ofNat 0 ∉ (below root names).toList := by
  induction names generalizing root with
  | nil => exact hroot
  | cons c cs ih =>
    refine ih (fun hmem => ?_) fun x hx => hnames x (List.mem_cons_of_mem _ hx)
    rcases mem_join hmem with hx | hx | hx
    · exact absurd hx (by decide)
    · exact hroot hx
    · exact hnames c List.mem_cons_self hx

end Path

namespace Disk

open Path

variable {d : Disk} {p q root : String} {names : List String}

/-- A path that never goes up is firm below a firm directory. -/
theorem Firm.join (h : d.Firm p) (hq : isAbsolute q = false) (hup : climbs q = false)
    (hnull : Char.ofNat 0 ∉ q.toList) : d.Firm (Path.join p q) := by
  refine ⟨isAbsolute_join h.absolute, fun hmem => ?_, ?_⟩
  · rcases mem_join hmem with hx | hx | hx
    · exact absurd hx (by decide)
    · exact h.null hx
    · exact hnull hx
  · obtain ⟨start, hjoin, hp⟩ := cuts_join (p := p) hq
    have hstart : d.Steady [] start := by
      have := h.steady
      rcases hp with hp | hp
      · rwa [hp] at this
      · rw [hp, steady_append] at this
        exact this.1
    rw [hjoin, steady_append]
    refine ⟨hstart, steady_of_notMem_up ?_⟩
    simpa [climbs] using hup

/-- A name is firm below a firm directory. -/
theorem Firm.join_name (h : d.Firm p) {c : String} (hc : IsName c) (hnull : Char.ofNat 0 ∉ c.toList) :
    d.Firm (Path.join p c) := by
  refine h.join (isAbsolute_of_notMem hc.slash) ?_ hnull
  rw [climbs, cuts_of_notMem hc.slash]
  simpa using (Ne.symm hc.ne_up)

/-- Names below a firm directory are firm. -/
theorem Firm.below (h : d.Firm root) (hnames : ∀ c ∈ names, IsName c ∧ Char.ofNat 0 ∉ c.toList) :
    d.Firm (Path.below root names) := by
  induction names generalizing root with
  | nil => exact h
  | cons c cs ih =>
    have hc := hnames c List.mem_cons_self
    exact ih (h.join_name hc.1 hc.2) fun x hx => hnames x (List.mem_cons_of_mem _ hx)

end Disk

end StaticSite
