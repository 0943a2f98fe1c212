import StaticSite.Proofs.Path.Cuts
import StaticSite.Site.Disk

/-!
# The place that a path spells

Read piece by piece, a path spells a place: a name goes down, `..` goes up, and `.` or nothing stays.
The spelling rules of `StaticSite.Path.Chars` are tied to this reading once, here: the components of
the canonical spelling are the place, a joined path spells the second part from the place of the first,
and containment is the prefix relation of places.

## Main definitions

* `Path.step`, `Path.descend`, `Path.place`: one piece, the pieces, and the place of an absolute path.
* `Path.placeFrom`: the place of any path, seen from a working directory.
* `Path.climbs`: some piece goes up.

## Main results

* `Path.absoluteComponents_eq`: the canonical components of a path are its place.
* `Path.isWithin_iff`: containment is the prefix relation of places.
* `Path.relative_of_append`: the way down from one place to another is spelled by the names between.
-/

namespace StaticSite.Path

/-! ### Places -/

/-- Carry out a piece of a path from a place. -/
def step (p : Place) (c : String) : Place :=
  if c.isEmpty || c == "." then p else if c == ".." then p.dropLast else p ++ [c]

/-- Carry out pieces from a place. -/
def descend (p : Place) (cs : List String) : Place := cs.foldl step p

/-- The place of an absolute path. -/
def place (path : String) : Place := descend [] (cuts path)

/-- The path begins at the root. -/
def isAbsolute (p : String) : Bool := Chars.isAbsolute p.toList

/-- The place of a path seen from a working directory. -/
def placeFrom (cwd path : String) : Place :=
  if isAbsolute path then place path else descend (place cwd) (cuts path)

/-- Some piece of a path goes up. -/
def climbs (p : String) : Bool := (cuts p).contains ".."

/-- A name that an entry of a folder can have, by its spelling. -/
structure IsName (c : String) : Prop where
  /-- It is not empty. -/
  ne_empty : c ≠ ""
  /-- It is not the sign of the folder itself. -/
  ne_dot : c ≠ "."
  /-- It is not the sign of the folder above. -/
  ne_up : c ≠ ".."
  /-- It holds no slash. -/
  slash : '/' ∉ c.toList

@[simp] theorem descend_nil (p : Place) : descend p [] = p := rfl

@[simp] theorem descend_cons (p : Place) (c : String) (cs : List String) :
    descend p (c :: cs) = descend (step p c) cs := rfl

theorem descend_append (p : Place) (as bs : List String) :
    descend p (as ++ bs) = descend (descend p as) bs := List.foldl_append

/-- Nothing stays where it is. -/
@[simp] theorem step_empty (p : Place) : step p "" = p := rfl

/-- A dot stays where it is. -/
@[simp] theorem step_dot (p : Place) : step p "." = p := rfl

/-- Two dots go up. -/
@[simp] theorem step_up (p : Place) : step p ".." = p.dropLast := rfl

/-- A name goes down. -/
theorem step_name (p : Place) {c : String} (h₁ : c ≠ "") (h₂ : c ≠ ".") (h₃ : c ≠ "..") :
    step p c = p ++ [c] := by
  rw [step, if_neg, if_neg (by simpa using h₃)]
  simp [h₁, h₂]

/-- Pieces that never go up lead to a place below. -/
theorem descend_of_notMem_up (p : Place) {cs : List String} (h : ".." ∉ cs) :
    descend p cs = p ++ cs.filter fun c => c != "" && c != "." := by
  induction cs generalizing p with
  | nil => simp
  | cons c cs ih =>
    rw [List.mem_cons, not_or] at h
    rw [descend_cons, ih _ h.2]
    by_cases h₁ : c = ""
    · simp [h₁]
    by_cases h₂ : c = "."
    · simp [h₂]
    rw [step_name p h₁ h₂ (Ne.symm h.1)]
    simp [h₁, h₂]

/-- Every component of a place is a real piece that does not go up. -/
theorem descend_components {p : Place} {cs : List String}
    (hp : ∀ c ∈ p, c ≠ "" ∧ c ≠ "." ∧ c ≠ "..") (hcs : ∀ c ∈ cs, '/' ∉ c.toList)
    (hps : ∀ c ∈ p, '/' ∉ c.toList) : ∀ c ∈ descend p cs, IsName c := by
  induction cs generalizing p with
  | nil => exact fun c hc => ⟨(hp c hc).1, (hp c hc).2.1, (hp c hc).2.2, hps c hc⟩
  | cons c cs ih =>
    have hrest : ∀ x ∈ cs, '/' ∉ x.toList := fun x hx => hcs x (List.mem_cons_of_mem _ hx)
    rw [descend_cons]
    by_cases h₁ : c = ""
    · simpa [h₁] using ih hp hrest hps
    by_cases h₂ : c = "."
    · simpa [h₂] using ih hp hrest hps
    by_cases h₃ : c = ".."
    · rw [h₃, step_up]
      exact ih (fun x hx => hp x (List.dropLast_subset _ hx)) hrest
        fun x hx => hps x (List.dropLast_subset _ hx)
    · rw [step_name p h₁ h₂ h₃]
      refine ih (fun x hx => ?_) hrest fun x hx => ?_
      · rcases List.mem_append.mp hx with hx | hx
        · exact hp x hx
        · rw [List.mem_singleton.mp hx]
          exact ⟨h₁, h₂, h₃⟩
      · rcases List.mem_append.mp hx with hx | hx
        · exact hps x hx
        · rw [List.mem_singleton.mp hx]
          exact hcs c List.mem_cons_self

/-- The components of a place are names. -/
theorem isName_of_mem_place {path c : String} (h : c ∈ place path) : IsName c :=
  descend_components (by simp) (fun _ hx => slash_notMem_of_mem_cuts hx) (by simp) c h

/-- The components of a place are names, wherever the path is seen from. -/
theorem isName_of_mem_placeFrom {cwd path c : String} (h : c ∈ placeFrom cwd path) : IsName c := by
  rw [placeFrom] at h
  split at h
  · exact isName_of_mem_place h
  · refine descend_components (fun x hx => ?_) (fun _ hx => slash_notMem_of_mem_cuts hx)
      (fun x hx => (isName_of_mem_place hx).slash) c h
    have hx := isName_of_mem_place hx
    exact ⟨hx.ne_empty, hx.ne_dot, hx.ne_up⟩

/-! ### Joined paths -/

/-- A joined path spells its second part from the place of the first. -/
theorem place_join {p q : String} (hq : isAbsolute q = false) :
    place (join p q) = descend (place p) (cuts q) := by
  obtain ⟨start, hjoin, hp⟩ := cuts_join (p := p) hq
  have hstart : place p = descend [] start := by
    rcases hp with hp | hp <;> simp [place, hp, descend_append]
  rw [place, hjoin, descend_append, hstart]

/-- An absolute second part stands alone. -/
theorem join_of_isAbsolute {p q : String} (hq : isAbsolute q = true) : join p q = q := by
  rw [isAbsolute] at hq
  simp [join, Chars.join, hq]

/-- A path joined to an absolute one is absolute. -/
theorem isAbsolute_join {p q : String} (hp : isAbsolute p = true) : isAbsolute (join p q) = true := by
  by_cases hq : isAbsolute q = true
  · rwa [join_of_isAbsolute hq]
  · rw [isAbsolute] at hp hq
    rw [isAbsolute, join, String.toList_ofList, Chars.join, if_neg hq]
    rcases hl : p.toList with _ | ⟨c, cs⟩
    · simp [hl, Chars.isAbsolute] at hp
    · rw [hl] at hp
      split <;> simpa [Chars.isAbsolute] using hp

/-- A text without a slash is no absolute path. -/
theorem isAbsolute_of_notMem {p : String} (h : '/' ∉ p.toList) : isAbsolute p = false := by
  rw [isAbsolute, Chars.isAbsolute]
  rcases hl : p.toList with _ | ⟨c, cs⟩
  · rfl
  · simp_all
    exact fun hc => h.1 hc.symm

/-- An absolute path is not empty. -/
theorem ne_empty_of_isAbsolute {p : String} (h : isAbsolute p = true) : p.isEmpty = false := by
  rw [Bool.eq_false_iff, ne_eq, String.isEmpty_iff]
  rintro rfl
  exact absurd h (by decide)

/-- A name joined to a path spells the entry of that name. -/
theorem place_join_name {p c : String} (hc : IsName c) : place (join p c) = place p ++ [c] := by
  rw [place_join (isAbsolute_of_notMem hc.slash), cuts_of_notMem hc.slash]
  simpa using step_name (place p) hc.ne_empty hc.ne_dot hc.ne_up

/-! ### The canonical spelling -/

/-- A piece means something for the spelling if it is neither nothing nor a dot. -/
theorem components_eq (p : String) :
    Chars.components p.toList = ((cuts p).filter fun c => c != "" && c != ".").map String.toList := by
  rw [Chars.components, cuts, List.filter_map, List.map_map]
  have hid : String.toList ∘ String.ofList = id := by
    funext l
    simp
  rw [hid, List.map_id]
  refine List.filter_congr fun c _ => ?_
  have h₁ : String.ofList c = "" ↔ c = [] := by rw [← String.toList_inj]; simp
  have h₂ : String.ofList c = "." ↔ c = ['.'] := by rw [← String.toList_inj]; simp
  rw [Bool.eq_iff_iff]
  simp [h₁, h₂]

/-- One component carried out on the reversed spelling of a place. -/
theorem enter_eq {p : Place} (hp : ".." ∉ p) {c : String} (h₁ : c ≠ "") (h₂ : c ≠ ".") :
    Chars.enter true (p.map String.toList).reverse c.toList =
      ((step p c).map String.toList).reverse := by
  have hup : ∀ x : String, x.toList = Chars.up ↔ x = ".." := fun x => by
    rw [show Chars.up = "..".toList from rfl, String.toList_inj]
  by_cases h₃ : c = ".."
  · unfold Chars.enter
    rw [if_neg (by simpa using (hup c).mpr h₃), h₃, step_up]
    rcases List.eq_nil_or_concat p with rfl | ⟨init, last, rfl⟩
    · rfl
    · have hlast : last ≠ ".." := fun h => hp (by simp [h])
      simp [hup, hlast]
  · unfold Chars.enter
    rw [if_pos (by simpa [hup] using h₃), step_name p h₁ h₂ h₃]
    simp

/-- Carrying out pieces never leaves a `..` behind. -/
theorem up_notMem_step {p : Place} (hp : ".." ∉ p) (c : String) : ".." ∉ step p c := by
  rw [step]
  split
  · exact hp
  split
  · exact fun h => hp (List.dropLast_subset _ h)
  · next h => simpa [hp] using Ne.symm (by simpa using h)

/-- The components carried out from left to right give the place. -/
theorem resolve_eq (p : String) :
    Chars.resolve true (Chars.components p.toList) = (place p).map String.toList := by
  have key : ∀ (cs : List String) (p : Place), ".." ∉ p →
      List.foldl (Chars.enter true) (p.map String.toList).reverse
        ((cs.filter fun c => c != "" && c != ".").map String.toList) =
      ((descend p cs).map String.toList).reverse := by
    intro cs
    induction cs with
    | nil => simp
    | cons c cs ih =>
      intro p hp
      by_cases h : c = "" ∨ c = "."
      · rcases h with rfl | rfl <;> simpa using ih p hp
      · rw [not_or] at h
        rw [List.filter_cons_of_pos (by simp [h.1, h.2]), List.map_cons, List.foldl_cons,
          enter_eq hp h.1 h.2, ih _ (up_notMem_step hp c), descend_cons]
  have := key (cuts p) [] (by simp)
  rw [Chars.resolve, components_eq, place]
  simp only [List.map_nil, List.reverse_nil] at this
  rw [this, List.reverse_reverse]

/-- An absolute path keeps one leading slash or two. -/
theorem root_of_isAbsolute {p : List Char} (h : Chars.isAbsolute p = true) :
    Chars.root p = ['/'] ∨ Chars.root p = ['/', '/'] := by
  rcases p with _ | ⟨a, p⟩
  · simp [Chars.isAbsolute] at h
  · obtain rfl : a = '/' := by simpa [Chars.isAbsolute] using h
    rcases p with _ | ⟨b, p⟩
    · exact .inl rfl
    by_cases hb : b = '/'
    · subst hb
      rcases p with _ | ⟨c, p⟩
      · exact .inr rfl
      by_cases hc : c = '/'
      · subst hc
        exact .inl rfl
      · exact .inr (by simp [Chars.root, hc])
    · exact .inl (by simp [Chars.root, hb])

/-- The canonical spelling of an absolute path: the leading slashes that it keeps, and its place. -/
theorem normalize_eq {p : String} (h : isAbsolute p = true) :
    Chars.normalize p.toList =
      Chars.root p.toList ++ Text.join ['/'] ((place p).map String.toList) := by
  have hroot := root_of_isAbsolute h
  have hrooted : (!(Chars.root p.toList).isEmpty) = true := by
    rcases hroot with hr | hr <;> simp [hr]
  rw [Chars.normalize]
  simp only [hrooted, resolve_eq]
  rw [if_neg]
  rcases hroot with hr | hr <;> simp [hr]

/-- The pieces of a canonical spelling that hold something are the components. -/
theorem filter_splitOn_normalize {p : String} (h : isAbsolute p = true) :
    ((Text.splitOn '/' (Chars.normalize p.toList)).filter fun c => !c.isEmpty) =
      (place p).map String.toList := by
  have hname : ∀ c ∈ (place p).map String.toList, c ≠ [] ∧ '/' ∉ c := by
    intro c hc
    obtain ⟨x, hx, rfl⟩ := List.mem_map.mp hc
    have := isName_of_mem_place hx
    exact ⟨fun h => this.ne_empty (by simpa using h), this.slash⟩
  have hpieces : (Text.splitOn '/' (Text.join ['/'] ((place p).map String.toList))).filter
      (fun c => !c.isEmpty) = (place p).map String.toList := by
    by_cases hnil : (place p).map String.toList = []
    · simp [hnil, Text.join, Text.splitOn]
    · rw [Text.splitOn_join hnil fun c hc => (hname c hc).2, List.filter_eq_self]
      exact fun c hc => by simpa using (hname c hc).1
  rw [normalize_eq h]
  rcases root_of_isAbsolute h with hr | hr <;> rw [hr] <;> simpa [Text.splitOn] using hpieces

/-- The canonical components of a path, seen from an absolute working directory, are its place. -/
theorem absoluteComponents_eq {cwd : String} (hcwd : isAbsolute cwd = true) (p : String) :
    Chars.absoluteComponents cwd.toList p.toList = (placeFrom cwd p).map String.toList := by
  rw [Chars.absoluteComponents, Chars.absolute, placeFrom]
  by_cases hp : isAbsolute p = true
  · rw [if_pos hp, if_pos (by exact hp), filter_splitOn_normalize hp]
  · rw [if_neg hp, if_neg (by exact hp)]
    have hjoin : Chars.join cwd.toList p.toList = (join cwd p).toList := by simp [join]
    rw [hjoin, filter_splitOn_normalize (isAbsolute_join hcwd), place_join (by simpa using hp)]

/-! ### The way from one path to another -/

/-- Nothing is left of the start exactly if it is a prefix of the target, and then the rest of the
target is left. -/
theorem dropCommon_append [BEq α] [LawfulBEq α] (p q : List α) :
    Chars.dropCommon p (p ++ q) = ([], q) := by
  induction p with
  | nil => cases q <;> rfl
  | cons x xs ih => simp [Chars.dropCommon, ih]

/-- Something is left of a start that is no prefix of the target. -/
theorem dropCommon_fst_ne_nil [BEq α] [LawfulBEq α] {p q : List α} (h : ¬p <+: q) :
    (Chars.dropCommon p q).1 ≠ [] := by
  induction p generalizing q with
  | nil => simp at h
  | cons x xs ih =>
    cases q with
    | nil => simp [Chars.dropCommon]
    | cons y ys =>
      rw [Chars.dropCommon]
      split
      · next hxy =>
        obtain rfl : x = y := by simpa using hxy
        exact ih fun hp => h (List.cons_prefix_cons.mpr ⟨rfl, hp⟩)
      · simp

/-- A way of names does not begin by going up. -/
theorem staysWithin_names {names : List (List Char)}
    (h : ∀ c ∈ names, c ≠ Chars.up ∧ '/' ∉ c) :
    staysWithin (if names.isEmpty then ['.'] else Text.join ['/'] names) = true := by
  cases names with
  | nil => rfl
  | cons c cs =>
    have hc := h c List.mem_cons_self
    rw [List.isEmpty_cons, if_neg (by simp), staysWithin]
    cases cs with
    | nil =>
      have hslash : Text.startsWith ['.', '.', '/'] c = false := by
        rw [Text.startsWith, Bool.eq_false_iff]
        intro hp
        obtain ⟨t, ht⟩ := List.isPrefixOf_iff_prefix.mp hp
        exact hc.2 (by simp [← ht])
      simp [Text.join, hc.1, hslash]
    | cons d ds =>
      rw [Text.join]
      · have hne : (c ++ ['/'] ++ Text.join ['/'] (d :: ds) != Chars.up) = true := by
          rw [bne_iff_ne]
          intro heq
          have hmem : '/' ∈ Chars.up := heq ▸ by simp
          simp [Chars.up] at hmem
        have hslash : Text.startsWith ['.', '.', '/'] (c ++ ['/'] ++ Text.join ['/'] (d :: ds)) =
            false := by
          rw [Text.startsWith, Bool.eq_false_iff]
          intro hp
          obtain ⟨t, ht⟩ := List.isPrefixOf_iff_prefix.mp hp
          have := congrArg (Text.splitOn '/') ht
          rw [show ['.', '.', '/'] ++ t = Chars.up ++ '/' :: t from rfl, List.append_assoc,
            List.singleton_append, Text.splitOn_append_cons, Text.splitOn_append_cons,
            Text.splitOn_of_notMem hc.2] at this
          have hup : Chars.up = c := by simpa [Text.splitOn, Chars.up] using congrArg List.head? this
          exact hc.1 hup.symm
        rw [hne, hslash]
        rfl
      · simp

/-- A way that goes up does not stay within. -/
theorem not_staysWithin_up (way : List (List Char)) :
    staysWithin (Text.join ['/'] (Chars.up :: way)) = false := by
  cases way with
  | nil => rfl
  | cons d ds => simp [Text.join, staysWithin, Text.startsWith, Chars.up]

/-- The way down to a place, seen from an absolute working directory, is spelled by its names. -/
theorem relative_of_append {cwd target start : String} {names : List String}
    (hcwd : isAbsolute cwd = true)
    (h : placeFrom cwd target = placeFrom cwd start ++ names) (hne : names ≠ []) :
    relative cwd target start = String.ofList (Text.join ['/'] (names.map String.toList)) := by
  rw [relative, Chars.relative, absoluteComponents_eq hcwd, absoluteComponents_eq hcwd, h,
    List.map_append, Chars.relativeComponents, dropCommon_append]
  simp [hne]

/-- The way to where one is. -/
theorem relative_of_eq {cwd target start : String} (hcwd : isAbsolute cwd = true)
    (h : placeFrom cwd target = placeFrom cwd start) : relative cwd target start = "." := by
  have hnil := dropCommon_append ((placeFrom cwd start).map String.toList) []
  rw [List.append_nil] at hnil
  rw [relative, Chars.relative, absoluteComponents_eq hcwd, absoluteComponents_eq hcwd, h,
    Chars.relativeComponents, hnil]
  rfl

/-- The way to a path depends on its place only. -/
theorem relative_congr {cwd p p' : String} (hcwd : isAbsolute cwd = true)
    (h : placeFrom cwd p = placeFrom cwd p') (start : String) :
    relative cwd p start = relative cwd p' start := by
  rw [relative, relative, Chars.relative, Chars.relative, absoluteComponents_eq hcwd p,
    absoluteComponents_eq hcwd p', h]

/-- A path is followed from the root or from the working directory. -/
theorem placeFrom_eq (cwd path : String) :
    placeFrom cwd path = descend (if isAbsolute path then [] else place cwd) (cuts path) := by
  rw [placeFrom]
  split <;> rfl

/-- Containment is the prefix relation of places. -/
theorem isWithin_iff {cwd : String} (hcwd : isAbsolute cwd = true) (path root : String) :
    isWithin cwd path root = true ↔ placeFrom cwd root <+: placeFrom cwd path := by
  rw [isWithin, Chars.relative, absoluteComponents_eq hcwd, absoluteComponents_eq hcwd,
    Chars.relativeComponents]
  constructor
  · intro h
    by_contra hpre
    have hmap : ¬(placeFrom cwd root).map String.toList <+: (placeFrom cwd path).map String.toList :=
      fun hp => hpre ((List.prefix_map_iff_of_injective fun _ _ h => String.toList_injective h).mp hp)
    rcases hd : Chars.dropCommon ((placeFrom cwd root).map String.toList)
        ((placeFrom cwd path).map String.toList) with ⟨back, forth⟩
    have hback : back ≠ [] := by simpa [hd] using dropCommon_fst_ne_nil hmap
    obtain ⟨b, bs, rfl⟩ := List.exists_cons_of_ne_nil hback
    rw [hd] at h
    simp only [List.map_cons, List.cons_append, List.isEmpty_cons, Bool.false_eq_true,
      if_false] at h
    rw [not_staysWithin_up] at h
    exact Bool.false_ne_true h
  · rintro ⟨names, hnames⟩
    rw [← hnames, List.map_append, dropCommon_append]
    simp only [List.map_nil, List.nil_append]
    refine staysWithin_names fun c hc => ?_
    obtain ⟨x, hx, rfl⟩ := List.mem_map.mp hc
    have hx : IsName x := isName_of_mem_placeFrom (hnames ▸ List.mem_append_right _ hx)
    refine ⟨fun hup => hx.ne_up ?_, hx.slash⟩
    rw [show Chars.up = "..".toList from rfl, String.toList_inj] at hup
    exact hup

end StaticSite.Path
