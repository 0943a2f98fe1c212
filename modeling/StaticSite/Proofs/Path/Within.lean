import Mathlib.Logic.Relation
import StaticSite.Page.Address
import StaticSite.Proofs.Path.Below
import StaticSite.Proofs.Path.Spelling

/-!
# Containment of paths

Whether a path lies within another one is decided from the text of the way between them: it must not be `..` and must
not begin with `../`. That is so exactly if the components of the one, in canonical spelling, begin with those of the
other. Containment is then an order on places. It is deaf to the spelling of its two paths, it looks at whole components
and not at their texts, so a name that begins like another one makes no difference, and a name that begins with two dots
is a name.

## Main definitions

* `Path.canonicalNames`: the components of a path in canonical spelling.
* `Path.Respells`, `Path.Respelled`: one change of a spelling, and any number of them.

## Main results

* `Path.canonicalNames_eq`: these components are the place of the path.
* `Path.placeFrom_eq_of_respelled`: a path keeps its place however it is spelled.
* `Path.within_characterized`: what containment is.
-/

namespace StaticSite.Path

variable {cwd p q root piece name : String}

/-! ### Canonical components -/

/-- The components of a path in canonical spelling: the pieces that hold something. -/
def canonicalNames (cwd p : String) : List String := (cuts (absolute cwd p)).filter (· != "")

/-- They are the place of the path. -/
theorem canonicalNames_eq (hcwd : isAbsolute cwd = true) (p : String) : canonicalNames cwd p = placeFrom cwd p := by
  have hcomponents := congrArg (List.map String.ofList) (absoluteComponents_eq hcwd p)
  have hid : String.ofList ∘ String.toList = id := by
    funext s
    simp
  rw [List.map_map, hid, List.map_id] at hcomponents
  rw [← hcomponents, canonicalNames, absolute, cuts, String.toList_ofList, Chars.absoluteComponents, List.filter_map]
  refine congrArg (List.map String.ofList) (List.filter_congr fun c _ => ?_)
  have hempty : String.ofList c = "" ↔ c = [] := by rw [← String.toList_inj]; simp
  rw [Bool.eq_iff_iff]
  simp [hempty]

/-- Containment, where it is defined. -/
theorem within_eq (hcwd : isAbsolute cwd = true) (hp : p ≠ "") (root : String) :
    within cwd p root = .ok (decide (placeFrom cwd root <+: placeFrom cwd p)) := by
  rw [within, if_neg (by simpa using hp), Bool.eq_iff_iff.mpr ((isWithin_iff hcwd p root).trans decide_eq_true_iff.symm)]

/-- A path lies within another one if it is not empty and its place lies below. -/
theorem within_eq_ok_true_iff (hcwd : isAbsolute cwd = true) :
    within cwd p root = .ok true ↔ p ≠ "" ∧ placeFrom cwd root <+: placeFrom cwd p := by
  by_cases hp : p = ""
  · simp [within, hp]
  · simp [within_eq hcwd hp, hp]

/-! ### Other spellings -/

/-- A piece of a path that leads nowhere: nothing, a dot, or a name and back. -/
inductive IsIdle : String → Prop
  | empty : IsIdle ""
  | dot : IsIdle "."
  | back (name : String) (h : IsName name) : IsIdle (name ++ "/..")

/-- The second spelling of a path says something more that leads nowhere, or says where the path is seen from. -/
inductive Respells (cwd : String) : String → String → Prop
  /-- An idle piece at the beginning of a path that is not absolute. -/
  | first {idle : String} (h : IsIdle idle) (hne : idle ≠ "") (p : String) (hp : isAbsolute p = false) :
    Respells cwd p (idle ++ "/" ++ p)
  /-- An idle piece at a slash. -/
  | between {idle : String} (h : IsIdle idle) (p q : String) :
    Respells cwd (p ++ "/" ++ q) (p ++ "/" ++ idle ++ "/" ++ q)
  /-- An idle piece at the end. -/
  | last {idle : String} (h : IsIdle idle) (p : String) (hp : p ≠ "") : Respells cwd p (p ++ "/" ++ idle)
  /-- A way up from the root. -/
  | top (p : String) : Respells cwd ("/" ++ p) ("/../" ++ p)
  /-- The path as seen from the root. -/
  | fromRoot (p : String) (hp : isAbsolute p = false) : Respells cwd p (join cwd p)

/-- The one path is spelled like the other but for any number of such changes. -/
def Respelled (cwd : String) : String → String → Prop := Relation.EqvGen (Respells cwd)

/-- The pieces of two paths with a slash between them. -/
theorem cuts_slash (p q : String) : cuts (p ++ "/" ++ q) = cuts p ++ cuts q := by
  have hcuts := cuts_append_slash p.toList q.toList
  rw [String.ofList_toList, String.ofList_toList] at hcuts
  rw [← hcuts, cuts, cuts, String.toList_ofList, String.toList_append, String.toList_append, List.append_assoc]
  rfl

/-- A path with a slash in it begins at the root if what stands before the slash does, or is nothing. -/
theorem isAbsolute_slash (p q : String) : isAbsolute (p ++ "/" ++ q) = (p == "" || isAbsolute p) := by
  rw [isAbsolute, isAbsolute, String.toList_append, String.toList_append]
  rcases hp : p.toList with _ | ⟨c, cs⟩
  · obtain rfl : p = "" := by simpa using hp
    rfl
  · have hne : p ≠ "" := by
      rintro rfl
      exact absurd hp (by simp)
    simp [Chars.isAbsolute, hne]

/-- An idle piece leads nowhere. -/
theorem IsIdle.descend_cuts (h : IsIdle piece) (start : Place) : descend start (cuts piece) = start := by
  cases h with
  | empty => rfl
  | dot => rfl
  | back name h =>
    have hcuts : cuts (name ++ "/..") = [name] ++ [".."] := by
      have := cuts_slash name ".."
      rwa [String.append_assoc, cuts_of_notMem h.slash] at this
    rw [hcuts, descend_append]
    change (step start name).dropLast = start
    rw [step_name start h.ne_empty h.ne_dot h.ne_up, List.dropLast_concat]

/-- An idle piece does not begin at the root. -/
theorem IsIdle.isAbsolute_eq_false (h : IsIdle piece) : isAbsolute piece = false := by
  cases h with
  | empty => rfl
  | dot => rfl
  | back name h =>
    have hslash := isAbsolute_slash name ".."
    rw [String.append_assoc, isAbsolute_of_notMem h.slash, beq_false_of_ne h.ne_empty] at hslash
    exact hslash

/-- A path keeps its place if one thing about its spelling is changed. -/
theorem placeFrom_eq_of_respells (hcwd : isAbsolute cwd = true) (h : Respells cwd p q) :
    placeFrom cwd p = placeFrom cwd q := by
  cases h with
  | @first idle hidle hne p hp =>
    have habsolute : isAbsolute (idle ++ "/" ++ p) = false := by
      rw [isAbsolute_slash, hidle.isAbsolute_eq_false, beq_false_of_ne hne, Bool.or_false]
    rw [placeFrom_eq, placeFrom_eq, hp, habsolute, cuts_slash, descend_append, hidle.descend_cuts]
  | @between idle hidle p q =>
    have hassoc : p ++ "/" ++ idle ++ "/" ++ q = p ++ "/" ++ (idle ++ "/" ++ q) := by simp [String.append_assoc]
    rw [hassoc, placeFrom_eq, placeFrom_eq, isAbsolute_slash, isAbsolute_slash, cuts_slash, cuts_slash, cuts_slash,
      descend_append, descend_append, descend_append, hidle.descend_cuts]
  | last hidle p hp =>
    rw [placeFrom_eq, placeFrom_eq, isAbsolute_slash, beq_false_of_ne hp, Bool.false_or, cuts_slash, descend_append,
      hidle.descend_cuts]
  | top p =>
    have hroot : isAbsolute ("/" ++ p) = true := isAbsolute_slash "" p
    have hup : isAbsolute ("/../" ++ p) = true := isAbsolute_slash "/.." p
    have hcuts : cuts ("/" ++ p) = [""] ++ cuts p := cuts_slash "" p
    have hcutsUp : cuts ("/../" ++ p) = ["", ".."] ++ cuts p := cuts_slash "/.." p
    rw [placeFrom_eq, placeFrom_eq, hroot, hup, hcuts, hcutsUp, descend_append, descend_append]
    rfl
  | fromRoot p hp =>
    rw [placeFrom, placeFrom, if_neg (by simp [hp]), if_pos (isAbsolute_join hcwd), place_join hp]

/-- A path keeps its place however it is spelled. -/
theorem placeFrom_eq_of_respelled (hcwd : isAbsolute cwd = true) (h : Respelled cwd p q) :
    placeFrom cwd p = placeFrom cwd q := by
  induction h with
  | rel p q hstep => exact placeFrom_eq_of_respells hcwd hstep
  | refl p => rfl
  | symm p q _ ih => exact ih.symm
  | trans p q r _ _ ihp ihq => exact ihp.trans ihq

/-! ### Names -/

/-- A name put after a directory is not nothing. -/
theorem join_ne_empty (p : String) (hname : IsName name) : join p name ≠ "" := by
  intro hjoin
  have hchars := toList_join_eq p (isAbsolute_of_notMem hname.slash)
  rw [hjoin, String.toList_empty, eq_comm, List.append_eq_nil_iff] at hchars
  exact hname.ne_empty (by simpa using hchars.2)

/-- Nor are names put after it. -/
theorem below_ne_empty {names : List String} (h : ∀ c ∈ names, IsName c) (hp : p ≠ "") : below p names ≠ "" := by
  induction names generalizing p with
  | nil => exact hp
  | cons c cs ih => exact ih (List.forall_mem_cons.mp h).2 (join_ne_empty p (List.forall_mem_cons.mp h).1)

/-- Two dots with something behind them are a name. -/
theorem isName_up_append {rest : String} (hrest : rest ≠ "") (hslash : '/' ∉ rest.toList) : IsName (".." ++ rest) := by
  have hlength : 0 < rest.toList.length := List.length_pos_iff.mpr fun h => hrest (by simpa using h)
  have hne : ∀ s : String, s.toList.length ≤ 2 → ".." ++ rest ≠ s := by
    rintro s hs rfl
    rw [String.toList_append, List.length_append, show "..".toList.length = 2 from rfl] at hs
    omega
  refine ⟨hne "" (by decide), hne "." (by decide), hne ".." (by decide), ?_⟩
  rw [String.toList_append, List.mem_append, not_or]
  exact ⟨by decide, hslash⟩

/-- What is in another directory beside one does not lie within it, whatever their names begin with. -/
theorem within_sibling (hcwd : isAbsolute cwd = true) {names : List String} (dir : String) {other : String}
    (hname : IsName name) (hother : IsName other) (hne : other ≠ name) (hnames : ∀ c ∈ names, IsName c) :
    within cwd (below (join dir other) names) (join dir name) = .ok false := by
  rw [within_eq hcwd (below_ne_empty hnames (join_ne_empty dir hother)), Except.ok.injEq, decide_eq_false_iff_not,
    placeFrom_below cwd _ hnames, placeFrom_join_name hname, placeFrom_join_name hother, List.append_assoc,
    List.prefix_append_right_inj]
  intro hprefix
  exact hne (List.cons_prefix_cons.mp hprefix).1.symm

/-- Names put after a directory lie within it. -/
theorem within_below (hcwd : isAbsolute cwd = true) {names : List String} (dir : String) (hname : IsName name)
    (hnames : ∀ c ∈ names, IsName c) : within cwd (below dir (name :: names)) dir = .ok true := by
  have hall : ∀ c ∈ name :: names, IsName c := List.forall_mem_cons.mpr ⟨hname, hnames⟩
  have hne : below (join dir name) names ≠ "" := below_ne_empty hnames (join_ne_empty dir hname)
  rw [within_eq_ok_true_iff hcwd, placeFrom_below cwd dir hall]
  exact ⟨hne, List.prefix_append _ _⟩

/-! ### Containment -/

/-- **What containment is.** A path lies within another one exactly if its canonical components begin with those of the
other. So a path lies within itself, containment is transitive, and two paths within each other are the same. How the
two are spelled makes no difference. What is in the directory beside one does not lie within that, even if one name
begins with the other, and names that begin with two dots lead down as any others. -/
theorem within_characterized (hcwd : isAbsolute cwd = true) :
    (∀ p root, p ≠ "" →
      within cwd p root = .ok (decide (canonicalNames cwd root <+: canonicalNames cwd p))) ∧
    (∀ p, p ≠ "" → within cwd p p = .ok true) ∧
    (∀ p q r, within cwd p q = .ok true → within cwd q r = .ok true → within cwd p r = .ok true) ∧
    (∀ p q, within cwd p q = .ok true → within cwd q p = .ok true → SamePath cwd p q) ∧
    (∀ p p' root root', p ≠ "" → p' ≠ "" → Respelled cwd p p' → Respelled cwd root root' →
      within cwd p root = within cwd p' root') ∧
    (∀ dir name other names, IsName name → IsName other → other ≠ name → (∀ c ∈ names, IsName c) →
      within cwd (below (join dir other) names) (join dir name) = .ok false) ∧
    ∀ dir rest names, rest ≠ "" → '/' ∉ rest.toList → (∀ c ∈ names, IsName c) →
      within cwd (below dir ((".." ++ rest) :: names)) dir = .ok true := by
  refine ⟨fun p root hp => ?_, fun p hp => ?_, fun p q r hpq hqr => ?_, fun p q hpq hqp => ?_,
    fun p p' root root' hp hp' hpath hroot => ?_, fun dir name other names hname hother hne hnames => ?_,
    fun dir rest names hrest hslash hnames => ?_⟩
  · rw [canonicalNames_eq hcwd, canonicalNames_eq hcwd, within_eq hcwd hp]
  · exact (within_eq_ok_true_iff hcwd).mpr ⟨hp, List.prefix_refl _⟩
  · rw [within_eq_ok_true_iff hcwd] at hpq hqr ⊢
    exact ⟨hpq.1, hqr.2.trans hpq.2⟩
  · rw [within_eq_ok_true_iff hcwd] at hpq hqp
    rw [samePath_iff hcwd]
    exact (hqp.2.eq_of_length_le hpq.2.length_le)
  · rw [within_eq hcwd hp, within_eq hcwd hp', placeFrom_eq_of_respelled hcwd hpath,
      placeFrom_eq_of_respelled hcwd hroot]
  · exact within_sibling hcwd dir hname hother hne hnames
  · exact within_below hcwd dir (isName_up_append hrest hslash) hnames

/-- A way round: the path to a view is spelled with an idle piece more. -/
theorem respelled_roundabout : Respelled "/w" "views/a.j2" "views/x/.././a.j2" :=
  .trans _ "views/x/../a.j2" _ (.rel _ _ (.between (.back "x" (by decide)) "views" "a.j2"))
    (.rel _ _ (.between .dot "views/x/.." "a.j2"))

/-- A view, a file in a directory whose name begins with that of the views directory, and one in a directory whose name
begins with two dots. -/
theorem views_within :
    isAbsolute "/w" = true ∧
      within "/w" "views/x/.././a.j2" "/w/views" = .ok true ∧
      within "/w" "views-old/a.j2" "views" = .ok false ∧
      within "/w" "views/..drafts/a.j2" "views" = .ok true := by
  have hcwd : isAbsolute "/w" = true := by decide
  obtain ⟨hiff, -, -, -, hspelling, hsibling, hchild⟩ := within_characterized hcwd
  have hnames : ∀ c ∈ ["a.j2"], IsName c := by decide
  refine ⟨hcwd, ?_, ?_, ?_⟩
  · have hview : within "/w" "views/a.j2" "views" = .ok true := by
      rw [hiff _ _ (by decide)]
      decide
    have hroot : Respelled "/w" "views" "/w/views" := .rel _ _ (.fromRoot "views" (by decide))
    rw [← hspelling "views/a.j2" _ "views" _ (by decide) (by decide) respelled_roundabout hroot]
    exact hview
  · exact hsibling "" "views" "views-old" ["a.j2"] (by decide) (by decide) (by decide) hnames
  · exact hchild "views" "drafts" ["a.j2"] (by decide) (by decide) hnames

end StaticSite.Path
