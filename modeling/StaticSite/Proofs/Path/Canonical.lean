import StaticSite.Proofs.Path.Place

/-!
# The place of a canonical spelling

The canonical spelling of a path carries out its `.` and `..` as far as that is possible without knowing where
the path is seen from: a `..` at the beginning of a path that is not absolute stays. What is left leads where the
pieces of the path lead, from every working directory, so a path and its canonical spelling have one place.

The stack of components is kept in reverse by `Chars.resolve`; every statement here reads it back in order.

## Main definitions

* `Path.IsComponent`: a piece that means something.
* `Path.follow`: the place that components lead to.

## Main results

* `Path.follow_resolve`: the components that are left lead where the pieces of the path lead.
* `Path.placeFrom_normalize`: a path and its canonical spelling have one place.
* `Path.placeFrom_eq_of_normalize`: so have two paths with one canonical spelling.
-/

namespace StaticSite.Path

variable {rooted : Bool} {above cs : List (List Char)} {c : List Char} {start : Place} {p q : String}

/-! ### Components carried out -/

/-- A piece of a path that means something: a name, or two dots. -/
structure IsComponent (c : List Char) : Prop where
  /-- It is not empty. -/
  ne_nil : c ≠ []
  /-- It is not the sign of the folder itself. -/
  ne_dot : c ≠ ['.']
  /-- It holds no slash. -/
  slash : '/' ∉ c

theorem isComponent_up : IsComponent Chars.up := ⟨by decide, by decide, by decide⟩

/-- The components of a path mean something. -/
theorem isComponent_of_mem_components (h : c ∈ Chars.components p.toList) : IsComponent c := by
  obtain ⟨hpiece, hreal⟩ := List.mem_filter.mp h
  simp only [Bool.and_eq_true, Bool.not_eq_true', List.isEmpty_eq_false_iff, bne_iff_ne] at hreal
  exact ⟨hreal.1, hreal.2, Text.notMem_of_mem_splitOn hpiece⟩

/-- What is left after a component means something if all did before. -/
theorem isComponent_enter (habove : ∀ x ∈ above, IsComponent x) (hc : IsComponent c) :
    ∀ x ∈ Chars.enter rooted above c, IsComponent x := by
  unfold Chars.enter
  split
  · exact List.forall_mem_cons.mpr ⟨hc, habove⟩
  · split
    · split
      · exact fun _ hx => absurd hx List.not_mem_nil
      · exact List.forall_mem_cons.mpr ⟨isComponent_up, habove⟩
    · split
      · exact List.forall_mem_cons.mpr ⟨isComponent_up, habove⟩
      · exact (List.forall_mem_cons.mp habove).2

/-- The place that components lead to. -/
def follow (start : Place) (cs : List (List Char)) : Place := descend start (cs.map String.ofList)

@[simp] theorem follow_nil (start : Place) : follow start [] = start := rfl

theorem follow_append (start : Place) (as bs : List (List Char)) :
    follow start (as ++ bs) = follow (follow start as) bs := by
  rw [follow, List.map_append, descend_append, follow, follow]

theorem follow_concat (start : Place) (as : List (List Char)) (c : List Char) :
    follow start (as ++ [c]) = step (follow start as) (String.ofList c) :=
  follow_append start as [c]

/-- A name goes down. -/
theorem step_component (start : Place) (hc : IsComponent c) (hup : c ≠ Chars.up) :
    step start (String.ofList c) = start ++ [String.ofList c] := by
  refine step_name start (fun h => hc.ne_nil ?_) (fun h => hc.ne_dot ?_) fun h => hup ?_
  · simpa using congrArg String.toList h
  · simpa using congrArg String.toList h
  · simpa [Chars.up] using congrArg String.toList h

/-- One component carried out is one step: at the root of an absolute path nothing is above, which is why
`start` is the root then. -/
theorem follow_enter (hroot : rooted = true → start = []) (habove : ∀ x ∈ above, IsComponent x) (c : List Char) :
    follow start (Chars.enter rooted above c).reverse =
      step (follow start above.reverse) (String.ofList c) := by
  unfold Chars.enter
  split
  · rw [List.reverse_cons, follow_concat]
  · next hc =>
    obtain rfl : c = Chars.up := by simpa using hc
    split
    · split
      · next hrooted => rw [hroot hrooted]; rfl
      · rfl
    · next last rest =>
      split
      · rw [List.reverse_cons, follow_concat]
      · next hlast =>
        have hlast : last ≠ Chars.up := by simpa using hlast
        rw [List.reverse_cons, follow_concat, step_component _ (habove last List.mem_cons_self) hlast]
        exact List.dropLast_concat.symm

/-- Components carried out one after another are the steps. The induction is on the components, with the
stack of those before them. -/
theorem follow_foldl_enter (hroot : rooted = true → start = []) (habove : ∀ x ∈ above, IsComponent x)
    (hcs : ∀ x ∈ cs, IsComponent x) :
    (∀ x ∈ cs.foldl (Chars.enter rooted) above, IsComponent x) ∧
      follow start (cs.foldl (Chars.enter rooted) above).reverse = follow (follow start above.reverse) cs := by
  induction cs generalizing above with
  | nil => exact ⟨habove, rfl⟩
  | cons c cs ih =>
    obtain ⟨hc, hcs⟩ := List.forall_mem_cons.mp hcs
    obtain ⟨hkept, hplace⟩ := ih (isComponent_enter habove hc) hcs
    refine ⟨hkept, ?_⟩
    rw [List.foldl_cons, hplace, follow_enter hroot habove]
    rfl

/-- What is left of the components means something. -/
theorem isComponent_of_mem_resolve (h : c ∈ Chars.resolve rooted (Chars.components p.toList)) :
    IsComponent c := by
  have hnil : ∀ x ∈ ([] : List (List Char)), IsComponent x := fun _ h => absurd h List.not_mem_nil
  have hroot : rooted = true → ([] : Place) = [] := fun _ => rfl
  obtain ⟨hkept, -⟩ := follow_foldl_enter hroot hnil fun _ => isComponent_of_mem_components
  exact hkept c (List.mem_reverse.mp h)

/-- Pieces that stay where they are can be left out. -/
theorem descend_filter (start : Place) (pieces : List String) :
    descend start (pieces.filter fun c => c != "" && c != ".") = descend start pieces := by
  induction pieces generalizing start with
  | nil => rfl
  | cons c pieces ih =>
    by_cases h : c = "" ∨ c = "."
    · rcases h with rfl | rfl <;> simpa using ih start
    · rw [not_or] at h
      rw [List.filter_cons_of_pos (by simp [h.1, h.2]), descend_cons, descend_cons, ih]

/-- The components that are left lead where the pieces of the path lead. -/
theorem follow_resolve (hroot : rooted = true → start = []) (p : String) :
    follow start (Chars.resolve rooted (Chars.components p.toList)) = descend start (cuts p) := by
  have hfollow := (follow_foldl_enter hroot (fun _ h => absurd h List.not_mem_nil) fun _ =>
    isComponent_of_mem_components (p := p)).2
  rw [Chars.resolve, hfollow, List.reverse_nil, follow_nil, follow, components_eq, List.map_map]
  have hid : String.ofList ∘ String.toList = id := by
    funext s
    simp
  rw [hid, List.map_id, descend_filter]

/-! ### The canonical spelling -/

/-- Without a slash at the beginning no slash is kept. -/
theorem root_of_not_isAbsolute {s : List Char} (h : Chars.isAbsolute s = false) : Chars.root s = [] := by
  unfold Chars.root
  split
  · exact absurd h (by simp [Chars.isAbsolute])
  · exact absurd h (by simp [Chars.isAbsolute])
  · exact absurd h (by simp [Chars.isAbsolute])
  · rfl

/-- A slash at the beginning leads nowhere. -/
theorem descend_cuts_slash (start : Place) (s : List Char) :
    descend start (cuts (String.ofList ('/' :: s))) = descend start (cuts (String.ofList s)) := by
  have hcuts := cuts_append_slash [] s
  rw [List.nil_append] at hcuts
  rw [hcuts, descend_append]
  rfl

/-- The place of a path is the same with one slash more at the beginning. -/
theorem place_slash (p : String) : place ("/" ++ p) = place p := by
  have hplace := descend_cuts_slash [] p.toList
  rw [String.ofList_toList] at hplace
  rw [place, place, ← hplace, String.ofList_cons, String.ofList_toList]
  rfl

/-- Components between slashes lead where they lead one after another. -/
theorem descend_cuts_join (hcs : ∀ x ∈ cs, IsComponent x) (start : Place) :
    descend start (cuts (String.ofList (Text.join ['/'] cs))) = follow start cs := by
  by_cases hnil : cs = []
  · rw [hnil]
    rfl
  · rw [cuts, String.toList_ofList, Text.splitOn_join hnil fun x hx => (hcs x hx).slash, follow]

/-- Components between slashes are a text unless there are none. -/
theorem eq_nil_of_join_eq_nil (hcs : ∀ x ∈ cs, IsComponent x) (h : Text.join ['/'] cs = []) : cs = [] := by
  match cs with
  | [] => rfl
  | [c] => exact absurd h (hcs c List.mem_cons_self).ne_nil
  | c :: d :: rest => exact absurd h (by simp [Text.join])

/-- Components between slashes do not begin with a slash. -/
theorem isAbsolute_join_components (hcs : ∀ x ∈ cs, IsComponent x) :
    isAbsolute (String.ofList (Text.join ['/'] cs)) = false := by
  rw [isAbsolute, String.toList_ofList]
  rcases cs with _ | ⟨c, cs⟩
  · rfl
  · obtain ⟨hc, -⟩ := List.forall_mem_cons.mp hcs
    obtain ⟨x, xs, rfl⟩ := List.exists_cons_of_ne_nil hc.ne_nil
    have hx : x ≠ '/' := fun h => hc.slash (h ▸ List.mem_cons_self)
    cases cs <;> simpa [Text.join, Chars.isAbsolute] using hx

/-- The canonical spelling is the slashes that are kept and the components that are left, or a dot. -/
theorem normalize_cases (p : String) :
    ∃ left, (∀ x ∈ left, IsComponent x) ∧
      (∀ start, (isAbsolute p = true → start = []) → follow start left = descend start (cuts p)) ∧
      (normalize p = String.ofList (Chars.root p.toList ++ Text.join ['/'] left) ∨
        left = [] ∧ isAbsolute p = false ∧ normalize p = ".") := by
  have hrooted : (!(Chars.root p.toList).isEmpty) = isAbsolute p := by
    by_cases h : isAbsolute p = true
    · rw [h]
      rcases root_of_isAbsolute h with hr | hr <;> rw [hr] <;> rfl
    · rw [Bool.not_eq_true] at h
      rw [h, root_of_not_isAbsolute h]
      rfl
  refine ⟨Chars.resolve (isAbsolute p) (Chars.components p.toList),
    fun x => isComponent_of_mem_resolve, fun start hstart => follow_resolve hstart p, ?_⟩
  rw [normalize, Chars.normalize, hrooted]
  split
  · next hspelled =>
    rw [List.isEmpty_iff, List.append_eq_nil_iff] at hspelled
    rw [hspelled.1] at hrooted
    exact .inr ⟨eq_nil_of_join_eq_nil (fun x => isComponent_of_mem_resolve) hspelled.2, hrooted.symm, rfl⟩
  · exact .inl rfl

/-- The canonical spelling of a path is absolute exactly if the path is. -/
theorem isAbsolute_normalize (p : String) : isAbsolute (normalize p) = isAbsolute p := by
  obtain ⟨left, hleft, -, hspelled | ⟨-, hp, hspelled⟩⟩ := normalize_cases p
  · rw [hspelled]
    by_cases hp : isAbsolute p = true
    · rw [hp, isAbsolute, String.toList_ofList]
      rcases root_of_isAbsolute hp with hr | hr <;> rw [hr] <;> rfl
    · rw [Bool.not_eq_true] at hp
      rw [hp, root_of_not_isAbsolute hp, List.nil_append, isAbsolute_join_components hleft]
  · rw [hspelled, hp]
    rfl

/-- A path and its canonical spelling have one place, wherever both are seen from. -/
theorem placeFrom_normalize (cwd p : String) : placeFrom cwd (normalize p) = placeFrom cwd p := by
  rw [placeFrom_eq, placeFrom_eq, isAbsolute_normalize]
  generalize hstart : (if isAbsolute p = true then ([] : Place) else place cwd) = start
  have hroot : isAbsolute p = true → start = [] := fun h => by rw [← hstart, if_pos h]
  obtain ⟨left, hleft, hfollow, hspelled | ⟨rfl, -, hspelled⟩⟩ := normalize_cases p
  · rw [hspelled, ← hfollow start hroot, ← descend_cuts_join hleft]
    by_cases hp : isAbsolute p = true
    · rcases root_of_isAbsolute hp with hr | hr <;> rw [hr]
      · exact descend_cuts_slash _ _
      · exact (descend_cuts_slash _ _).trans (descend_cuts_slash _ _)
    · rw [Bool.not_eq_true] at hp
      rw [root_of_not_isAbsolute hp, List.nil_append]
  · rw [hspelled, ← hfollow start hroot]
    rfl

/-- Two paths with one canonical spelling have one place. -/
theorem placeFrom_eq_of_normalize (h : normalize p = normalize q) (cwd : String) :
    placeFrom cwd p = placeFrom cwd q := by
  rw [← placeFrom_normalize cwd p, h, placeFrom_normalize]

/-- A path seen from a working directory has the canonical spelling of the path itself, or of the working
directory and the path. -/
theorem absolute_eq (cwd p : String) : absolute cwd p = normalize (if isAbsolute p then p else join cwd p) := by
  rw [absolute, Chars.absolute, normalize]
  split
  · next h => rw [if_pos (show isAbsolute p = true from h)]
  · next h => rw [if_neg (show ¬isAbsolute p = true from h), join, String.toList_ofList]

end StaticSite.Path
