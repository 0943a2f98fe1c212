import StaticSite.Proofs.Disk.Growth
import StaticSite.Proofs.Path.Below
import StaticSite.Proofs.Path.Parent
import StaticSite.Proofs.Site.Frame
import StaticSite.Proofs.Site.Loading

/-!
# What pages leave alone

Pages are written below the distribution directory only. What lies below a directory that is separate
from it is found as before: the settings, the views and the fragments. A site therefore compiles its
views after pages were written as it did before.

## Main definitions

* `Path.Separate`: neither of two directories is inside the other.
* `Disk.GrownBelow`: a disk has grown below a directory.

## Main results

* `Disk.GrownBelow.get?_eq`, `Disk.GrownBelow.find?_below`: what is below a separate directory stays.
* `options_of_grownBelow`: the options stay.
* `Site.alike_of_grownBelow`: the site stays alike.
-/

namespace StaticSite

namespace Path

/-- Neither directory is inside the other. -/
structure Separate (p q : String) : Prop where
  /-- The second is not inside the first. -/
  left : ¬place p <+: place q
  /-- The first is not inside the second. -/
  right : ¬place q <+: place p

instance (p q : String) : Decidable (Separate p q) :=
  decidable_of_iff (¬place p <+: place q ∧ ¬place q <+: place p)
    ⟨fun ⟨h₁, h₂⟩ => ⟨h₁, h₂⟩, fun h => ⟨h.left, h.right⟩⟩

/-! ### References that never climb -/

/-- Slashes at the beginning of a reference only make empty pieces. -/
theorem climbs_dropSlashes (r : String) :
    climbs (String.ofList (r.toList.dropWhile (· == '/'))) = true → climbs r = true := by
  have key : ∀ l : List Char, ".." ∈ cuts (String.ofList (l.dropWhile (· == '/'))) →
      ".." ∈ cuts (String.ofList l) := by
    intro l
    induction l with
    | nil => exact id
    | cons x xs ih =>
      intro h
      by_cases hx : x = '/'
      · rw [hx, List.dropWhile_cons_of_pos (by rfl)] at h
        rw [hx, show '/' :: xs = [] ++ '/' :: xs from rfl, cuts_append_slash]
        exact List.mem_append_right _ (ih h)
      · rwa [List.dropWhile_cons_of_neg (by simpa using hx)] at h
  intro h
  have := key r.toList (by simpa [climbs] using h)
  rw [String.ofList_toList] at this
  simpa [climbs] using this

/-- A reference with slashes dropped does not begin at the root. -/
theorem isAbsolute_dropSlashes (r : String) :
    isAbsolute (String.ofList (r.toList.dropWhile (· == '/'))) = false := by
  rw [isAbsolute, String.toList_ofList, Chars.isAbsolute]
  rcases hd : r.toList.dropWhile (· == '/') with _ | ⟨x, xs⟩
  · rfl
  · have := List.head_dropWhile_not (· == '/') (l := r.toList) (by simp [hd])
    simp only [hd, List.head_cons] at this
    simpa using this

/-- The extension of templates makes no piece that goes up. -/
theorem climbs_append_templateExt {r : String} (h : climbs r = false) :
    climbs (r ++ templateExt) = false := by
  have hsplit : r ++ templateExt =
      String.ofList (Chars.throughSlash r.toList ++ (Chars.baseName r.toList ++ templateExt.toList)) := by
    rw [← List.append_assoc, throughSlash_append_baseName, String.ofList_append, String.ofList_toList,
      String.ofList_toList]
  have hslash : '/' ∉ Chars.baseName r.toList ++ templateExt.toList := by
    rw [List.mem_append, not_or]
    exact ⟨slash_notMem_baseName _, by decide⟩
  have hcuts := cuts_eq_dropLast_append r
  rw [Bool.eq_false_iff, ne_eq, climbs, List.contains_iff_mem] at h ⊢
  rw [hsplit, cuts_throughSlash_append r hslash, List.mem_append, List.mem_singleton]
  rintro (hmem | heq)
  · rw [hcuts] at h
    exact h (List.mem_append_left _ hmem)
  · have := congrArg (fun s => s.toList.length) heq
    simp only [String.toList_ofList, List.length_append] at this
    have htwo : "..".toList.length = 2 := rfl
    have hthree : templateExt.toList.length = 3 := rfl
    omega

/-- The path of a reference that never climbs is one below the source directory. -/
theorem exists_referencePath {r : String} (h : climbs r = false) (source : String) :
    ∃ q, referencePath source (withExtension templateExt r).1 = join source q ∧
      isAbsolute q = false ∧ climbs q = false := by
  refine ⟨_, rfl, isAbsolute_dropSlashes _, ?_⟩
  rw [Bool.eq_false_iff]
  intro hclimbs
  have := climbs_dropSlashes _ hclimbs
  rw [withExtension] at this
  split at this
  · rw [climbs_append_templateExt h] at this
    exact absurd this (by simp)
  · rw [h] at this
    exact absurd this (by simp)

/-- The pieces of the name of a template are names. -/
theorem isName_of_templatePieces {name : String} {pieces : List String}
    (h : templatePieces? name = some pieces) : ∀ c ∈ pieces, IsName c := by
  rw [templatePieces?] at h
  split at h
  · exact absurd h (by simp)
  next hup =>
  intro c hc
  rw [← Option.some.inj h, List.mem_filter] at hc
  obtain ⟨hmem, hc⟩ := hc
  rw [Bool.and_eq_true, bne_iff_ne, Bool.not_eq_true', Bool.eq_false_iff, ne_eq,
    String.isEmpty_iff] at hc
  refine ⟨hc.1, hc.2, ?_, slash_notMem_of_mem_cuts hmem⟩
  rintro rfl
  exact hup (List.contains_iff_mem.mpr hmem)

/-- Every character of the directory or of what is joined to it is one of the joined path. -/
theorem mem_join_of_mem {root q : String} {x : Char} (hroot : isAbsolute root = true)
    (hq : isAbsolute q = false) (h : x ∈ root.toList ∨ x ∈ q.toList) : x ∈ (join root q).toList := by
  obtain ⟨start, hstart, tail, htail⟩ := toList_join hroot hq
  have hjoin : (join root q).toList = root.toList ++ (tail ++ q.toList) := by
    rw [hstart, ← List.append_assoc, htail]
    simp
  rw [hjoin]
  rcases h with hx | hx
  · exact List.mem_append_left _ hx
  · exact List.mem_append_right _ (List.mem_append_right _ hx)

/-- Every character of the directory or of a name is one of the path below. -/
theorem mem_below {root : String} {names : List String} {x : Char} (hroot : isAbsolute root = true)
    (hnames : ∀ c ∈ names, IsName c)
    (h : x ∈ root.toList ∨ ∃ c ∈ names, x ∈ c.toList) : x ∈ (below root names).toList := by
  induction names generalizing root with
  | nil => exact h.resolve_right (by simp)
  | cons c cs ih =>
    have hrelative := isAbsolute_of_notMem (hnames c List.mem_cons_self).slash
    refine ih (isAbsolute_join hroot) (fun y hy => hnames y (List.mem_cons_of_mem _ hy)) ?_
    rcases h with hx | ⟨y, hy, hx⟩
    · exact .inl (mem_join_of_mem hroot hrelative (.inl hx))
    · rcases List.mem_cons.mp hy with rfl | hy
      · exact .inl (mem_join_of_mem hroot hrelative (.inr hx))
      · exact .inr ⟨y, hy, hx⟩

end Path

namespace Disk

open Path

variable {d d' : Disk} {dist root path : String} {names : List String}

/-- A disk has grown below a directory: folders were made on the way to it and below it, and files were
written below it. -/
def GrownBelow (dist : String) (d d' : Disk) : Prop :=
  Grown (fun q => q <+: place dist ∨ place dist <+: q) (fun q => place dist <+: q) d d'

/-- What is below a directory that is separate stays. -/
theorem GrownBelow.get?_eq (h : GrownBelow dist d d') (hsep : Separate dist root) (q : Place) :
    d'.get? (place root ++ q) = d.get? (place root ++ q) := by
  have hbelow : ¬place dist <+: place root ++ q := fun hp => by
    rcases List.prefix_or_prefix_of_prefix hp (List.prefix_append _ _) with h | h
    · exact hsep.left h
    · exact hsep.right h
  exact h.get?_of_not_touched
    (fun hm => hm.elim (fun hp => hsep.right ((List.prefix_append _ _).trans hp)) hbelow) hbelow

/-- A path with a null character leads nowhere. -/
theorem find?_of_null (h : Char.ofNat 0 ∈ path.toList) : d.find? path = none := by
  rw [find?, if_pos (by simpa using h)]

/-- What names below a separate directory lead to stays. -/
theorem GrownBelow.find?_below (h : GrownBelow dist d d') (hd : d.WellFormed)
    (hroot : isAbsolute root = true) (hsteady : d.Steady [] (cuts root)) (hsep : Separate dist root)
    (hnames : ∀ c ∈ names, IsName c) :
    d'.find? (below root names) = d.find? (below root names) := by
  by_cases hnull : Char.ofNat 0 ∈ (below root names).toList
  · rw [find?_of_null hnull, find?_of_null hnull]
  · have hdirectory : d.Firm root :=
      ⟨hroot, fun hx => hnull (mem_below hroot hnames (.inl hx)), hsteady⟩
    have hfirm : d.Firm (below root names) := hdirectory.below fun c hc =>
      ⟨hnames c hc, fun hx => hnull (mem_below hroot hnames (.inr ⟨c, hc, hx⟩))⟩
    refine find?_congr hd (h.wellFormed hd) hfirm (hfirm.mono h.folder) ?_
    rw [place_below root hnames]
    exact h.get?_eq hsep _

/-- What a reference that never climbs leads to from a separate directory stays. -/
theorem GrownBelow.find?_join (h : GrownBelow dist d d') (hd : d.WellFormed)
    (hroot : isAbsolute root = true) (hsteady : d.Steady [] (cuts root)) (hsep : Separate dist root)
    {q : String} (hq : isAbsolute q = false) (hup : climbs q = false) :
    d'.find? (join root q) = d.find? (join root q) := by
  by_cases hnull : Char.ofNat 0 ∈ (join root q).toList
  · rw [find?_of_null hnull, find?_of_null hnull]
  · have hdirectory : d.Firm root :=
      ⟨hroot, fun hx => hnull (mem_join_of_mem hroot hq (.inl hx)), hsteady⟩
    have hfirm := hdirectory.join hq hup fun hx => hnull (mem_join_of_mem hroot hq (.inr hx))
    refine find?_congr hd (h.wellFormed hd) hfirm (hfirm.mono h.folder) ?_
    rw [place_join hq, descend_of_notMem_up _ (by simpa [climbs] using hup)]
    exact h.get?_eq hsep _

end Disk

open Path

variable {d d' : Disk} {dist configDir : String} {opts : Options}

/-- The options stay while a disk grows below a directory that is separate from the settings. -/
theorem options_of_grownBelow (h : d.GrownBelow dist d') (hd : d.WellFormed)
    (hconfig : isAbsolute configDir = true) (hsteady : d.Steady [] (cuts configDir))
    (hsep : Separate dist configDir) : options d' configDir = options d configDir := by
  have hsettings : ∀ file, IsName file →
      d'.find? (join configDir file) = d.find? (join configDir file) := by
    intro file hfile
    have hnames : ∀ c ∈ [] ++ [file], IsName c := by simpa using hfile
    have hbelow := h.find?_below hd hconfig hsteady hsep hnames
    rw [below_concat, below_nil] at hbelow
    exact hbelow
  exact options_congr h.cwd h.home (hsettings _ (by decide)) (hsettings _ (by decide))

/-- The templates of a site end as they always do. -/
theorem ext_of_options (h : options d configDir = .ok opts) : opts.ext = templateExt := by
  obtain ⟨base, hloaded⟩ := loaded_of_options h
  exact hloaded.ext

/-- A site stays alike while its disk grows below a directory that is separate from the settings and
the sources. -/
theorem Site.alike_of_grownBelow (depth : Nat) (h : d.GrownBelow dist d') (hd : d.WellFormed)
    (hopts : options d configDir = .ok opts) (hconfig : isAbsolute configDir = true)
    (hsteadyConfig : d.Steady [] (cuts configDir)) (hsource : isAbsolute opts.source = true)
    (hsteadySource : d.Steady [] (cuts opts.source)) (hsepConfig : Separate dist configDir)
    (hsepSource : Separate dist opts.source) :
    Alike climbs (fun path => d'.find? path = d.find? path) ⟨d, configDir, depth⟩
      ⟨d', configDir, depth⟩ where
  depth := rfl
  options := options_of_grownBelow h hd hconfig hsteadyConfig hsepConfig
  find? _ := id
  name _ _ _ _ := by rw [h.cwd]
  reference opts' r hopts' hr := by
    obtain rfl : opts = opts' := Except.ok.inj (hopts.symm.trans hopts')
    rw [ext_of_options hopts]
    obtain ⟨q, hpath, hq, hup⟩ := exists_referencePath hr opts.source
    rw [hpath]
    exact h.find?_join hd hsource hsteadySource hsepSource hq hup
  template opts' name pieces hopts' hpieces := by
    obtain rfl : opts = opts' := Except.ok.inj (hopts.symm.trans hopts')
    exact h.find?_below hd hsource hsteadySource hsepSource (isName_of_templatePieces hpieces)

end StaticSite
