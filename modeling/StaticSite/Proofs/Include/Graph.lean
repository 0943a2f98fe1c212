import Mathlib.Data.List.Chain
import Mathlib.Logic.Relation
import StaticSite.Proofs.Disk.Tree
import StaticSite.Proofs.Site.Frame

/-!
# The graph of includes

Markdown files include one another: a file that can be read and converted includes the files that the
include directives of the converted text lead to. A compilation follows these edges from its page, so
whether it ends is a question about this graph. Where no circle can be reached, a way through the graph
meets every file once, and the longest such way bounds how deep includes are nested.

## Main definitions

* `Disk.fileOf?`: the file that a path leads to.
* `Site.converted?`, `Site.Includes`: the edges of the graph.
* `Site.Circular`: a circle of includes can be reached from a page.
* `Site.ShallowAt`: the includes behind a file are nested at most so deep.

## Main results

* `Site.Circular.step`: a circular page includes a circular one.
* `Site.shallowAt_of_not_circular`: without a circle, the longest way bounds the depth.
-/

namespace StaticSite

open Relation

/-- The place of the file that a path leads to. -/
def Disk.fileOf? (d : Disk) (path : String) : Option Place :=
  match d.find? path with
  | some (.file _) => (d.locate path).toOption
  | _ => none

/-- A file is at its place. -/
theorem Disk.get?_of_fileOf? {d : Disk} {path : String} {p : Place} (h : d.fileOf? path = some p) :
    ∃ c, d.find? path = some (.file c) ∧ d.get? p = some (.file c) := by
  unfold fileOf? at h
  split at h
  next c hfind =>
    refine ⟨c, hfind, ?_⟩
    unfold find? at hfind
    split at hfind
    · exact absurd hfind (by simp)
    · rcases hl : d.locate path with e | q
      · rw [hl] at hfind
        exact absurd hfind (by simp)
      · rw [hl] at h hfind
        obtain rfl : q = p := Option.some.inj h
        exact hfind
  next => exact absurd h (by simp)

/-- A path under which a file is found leads to a place. -/
theorem Disk.exists_fileOf? {d : Disk} {path : String} {c : Content}
    (h : d.find? path = some (.file c)) : ∃ p, d.fileOf? path = some p := by
  rcases hl : d.locate path with e | p
  · unfold find? at h
    rw [hl] at h
    split at h <;> exact absurd h (by simp)
  · refine ⟨p, ?_⟩
    unfold fileOf?
    rw [h, hl]
    rfl

namespace Site

variable (site : Site) (opts : Options)

/-- The text that the markdown file at a place converts to, if it can be read and converted. -/
def converted? (p : Place) : Option (List Char) :=
  match site.disk.get? p with
  | some (.file c) =>
    match Disk.textOf c with
    | .ok text =>
      ((Markdown.render ((opts.setting? "markdown").getD .null) text).toOption).map String.toList
    | .error _ => none
  | _ => none

/-- A converted text has an include directive with this path. -/
def Mentions (text value : List Char) : Prop :=
  ∃ token ∈ Directive.tokenize text, token.kind = .include ∧ token.value = value

/-- The path that an include directive leads to. -/
def fragmentPath (value : List Char) : String := referencePath opts.source (String.ofList value)

/-- The markdown file at one place includes the file at another one. -/
def Includes (p q : Place) : Prop :=
  ∃ text value, site.converted? opts p = some text ∧ Mentions text value ∧
    site.disk.fileOf? (fragmentPath opts value) = some q

/-- Includes lead from a page to a file. -/
def Reaches (path : String) (q : Place) : Prop :=
  ∃ p, site.disk.fileOf? path = some p ∧ ReflTransGen (site.Includes opts) p q

/-- Includes lead from a page into a circle. -/
def Circular (path : String) : Prop :=
  ∃ q, site.Reaches opts path q ∧ TransGen (site.Includes opts) q q

/-- Every include directive of the markdown file at a place names a markdown file. -/
def OnlyMarkdown (p : Place) : Prop :=
  ∀ text value, site.converted? opts p = some text → Mentions text value →
    Path.extension (String.ofList value) = ".md"

/-- The includes behind the file at a place are nested at most so deep; also an include that leads to no
file counts. -/
def ShallowAt : Nat → Place → Prop
  | 0, p => ∀ text value, site.converted? opts p = some text → ¬Mentions text value
  | n + 1, p => ∀ q, site.Includes opts p q → ShallowAt n q

/-- The includes behind a page are nested at most so deep. -/
def Shallow (n : Nat) (path : String) : Prop :=
  ∀ p, site.disk.fileOf? path = some p → site.ShallowAt opts n p

variable {site opts} {path : String} {p q : Place} {text value : List Char} {n : Nat}

/-! ### Finite disks -/

/-- A file stands among the entries of the disk. -/
theorem mem_entries_of_get? {d : Disk} {c : Content} (h : d.get? p = some (.file c)) :
    p ∈ d.entries.map Prod.fst := by
  have hne : p ≠ [] := by
    rintro rfl
    exact absurd h (by simp)
  exact Disk.mem_of_get? hne (by rw [h]; rfl)

/-- What can be converted stands on the disk. -/
theorem mem_entries_of_converted? (h : site.converted? opts p = some text) :
    p ∈ site.disk.entries.map Prod.fst := by
  unfold converted? at h
  split at h
  next c hget => exact mem_entries_of_get? hget
  next => exact absurd h (by simp)

/-- Whether all markdown files include markdown only can be seen from the entries of the disk. -/
theorem onlyMarkdown_of_entries
    (h : ∀ p ∈ site.disk.entries.map Prod.fst, ∀ text ∈ site.converted? opts p,
      ∀ token ∈ Directive.tokenize text, token.kind = .include →
        Path.extension (String.ofList token.value) = ".md") (p : Place) : site.OnlyMarkdown opts p := by
  rintro text value htext ⟨token, htoken, hinclude, rfl⟩
  exact h p (mem_entries_of_converted? htext) text htext token htoken hinclude

/-- What a path leads to stands on the disk. -/
theorem mem_entries_of_fileOf? (h : site.disk.fileOf? path = some p) :
    p ∈ site.disk.entries.map Prod.fst := by
  obtain ⟨c, -, hget⟩ := Disk.get?_of_fileOf? h
  exact mem_entries_of_get? hget

/-- A way from a page meets no more files than there are entries on the disk. -/
theorem length_lt_of_nodup {way : List Place} (hfile : site.disk.fileOf? path = some p)
    (hchain : List.IsChain (site.Includes opts) (p :: way)) (hnodup : (p :: way).Nodup) :
    way.length < site.disk.entries.length := by
  have hpairs : (p :: way).Pairwise (TransGen (site.Includes opts)) :=
    List.isChain_iff_pairwise.mp (hchain.imp fun _ _ => TransGen.single)
  have hsubset : p :: way ⊆ site.disk.entries.map Prod.fst := by
    intro q hq
    rcases List.mem_cons.mp hq with rfl | hq
    · exact mem_entries_of_fileOf? hfile
    · obtain ⟨r, -, text, value, -, -, hq⟩ :=
        TransGen.tail'_iff.mp ((List.pairwise_cons.mp hpairs).1 q hq)
      exact mem_entries_of_fileOf? hq
  have hlength := (hnodup.subperm hsubset).length_le
  rw [List.length_cons, List.length_map] at hlength
  omega

/-! ### Steps -/

/-- What a page includes is reached from it. -/
theorem Reaches.of_mentions (hfile : site.disk.fileOf? path = some p)
    (htext : site.converted? opts p = some text) (hmentions : Mentions text value)
    (h : site.Reaches opts (fragmentPath opts value) q) : site.Reaches opts path q := by
  obtain ⟨r, hr, hreach⟩ := h
  exact ⟨p, hfile, .head ⟨text, value, htext, hmentions, hr⟩ hreach⟩

/-- A circular page includes a circular one. -/
theorem Circular.step (h : site.Circular opts path) :
    ∃ p text value, site.disk.fileOf? path = some p ∧ site.converted? opts p = some text ∧
      Mentions text value ∧ site.Circular opts (fragmentPath opts value) := by
  obtain ⟨q, ⟨p, hfile, hreach⟩, hcircle⟩ := h
  -- either the page leads on to the circle, or it is a part of it
  obtain ⟨r, ⟨text, value, htext, hmentions, hr⟩, hrest⟩ :
      ∃ r, site.Includes opts p r ∧ ReflTransGen (site.Includes opts) r q := by
    rcases hreach.cases_head with rfl | hstep
    · exact TransGen.head'_iff.mp hcircle
    · exact hstep
  exact ⟨p, text, value, hfile, htext, hmentions, q, ⟨r, hr, hrest⟩, hcircle⟩

/-- The includes of a page are nested less deep than those of the page and itself. -/
theorem Shallow.step (h : site.Shallow opts (n + 1) path) (hfile : site.disk.fileOf? path = some p)
    (htext : site.converted? opts p = some text) (hmentions : Mentions text value) :
    site.Shallow opts n (fragmentPath opts value) :=
  fun q hq => h p hfile q ⟨text, value, htext, hmentions, hq⟩

/-- A page behind which nothing may be nested includes nothing. -/
theorem Shallow.not_mentions (h : site.Shallow opts 0 path) (hfile : site.disk.fileOf? path = some p)
    (htext : site.converted? opts p = some text) : ¬Mentions text value :=
  h p hfile text value htext

/-! ### Ways through the graph -/

/-- Behind a file that is not shallow there is a way as long as the depth. The induction is on the
depth. -/
theorem exists_chain (h : ¬site.ShallowAt opts n p) :
    ∃ way : List Place, way.length = n ∧ List.IsChain (site.Includes opts) (p :: way) := by
  induction n generalizing p with
  | zero => exact ⟨[], rfl, List.isChain_singleton p⟩
  | succ n ih =>
    simp only [ShallowAt, not_forall] at h
    obtain ⟨q, hstep, hdeep⟩ := h
    obtain ⟨way, hlength, hchain⟩ := ih hdeep
    exact ⟨q :: way, by rw [List.length_cons, hlength],
      List.isChain_cons_cons.mpr ⟨hstep, hchain⟩⟩

/-- A way that leads into no circle meets every file once. -/
theorem nodup_of_chain {r : Place → Place → Prop} {way : List Place}
    (hchain : List.IsChain r (p :: way)) (hno : ∀ q, ReflTransGen r p q → ¬TransGen r q q) :
    (p :: way).Nodup := by
  have hpairs : (p :: way).Pairwise (TransGen r) :=
    List.isChain_iff_pairwise.mp (hchain.imp fun _ _ => TransGen.single)
  have hfrom : ∀ q ∈ p :: way, ReflTransGen r p q := by
    intro q hq
    rcases List.mem_cons.mp hq with rfl | hq
    · exact .refl
    · exact ((List.pairwise_cons.mp hpairs).1 q hq).to_reflTransGen
  refine hpairs.imp_of_mem fun {a b} ha _ hab heq => ?_
  subst heq
  exact hno a (hfrom a ha) hab

/-- Where no circle can be reached from a page, and the files on a way from it are at most `n`, its
includes are nested at most `n` deep. -/
theorem shallow_of_not_circular (h : ¬site.Circular opts path)
    (hway : ∀ p way, site.disk.fileOf? path = some p →
      List.IsChain (site.Includes opts) (p :: way) → (p :: way).Nodup → (p :: way).length ≤ n) :
    site.Shallow opts n path := by
  intro p hfile
  by_contra hdeep
  obtain ⟨way, hlength, hchain⟩ := exists_chain hdeep
  have hnodup := nodup_of_chain hchain fun q hreach hcircle => h ⟨q, ⟨p, hfile, hreach⟩, hcircle⟩
  have hbound := hway p way hfile hchain hnodup
  rw [List.length_cons] at hbound
  omega

end Site

end StaticSite
