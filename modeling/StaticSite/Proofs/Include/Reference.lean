import StaticSite.Page.Address
import StaticSite.Proofs.Build.PageFiles
import StaticSite.Proofs.Disk.Reach
import StaticSite.Proofs.Include.Fragment
import StaticSite.Proofs.Path.Spelling

/-!
# References to fragments

A reference comes to a path below the source directory. Slashes at its beginning are dropped, and a reference without
an extension is given that of templates. What the extension is depends on the last component alone, and there on the
last dot that does not stand among the dots at the beginning; a reference that was given the extension of templates
therefore has it, and is not given another one. So the references that differ in these ways come to one path, and
include the same.

A reference without `..` leads down from the source directory, read as a path as well as followed on the disk.

## Main definitions

* `LacksExtension`: there is no extension in the last component of a reference.
* `fragmentAt`: what is given for a file that is compiled as a fragment.

## Main results

* `lacksExtension_iff`: when a path has no extension.
* `Disk.exists_locate_of_join`: what a path below a directory leads to.
* `Site.resolve_equivalent`: equivalent references include the same, from inside the source directory.
-/

namespace StaticSite

open Template (Locals Store)
open Path

variable {r p q : String}

/-! ### Extensions -/

/-- There is no extension: the last component has no dot behind those that it begins with. -/
def LacksExtension (r : String) : Prop := '.' ∉ (baseName r).toList.dropWhile (· == '.')

/-- A name has no extension if it has no dot behind those that it begins with. -/
theorem splitName_eq_nil_iff (name : List Char) :
    (Chars.splitName name).2 = [] ↔ '.' ∉ name.dropWhile (· == '.') := by
  by_cases hdot : '.' ∈ name
  · obtain ⟨after, before, hname, hafter⟩ := List.eq_append_cons_of_mem (List.mem_reverse.mpr hdot)
    obtain rfl : name = before.reverse ++ '.' :: after.reverse := by
      rw [← List.reverse_reverse name, hname]
      simp
    have hafter : '.' ∉ after.reverse := fun hmem => hafter (List.mem_reverse.mp hmem)
    generalize before.reverse = before at *
    generalize after.reverse = after at *
    rw [splitName_dot before hafter, List.dropWhile_append]
    by_cases hbefore : before.any (· != '.') = true
    · have hnil : (before.dropWhile (· == '.')).isEmpty = false := by
        rw [List.isEmpty_eq_false_iff, ne_eq, List.dropWhile_eq_nil_iff]
        simpa using hbefore
      rw [if_pos hbefore, hnil]
      simp
    · have hnil : (before.dropWhile (· == '.')).isEmpty = true := by
        rw [List.isEmpty_iff, List.dropWhile_eq_nil_iff]
        simpa using hbefore
      rw [if_neg hbefore, if_pos hnil, List.dropWhile_cons_of_pos (by rfl)]
      simpa using fun hmem => hafter ((List.dropWhile_sublist _).subset hmem)
  · have hrest : '.' ∉ name.dropWhile (· == '.') := fun hmem => hdot ((List.dropWhile_sublist _).subset hmem)
    rw [Chars.splitName, List.takeWhile_eq_self_iff.mpr (bne_of_mem_reverse hdot), List.reverse_reverse]
    simpa using hrest

/-- The extension of a path is that of its last component. -/
theorem extension_eq (p : String) : extension p = String.ofList (Chars.splitName (baseName p).toList).2 := by
  rw [extension, Chars.splitExtension, baseName, String.toList_ofList]

/-- A path has no extension exactly if there is none in its last component. -/
theorem lacksExtension_iff (r : String) : LacksExtension r ↔ extension r = "" := by
  rw [LacksExtension, extension_eq, ← splitName_eq_nil_iff, ← String.toList_inj, String.toList_ofList,
    String.toList_empty]

/-- A text without a slash behind a path is put after its last component. -/
theorem baseName_append (r : String) {ending : String} (h : '/' ∉ ending.toList) :
    baseName (r ++ ending) = baseName r ++ ending := by
  have hslash : '/' ∉ Chars.baseName r.toList ++ ending.toList := by
    rw [List.mem_append, not_or]
    exact ⟨slash_notMem_baseName _, h⟩
  have hbase := baseName_throughSlash_append r hslash
  rw [← List.append_assoc, throughSlash_append_baseName, String.ofList_append, String.ofList_toList,
    String.ofList_toList, String.ofList_append, String.ofList_toList] at hbase
  exact hbase

/-- Slashes before a path leave its last component. -/
theorem baseName_slashes (k : Nat) (r : String) :
    baseName (String.ofList (List.replicate k '/') ++ r) = baseName r := by
  have hnone : (List.replicate k '/').takeWhile (· != '/') = [] := by cases k <;> rfl
  rw [baseName, baseName, String.toList_append, String.toList_ofList, Chars.baseName, Chars.baseName,
    List.reverse_append, List.reverse_replicate, List.takeWhile_append, hnone, List.append_nil]
  split
  · next hall => rw [(List.takeWhile_prefix _).eq_of_length hall]
  · rfl

/-- A reference is completed to one that has the extension. -/
theorem withExtension_of_lacksExtension (h : LacksExtension r) :
    withExtension templateExt r = (r ++ templateExt, templateExt) := by
  rw [withExtension, (lacksExtension_iff r).mp h]
  rfl

/-- A reference with the extension of templates, unless nothing but dots stands before that in its last component. -/
theorem withExtension_append (hlast : ∃ c ∈ (baseName r).toList, c ≠ '.') :
    withExtension templateExt (r ++ templateExt) = (r ++ templateExt, templateExt) := by
  have hany : (baseName r).toList.any (· != '.') = true := by simpa using hlast
  have hext : extension (r ++ templateExt) = templateExt := by
    rw [extension_eq, baseName_append r (by decide), String.toList_append,
      show templateExt.toList = ['.', 'j', '2'] from rfl, splitName_template, if_pos hany]
    rfl
  rw [withExtension, hext]
  rfl

/-- Slashes before a reference stay before it when it is completed. -/
theorem withExtension_slashes (ext : String) (k : Nat) (r : String) :
    withExtension ext (String.ofList (List.replicate k '/') ++ r) =
      (String.ofList (List.replicate k '/') ++ (withExtension ext r).1, (withExtension ext r).2) := by
  rw [withExtension, withExtension, extension_eq, extension_eq, baseName_slashes]
  split
  · rw [String.append_assoc]
  · rfl

/-- Slashes before a reference are dropped. -/
theorem referencePath_slashes (source : String) (k : Nat) (r : String) :
    referencePath source (String.ofList (List.replicate k '/') ++ r) = referencePath source r := by
  have hslashes : ∀ x ∈ List.replicate k '/', (x == '/') = true := fun x hx => by
    rw [List.eq_of_mem_replicate hx]
    rfl
  rw [referencePath, referencePath, String.toList_append, String.toList_ofList,
    List.dropWhile_append_of_pos hslashes]

/-! ### Below the source directory -/

/-- A path that is joined to another one is no longer than the whole. -/
theorem utf8ByteSize_le_join (hp : isAbsolute p = true) (hq : isAbsolute q = false) :
    p.utf8ByteSize ≤ (join p q).utf8ByteSize := by
  obtain ⟨start, hjoin, hprefix⟩ := toList_join hp hq
  obtain ⟨rest, hrest⟩ : p.toList <+: (join p q).toList :=
    hprefix.trans ⟨q.toList, by rw [hjoin, List.append_assoc, List.singleton_append]⟩
  have hsize := congrArg (fun l => (String.ofList l).utf8ByteSize) hrest
  rw [String.ofList_append, String.utf8ByteSize_append, String.ofList_toList, String.ofList_toList] at hsize
  omega

/-- What a path that does not climb leads to from a directory lies below what the directory leads to. -/
theorem Disk.exists_locate_of_join {d : Disk} {found : Place} (hp : isAbsolute p = true)
    (hq : isAbsolute q = false) (hup : climbs q = false) (h : d.locate (join p q) = .ok found) :
    ∃ root, d.locate p = .ok root ∧ root <+: found := by
  rw [locate_of_isAbsolute d (isAbsolute_join hp)] at h
  split at h
  · exact absurd h nofun
  next hshort =>
  have hsize := utf8ByteSize_le_join hp hq
  rw [locate_of_isAbsolute d hp, if_neg (by omega)]
  obtain ⟨start, hcuts, hstart⟩ := cuts_join (p := p) hq
  rw [hcuts, followFrom_append] at h
  rcases hroot : d.followFrom [] start with e | root
  · rw [hroot] at h
    exact absurd h nofun
  rw [hroot] at h
  refine ⟨root, ?_, ?_⟩
  · -- what follows the directory is followed from a folder, so nothing more can be
    rcases hstart with heq | heq
    · rw [heq, hroot]
    · obtain ⟨c, cs, hcs⟩ := List.exists_cons_of_ne_nil (cuts_ne_nil q)
      have hfolder : d.get? root = some .folder := by
        by_contra hno
        obtain ⟨e, he⟩ := followFrom_of_not_folder hno c cs
        simp only [hcs, he] at h
        exact absurd h nofun
      rw [heq, followFrom_append, hroot]
      simp only [followFrom, hfolder]
      rfl
  · rw [followFrom_ok h, descend_of_notMem_up root (by simpa [climbs] using hup)]
    exact List.prefix_append _ _

/-- The path of a reference that does not climb lies within the source directory. -/
theorem within_join {cwd : String} (hcwd : isAbsolute cwd = true) (hp : isAbsolute p = true)
    (hq : isAbsolute q = false) (hup : climbs q = false) : within cwd (join p q) p = .ok true := by
  have hne : (join p q).isEmpty = false := ne_empty_of_isAbsolute (isAbsolute_join hp)
  rw [within, hne, if_neg Bool.false_ne_true, (isWithin_iff hcwd _ _).mpr]
  rw [placeFrom, placeFrom, if_pos hp, if_pos (isAbsolute_join hp), place_join hq,
    descend_of_notMem_up _ (by simpa [climbs] using hup)]
  exact List.prefix_append _ _

/-! ### What is included -/

/-- What is given for a file that is compiled as a fragment, by the extension of the reference to it. -/
def fragmentAt (site : Site) (inner : Resolver) (path extension : String) (locals : Except Failure Locals)
    (store : Store) : Compiling (String × Store) := do
  let dialect ← dialectFor extension
  let (text, store) ← counted (compileWith site inner dialect path locals store)
  pure (text.getD "", store)

namespace Site

variable {site : Site} {opts : Options}

/-- What is given for a reference is given for the file at its path. -/
theorem resolveWith_eq (inner : Resolver) (hopts : options site.disk site.configDir = .ok opts) (r : String)
    (locals : Except Failure Locals) (store : Store) :
    resolveWith site inner (.ok r) locals store =
      fragmentAt site inner (sourcePath opts r) (withExtension opts.ext r).2 locals store := by
  rw [resolveWith, hopts]
  simp only [Compiling.ofExcept, pure_bind]
  rfl

/-- Without options nothing is given for any reference. -/
theorem resolveWith_of_error {e : Failure} (inner : Resolver) (hopts : options site.disk site.configDir = .error e)
    (reference : Except Failure String) (locals : Except Failure Locals) (store : Store) :
    resolveWith site inner reference locals store = throw e := by
  rw [resolveWith, hopts]
  rfl

/-- References that come to one path and one extension include the same. -/
theorem resolve_congr {r' : String} (hext : (withExtension templateExt r).2 = (withExtension templateExt r').2)
    (hpath : ∀ source, referencePath source (withExtension templateExt r).1 =
      referencePath source (withExtension templateExt r').1) :
    resolve site (.ok r) = resolve site (.ok r') := by
  rw [resolve]
  cases site.depth with
  | zero => rfl
  | succ n =>
    funext locals store
    rw [resolveAt]
    rcases hopts : options site.disk site.configDir with e | opts
    · rw [resolveWith_of_error _ hopts, resolveWith_of_error _ hopts]
    · rw [resolveWith_eq _ hopts, resolveWith_eq _ hopts, sourcePath, sourcePath, ext_of_options hopts, hext, hpath]

/-- **Equivalent references include the same fragment, from inside the source directory.** Slashes before a reference
change nothing. If its last component is made of more than dots and has no extension, the extension of templates behind
it changes nothing either. And if no component of it leads up, the file that is compiled lies within the source
directory, by its path and by what that leads to on the disk. -/
theorem resolve_equivalent (site : Site) (r : String) :
    (∀ k locals store t, resolve site (.ok (String.ofList (List.replicate k '/') ++ r)) locals store t =
      resolve site (.ok r) locals store t) ∧
    ((∃ c ∈ (baseName r).toList, c ≠ '.') → LacksExtension r → ∀ locals store t,
      resolve site (.ok (r ++ ".j2")) locals store t = resolve site (.ok r) locals store t) ∧
    (isAbsolute site.disk.cwd = true → climbs r = false →
      ∀ opts, options site.disk site.configDir = .ok opts →
        ∃ path, within site.disk.cwd path opts.source = .ok true ∧
          (∀ found, site.disk.locate path = .ok found →
            ∃ root, site.disk.locate opts.source = .ok root ∧ root <+: found) ∧
          ∀ n, site.depth = n + 1 → ∀ locals store, resolve site (.ok r) locals store =
            fragmentAt site (resolveAt site n) path (withExtension opts.ext r).2 locals store) := by
  refine ⟨fun k locals store t => ?_, fun hlast hlacks locals store t => ?_, fun hcwd hup opts hopts => ?_⟩
  · have hsame : resolve site (.ok (String.ofList (List.replicate k '/') ++ r)) = resolve site (.ok r) := by
      refine resolve_congr ?_ fun source => ?_
      · rw [withExtension_slashes]
      · rw [withExtension_slashes, referencePath_slashes]
    rw [hsame]
  · have hcompleted : withExtension templateExt (r ++ ".j2") = withExtension templateExt r :=
      (withExtension_append hlast).trans (withExtension_of_lacksExtension hlacks).symm
    have hsame : resolve site (.ok (r ++ ".j2")) = resolve site (.ok r) :=
      resolve_congr (by rw [hcompleted]) fun source => by rw [hcompleted]
    rw [hsame]
  · obtain ⟨q, hpath, hq, hqup⟩ := exists_referencePath hup opts.source
    have hsource := isAbsolute_source_of_options hcwd hopts
    refine ⟨join opts.source q, within_join hcwd hsource hq hqup,
      fun found hfound => Disk.exists_locate_of_join hsource hq hqup hfound, fun n hdepth locals store => ?_⟩
    have hresolved := resolveWith_eq (resolveAt site n) hopts r locals store
    rw [sourcePath, ext_of_options hopts, hpath] at hresolved
    rw [resolve, hdepth, resolveAt, hresolved, ext_of_options hopts]

/-- A site with a fragment in a directory with a dot in its name; the name of the fragment begins with two dots. -/
def dottedFragment : Site where
  disk := ⟨[(["src"], .folder), (["src", "p.d"], .folder), (["src", "p.d", "..hero.j2"], .file (.text "hero"))],
    "/", "/"⟩
  configDir := "/config"
  depth := 1000

instance (r : String) : Decidable (LacksExtension r) :=
  inferInstanceAs (Decidable ('.' ∉ (baseName r).toList.dropWhile (· == '.')))

/-- The fragment is included by references with and without slashes and the extension. -/
theorem dottedFragment_equivalent :
    (∃ c ∈ (baseName "p.d/..hero").toList, c ≠ '.') ∧ LacksExtension "p.d/..hero" ∧
    isAbsolute dottedFragment.disk.cwd = true ∧ climbs "p.d/..hero" = false ∧
    (resolve dottedFragment (.ok "p.d/..hero") (.ok .none) #[] ⟨[], 0⟩).1.toOption.map Prod.fst = some "hero" ∧
    resolve dottedFragment (.ok "//p.d/..hero") (.ok .none) #[] ⟨[], 0⟩ =
      resolve dottedFragment (.ok "p.d/..hero") (.ok .none) #[] ⟨[], 0⟩ ∧
    resolve dottedFragment (.ok "p.d/..hero.j2") (.ok .none) #[] ⟨[], 0⟩ =
      resolve dottedFragment (.ok "p.d/..hero") (.ok .none) #[] ⟨[], 0⟩ ∧
    ∃ opts, options dottedFragment.disk dottedFragment.configDir = .ok opts ∧
      ∃ path, within "/" path opts.source = .ok true ∧
        resolve dottedFragment (.ok "p.d/..hero") (.ok .none) #[] =
          fragmentAt dottedFragment (resolveAt dottedFragment 999) path (withExtension opts.ext "p.d/..hero").2
            (.ok .none) #[] := by
  obtain ⟨hslashes, hextension, hbelow⟩ := resolve_equivalent dottedFragment "p.d/..hero"
  have hlast : ∃ c ∈ (baseName "p.d/..hero").toList, c ≠ '.' := ⟨'h', by decide, by decide⟩
  have hlacks : LacksExtension "p.d/..hero" := by decide
  obtain ⟨opts, hopts, hgiven⟩ : ∃ opts, options dottedFragment.disk dottedFragment.configDir = .ok opts ∧
      (resolve dottedFragment (.ok "p.d/..hero") (.ok .none) #[] ⟨[], 0⟩).1.toOption.map Prod.fst = some "hero" :=
    exists_options (by decide +kernel)
  obtain ⟨path, hwithin, -, hcompiled⟩ := hbelow (by decide) (by decide) opts hopts
  exact ⟨hlast, hlacks, by decide, by decide, hgiven, hslashes 2 _ _ _, hextension hlast hlacks _ _ _, opts, hopts,
    path, hwithin, hcompiled 999 rfl _ _⟩

end Site

end StaticSite
