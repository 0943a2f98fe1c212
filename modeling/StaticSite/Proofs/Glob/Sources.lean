import StaticSite.Proofs.Glob.Directories
import StaticSite.Proofs.Path.Below
import StaticSite.Proofs.Site.Frame
import StaticSite.Proofs.Site.Loading

/-!
# What the usual globs match

Unless the template settings say something else, three globs are watched: the file of the template settings, and
the templates and the markdown texts below the source directory. The first glob has no wildcards and matches one
path. Each of the others is the source directory, a `**/` and a `*` before an ending. What such a glob matches as it
is has a slash more than the variant without the `**/` asks for, so the variant matches all of it, and both together
match the paths that begin with the source directory and its slash and end as they should, whatever stands between.

## Main definitions

* `IsSource`: a path is the file of the template settings, or a template or a markdown text of the sources.

## Main results

* `Glob.accepts_literal_iff`: a glob without wildcards.
* `Glob.accepts_below_iff`: a glob for what is below a directory.
* `matchesAny_sources`: the usual globs match the sources and nothing else.
-/

namespace StaticSite

namespace Glob

variable {start ending path s : List Char}

/-! ### One glob -/

/-- A glob without wildcards matches itself. -/
theorem matchesPath_literal_iff (h : ∀ c ∈ s, isWildcard c = false) : matchesPath s path = true ↔ path = s := by
  have hparse : parse s = s.map .exactly ++ [] := by
    have happend := parse_append h []
    rwa [List.append_nil] at happend
  rw [matchesPath, hparse, List.append_nil, matchPieces_exactly_iff]

/-- A glob without wildcards accepts itself. -/
theorem accepts_literal_iff (h : ∀ c ∈ s, isWildcard c = false) : accepts s path = true ↔ path = s := by
  have hvariant : Text.replaceAll anyDirectory [] s = s ++ [] := by
    have happend := replaceFrom_append h []
    rwa [List.append_nil] at happend
  rw [accepts, hvariant, List.append_nil, Bool.or_self, matchesPath_literal_iff h]

/-- A glob with a `*` in it matches what is before the `*`, any text, and what is after it. -/
theorem matchesPath_star_iff (hstart : ∀ c ∈ start, isWildcard c = false)
    (hending : ∀ c ∈ ending, isWildcard c = false) :
    matchesPath (start ++ '*' :: ending) path = true ↔ ∃ middle, path = start ++ (middle ++ ending) := by
  have hparse : parse ('*' :: ending) = .many :: parse ending := rfl
  rw [matchesPath, parse_append hstart, hparse, matchPieces_append_iff]
  simp only [matchPieces_exactly_iff, matchPieces_many_iff]
  constructor
  · rintro ⟨_, _, rfl, rfl, middle, _, rfl, hleaf⟩
    exact ⟨middle, by rw [(matchesPath_literal_iff hending).mp hleaf]⟩
  · rintro ⟨middle, rfl⟩
    exact ⟨start, middle ++ ending, rfl, rfl, middle, ending, rfl, (matchesPath_literal_iff hending).mpr rfl⟩

/-- A `**/` before a `*` matches no more than the `*`. -/
theorem exists_of_matchesPath_anyDirectory (hstart : ∀ c ∈ start, isWildcard c = false)
    (hending : ∀ c ∈ ending, isWildcard c = false)
    (h : matchesPath (start ++ (anyDirectory ++ '*' :: ending)) path = true) :
    ∃ middle, path = start ++ (middle ++ ending) := by
  have hparse : parse (anyDirectory ++ '*' :: ending) =
      Part.anyDirectory.pieces ++ .many :: parse ending := rfl
  rw [matchesPath, parse_append hstart, hparse, matchPieces_append_iff] at h
  obtain ⟨_, rest, rfl, hliteral, h⟩ := h
  rw [matchPieces_exactly_iff.mp hliteral]
  obtain ⟨directories, rest, rfl, -, h⟩ := matchPieces_append_iff.mp h
  obtain ⟨name, leaf, rfl, hleaf⟩ := matchPieces_many_iff.mp h
  rw [(matchesPath_literal_iff hending).mp hleaf]
  exact ⟨directories ++ name, by rw [List.append_assoc]⟩

/-- A directory, a `**/` and a `*` before an ending accept what is below the directory and has the ending. -/
theorem accepts_below_iff (hstart : ∀ c ∈ start, isWildcard c = false)
    (hending : ∀ c ∈ ending, isWildcard c = false) (hslash : '/' ∉ ending) :
    accepts (start ++ (anyDirectory ++ '*' :: ending)) path = true ↔
      ∃ middle, path = start ++ (middle ++ ending) := by
  have hlast : '/' ∉ '*' :: ending := by simpa using hslash
  have hvariant : Text.replaceAll anyDirectory [] (start ++ (anyDirectory ++ '*' :: ending)) =
      start ++ '*' :: ending :=
    (replaceFrom_append hstart _).trans (congrArg (start ++ ·) (replaceFrom_of_notMem hlast))
  rw [accepts, hvariant, Bool.or_eq_true, matchesPath_star_iff hstart hending]
  exact or_iff_right_of_imp (exists_of_matchesPath_anyDirectory hstart hending)

/-- A text with a beginning that ends with a slash and an ending without one has something between them. -/
theorem prefix_and_suffix_iff (hstart : start = [] ∨ ∃ a, start = a ++ ['/']) (hslash : '/' ∉ ending) :
    start <+: path ∧ ending <:+ path ↔ ∃ middle, path = start ++ (middle ++ ending) := by
  constructor
  · rintro ⟨⟨rest, rfl⟩, init, hinit⟩
    rcases List.append_eq_append_iff.mp hinit with ⟨shared, hshared, hending⟩ | ⟨middle, -, hrest⟩
    · -- the ending does not reach into the beginning, whose last character is the slash
      have hnone : shared = [] := by
        rcases List.eq_nil_or_concat shared with hnil | ⟨before, last, rfl⟩
        · exact hnil
        · rcases hstart with hempty | ⟨a, ha⟩
          · simp [hempty] at hshared
          · have hlast : last = '/' := by
              have hends := congrArg List.getLast? (hshared.symm.trans ha)
              simpa using hends
            rw [hending, hlast] at hslash
            simp at hslash
      exact ⟨[], by rw [hending, hnone, List.nil_append, List.nil_append]⟩
    · exact ⟨middle, by rw [hrest]⟩
  · rintro ⟨middle, rfl⟩
    exact ⟨List.prefix_append _ _, by rw [← List.append_assoc]; exact List.suffix_append _ _⟩

end Glob

open Glob

/-! ### The usual globs -/

/-- The path is the file of the template settings, or that of a template or a markdown text below the source
directory, at any depth. -/
def IsSource (configDir source path : String) : Prop :=
  path = Path.join configDir templatesFile ∨
    (Path.join source "").toList <+: path.toList ∧
      (templateExt.toList <:+ path.toList ∨ ".md".toList <:+ path.toList)

instance (configDir source path : String) : Decidable (IsSource configDir source path) :=
  inferInstanceAs (Decidable (_ ∨ _ ∧ (_ ∨ _)))

variable {d : Disk} {configDir source : String} {opts : Options}

/-- The glob for the sources with an ending is the source directory, a `**/` and a `*` before the ending. -/
theorem toList_sourceGlob (source ending : String) :
    (Path.join (Path.join source "**") ("*" ++ ending)).toList =
      (Path.join source "").toList ++ (anyDirectory ++ '*' :: ending.toList) := by
  have hstar : Path.Chars.isAbsolute ('*' :: ending.toList) = false := rfl
  have hjoin := Path.Chars.join_join source.toList (q := "**".toList) rfl (by decide) (by decide) hstar
  have hrelative : Path.isAbsolute (String.ofList (anyDirectory ++ '*' :: ending.toList)) = false := by
    rw [Path.isAbsolute, String.toList_ofList]
    rfl
  have heq := Path.toList_join_eq source hrelative
  rw [String.toList_ofList] at heq
  rw [← heq]
  simp only [Path.join, String.toList_ofList, String.toList_append] at hjoin ⊢
  exact hjoin

/-- The glob for the sources with an ending accepts what begins with the source directory and ends so. -/
theorem accepts_sourceGlob_iff (hsource : ∀ c ∈ source.toList, isWildcard c = false) {ending : String}
    (hending : ∀ c ∈ ending.toList, isWildcard c = false) (hslash : '/' ∉ ending.toList) {path : List Char} :
    accepts (Path.join (Path.join source "**") ("*" ++ ending)).toList path = true ↔
      (Path.join source "").toList <+: path ∧ ending.toList <:+ path := by
  have hstart : ∀ c ∈ (Path.join source "").toList, isWildcard c = false := by
    intro c hc
    rcases Path.mem_join hc with rfl | hc | hc
    · rfl
    · exact hsource c hc
    · exact absurd hc (by simp)
  have hends : (Path.join source "").toList = [] ∨ ∃ a, (Path.join source "").toList = a ++ ['/'] := by
    rw [Path.join, String.toList_ofList]
    exact Path.Chars.join_nil_eq source.toList
  rw [toList_sourceGlob, accepts_below_iff hstart hending hslash, prefix_and_suffix_iff hends hslash]

/-- **The usual globs match the sources and nothing else.** For options that load without globs of their own, from a
configuration directory and with a source directory without wildcards, matching a path with the globs always comes
out, and says whether it is a path of the sources. -/
theorem matchesAny_sources (hopts : options d configDir = .ok opts)
    (hunset : ifTruthy (opts.setting? "globs") = none)
    (hconfig : ∀ c ∈ configDir.toList, isWildcard c = false)
    (hsource : ∀ c ∈ opts.source.toList, isWildcard c = false) :
    ∃ globs, iterate opts.globs = .ok globs ∧
      ∀ path, matchesAny path globs = .ok (decide (IsSource configDir opts.source path)) := by
  obtain ⟨_, hloaded⟩ := loaded_of_options hopts
  have hglobs : iterate opts.globs = .ok ((defaultGlobs configDir opts.source).map .text) := by
    rw [hloaded.globs, hunset, Option.getD_none, iterate]
  refine ⟨_, hglobs, fun path => ?_⟩
  have hfile : ∀ c ∈ (Path.join configDir templatesFile).toList, isWildcard c = false := by
    intro c hc
    rcases Path.mem_join hc with rfl | hc | hc
    · rfl
    · exact hconfig c hc
    · exact (by simp [templatesFile, isWildcard] : ∀ c ∈ templatesFile.toList, isWildcard c = false) c hc
  have htemplates : accepts (Path.join (Path.join opts.source "**") ("*" ++ templateExt)).toList path.toList =
      true ↔ (Path.join opts.source "").toList <+: path.toList ∧ templateExt.toList <:+ path.toList :=
    accepts_sourceGlob_iff hsource (by simp [templateExt, isWildcard]) (by decide)
  have hmarkdown : accepts (Path.join (Path.join opts.source "**") "*.md").toList path.toList =
      true ↔ (Path.join opts.source "").toList <+: path.toList ∧ ".md".toList <:+ path.toList := by
    rw [show "*.md" = "*" ++ ".md" by decide]
    exact accepts_sourceGlob_iff hsource (by simp [isWildcard]) (by decide)
  rw [matchesAny_text, Except.ok.injEq, Bool.eq_iff_iff, decide_eq_true_iff]
  simp only [matchedBy, defaultGlobs, List.any_cons, List.any_nil, Bool.or_false, Bool.or_eq_true,
    accepts_literal_iff hfile, htemplates, hmarkdown, String.toList_inj, IsSource, and_or_left]

/-- On an empty disk the options load without globs of their own. A template far below the sources is watched, and
so is the file of the template settings; a style sheet is not, nor is a template beside the sources. -/
theorem emptyDisk_sources : ∃ opts, options ⟨[], "/", "/"⟩ "/config" = .ok opts ∧
    ifTruthy (opts.setting? "globs") = none ∧ (∀ c ∈ "/config".toList, isWildcard c = false) ∧
    (∀ c ∈ opts.source.toList, isWildcard c = false) ∧
    ∃ globs, iterate opts.globs = .ok globs ∧ matchesAny "/src/views/a/b.j2" globs = .ok true ∧
      matchesAny "/config/templates.yml" globs = .ok true ∧ matchesAny "/src/a.css" globs = .ok false ∧
      matchesAny "/srcs/a.j2" globs = .ok false := by
  obtain ⟨opts, hopts, hnone, hsource⟩ : ∃ opts, options ⟨[], "/", "/"⟩ "/config" = .ok opts ∧
      (ifTruthy (opts.setting? "globs")).isNone = true ∧ opts.source = "/src" :=
    exists_options (by decide +kernel)
  have hunset := Option.isNone_iff_eq_none.mp hnone
  have hconfig : ∀ c ∈ "/config".toList, isWildcard c = false := by simp [isWildcard]
  have hplain : ∀ c ∈ opts.source.toList, isWildcard c = false := by
    rw [hsource]
    simp [isWildcard]
  obtain ⟨globs, hglobs, hmatches⟩ := matchesAny_sources hopts hunset hconfig hplain
  refine ⟨opts, hopts, hunset, hconfig, hplain, globs, hglobs, ?_⟩
  rw [hmatches, hmatches, hmatches, hmatches, hsource]
  decide

end StaticSite
