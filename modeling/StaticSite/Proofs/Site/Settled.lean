import StaticSite.Proofs.Path.Rooted
import StaticSite.Proofs.Site.Surroundings

/-!
# Settings that stay

A build may write into the very directory that holds the settings. It never writes a file of their name,
so what is read from them stays, unless a folder comes to be where a settings file was missing: then they
cannot be read any more. This needs the path of the settings to be settled: every `..` in it leaves a
folder that exists. Else a folder that is made may open the way to settings that were out of reach.

## Main definitions

* `Disk.Settled`: every `..` in a path leaves a folder that exists.

## Main results

* `Disk.settled_of_canonical`: a path in its canonical spelling is settled.
* `Disk.Grown.find?_settled`: what a settled path finds stays, or a folder has come to be there.
* `options_of_grown`: the options stay, or they do not load any more.
* `isAbsolute_of_options`: the configured directories begin at the root.
-/

namespace StaticSite

open Path

namespace Disk

variable {d d' : Disk} {path : String} {made written : Place → Prop}

/-- Where a path is followed from: the root or the working directory. -/
def start (d : Disk) (path : String) : Place := if isAbsolute path then [] else d.cwdPlace

/-- Where a path ends, followed from there. -/
def goal (d : Disk) (path : String) : Place := descend (d.start path) (cuts path)

/-- Every `..` in a path leaves a folder that exists. -/
def Settled (d : Disk) (path : String) : Prop := d.Steady (d.start path) (cuts path)

instance (d : Disk) (path : String) : Decidable (d.Settled path) :=
  inferInstanceAs (Decidable (d.Steady (d.start path) (cuts path)))

/-- A path that begins at the root is followed from there. -/
theorem settled_iff (h : isAbsolute path = true) : d.Settled path ↔ d.Steady [] (cuts path) := by
  rw [Settled, start, if_pos h]

/-- A settled path that begins at the root stays settled while folders stay. -/
theorem Settled.mono (h : d.Settled path) (habsolute : isAbsolute path = true)
    (hfolder : ∀ p, d.get? p = some .folder → d'.get? p = some .folder) : d'.Settled path :=
  (settled_iff habsolute).mpr (((settled_iff habsolute).mp h).mono hfolder)

/-- A path in its canonical spelling is settled, whatever is on the disk: it never goes up. -/
theorem settled_of_canonical (d : Disk) (h : isAbsolute path = true) (hspelling : Path.normalize path = path) :
    d.Settled path := by
  have hcanonical : IsCanonical path := (isCanonical_iff path).mpr ⟨h, hspelling⟩
  exact steady_of_notMem_up fun hup => (hcanonical.isName_of_mem_cuts hup (by decide)).ne_up rfl

/-- A path that is short is followed piece by piece. -/
theorem locate_eq (d : Disk) (path : String) :
    d.locate path =
      if path.isEmpty then .error .notFound
      else if maxPathBytes < path.utf8ByteSize then .error .nameTooLong
      else d.followFrom (d.start path) (cuts path) := by
  have hcuts : (Text.splitOn '/' path.toList).map String.ofList = cuts path := rfl
  rw [locate, start, isAbsolute]
  simp only [hcuts]
  split
  · rfl
  split
  · rfl
  split <;> rfl

/-- What a path finds is what stands where its pieces lead. -/
theorem find?_eq_some_iff {e : Entry} :
    d.find? path = some e ↔ Char.ofNat 0 ∉ path.toList ∧ path.isEmpty = false ∧
      path.utf8ByteSize ≤ maxPathBytes ∧
      d.followFrom (d.start path) (cuts path) = .ok (d.goal path) ∧ d.get? (d.goal path) = some e := by
  rw [find?, locate_eq, goal]
  by_cases hnull : Char.ofNat 0 ∈ path.toList
  · simp [hnull]
  by_cases hempty : path.isEmpty = true
  · simp [hempty]
  by_cases hlong : maxPathBytes < path.utf8ByteSize
  · simp [hnull, hempty, hlong, Nat.not_le.mpr hlong]
  rw [if_neg (by simpa using hnull), if_neg hempty, if_neg hlong]
  rcases hf : d.followFrom (d.start path) (cuts path) with fault | q
  · simp
  · have hq := followFrom_ok hf
    subst hq
    simp [hnull, hempty, Nat.not_lt.mp hlong]

/-- What a settled path to a name finds stays as long as no file of that name is written, or else a
folder was made where nothing was found. -/
theorem Grown.find?_settled (hg : Grown made written d d') (hd : d.WellFormed) (h : d.Settled path)
    (hname : IsName (baseName path)) (hwritten : ∀ q, written q → q.getLast? ≠ some (baseName path)) :
    d'.find? path = d.find? path ∨
      d'.find? path = some .folder ∧ d.get? (d.goal path) = none ∧ made (d.goal path) := by
  have hstart : d'.start path = d.start path := by rw [start, start, cwdPlace, cwdPlace, hg.cwd]
  have hgoal : d'.goal path = d.goal path := by rw [goal, goal, hstart]
  have hlast : (cuts path).getLast?.any isBlankPiece = false := by
    rw [getLast?_cuts, Option.any_some, isBlankPiece, Bool.or_eq_false_iff]
    exact ⟨by simpa using hname.ne_empty, by simpa using hname.ne_dot⟩
  have hend : (d.goal path).getLast? = some (baseName path) := by
    rw [goal, cuts_eq_dropLast_append path, descend_append, descend_cons,
      step_name _ hname.ne_empty hname.ne_dot hname.ne_up, descend_nil, List.getLast?_concat]
  have hd' := hg.wellFormed hd
  -- what stands at the end of the path is found, before and after
  have hbefore : ∀ e, Char.ofNat 0 ∉ path.toList → path.isEmpty = false →
      path.utf8ByteSize ≤ maxPathBytes → d.get? (d.goal path) = some e → d.find? path = some e :=
    fun e hnull hempty hshort he => find?_eq_some_iff.mpr ⟨hnull, hempty, hshort,
      followFrom_of_get? hd h he (.inr hlast), he⟩
  have hafter : ∀ e, Char.ofNat 0 ∉ path.toList → path.isEmpty = false →
      path.utf8ByteSize ≤ maxPathBytes → d'.get? (d.goal path) = some e → d'.find? path = some e := by
    intro e hnull hempty hshort he
    refine find?_eq_some_iff.mpr ⟨hnull, hempty, hshort, ?_, hgoal ▸ he⟩
    rw [hstart, hgoal]
    exact followFrom_of_get? hd' (Steady.mono hg.folder h) he (.inr hlast)
  rcases hnew : d'.find? path with _ | e
  · left
    rcases hold : d.find? path with _ | e
    · rfl
    obtain ⟨hnull, hempty, hshort, -, he⟩ := find?_eq_some_iff.mp hold
    cases e with
    | folder =>
      rw [hafter _ hnull hempty hshort (hg.folder _ he)] at hnew
      exact absurd hnew (by simp)
    | file c =>
      obtain ⟨c', hc', -⟩ := hg.file _ c he
      rw [hafter _ hnull hempty hshort hc'] at hnew
      exact absurd hnew (by simp)
  · obtain ⟨hnull, hempty, hshort, -, he⟩ := find?_eq_some_iff.mp hnew
    rw [hgoal] at he
    cases e with
    | folder =>
      rcases hg.folder_of he with hfolder | hmade
      · exact .inl (hbefore _ hnull hempty hshort hfolder).symm
      · exact .inr ⟨rfl, hmade⟩
    | file c =>
      exact .inl (hbefore _ hnull hempty hshort
        ((hg.file_of he).resolve_right fun hq => hwritten _ hq hend)).symm

/-- A folder is no settings file. -/
theorem loadSettings_of_folder (h : d.find? path = some .folder) :
    ∃ e, loadSettings d path = .error e := by
  have hholds : (!d.holds path) = false := by rw [holds, h]; rfl
  have hread : d.readText path = .error (faultAt .isDirectory path) := by
    rw [readText, content_of_find? h]
    rfl
  refine ⟨faultAt .isDirectory path, ?_⟩
  rw [loadSettings, hholds, hread]
  rfl

/-- A path joined to a settled one is settled if it never goes up. -/
theorem Settled.join (h : d.Settled path) {q : String} (hq : isAbsolute q = false)
    (hup : climbs q = false) : d.Settled (Path.join path q) := by
  obtain ⟨start, hcuts, hstart⟩ := cuts_join (p := path) (q := q) hq
  have hup' : ".." ∉ cuts q := by simpa [climbs] using hup
  have hsame : d.start (Path.join path q) = d.start path := by
    rw [Disk.start, Disk.start, isAbsolute_join_eq hq]
  rw [Settled] at h
  rw [Settled, hsame, hcuts, steady_append]
  refine ⟨?_, steady_of_notMem_up hup'⟩
  rcases hstart with heq | heq
  · rwa [heq] at h
  · rw [heq, steady_append] at h
    exact h.1

/-- A path is settled if something joined to it is. -/
theorem Settled.of_join {q : String} (hq : isAbsolute q = false)
    (h : d.Settled (Path.join path q)) : d.Settled path := by
  obtain ⟨start, hcuts, hstart⟩ := cuts_join (p := path) (q := q) hq
  have hsame : d.start (Path.join path q) = d.start path := by
    rw [Disk.start, Disk.start, isAbsolute_join_eq hq]
  rw [Settled, hsame, hcuts, steady_append] at h
  rw [Settled]
  rcases hstart with heq | heq
  · rw [heq]
    exact h.1
  · rw [heq, steady_append]
    exact ⟨h.1, steady_of_notMem_up (by decide)⟩

end Disk

variable {d d' : Disk} {configDir : String} {opts : Options} {made written : Place → Prop}

/-- Settings stay, or they do not load any more, as a folder was made where they were missing. -/
theorem loadSettings_of_grown {file : String} (hg : Disk.Grown made written d d') (hd : d.WellFormed)
    (h : d.Settled configDir) (hfile : IsName file)
    (hwritten : ∀ q, written q → q.getLast? ≠ some file) :
    d'.find? (Path.join configDir file) = d.find? (Path.join configDir file) ∨
      (∃ e, loadSettings d' (Path.join configDir file) = .error e) ∧
        d.get? (d.goal (Path.join configDir file)) = none ∧
        made (d.goal (Path.join configDir file)) := by
  have hrelative := isAbsolute_of_notMem hfile.slash
  have hup : climbs file = false := by
    rw [climbs, cuts_of_notMem hfile.slash]
    simpa using Ne.symm hfile.ne_up
  obtain ⟨start, hcuts, -⟩ := cuts_join (p := configDir) hrelative
  have hbase : baseName (Path.join configDir file) = file := by
    have hlast := getLast?_cuts (Path.join configDir file)
    rw [hcuts, cuts_of_notMem hfile.slash, List.getLast?_concat] at hlast
    exact (Option.some.inj hlast).symm
  rcases hg.find?_settled hd (h.join hrelative hup) (by rwa [hbase]) (by rwa [hbase]) with
    hsame | ⟨hfolder, hmade⟩
  · exact .inl hsame
  · exact .inr ⟨Disk.loadSettings_of_folder hfolder, hmade⟩

/-- The options stay while a disk grows and no settings file is written, or they do not load any more,
as a folder was made where a settings file was missing. -/
theorem options_of_grown (hg : Disk.Grown made written d d') (hd : d.WellFormed)
    (h : d.Settled configDir)
    (hwritten : ∀ q, written q →
      q.getLast? ≠ some globalFile ∧ q.getLast? ≠ some templatesFile) :
    options d' configDir = options d configDir ∨
      (∃ e, options d' configDir = .error e) ∧ ∃ file ∈ [globalFile, templatesFile],
        d.get? (d.goal (Path.join configDir file)) = none ∧
        made (d.goal (Path.join configDir file)) := by
  have hglobalName : IsName globalFile := ⟨by decide, by decide, by decide, by decide⟩
  have htemplatesName : IsName templatesFile := ⟨by decide, by decide, by decide, by decide⟩
  have hglobal := loadSettings_of_grown hg hd h hglobalName fun q hq => (hwritten q hq).1
  have htemplates := loadSettings_of_grown hg hd h htemplatesName fun q hq => (hwritten q hq).2
  rcases hglobal with hglobal | ⟨⟨e, he⟩, hmade⟩
  · rcases htemplates with htemplates | ⟨⟨e, he⟩, hmade⟩
    · exact .inl (options_congr hg.cwd hg.home hglobal htemplates)
    · refine .inr ⟨?_, templatesFile, by simp, hmade⟩
      rw [options]
      rcases loadSettings d' (Path.join configDir globalFile) with e' | overrides
      · exact ⟨e', rfl⟩
      · rw [he]
        exact ⟨e, rfl⟩
  · refine .inr ⟨?_, globalFile, by simp, hmade⟩
    rw [options, he]
    exact ⟨e, rfl⟩

/-! ### Configured directories -/

/-- A configured directory begins at the root. -/
theorem isAbsolute_directory {cwd : String} (hcwd : isAbsolute cwd = true) {homes : Homes} {p dir : String}
    (h : directory cwd homes p = .ok dir) : isAbsolute dir = true := by
  rw [directory] at h
  split at h
  · rwa [← Except.ok.inj h]
  · split at h
    · exact absurd h (by simp)
    · rw [← Except.ok.inj h]
      exact (isCanonical_absolute hcwd _).isAbsolute

/-- A configured path below a directory that begins at the root begins there too. -/
theorem isAbsolute_of_joinValue {base path : String} {v : Value} (hbase : isAbsolute base = true)
    (h : joinValue base v = .ok path) : isAbsolute path = true := by
  unfold joinValue at h
  split at h
  · rw [← Except.ok.inj h]
    exact isAbsolute_join hbase
  · exact absurd h (by simp)
  · exact absurd h (by simp)

/-- The base directory begins at the root. -/
theorem isAbsolute_baseDirectory (hcwd : isAbsolute d.cwd = true) {settings : Value} {base : String}
    (h : baseDirectory d settings = .ok base) : isAbsolute base = true := by
  rw [baseDirectory] at h
  split at h
  · exact absurd h (by simp)
  · split at h
    · exact isAbsolute_directory hcwd h
    · exact absurd h (by simp)

/-- The source directory begins at the root. -/
theorem isAbsolute_source_of_options (hcwd : isAbsolute d.cwd = true)
    (h : options d configDir = .ok opts) : isAbsolute opts.source = true := by
  obtain ⟨base, hloaded⟩ := loaded_of_options h
  obtain ⟨v, hsource⟩ := hloaded.source
  exact isAbsolute_of_joinValue (isAbsolute_baseDirectory hcwd hloaded.based) hsource

/-- The configured directories begin at the root. -/
theorem isAbsolute_of_options (hcwd : isAbsolute d.cwd = true) (h : options d configDir = .ok opts) :
    isAbsolute opts.dist = true ∧ isAbsolute opts.views = true := by
  obtain ⟨base, hloaded⟩ := loaded_of_options h
  obtain ⟨v, hdist⟩ := hloaded.dist
  obtain ⟨v', hviews⟩ := hloaded.views
  exact ⟨isAbsolute_of_joinValue (isAbsolute_baseDirectory hcwd hloaded.based) hdist,
    isAbsolute_of_joinValue (isAbsolute_source_of_options hcwd h) hviews⟩

end StaticSite
