import StaticSite.Proofs.Glob.Directories
import StaticSite.Proofs.Path.Parent

/-!
# Directories that cover globs

A glob is observed from the directory of the part before its first wildcard. Every path that the glob matches begins
with that part: its characters stand for themselves, and no `**/` that is taken away for the variant stands among
them. So the path is below the directory, and whoever observes everything below it hears of the path. Directories
that do not exist are left out, and one that several globs share is observed once.

A bracket that is never closed is a wildcard where the part before it is cut off, and a literal character where paths
are matched. That makes the part shorter than it could be, and the directory still covers the glob.

## Main results

* `Glob.prefix_of_accepts`: what a glob accepts begins with its literal part.
* `mem_watchRoots_iff`: the directories to observe.
* `watchRoots_cover`: they are in order and each of them once, and they cover what the globs match.
-/

namespace StaticSite

namespace Glob

variable {s rest path : List Char}

/-! ### The literal part -/

/-- What a glob matches begins with what the glob begins with, if there is no wildcard in it. -/
theorem prefix_of_matchesPath (h : ∀ c ∈ s, isWildcard c = false) (hmatch : matchesPath (s ++ rest) path = true) :
    s <+: path := by
  rw [matchesPath, parse_append h, matchPieces_append_iff] at hmatch
  obtain ⟨a, b, rfl, ha, -⟩ := hmatch
  rw [matchPieces_exactly_iff.mp ha]
  exact List.prefix_append s b

/-- So does what the glob accepts: its variant begins with the same. -/
theorem prefix_of_accepts (h : ∀ c ∈ s, isWildcard c = false) (haccepts : accepts (s ++ rest) path = true) :
    s <+: path := by
  have hvariant : Text.replaceAll anyDirectory [] (s ++ rest) = s ++ Text.replaceAll anyDirectory [] rest :=
    replaceFrom_append h rest
  rw [accepts, hvariant, Bool.or_eq_true] at haccepts
  exact haccepts.elim (prefix_of_matchesPath h) (prefix_of_matchesPath h)

/-- A text without wildcards before a wildcard or the end of a glob is its literal part. -/
theorem literalPart_append (h : ∀ c ∈ s, isWildcard c = false) (hrest : ∀ c ∈ rest.head?, isWildcard c = true) :
    literalPart (s ++ rest) = s := by
  rw [literalPart, List.takeWhile_append_of_pos fun c hc => by rw [h c hc]; rfl]
  cases rest with
  | nil => rw [List.takeWhile_nil, List.append_nil]
  | cons c rest => rw [List.takeWhile_cons_of_neg (by simp [hrest c rfl]), List.append_nil]

end Glob

open Glob

/-! ### The directories to observe -/

variable {d : Disk} {globs : List String} {root : String}

/-- A glob more adds its directory, if that exists and is not there yet. -/
theorem watchRoots_concat (d : Disk) (globs : List String) (glob : String) :
    watchRoots d (globs ++ [glob]) =
      if globRoot glob ≠ "" ∧ d.isFolder (globRoot glob) = true ∧ globRoot glob ∉ watchRoots d globs then
        watchRoots d globs ++ [globRoot glob]
      else watchRoots d globs := by
  rw [watchRoots, List.foldl_append, List.foldl_cons, List.foldl_nil, ← watchRoots]
  simp [and_assoc]

/-- The directories to observe are those of the globs that exist. The induction adds a glob at the end. -/
theorem mem_watchRoots_iff :
    root ∈ watchRoots d globs ↔ root ≠ "" ∧ d.isFolder root = true ∧ ∃ glob ∈ globs, globRoot glob = root := by
  induction globs using List.reverseRecOn with
  | nil => simp [watchRoots]
  | append_singleton globs glob ih =>
    rw [watchRoots_concat]
    simp only [List.mem_append, List.mem_singleton, or_and_right, exists_or, exists_eq_left]
    split
    · next hnew =>
      rw [List.mem_append, List.mem_singleton, ih]
      constructor
      · rintro (⟨hne, hfolder, hglob⟩ | rfl)
        · exact ⟨hne, hfolder, .inl hglob⟩
        · exact ⟨hnew.1, hnew.2.1, .inr rfl⟩
      · rintro ⟨hne, hfolder, hglob | rfl⟩
        · exact .inl ⟨hne, hfolder, hglob⟩
        · exact .inr rfl
    · next hold =>
      rw [ih]
      constructor
      · rintro ⟨hne, hfolder, hglob⟩
        exact ⟨hne, hfolder, .inl hglob⟩
      · rintro ⟨hne, hfolder, hglob | rfl⟩
        · exact ⟨hne, hfolder, hglob⟩
        · -- a directory that is there already is that of an earlier glob
          have hthere : globRoot glob ∈ watchRoots d globs := by
            by_contra hmem
            exact hold ⟨hne, hfolder, hmem⟩
          exact ih.mp hthere

/-- The position of the first glob whose directory this is. -/
def firstGlob (globs : List String) (root : String) : Nat := globs.findIdx fun glob => globRoot glob == root

/-- It does not change when globs are added after it. -/
theorem firstGlob_append (h : ∃ glob ∈ globs, globRoot glob = root) (more : List String) :
    firstGlob (globs ++ more) root = firstGlob globs root ∧ firstGlob globs root < globs.length := by
  have hlt : firstGlob globs root < globs.length := by
    obtain ⟨glob, hmem, hroot⟩ := h
    exact List.findIdx_lt_length.mpr ⟨glob, hmem, beq_iff_eq.mpr hroot⟩
  rw [firstGlob] at hlt ⊢
  exact ⟨by rw [List.findIdx_append, if_pos hlt, firstGlob], hlt⟩

/-- The directories stand in the order of the first globs whose directories they are. -/
theorem pairwise_watchRoots (d : Disk) (globs : List String) :
    (watchRoots d globs).Pairwise fun r r' => firstGlob globs r < firstGlob globs r' := by
  induction globs using List.reverseRecOn with
  | nil => exact List.Pairwise.nil
  | append_singleton globs glob ih =>
    have hkept : (watchRoots d globs).Pairwise fun r r' =>
        firstGlob (globs ++ [glob]) r < firstGlob (globs ++ [glob]) r' := by
      refine ih.imp_of_mem fun hr hr' hlt => ?_
      rwa [(firstGlob_append (mem_watchRoots_iff.mp hr).2.2 _).1,
        (firstGlob_append (mem_watchRoots_iff.mp hr').2.2 _).1]
    rw [watchRoots_concat]
    split
    · next hnew =>
      refine List.pairwise_append.mpr ⟨hkept, List.pairwise_singleton _ _, fun r hr r' hr' => ?_⟩
      obtain rfl := List.mem_singleton.mp hr'
      obtain ⟨hsame, hlt⟩ := firstGlob_append (mem_watchRoots_iff.mp hr).2.2 [glob]
      have hnone : ∀ earlier ∈ globs, (globRoot earlier == globRoot glob) = false := fun earlier hearlier =>
        beq_eq_false_iff_ne.mpr fun heq =>
          hnew.2.2 (mem_watchRoots_iff.mpr ⟨hnew.1, hnew.2.1, earlier, hearlier, heq⟩)
      have hlast : globs.length ≤ firstGlob (globs ++ [glob]) (globRoot glob) := by
        rw [firstGlob, List.findIdx_append, List.findIdx_eq_length_of_false hnone, if_neg (Nat.lt_irrefl _)]
        exact Nat.le_add_left _ _
      rw [hsame]
      exact Nat.lt_of_lt_of_le hlt hlast
    · exact hkept

/-- **The directories to observe cover what the globs match.** They exist, each of them is there once, and they stand
in the order of the first globs whose directories they are. If a path is matched by a glob that is one of them, and
the directory of the part of that glob before its first wildcard is not empty and exists, then it is one of the
directories to observe, and the path begins with it and a slash. -/
theorem watchRoots_cover (d : Disk) (globs : List String) :
    (∀ root, root ∈ watchRoots d globs ↔
      root ≠ "" ∧ d.isFolder root = true ∧ ∃ glob ∈ globs, globRoot glob = root) ∧
    (watchRoots d globs).Nodup ∧
    (watchRoots d globs).Pairwise (fun r r' => firstGlob globs r < firstGlob globs r') ∧
    ∀ path start rest, String.ofList (start ++ rest) ∈ globs → (∀ c ∈ start, isWildcard c = false) →
      (∀ c ∈ rest.head?, isWildcard c = true) →
      matchesAny path [.text (String.ofList (start ++ rest))] = .ok true →
      matchesAny path (globs.map .text) = .ok true ∧
        let root := Path.parent (String.ofList start)
        root ≠ "" → d.isFolder root = true →
          root ∈ watchRoots d globs ∧ (Path.join root "").toList <+: path.toList := by
  have horder := pairwise_watchRoots d globs
  refine ⟨fun _ => mem_watchRoots_iff, horder.imp fun hlt heq => ?_, horder, ?_⟩
  · rw [heq] at hlt
    exact Nat.lt_irrefl _ hlt
  · intro path start rest hmem hplain hwild hmatch
    rw [matchesAny_singleton, Except.ok.injEq] at hmatch
    refine ⟨?_, fun hne hfolder => ?_⟩
    · rw [matchesAny_text, Except.ok.injEq, matchedBy, List.any_eq_true]
      exact ⟨_, hmem, hmatch⟩
    · have hroot : globRoot (String.ofList (start ++ rest)) = Path.parent (String.ofList start) := by
        rw [globRoot, String.toList_ofList, literalPart_append hplain hwild]
      refine ⟨mem_watchRoots_iff.mpr ⟨hne, hfolder, _, hmem, hroot⟩, ?_⟩
      rw [String.toList_ofList] at hmatch
      have hbelow := Path.join_parent_prefix hne
      rw [String.toList_ofList] at hbelow
      exact hbelow.trans (prefix_of_accepts hplain hmatch)

/-- A glob with a bracket that is never closed, and the directory that covers it. Of the other globs one has the same
directory, one has no directory that exists, and one has another directory. -/
theorem openBracket_cover :
    let d : Disk := ⟨[(["src"], .folder), (["src", "views"], .folder)], "/", "/"⟩
    let globs := ["/src/views/**/*.j2", "/gone/*.j2", "/src/views/a[b.j2", "/src/*.md"]
    (∀ c ∈ "/src/views/a".toList, isWildcard c = false) ∧ (∀ c ∈ "[b.j2".toList.head?, isWildcard c = true) ∧
    matchesAny "/src/views/a[b.j2" [.text "/src/views/a[b.j2"] = .ok true ∧
    matchesAny "/src/views/a[b.j2" (globs.map .text) = .ok true ∧ d.isFolder "/src/views" = true ∧
    "/src/views" ∈ watchRoots d globs ∧ (Path.join "/src/views" "").toList <+: "/src/views/a[b.j2".toList ∧
    watchRoots d globs = ["/src/views", "/src"] := by
  intro d globs
  have hplain : ∀ c ∈ "/src/views/a".toList, isWildcard c = false := by simp [isWildcard]
  have hwild : ∀ c ∈ "[b.j2".toList.head?, isWildcard c = true := by simp [isWildcard]
  have hmatch : matchesAny "/src/views/a[b.j2" [.text "/src/views/a[b.j2"] = .ok true := by decide
  have hfolder : d.isFolder "/src/views" = true := by decide +kernel
  obtain ⟨hany, hcover⟩ := (watchRoots_cover d globs).2.2.2 "/src/views/a[b.j2" "/src/views/a".toList
    "[b.j2".toList (by decide) hplain hwild hmatch
  obtain ⟨hroot, hbelow⟩ := hcover (by decide) hfolder
  exact ⟨hplain, hwild, hmatch, hany, hfolder, hroot, hbelow, by decide +kernel⟩

end StaticSite
