import StaticSite.Proofs.Site.Affected
import StaticSite.Proofs.Site.Frame
import StaticSite.Proofs.Site.Making
import StaticSite.Proofs.Site.Settled
import StaticSite.Proofs.Site.Surroundings

/-!
# The files of pages

A view is told by the ending of its path, and its page is named by taking the extension off. The two ways to
see what a name ends with agree on every path but one kind: where nothing but dots stands before the ending,
there is an ending and no extension. The page of such a view keeps the name of the view; the page of every
other view has the name of the view with `.html` instead of `.j2`.

## Main definitions

* `isBare`: nothing but dots stands before the ending of a path.
* `ToldAlike`: the ending and the extension of a path agree.
* `PageNamed`: how the page of a view is named.

## Main results

* `toldAlike_iff`: ending and extension agree unless the name is bare.
* `buildView_pageNamed`: the pages of all views are named so, the two ways agreeing but on bare names.
* `not_pageNamed_bare`: the page of a bare view is no `.html` file.
-/

namespace StaticSite

open Path Running

/-! ### Endings and extensions -/

/-- The path ends like a view, and nothing but dots stands before the ending in its name. -/
def isBare (path : String) : Bool :=
  hasEnding path templateExt && (stem path templateExt).toList.all (· == '.')

/-- The ending and the extension of a path tell the same: whether it is the path of a view, and what its name
is without that. -/
structure ToldAlike (path : String) : Prop where
  /-- The extension is that of views exactly if the path ends like a view. -/
  extension : extension path = templateExt ↔ hasEnding path templateExt = true
  /-- To cut the ending off is to cut the extension off. -/
  stem : hasEnding path templateExt = true →
    stem path templateExt = baseName (withoutExtension path)

variable {path page name : String}

/-- A name in which not everything stands after the last dot is what stands before that dot, the dot and what
stands after it. -/
theorem Path.Chars.take_append_lastDot {s : List Char}
    (h : (s.reverse.takeWhile (· != '.')).length < s.length) :
    s.take (s.length - (s.reverse.takeWhile (· != '.')).length - 1) ++
      '.' :: (s.reverse.takeWhile (· != '.')).reverse = s := by
  have hsplit := List.takeWhile_append_dropWhile (p := (· != '.')) (l := s.reverse)
  rcases hrest : s.reverse.dropWhile (· != '.') with _ | ⟨c, rest⟩
  · rw [hrest, List.append_nil] at hsplit
    rw [hsplit, List.length_reverse] at h
    exact absurd h (Nat.lt_irrefl _)
  · -- read backwards, what is not part of the extension begins with the last dot
    obtain rfl : c = '.' := by
      have hhead := List.head_dropWhile_not (· != '.') (l := s.reverse) (by simp [hrest])
      simpa [hrest] using hhead
    rw [hrest] at hsplit
    generalize s.reverse.takeWhile (· != '.') = after at *
    have hs : s = rest.reverse ++ '.' :: after.reverse := by
      rw [← List.reverse_reverse s, ← hsplit]
      simp
    have hlength : s.length - after.length - 1 = rest.reverse.length := by
      rw [hs, List.length_append, List.length_cons, List.length_reverse, List.length_reverse]
      omega
    rw [hlength, hs, List.take_left]

/-- A name is what stands before its extension, and the extension. -/
theorem Path.Chars.splitName_append (s : List Char) :
    (Chars.splitName s).1 ++ (Chars.splitName s).2 = s := by
  rw [Chars.splitName]
  split
  · next h =>
    rw [Bool.and_eq_true, decide_eq_true_eq, List.length_reverse] at h
    rw [List.length_reverse]
    exact Chars.take_append_lastDot h.1
  · exact List.append_nil s

/-- A path with the extension of views ends like a view. -/
theorem hasEnding_of_extension (h : extension path = templateExt) :
    hasEnding path templateExt = true := by
  have hsplit := throughSlash_append_baseName path.toList
  have hext : (Chars.splitName (Chars.baseName path.toList)).2 = templateExt.toList := by
    rw [← h, extension, String.toList_ofList, Chars.splitExtension]
  rw [← Chars.splitName_append (Chars.baseName path.toList), hext, ← List.append_assoc] at hsplit
  exact hasEnding_iff.mpr ⟨_, hsplit.symm⟩

/-- What stands before the ending in the name of a path that ends like a view decides what its extension is: if
that is nothing but dots there is none. -/
theorem exists_of_hasEnding (h : hasEnding path templateExt = true) :
    ∃ start, '/' ∉ start ∧ (baseName path).toList = start ++ templateExt.toList ∧
      stem path templateExt = String.ofList start ∧ isBare path = !start.any (· != '.') ∧
      Chars.splitExtension path.toList =
        if start.any (· != '.') then (Chars.throughSlash path.toList ++ start, templateExt.toList)
        else (path.toList, []) := by
  obtain ⟨hname, hending⟩ := baseName_of_hasEnding h
  obtain ⟨start, hstart⟩ := hasEnding_iff.mp hending
  have hstem : stem path templateExt = String.ofList start := by
    rw [← stem_eq hname.slash hstart, stem, stem]
    simp only [baseName, String.toList_ofList,
      Chars.baseName_of_notMem (slash_notMem_baseName path.toList)]
  have hbase : Chars.baseName path.toList = start ++ ['.', 'j', '2'] := by
    rw [baseName, String.toList_ofList] at hstart
    exact hstart
  refine ⟨start, fun hmem => hname.slash ?_, hstart, hstem, ?_, ?_⟩
  · rw [hstart]
    exact List.mem_append_left _ hmem
  · rw [isBare, h, hstem, String.toList_ofList, Bool.true_and, Bool.eq_iff_iff]
    simp
  · rw [Chars.splitExtension, hbase, splitName_template]
    by_cases hdots : start.any (· != '.') = true
    · simp only [hdots, if_true]
      rfl
    · simp only [hdots, Bool.false_eq_true, if_false]
      rw [← hbase, throughSlash_append_baseName]

/-- The ending and the extension of a path agree unless its name is bare. -/
theorem toldAlike_iff (path : String) : ToldAlike path ↔ isBare path = false := by
  by_cases h : hasEnding path templateExt = true
  · obtain ⟨start, hslash, -, hstem, hbare, hsplit⟩ := exists_of_hasEnding h
    rw [hbare, Bool.not_eq_false']
    by_cases hdots : start.any (· != '.') = true
    · rw [if_pos hdots] at hsplit
      refine ⟨fun _ => hdots, fun _ => ⟨?_, fun _ => ?_⟩⟩
      · rw [extension, hsplit, String.ofList_toList]
        exact iff_of_true rfl h
      · rw [withoutExtension, hsplit, hstem, baseName_throughSlash_append path hslash]
    · rw [if_neg hdots] at hsplit
      refine iff_of_false (fun hagree => ?_) hdots
      have hext := hagree.extension.mpr h
      rw [extension, hsplit] at hext
      exact absurd hext.symm (show templateExt ≠ "" by decide)
  · refine iff_of_true ⟨iff_of_false (fun hext => h (hasEnding_of_extension hext)) h, fun hno => absurd hno h⟩ ?_
    rw [isBare, Bool.eq_false_iff.mpr h, Bool.false_and]

/-! ### Names of pages -/

/-- How the page of a view is named: like the view with `.html` instead of `.j2`, or exactly like the view if its
name is bare. -/
structure PageNamed (path page : String) : Prop where
  /-- The view ends like one. -/
  view : hasEnding path templateExt = true
  /-- The ending is replaced. -/
  html : isBare path = false → baseName page = stem path templateExt ++ ".html"
  /-- Of a bare name it is kept. -/
  bare : isBare path = true → baseName page = baseName path

/-- The name of a page, by what stands before the ending of the view. -/
theorem pageFile_baseName (h : hasEnding path templateExt = true) :
    pageFile (baseName path) =
      if isBare path then baseName path else stem path templateExt ++ ".html" := by
  obtain ⟨start, -, hstart, hstem, hbare, -⟩ := exists_of_hasEnding h
  have hpage := pageFile_eq (baseName_of_hasEnding h).1.slash hstart
  rw [← String.toList_inj, hpage, hbare, hstem]
  by_cases hdots : start.any (· != '.') = true
  · rw [if_pos hdots, if_neg (by simp [hdots]), String.toList_append, String.toList_ofList]
    rfl
  · rw [if_neg hdots, if_pos (by simp [hdots]), hstart]
    rfl

variable {w w' : World}

/-- The ending and the extension of a path agree, on every path but those with bare names; and every page that
is made is named like its view, with `.html` instead of `.j2` unless the name is bare. -/
theorem buildView_pageNamed (hd : w.disk.WellFormed) (hcwd : isAbsolute w.disk.cwd = true)
    (h : buildView path w = (.ok (some page), w')) :
    PageNamed path page ∧ ∀ name, ToldAlike name ↔ isBare name = false := by
  obtain ⟨w₁, hmade, -⟩ := exists_of_buildView h
  obtain ⟨opts, printed, hopts, hending, htarget, hput⟩ := exists_of_makePage hmade
  have hext : opts.layout.ext = templateExt := ext_of_options hopts
  have hdist : isAbsolute opts.layout.dist = true := (isAbsolute_of_options hcwd hopts).1
  have hending : hasEnding path templateExt = true := hext ▸ hending
  have hbase : baseName page = pageFile (baseName path) :=
    (Layout.baseName_of_destination hext hcwd hdist hending htarget).resolve_right
      (Disk.isName_of_putPage hd hput).ne_dot
  rw [pageFile_baseName hending] at hbase
  exact ⟨⟨hending, fun hbare => by rw [hbase, hbare]; rfl, fun hbare => by rw [hbase, hbare]; rfl⟩,
    toldAlike_iff⟩

namespace World

/-- A world with a view whose name is its extension, and a view in a folder. -/
def bareView : World where
  disk := ⟨[(["src"], .folder), (["src", "views"], .folder), (["src", "views", "x"], .folder),
    (["src", "views", "x", ".a.html.j2"], .file (.text "x")),
    (["src", "views", ".j2"], .file (.text "a"))], "/", "/"⟩
  project := ⟨"/config", false, false⟩

set_option maxRecDepth 100000

/-- The page of a view whose name begins with a dot. -/
theorem bareView_pageNamed : bareView.disk.WellFormed ∧ isAbsolute bareView.disk.cwd = true ∧
    (buildView "/src/views/x/.a.html.j2" bareView).1 = .ok (some "/dist/x/.a.html.html") ∧
    PageNamed "/src/views/x/.a.html.j2" "/dist/x/.a.html.html" := by
  have hd : bareView.disk.WellFormed := by decide
  have hmade : (buildView "/src/views/x/.a.html.j2" bareView).1 = .ok (some "/dist/x/.a.html.html") :=
    ok_of_toOption (by decide +kernel)
  obtain ⟨w', hrun⟩ := exists_of_result hmade
  exact ⟨hd, by decide, hmade, (buildView_pageNamed hd (by decide) hrun).1⟩

end World

set_option maxRecDepth 100000 in
/-- The page of a view whose name is its extension is no `.html` file. -/
theorem not_pageNamed_bare : ∃ w',
    buildView "/src/views/.j2" World.bareView = (.ok (some "/dist/.j2"), w') ∧
      baseName "/dist/.j2" ≠ stem "/src/views/.j2" templateExt ++ ".html" ∧
      ¬ToldAlike "/src/views/.j2" := by
  have hmade : (buildView "/src/views/.j2" World.bareView).1 = .ok (some "/dist/.j2") :=
    ok_of_toOption (by decide +kernel)
  obtain ⟨w', hrun⟩ := exists_of_result hmade
  refine ⟨w', hrun, by decide, fun hagree => ?_⟩
  exact absurd ((toldAlike_iff _).mp hagree) (by decide)

end StaticSite
