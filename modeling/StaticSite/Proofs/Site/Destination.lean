import StaticSite.Page.Address
import StaticSite.Proofs.Path.Below
import StaticSite.Proofs.Path.Parent
import StaticSite.Site.Options

/-!
# Where the pages of views go

The page of a view below the views directory stands at the same place below the distribution
directory, under a name of its own: `.j2` becomes `.html`, and a name that is nothing but dots before
the ending is kept. Different views have different pages.

## Main definitions

* `pageFile`: the file name of the page of a view.

## Main results

* `pageFile_injective`: different names of views give different names of pages.
* `Layout.destination_join`: the page of a view below the views directory.
* `Layout.destination_of_place_eq`: where the page of the views directory itself would go.
-/

namespace StaticSite

open Path

/-! ### Names of pages -/

/-- The file name of the page of a view. -/
def pageFile (name : String) : String :=
  if extension name == templateExt then withoutExtension name ++ ".html" else name

variable {name c p source cwd : String} {names mid : List String} {layout : Layout}

/-- A path ends with a text if something stands before that text. -/
theorem hasEnding_iff {ending : String} :
    hasEnding name ending = true ↔ ∃ start, name.toList = start ++ ending.toList := by
  rw [hasEnding, Text.endsWith, List.isPrefixOf_iff_prefix, List.reverse_prefix]
  exact exists_congr fun start => eq_comm

/-- A text without some character is made of others, from its end as well. -/
theorem bne_of_mem_reverse {x : Char} {s : List Char} (h : x ∉ s) : ∀ y ∈ s.reverse, (y != x) = true := by
  intro y hy
  rw [bne_iff_ne]
  rintro rfl
  exact h (List.mem_reverse.mp hy)

/-- A name is split at its last dot, unless nothing but dots stands before that. -/
theorem splitName_dot (before : List Char) {after : List Char} (h : '.' ∉ after) :
    Chars.splitName (before ++ '.' :: after) =
      if before.any (· != '.') then (before, '.' :: after) else (before ++ '.' :: after, []) := by
  have hlast : ((before ++ '.' :: after).reverse.takeWhile (· != '.')).reverse = after := by
    rw [List.reverse_append, List.reverse_cons, List.append_assoc, List.takeWhile_append_of_pos (bne_of_mem_reverse h)]
    simp
  have hfirst : (before ++ '.' :: after).take ((before ++ '.' :: after).length - after.length - 1) = before := by
    have hlength : (before ++ '.' :: after).length - after.length - 1 = before.length := by
      rw [List.length_append, List.length_cons]
      omega
    rw [hlength, List.take_left]
  have hlonger : after.length < (before ++ '.' :: after).length := by
    rw [List.length_append, List.length_cons]
    omega
  rw [Chars.splitName]
  simp only [hlast, hfirst, hlonger, decide_true, Bool.true_and]

/-- The extension of a name of a view is that of templates, unless nothing but dots stands before it. -/
theorem splitName_template (start : List Char) :
    Chars.splitName (start ++ ['.', 'j', '2']) =
      if start.any (· != '.') then (start, ['.', 'j', '2']) else (start ++ ['.', 'j', '2'], []) :=
  splitName_dot start (by decide)

/-- A text without a slash is its own base name. -/
theorem Path.Chars.baseName_of_notMem {s : List Char} (h : '/' ∉ s) : Chars.baseName s = s := by
  rw [Chars.baseName, List.takeWhile_eq_self_iff.mpr (bne_of_mem_reverse h), List.reverse_reverse]

/-- Nothing stands before the base name of a text without a slash. -/
theorem Path.Chars.throughSlash_of_notMem {s : List Char} (h : '/' ∉ s) :
    Chars.throughSlash s = [] := by
  have := throughSlash_append_baseName s
  rwa [Chars.baseName_of_notMem h, List.append_left_eq_self] at this

/-- What the name of a page ends with if that of the view ends like a template, by whether nothing but dots
stands before that ending: such a name has no extension. -/
def Layout.pageEnding (layout : Layout) (dots : Bool) : List Char :=
  if dots then if layout.ext = "" then ['.', 'j', '2', '.', 'h', 't', 'm', 'l'] else ['.', 'j', '2']
  else if layout.ext = templateExt then ['.', 'h', 't', 'm', 'l'] else ['.', 'j', '2']

/-- The two endings are the same or can be told apart by their last characters. -/
theorem Layout.getLast?_pageEnding (layout : Layout) :
    layout.pageEnding true = layout.pageEnding false ∨
      (layout.pageEnding true).getLast? ≠ (layout.pageEnding false).getLast? := by
  have hne : templateExt ≠ "" := by decide
  unfold Layout.pageEnding
  by_cases hempty : layout.ext = ""
  · simp [hempty, hne.symm]
  · by_cases hext : layout.ext = templateExt
    · simp [hext, hne]
    · simp [hempty, hext]

/-- The name of the page of a name that ends like a template. -/
theorem Layout.toList_pageName {start : List Char} (layout : Layout) (hslash : '/' ∉ name.toList)
    (hname : name.toList = start ++ ['.', 'j', '2']) :
    (layout.pageName name).toList = start ++ layout.pageEnding (!start.any (· != '.')) := by
  rw [Layout.pageName, extension, withoutExtension, Chars.splitExtension,
    Chars.baseName_of_notMem hslash, Chars.throughSlash_of_notMem hslash, hname, splitName_template,
    Layout.pageEnding]
  -- an extension that templates do not have is kept
  have hkeep : ∀ ext : List Char, layout.ext ≠ String.ofList ext →
      (String.ofList ext == layout.ext) = false := fun ext hne => by simpa using Ne.symm hne
  by_cases hdots : start.any (· != '.') = true
  · simp only [hdots, if_true, List.nil_append, Bool.not_true, Bool.false_eq_true, if_false]
    by_cases hext : layout.ext = templateExt
    · have hsame : (String.ofList ['.', 'j', '2'] == layout.ext) = true := by
        rw [hext]
        decide
      rw [if_pos hsame, if_pos hext, String.toList_append, String.toList_ofList]
      rfl
    · rw [hkeep _ hext, if_neg (by simp), if_neg hext, hname]
  · simp only [hdots, List.nil_append, Bool.not_false, if_true, Bool.false_eq_true, if_false]
    by_cases hext : layout.ext = ""
    · have hsame : (String.ofList [] == layout.ext) = true := by
        rw [hext]
        decide
      rw [if_pos hsame, if_pos hext, String.toList_append, String.toList_ofList, List.append_assoc]
      rfl
    · rw [hkeep _ hext, if_neg (by simp), if_neg hext, hname]

/-- The name of the page of a name that ends like a template is a name. -/
theorem Layout.isName_pageName (layout : Layout) (hname : IsName name)
    (h : hasEnding name templateExt = true) : IsName (layout.pageName name) := by
  obtain ⟨start, hstart⟩ := hasEnding_iff.mp h
  have hs : '/' ∉ start := fun hmem => hname.slash (by rw [hstart]; exact List.mem_append_left _ hmem)
  have hpage := layout.toList_pageName hname.slash hstart
  have hending : ∀ dots, '/' ∉ layout.pageEnding dots ∧ 3 ≤ (layout.pageEnding dots).length := by
    intro dots
    rw [Layout.pageEnding]
    split <;> split <;> decide
  have hslash : '/' ∉ (layout.pageName name).toList := by
    rw [hpage, List.mem_append, not_or]
    exact ⟨hs, (hending _).1⟩
  have hlong : 3 ≤ (layout.pageName name).toList.length := by
    rw [hpage, List.length_append]
    exact le_add_left (hending _).2
  refine ⟨fun he => ?_, fun he => ?_, fun he => ?_, hslash⟩
  all_goals
    rw [he] at hlong
    exact absurd hlong (by decide)

/-- Different names that end like a template give different names of pages. -/
theorem Layout.pageName_injective (layout : Layout) (hname : IsName name)
    (h : hasEnding name templateExt = true) (hc : IsName c) (h' : hasEnding c templateExt = true)
    (heq : layout.pageName name = layout.pageName c) : name = c := by
  obtain ⟨start, hstart⟩ := hasEnding_iff.mp h
  obtain ⟨start', hstart'⟩ := hasEnding_iff.mp h'
  have hpages := congrArg String.toList heq
  rw [layout.toList_pageName hname.slash hstart, layout.toList_pageName hc.slash hstart'] at hpages
  -- different endings would show in the last character
  have hendings : layout.pageEnding (!start.any (· != '.')) =
      layout.pageEnding (!start'.any (· != '.')) := by
    have hnil : ∀ dots, layout.pageEnding dots ≠ [] := fun dots => by
      rw [Layout.pageEnding]
      split <;> split <;> simp
    have hlast := congrArg List.getLast? hpages
    rw [List.getLast?_append_of_ne_nil _ (hnil _), List.getLast?_append_of_ne_nil _ (hnil _)] at hlast
    have htold := layout.getLast?_pageEnding
    cases hb : (!start.any (· != '.')) <;> cases hb' : (!start'.any (· != '.')) <;>
      rw [hb, hb'] at hlast
    case false.true => exact (htold.resolve_right fun hne => hne hlast.symm).symm
    case true.false => exact htold.resolve_right fun hne => hne hlast
  rw [hendings] at hpages
  rw [← String.toList_inj, hstart, hstart', List.append_cancel_right hpages]

/-- The name of a page is that of a layout whose templates have the usual ending. -/
theorem Layout.pageName_eq_pageFile (hext : layout.ext = templateExt) (name : String) :
    layout.pageName name = pageFile name := by
  rw [Layout.pageName, pageFile, hext]

/-- The name of a page: the ending of a template is replaced, unless it is all of the name but dots. -/
theorem pageFile_eq {start : List Char} (hslash : '/' ∉ name.toList)
    (hname : name.toList = start ++ ['.', 'j', '2']) :
    (pageFile name).toList =
      if start.any (· != '.') then start ++ ['.', 'h', 't', 'm', 'l']
      else start ++ ['.', 'j', '2'] := by
  have hpage := Layout.toList_pageName ⟨"", "", templateExt⟩ hslash hname
  rw [Layout.pageName_eq_pageFile rfl] at hpage
  rw [hpage, Layout.pageEnding]
  by_cases hdots : start.any (· != '.') = true
  · simp [hdots]
  · simp [hdots, show templateExt ≠ "" by decide]

/-- The name of a page ends like a page or like a template. -/
theorem pageFile_ending (hname : IsName name) (h : hasEnding name templateExt = true) :
    (∃ start, (pageFile name).toList = start ++ ['.', 'h', 't', 'm', 'l']) ∨
      ∃ start, (pageFile name).toList = start ++ ['.', 'j', '2'] := by
  obtain ⟨start, hstart⟩ := hasEnding_iff.mp h
  rw [pageFile_eq hname.slash hstart]
  by_cases hdots : start.any (· != '.') = true
  · exact .inl ⟨start, by rw [if_pos hdots]⟩
  · exact .inr ⟨start, by rw [if_neg hdots]⟩

/-- The name of a page is none that ends otherwise. -/
theorem pageFile_ne (hname : IsName name) (h : hasEnding name templateExt = true) {file : String}
    (hpage : ¬['.', 'h', 't', 'm', 'l'] <:+ file.toList)
    (htemplate : ¬['.', 'j', '2'] <:+ file.toList) : pageFile name ≠ file := by
  rintro rfl
  rcases pageFile_ending hname h with ⟨start, hstart⟩ | ⟨start, hstart⟩
  · exact hpage ⟨start, hstart.symm⟩
  · exact htemplate ⟨start, hstart.symm⟩

/-- The name of a page is a name. -/
theorem isName_pageFile (hname : IsName name) (h : hasEnding name templateExt = true) :
    IsName (pageFile name) := by
  have hpage := Layout.isName_pageName ⟨"", "", templateExt⟩ hname h
  rwa [Layout.pageName_eq_pageFile rfl] at hpage

/-- The name of a page holds no null character if the name of the view holds none. -/
theorem null_notMem_pageFile (hname : IsName name) (h : hasEnding name templateExt = true)
    (hnull : Char.ofNat 0 ∉ name.toList) : Char.ofNat 0 ∉ (pageFile name).toList := by
  obtain ⟨start, hstart⟩ := hasEnding_iff.mp h
  have hs : Char.ofNat 0 ∉ start := fun hmem =>
    hnull (by rw [hstart]; exact List.mem_append_left _ hmem)
  have hhtml : Char.ofNat 0 ∉ ['.', 'h', 't', 'm', 'l'] := by decide
  have htemplate : Char.ofNat 0 ∉ ['.', 'j', '2'] := by decide
  rw [pageFile_eq hname.slash hstart]
  split <;> rw [List.mem_append, not_or]
  · exact ⟨hs, hhtml⟩
  · exact ⟨hs, htemplate⟩

/-- Different names of views give different names of pages. -/
theorem pageFile_injective (hname : IsName name) (h : hasEnding name templateExt = true)
    (hc : IsName c) (h' : hasEnding c templateExt = true) (heq : pageFile name = pageFile c) :
    name = c := by
  refine Layout.pageName_injective ⟨"", "", templateExt⟩ hname h hc h' ?_
  rwa [Layout.pageName_eq_pageFile rfl, Layout.pageName_eq_pageFile rfl]

/-! ### Paths of pages -/

/-- Only the last piece of a view says how its page is named. -/
theorem Layout.pageName_split (layout : Layout) (source : String) :
    layout.pageName source = String.ofList
      (Chars.throughSlash source.toList ++ (layout.pageName (baseName source)).toList) := by
  have hbase := slash_notMem_baseName source.toList
  have hsplit : Chars.splitExtension (baseName source).toList =
      Chars.splitName (Chars.baseName source.toList) := by
    rw [baseName, String.toList_ofList, Chars.splitExtension, Chars.baseName_of_notMem hbase,
      Chars.throughSlash_of_notMem hbase]
    rfl
  rw [Layout.pageName, Layout.pageName, extension, extension, hsplit, withoutExtension,
    withoutExtension, hsplit, Chars.splitExtension]
  simp only
  split
  · rw [String.toList_append, String.toList_ofList, ← List.append_assoc, String.ofList_append,
      String.ofList_append, String.ofList_append, String.ofList_toList]
  · rw [baseName, String.toList_ofList, throughSlash_append_baseName, String.ofList_toList]

/-- The spelling of a view with the name of its page. -/
theorem Layout.pageName_eq (hext : layout.ext = templateExt) (source : String) :
    layout.pageName source =
      String.ofList (Chars.throughSlash source.toList ++ (pageFile (baseName source)).toList) := by
  rw [Layout.pageName_split, Layout.pageName_eq_pageFile hext]

/-- Only the last piece of a view is another one in the spelling with the name of its page. -/
theorem Layout.cuts_pageName_baseName (layout : Layout)
    (hpage : '/' ∉ (layout.pageName (baseName source)).toList) :
    cuts (layout.pageName source) = (cuts source).dropLast ++ [layout.pageName (baseName source)] := by
  rw [Layout.pageName_split, cuts_throughSlash_append source hpage, String.ofList_toList]

/-- The base name of the spelling with the name of a page is that name. -/
theorem Layout.baseName_pageName (layout : Layout)
    (hpage : '/' ∉ (layout.pageName (baseName source)).toList) :
    baseName (layout.pageName source) = layout.pageName (baseName source) := by
  rw [Layout.pageName_split, baseName_throughSlash_append source hpage, String.ofList_toList]

/-- The spelling with the name of a page is not empty. -/
theorem Layout.isEmpty_pageName (layout : Layout) (hpage : IsName (layout.pageName (baseName source))) :
    (layout.pageName source).isEmpty = false := by
  rw [Bool.eq_false_iff, ne_eq, String.isEmpty_iff]
  intro hempty
  have hbase := layout.baseName_pageName hpage.slash
  rw [hempty] at hbase
  exact hpage.ne_empty hbase.symm

/-- The pieces of a view with the name of its page. -/
theorem Layout.cuts_pageName (hext : layout.ext = templateExt)
    (hpage : '/' ∉ (pageFile (baseName source)).toList) :
    cuts (layout.pageName source) = (cuts source).dropLast ++ [pageFile (baseName source)] := by
  rw [← Layout.pageName_eq_pageFile hext] at hpage ⊢
  exact layout.cuts_pageName_baseName hpage

/-- The place of a view with the name of its page. -/
theorem Layout.place_pageName (hext : layout.ext = templateExt) (hname : IsName (baseName source))
    (h : hasEnding (baseName source) templateExt = true) :
    place (layout.pageName source) = place (parent source) ++ [pageFile (baseName source)] := by
  have hpage := isName_pageFile hname h
  rw [place, Layout.cuts_pageName hext hpage.slash, descend_append, descend_dropLast_cuts,
    descend_cons, step_name _ hpage.ne_empty hpage.ne_dot hpage.ne_up]
  rfl

/-- A view with the name of its page is absolute if the view is. -/
theorem Layout.isAbsolute_pageName (hext : layout.ext = templateExt)
    (hsource : isAbsolute source = true) : isAbsolute (layout.pageName source) = true := by
  rw [Layout.pageName_eq hext, isAbsolute, String.toList_ofList]
  rcases throughSlash_eq source.toList with hnil | ⟨a, ha⟩
  · have hsplit := throughSlash_append_baseName source.toList
    have hbase := slash_notMem_baseName source.toList
    rw [hnil, List.nil_append] at hsplit
    rw [hsplit] at hbase
    rw [isAbsolute_of_notMem hbase] at hsource
    exact absurd hsource (by simp)
  · have hsplit := throughSlash_append_baseName source.toList
    rw [isAbsolute, ← hsplit, ha] at hsource
    rw [ha]
    cases a with
    | nil => rfl
    | cons x xs => simpa [Chars.isAbsolute] using hsource

/-- An absolute path is seen as it is from everywhere. -/
theorem Path.placeFrom_of_isAbsolute (h : isAbsolute p = true) (cwd : String) :
    placeFrom cwd p = place p := by
  rw [placeFrom, if_pos h]

/-- The base name of a path that ends like a view is the name of a view. -/
theorem Path.baseName_of_hasEnding (h : hasEnding p templateExt = true) :
    IsName (baseName p) ∧ hasEnding (baseName p) templateExt = true := by
  obtain ⟨start, hstart⟩ := hasEnding_iff.mp h
  have hbase : Chars.baseName p.toList = Chars.baseName start ++ ['.', 'j', '2'] := by
    have hreverse : templateExt.toList.reverse = ['2', 'j', '.'] := rfl
    rw [hstart, Chars.baseName, Chars.baseName, List.reverse_append, hreverse]
    simp
  have hlong : 3 ≤ (baseName p).toList.length := by
    rw [baseName, String.toList_ofList, hbase, List.length_append]
    simp
  have hslash : '/' ∉ (baseName p).toList := by
    rw [baseName, String.toList_ofList]
    exact slash_notMem_baseName p.toList
  refine ⟨⟨fun he => ?_, fun he => ?_, fun he => ?_, hslash⟩, hasEnding_iff.mpr ⟨Chars.baseName start, ?_⟩⟩
  · rw [he] at hlong
    exact absurd hlong (by decide)
  · rw [he] at hlong
    exact absurd hlong (by decide)
  · rw [he] at hlong
    exact absurd hlong (by decide)
  · rw [baseName, String.toList_ofList, hbase]
    rfl

/-- The place of a view with the name of its page, for a view in a directory. -/
theorem Layout.place_pageName_join (hext : layout.ext = templateExt) (hp : isAbsolute p = true)
    (hname : IsName name) (h : hasEnding name templateExt = true) :
    place (layout.pageName (Path.join p name)) = place p ++ [pageFile name] := by
  have hbase : baseName (Path.join p name) = name := baseName_join hp hname.slash
  have hname' : IsName (baseName (Path.join p name)) := by rwa [hbase]
  have h' : hasEnding (baseName (Path.join p name)) templateExt = true := by rwa [hbase]
  have hparent : place (parent (Path.join p name)) = place p := by
    have hsplit := place_eq_append hname'
    rw [hbase, place_join_name hname] at hsplit
    exact (List.append_cancel_right hsplit).symm
  rw [Layout.place_pageName hext hname' h', hparent, hbase]

/-- A view with the name of its page begins at the root exactly if the view does. -/
theorem Layout.isAbsolute_pageName_eq (layout : Layout)
    (hpage : '/' ∉ (layout.pageName (baseName source)).toList) :
    isAbsolute (layout.pageName source) = isAbsolute source := by
  have hsplit := throughSlash_append_baseName source.toList
  rw [Layout.pageName_split]
  rcases hthrough : Chars.throughSlash source.toList with _ | ⟨c, cs⟩
  · have hsource : '/' ∉ source.toList := by
      rw [← hsplit, hthrough, List.nil_append]
      exact slash_notMem_baseName source.toList
    rw [List.nil_append, String.ofList_toList, isAbsolute_of_notMem hpage,
      isAbsolute_of_notMem hsource]
  · rw [hthrough] at hsplit
    rw [isAbsolute, isAbsolute, String.toList_ofList, ← hsplit]
    simp [Chars.isAbsolute]

/-- A view and its page name are at the same place but for the last name, wherever they are seen from. -/
theorem Layout.placeFrom_pageName_baseName (layout : Layout) (hname : IsName (baseName source))
    (h : hasEnding (baseName source) templateExt = true) (cwd : String) :
    placeFrom cwd source = placeFrom cwd (parent source) ++ [baseName source] ∧
      placeFrom cwd (layout.pageName source) =
        placeFrom cwd (parent source) ++ [layout.pageName (baseName source)] := by
  have hpage := layout.isName_pageName hname h
  refine ⟨placeFrom_eq_append hname cwd, ?_⟩
  rw [placeFrom_eq, placeFrom_eq, layout.isAbsolute_pageName_eq hpage.slash, isAbsolute_parent_eq,
    layout.cuts_pageName_baseName hpage.slash, descend_append, descend_cuts_parent, descend_cons,
    step_name _ hpage.ne_empty hpage.ne_dot hpage.ne_up, descend_nil]

/-- The same for the name of a page whose template has the usual ending. -/
theorem Layout.placeFrom_pageName (hext : layout.ext = templateExt) (hname : IsName (baseName source))
    (h : hasEnding (baseName source) templateExt = true) (cwd : String) :
    ∃ init, placeFrom cwd source = init ++ [baseName source] ∧
      placeFrom cwd (layout.pageName source) = init ++ [pageFile (baseName source)] := by
  rw [← Layout.pageName_eq_pageFile hext]
  exact ⟨_, layout.placeFrom_pageName_baseName hname h cwd⟩

/-- The page is below the distribution directory if its name lies within the views directory. -/
theorem Layout.destination_eq (htarget : (layout.pageName source).isEmpty = false) :
    layout.destination cwd source =
      .ok (if isWithin cwd (layout.pageName source) layout.views then
        Path.join layout.dist (relative cwd (layout.pageName source) layout.views)
      else layout.pageName source) := by
  unfold Layout.destination within
  simp only [htarget, Bool.false_eq_true, if_false]
  cases isWithin cwd (layout.pageName source) layout.views <;> simp

/-- The page of a view that begins at the root begins there too. -/
theorem Layout.isAbsolute_of_destination {target : String} (hext : layout.ext = templateExt)
    (hdist : isAbsolute layout.dist = true) (hsource : isAbsolute source = true)
    (h : layout.destination cwd source = .ok target) : isAbsolute target = true := by
  have hpage := Layout.isAbsolute_pageName hext hsource
  rw [Layout.destination_eq (ne_empty_of_isAbsolute hpage)] at h
  rw [← Except.ok.inj h]
  split
  · exact isAbsolute_join hdist
  · exact hpage

/-- A view has somewhere for its page to go. -/
theorem Layout.exists_destination (layout : Layout) (cwd : String) (hsource : source ≠ "") :
    ∃ target, layout.destination cwd source = .ok target := by
  have htarget : (layout.pageName source).isEmpty = false := by
    rw [Layout.pageName]
    split
    · rw [Bool.eq_false_iff, ne_eq, String.isEmpty_iff, String.append_eq_empty_iff, not_and]
      exact fun _ => by decide
    · simpa using hsource
  exact ⟨_, Layout.destination_eq htarget⟩

/-- A view whose page name lies below the views directory has its page below the distribution
directory, wherever both are seen from. -/
theorem Layout.destination_of_placeFrom {target : String} (hcwd : isAbsolute cwd = true)
    (hdist : isAbsolute layout.dist = true) (htarget : target.isEmpty = false)
    (hsource : layout.pageName source = target)
    (hplace : placeFrom cwd target = placeFrom cwd layout.views ++ names) (hne : names ≠ []) :
    layout.destination cwd source = .ok (below layout.dist names) := by
  have hnames : ∀ x ∈ names, IsName x := by
    intro x hx
    have hmem : x ∈ placeFrom cwd target := by
      rw [hplace]
      exact List.mem_append_right _ hx
    exact isName_of_mem_placeFrom hmem
  have hwithin : isWithin cwd target layout.views = true := by
    rw [isWithin_iff hcwd, hplace]
    exact List.prefix_append _ _
  have hway : relative cwd target layout.views = spelled names := relative_of_append hcwd hplace hne
  rw [← hsource] at htarget hwithin hway
  rw [Layout.destination_eq htarget, if_pos hwithin, hway, join_spelled hdist hnames hne]

/-- A view whose page name lies below the views directory has its page below the distribution
directory. -/
theorem Layout.destination_of_place {target : String} (hcwd : isAbsolute cwd = true)
    (hviews : isAbsolute layout.views = true) (hdist : isAbsolute layout.dist = true)
    (htarget : isAbsolute target = true) (hsource : layout.pageName source = target)
    (hplace : place target = place layout.views ++ names) (hne : names ≠ []) :
    layout.destination cwd source = .ok (below layout.dist names) := by
  refine Layout.destination_of_placeFrom hcwd hdist (ne_empty_of_isAbsolute htarget) hsource ?_ hne
  rw [placeFrom_of_isAbsolute htarget, placeFrom_of_isAbsolute hviews, hplace]

/-- Whatever lies within the views directory and is named like a view has its page below the
distribution directory, as long as the views directory is not named like a view. -/
theorem Layout.destination_within (hext : layout.ext = templateExt) (hcwd : isAbsolute cwd = true)
    (hdist : isAbsolute layout.dist = true) (h : hasEnding source templateExt = true)
    (hpre : placeFrom cwd layout.views <+: placeFrom cwd source)
    (hviews : ∀ c, (placeFrom cwd layout.views).getLast? = some c → hasEnding c templateExt = false) :
    ∃ init c, (∀ x ∈ init ++ [pageFile c], IsName x) ∧ IsName c ∧ hasEnding c templateExt = true ∧
      layout.destination cwd source = .ok (below layout.dist (init ++ [pageFile c])) := by
  have hname := baseName_of_hasEnding h
  have hpage := isName_pageFile hname.1 hname.2
  obtain ⟨above, hsource, htarget⟩ := Layout.placeFrom_pageName hext hname.1 hname.2 cwd
  rw [hsource] at hpre
  rcases List.prefix_concat_iff.mp hpre with hsame | ⟨init, rfl⟩
  · have hno := hviews (baseName source) (by rw [hsame, List.getLast?_concat])
    rw [hname.2] at hno
    exact absurd hno (by simp)
  · rw [List.append_assoc] at htarget
    have hne : (layout.pageName source).isEmpty = false :=
      layout.isEmpty_pageName (Layout.pageName_eq_pageFile hext _ ▸ hpage)
    refine ⟨init, baseName source, fun x hx => ?_, hname.1, hname.2,
      Layout.destination_of_placeFrom hcwd hdist hne rfl htarget (by simp)⟩
    have hmem : x ∈ placeFrom cwd (layout.pageName source) := by
      rw [htarget]
      exact List.mem_append_right _ hx
    exact isName_of_mem_placeFrom hmem

/-- The page of a view below the views directory is at the same place below the distribution
directory. -/
theorem Layout.destination_join (hext : layout.ext = templateExt) (hcwd : isAbsolute cwd = true)
    (hviews : isAbsolute layout.views = true) (hdist : isAbsolute layout.dist = true)
    (hp : isAbsolute p = true) (hname : IsName name) (h : hasEnding name templateExt = true)
    (hmid : place p = place layout.views ++ mid) :
    layout.destination cwd (Path.join p name) =
      .ok (below layout.dist (mid ++ [pageFile name])) := by
  have htarget : isAbsolute (layout.pageName (Path.join p name)) = true :=
    Layout.isAbsolute_pageName hext (isAbsolute_join hp)
  have hplace : place (layout.pageName (Path.join p name)) =
      place layout.views ++ (mid ++ [pageFile name]) := by
    rw [Layout.place_pageName_join hext hp hname h, hmid, List.append_assoc]
  exact Layout.destination_of_place hcwd hviews hdist htarget rfl hplace (by simp)

/-- What stands at the place of the views directory and is named like a view has its page beside it;
under a name that is nothing but dots before the ending the page would be the distribution directory. -/
theorem Layout.destination_of_place_eq (hext : layout.ext = templateExt) (hcwd : isAbsolute cwd = true)
    (hviews : isAbsolute layout.views = true) (hsource : isAbsolute source = true)
    (hsame : place source = place layout.views) (h : hasEnding source templateExt = true) :
    layout.destination cwd source = .ok (layout.pageName source) ∨
      layout.destination cwd source = .ok (Path.join layout.dist ".") := by
  have hname := baseName_of_hasEnding h
  have htarget : isAbsolute (layout.pageName source) = true := Layout.isAbsolute_pageName hext hsource
  have hplace : place (layout.pageName source) = _ := Layout.place_pageName hext hname.1 hname.2
  have hsplit := place_eq_append hname.1
  by_cases hpage : pageFile (baseName source) = baseName source
  · -- the page would be the file itself
    right
    have hself : layout.pageName source = source := by
      rw [Layout.pageName_eq hext, hpage, baseName, String.toList_ofList,
        throughSlash_append_baseName, String.ofList_toList]
    have hfrom : placeFrom cwd source = placeFrom cwd layout.views := by
      rw [placeFrom_of_isAbsolute hsource, placeFrom_of_isAbsolute hviews, hsame]
    have hwithin : isWithin cwd source layout.views = true :=
      (isWithin_iff hcwd _ _).mpr (hfrom ▸ List.prefix_refl _)
    rw [Layout.destination_eq (ne_empty_of_isAbsolute htarget), hself, if_pos hwithin,
      relative_of_eq hcwd hfrom]
  · left
    have hwithin : isWithin cwd (layout.pageName source) layout.views = false := by
      rw [Bool.eq_false_iff, ne_eq, isWithin_iff hcwd, placeFrom_of_isAbsolute htarget,
        placeFrom_of_isAbsolute hviews, hplace, ← hsame, hsplit]
      intro hpre
      have := List.IsPrefix.eq_of_length hpre (by simp)
      exact hpage (by simpa using this.symm)
    rw [Layout.destination_eq (ne_empty_of_isAbsolute htarget), hwithin, if_neg (by simp)]

/-- The page of a view ends with the name of its page, unless it is the distribution directory itself. -/
theorem Layout.baseName_of_destination {target : String} (hext : layout.ext = templateExt)
    (hcwd : isAbsolute cwd = true) (hdist : isAbsolute layout.dist = true)
    (h : hasEnding source templateExt = true) (htarget : layout.destination cwd source = .ok target) :
    baseName target = pageFile (baseName source) ∨ baseName target = "." := by
  have hname := baseName_of_hasEnding h
  have hpage := isName_pageFile hname.1 hname.2
  have hbase : baseName (layout.pageName source) = pageFile (baseName source) := by
    rw [← Layout.pageName_eq_pageFile hext] at hpage ⊢
    exact layout.baseName_pageName hpage.slash
  have hne : (layout.pageName source).isEmpty = false :=
    layout.isEmpty_pageName (Layout.pageName_eq_pageFile hext _ ▸ hpage)
  rw [Layout.destination_eq hne] at htarget
  split at htarget
  · next hwithin =>
    obtain ⟨names, hnames⟩ := (isWithin_iff hcwd _ _).mp hwithin
    rcases List.eq_nil_or_concat names with rfl | ⟨init, c, rfl⟩
    · rw [relative_of_eq hcwd (by rw [← hnames, List.append_nil])] at htarget
      rw [← Except.ok.inj htarget]
      exact .inr (baseName_join hdist (by decide))
    · rw [List.concat_eq_append] at hnames
      -- the last of the names is that of the page
      obtain ⟨above, -, hplace⟩ := Layout.placeFrom_pageName hext hname.1 hname.2 cwd
      have hc : c = pageFile (baseName source) := by
        have hlast := congrArg List.getLast? hnames
        rw [hplace, ← List.append_assoc, List.getLast?_concat, List.getLast?_concat] at hlast
        exact Option.some.inj hlast
      have hdestination := Layout.destination_of_placeFrom hcwd hdist hne rfl hnames.symm (by simp)
      rw [Layout.destination_eq hne, if_pos hwithin, htarget] at hdestination
      rw [Except.ok.inj hdestination, below_concat, hc]
      exact .inl (baseName_join (isAbsolute_below hdist init) hpage.slash)
  · rw [← Except.ok.inj htarget]
    exact .inl hbase

/-- The spelling of a firm path with the name of its page is firm. -/
theorem Disk.Firm.pageName {d : Disk} (hext : layout.ext = templateExt) (hfirm : d.Firm source)
    (h : hasEnding source templateExt = true) : d.Firm (layout.pageName source) := by
  have hname := baseName_of_hasEnding h
  have hpage := isName_pageFile hname.1 hname.2
  have hsplit := throughSlash_append_baseName source.toList
  have hnull := hfirm.null
  have hsteady := hfirm.steady
  rw [← hsplit, List.mem_append, not_or] at hnull
  rw [cuts_eq_dropLast_append, Disk.steady_append] at hsteady
  have hbase : Char.ofNat 0 ∉ (baseName source).toList := by
    rw [baseName, String.toList_ofList]
    exact hnull.2
  have hnull' : Char.ofNat 0 ∉ (layout.pageName source).toList := by
    rw [Layout.pageName_eq hext, String.toList_ofList, List.mem_append, not_or]
    exact ⟨hnull.1, null_notMem_pageFile hname.1 hname.2 hbase⟩
  have hlast : ".." ∉ [pageFile (baseName source)] := by
    rw [List.mem_singleton]
    exact Ne.symm hpage.ne_up
  have hsteady' : d.Steady [] (cuts (layout.pageName source)) := by
    rw [Layout.cuts_pageName hext hpage.slash, Disk.steady_append]
    exact ⟨hsteady.1, Disk.steady_of_notMem_up hlast⟩
  exact ⟨Layout.isAbsolute_pageName hext hfirm.absolute, hnull', hsteady'⟩

end StaticSite
