import StaticSite.Proofs.Include.Fragment

/-!
# Fragments that are taken as they are

A fragment whose extension has no dialect is taken as it is: it is not rendered, and that is reported by one notice.
But it is read as a text, and reading a text unifies the line endings. What is given for the fragment is so what
stands in the file if there is no carriage return in it, and something else if there is one.

## Main definitions

* `Text.withLineFeeds`: a text with line feeds for all of its line endings.
* `Content.chars?`: the characters of a content.

## Main results

* `Text.unifyNewlines_eq_withLineFeeds`: what reading makes of line endings.
* `Text.withLineFeeds_eq_self_iff`: the texts that it leaves alone.
* `Site.resolveAt_plain`: what is given for a fragment that is taken as it is.
* `not_verbatim`: it need not be what stands in the file.
-/

namespace StaticSite

open Template (Locals Store)

/-! ### Line endings -/

namespace Text

/-- The text with a line feed in the place of every `\r\n`, and then of every `\r` that is left. -/
def withLineFeeds (s : List Char) : List Char :=
  (replaceAll ['\r', '\n'] ['\n'] s).map fun c => if c = '\r' then '\n' else c

variable {c : Char} {s : List Char}

/-- A line ending of two characters gives a line feed. -/
theorem withLineFeeds_pair (s : List Char) : withLineFeeds ('\r' :: '\n' :: s) = '\n' :: withLineFeeds s := rfl

/-- Where no line ending of two characters begins, one character is looked at. -/
theorem withLineFeeds_cons (h : ¬['\r', '\n'] <+: c :: s) :
    withLineFeeds (c :: s) = (if c = '\r' then '\n' else c) :: withLineFeeds s := by
  have hnot : ¬['\r', '\n'].isPrefixOf (c :: s) = true := fun hpre => h (List.isPrefixOf_iff_prefix.mp hpre)
  rw [withLineFeeds, replaceAll, if_neg (by decide), replaceFrom, if_neg hnot, List.map_cons]
  rfl

/-- Unifying the line endings in one go replaces those of two characters first, and then those of one. -/
theorem unifyNewlines_eq_withLineFeeds (s : List Char) : unifyNewlines s = withLineFeeds s := by
  fun_induction unifyNewlines s with
  | case1 => rfl
  | case2 rest ih => rw [withLineFeeds_pair, ih]
  | case3 rest hlone ih =>
    have hno : ¬['\r', '\n'] <+: '\r' :: rest := by
      rintro ⟨more, hmore⟩
      exact hlone more (List.cons.inj hmore).2.symm
    rw [withLineFeeds_cons hno, if_pos rfl, ih]
  | case4 c rest _ hc ih =>
    have hno : ¬['\r', '\n'] <+: c :: rest := fun hpre => hc (List.cons_prefix_cons.mp hpre).1.symm
    rw [withLineFeeds_cons hno, if_neg hc, ih]

/-- Then there is no carriage return left. -/
theorem not_mem_withLineFeeds (s : List Char) : '\r' ∉ withLineFeeds s := by
  rw [withLineFeeds, List.mem_map]
  rintro ⟨c, -, hc⟩
  split at hc
  · exact absurd hc (by decide)
  · next hne => exact hne hc

/-- Where there was none, nothing is changed. -/
theorem withLineFeeds_of_not_mem (h : '\r' ∉ s) : withLineFeeds s = s := by
  induction s with
  | nil => rfl
  | cons c s ih =>
    have hno : ¬['\r', '\n'] <+: c :: s := fun hpre => h (hpre.subset List.mem_cons_self)
    have hc : c ≠ '\r' := fun heq => h (heq ▸ List.mem_cons_self)
    rw [withLineFeeds_cons hno, if_neg hc, ih fun hs => h (List.mem_cons_of_mem c hs)]

/-- Exactly the texts without a carriage return are left alone. -/
theorem withLineFeeds_eq_self_iff : withLineFeeds s = s ↔ '\r' ∉ s :=
  ⟨fun h => h ▸ not_mem_withLineFeeds s, withLineFeeds_of_not_mem⟩

end Text

/-! ### Reading -/

/-- The characters of a content, if it is a text. -/
def Content.chars? : Content → Option (List Char)
  | .text s => some s.toList
  | .raw bytes => (Text.Utf8.decode bytes).toOption

namespace Disk

variable {d : Disk} {path : String} {c : Content} {s : List Char}

/-- The text of a content has its characters, with line feeds for the line endings. -/
theorem textOf_of_chars? (h : c.chars? = some s) : textOf c = .ok (String.ofList (Text.withLineFeeds s)) := by
  cases c with
  | text t => rw [textOf, Option.some.inj h, Text.unifyNewlines_eq_withLineFeeds]
  | raw bytes =>
    rw [Content.chars?] at h
    rw [textOf]
    rcases hdecode : Text.Utf8.decode bytes with fault | t
    · rw [hdecode] at h
      exact absurd h (by simp [Except.toOption])
    · rw [hdecode] at h
      obtain rfl : t = s := Option.some.inj h
      simp only [Text.unifyNewlines_eq_withLineFeeds]

/-- So has the text of a file. -/
theorem readText_of_find? (hfind : d.find? path = some (.file c)) (h : c.chars? = some s) :
    d.readText path = .ok (String.ofList (Text.withLineFeeds s)) := by
  rw [readText, content_of_find? hfind]
  exact textOf_of_chars? h

end Disk

/-! ### Fragments without a dialect -/

namespace Site

variable {site : Site} {opts : Options} {reference path : String} {c : Content} {s : List Char}

/-- A file that is a text is taken without a message. -/
theorem readPlain_apply (hfind : site.disk.find? path = some (.file c)) (h : c.chars? = some s) (t : Trace) :
    readPlain site path t = (.ok (some (String.ofList (Text.withLineFeeds s))), t) := by
  have hthere : site.disk.holds path = true := by rw [Disk.holds, hfind, Option.isSome_some]
  rw [readPlain, hthere, Bool.not_true, if_neg Bool.false_ne_true, Disk.readText_of_find? hfind h]
  rfl

/-- **What is given for a fragment that is taken as it is.** If its file is a text, that text is given with line
feeds for its line endings, however many includes are around it, and there is one notice. So it is given as it stands
there exactly if there is no carriage return in it. -/
theorem resolveAt_plain (hopts : options site.disk site.configDir = .ok opts)
    (hplain : Dialect.ofExtension? (withExtension opts.ext reference).2 = none)
    (hfind : site.disk.find? (sourcePath opts reference) = some (.file c)) (hchars : c.chars? = some s)
    (n : Nat) (locals : Except Failure Locals) (store : Store) (t : Trace) :
    ∃ text, resolveAt site (n + 1) (.ok reference) locals store t =
        (.ok (text, store),
          ⟨t.messages ++ [plainNotice (withExtension opts.ext reference).2], t.including⟩) ∧
      text = String.ofList (Text.withLineFeeds s) ∧ (text = String.ofList s ↔ '\r' ∉ s) := by
  have hdialect : dialectFor (withExtension opts.ext reference).2 t =
      (.ok .plain, ⟨t.messages ++ [plainNotice (withExtension opts.ext reference).2], t.including⟩) := by
    rw [dialectFor, hplain]
    rfl
  rw [sourcePath] at hfind
  refine ⟨_, ?_, rfl, ?_⟩
  · rw [resolveAt, resolveWith, hopts]
    simp only [Compiling.ofExcept, pure_bind]
    rw [bind_apply, hdialect]
    simp only
    rw [bind_apply, counted, compileWith, bind_apply, readPlain_apply hfind hchars]
    rfl
  · rw [String.ofList_inj, Text.withLineFeeds_eq_self_iff]

/-- A site with two fragments without a dialect. The line endings of one are those of another system. -/
def plainFragments : Site where
  disk := ⟨[(["src"], .folder), (["src", "f.txt"], .file (.text "a\nb")),
    (["src", "g.txt"], .file (.text "a\r\nb"))], "/", "/"⟩
  configDir := "/config"
  depth := 1000

/-- The fragment with the line endings of its own is given as it stands there, with one notice. -/
theorem plainFragments_plain : ∃ opts, options plainFragments.disk plainFragments.configDir = .ok opts ∧
    Dialect.ofExtension? (withExtension opts.ext "f.txt").2 = none ∧
    plainFragments.disk.find? (sourcePath opts "f.txt") = some (.file (.text "a\nb")) ∧
    (Content.text "a\nb").chars? = some ['a', '\n', 'b'] ∧
    resolve plainFragments (.ok "f.txt") (.ok .none) #[] ⟨[], 0⟩ =
      (.ok ("a\nb", #[]), ⟨[plainNotice ".txt"], 0⟩) := by
  obtain ⟨opts, hopts, hplain, hfind, hextension⟩ : ∃ opts,
      options plainFragments.disk plainFragments.configDir = .ok opts ∧
      Dialect.ofExtension? (withExtension opts.ext "f.txt").2 = none ∧
      plainFragments.disk.find? (sourcePath opts "f.txt") = some (.file (.text "a\nb")) ∧
      (withExtension opts.ext "f.txt").2 = ".txt" :=
    exists_options (by decide +kernel)
  have hchars : (Content.text "a\nb").chars? = some ['a', '\n', 'b'] := by decide
  obtain ⟨text, hgiven, -, hverbatim⟩ := resolveAt_plain hopts hplain hfind hchars 999 (.ok .none) #[] ⟨[], 0⟩
  refine ⟨opts, hopts, hplain, hfind, hchars, ?_⟩
  rw [resolve, show plainFragments.depth = 999 + 1 from rfl, hgiven, hverbatim.mpr (by decide), hextension]
  rfl

end Site

/-- The fragment with the other line endings is not: its file is a text, but what is given for it is another one. -/
theorem not_verbatim : ∃ opts, options Site.plainFragments.disk Site.plainFragments.configDir = .ok opts ∧
    Dialect.ofExtension? (withExtension opts.ext "g.txt").2 = none ∧
    Site.plainFragments.disk.find? (sourcePath opts "g.txt") = some (.file (.text "a\r\nb")) ∧
    ∃ text store, (resolve Site.plainFragments (.ok "g.txt") (.ok .none) #[] ⟨[], 0⟩).1 = .ok (text, store) ∧
      text ≠ "a\r\nb" := by
  obtain ⟨opts, hopts, hplain, hfind, hgiven⟩ : ∃ opts,
      options Site.plainFragments.disk Site.plainFragments.configDir = .ok opts ∧
      Dialect.ofExtension? (withExtension opts.ext "g.txt").2 = none ∧
      Site.plainFragments.disk.find? (sourcePath opts "g.txt") = some (.file (.text "a\r\nb")) ∧
      (resolve Site.plainFragments (.ok "g.txt") (.ok .none) #[] ⟨[], 0⟩).1.toOption.map Prod.fst = some "a\nb" :=
    exists_options (by decide +kernel)
  obtain ⟨⟨text, store⟩, hgiven, htext⟩ := Option.map_eq_some_iff.mp hgiven
  have hother : text ≠ "a\r\nb" := by
    rw [show text = "a\nb" from htext]
    decide
  exact ⟨opts, hopts, hplain, hfind, text, store, ok_of_toOption hgiven, hother⟩

end StaticSite
