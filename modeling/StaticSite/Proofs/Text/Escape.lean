import StaticSite.Markdown.Fence

/-!
# Escaped code

Five characters have a meaning in markup, and a block of code has a character reference in the place of each of them.
Replacing them one after another comes to the same as replacing them all at once, because the ampersand is replaced
first: a reference begins with an ampersand, and a later replacement touches none of the characters of one that is
there already.

In an escaped text an ampersand begins a reference and nothing else, so reading the references back from left to right
gives the text again, also where the text has references of its own.

## Main definitions

* `marks`, `references`: the characters with a meaning, and their references.
* `escapeInPasses`: the five replacements, one after another.

## Main results

* `escapeInPasses_eq`: the replacements one after another are the replacement of every character.
* `unescape_escape`: reading the references back gives the text.
* `exists_reference`: what is left of characters with a meaning are ampersands, each of which begins a reference.
* `Markdown.Fence.codeBlock_of_mem_boxedFrom`: every fenced block of a document becomes a block of code.
* `codeBlock_characterized`: what a block of code is.
-/

namespace StaticSite

namespace Text

variable {c : Char} {s before after : List Char}

/-! ### References -/

/-- The characters that have a meaning in markup. -/
def marks : List Char := ['&', '<', '>', '"', '\'']

/-- The character references of these characters. -/
def references : List (List Char) :=
  ["&amp;".toList, "&lt;".toList, "&gt;".toList, "&quot;".toList, "&#39;".toList]

/-- The characters with a meaning, one by one. -/
theorem mem_marks_iff : c ∈ marks ↔ c = '&' ∨ c = '<' ∨ c = '>' ∨ c = '"' ∨ c = '\'' := by
  simp [marks]

/-- A reference begins with an ampersand and has no other character with a meaning in it. -/
theorem references_shape : ∀ r ∈ references, ∃ tail, r = '&' :: tail ∧ ∀ x ∈ tail, x ∉ marks := by
  simp [references, marks]

/-- A character with a meaning is escaped to a reference. -/
theorem escapeChar_of_mem (h : c ∈ marks) : escapeChar c ∈ references := by
  rcases mem_marks_iff.mp h with rfl | rfl | rfl | rfl | rfl <;> decide

/-- Any other character stays. -/
theorem escapeChar_of_not_mem (h : c ∉ marks) : escapeChar c = [c] := by
  simp only [mem_marks_iff, not_or] at h
  obtain ⟨hamp, hlt, hgt, hquot, hapos⟩ := h
  simp [escapeChar, hamp, hlt, hgt, hquot, hapos]

/-- An escaped text, character by character. -/
theorem escape_cons (c : Char) (s : List Char) : escape (c :: s) = escapeChar c ++ escape s := List.flatMap_cons

/-! ### One replacement after another -/

/-- Replacing one character. -/
theorem replaceAll_singleton (x : Char) (new s : List Char) :
    replaceAll [x] new s = s.flatMap fun c => if c = x then new else [c] := by
  rw [replaceAll, if_neg (by simp)]
  induction s with
  | nil => rfl
  | cons c s ih =>
    rw [replaceFrom, List.flatMap_cons]
    by_cases hc : c = x
    · rw [if_pos (by simp [hc]), if_pos hc]
      exact congrArg (new ++ ·) ih
    · rw [if_neg (by simpa using Ne.symm hc), if_neg hc, ih]
      rfl

/-- The five replacements, one after another and the ampersand first. -/
def escapeInPasses (s : List Char) : List Char :=
  replaceAll ['"'] "&quot;".toList <| replaceAll ['\''] "&#39;".toList <| replaceAll ['>'] "&gt;".toList <|
    replaceAll ['<'] "&lt;".toList <| replaceAll ['&'] "&amp;".toList s

/-- The replacements one after another are the replacement of every character. -/
theorem escapeInPasses_eq (s : List Char) : escapeInPasses s = escape s := by
  simp only [escapeInPasses, replaceAll_singleton, List.flatMap_assoc, escape]
  congr 1
  funext c
  by_cases hc : c ∈ marks
  · rcases mem_marks_iff.mp hc with rfl | rfl | rfl | rfl | rfl <;> decide
  · rw [escapeChar_of_not_mem hc]
    simp only [mem_marks_iff, not_or] at hc
    obtain ⟨hamp, hlt, hgt, hquot, hapos⟩ := hc
    simp only [if_neg hamp, if_neg hlt, if_neg hgt, if_neg hquot, if_neg hapos, List.flatMap_singleton]

/-! ### The way back -/

/-- A character that begins no reference stands for itself. -/
theorem unescape_cons (h : c ≠ '&') (s : List Char) : unescape (c :: s) = c :: unescape s := by
  rw [unescape]
  all_goals
    rintro rest rfl
    exact absurd rfl h

/-- An escaped character is read back, whatever follows it. -/
theorem unescape_escapeChar (c : Char) (s : List Char) : unescape (escapeChar c ++ s) = c :: unescape s := by
  by_cases hc : c ∈ marks
  · rcases mem_marks_iff.mp hc with rfl | rfl | rfl | rfl | rfl <;> rfl
  · have hamp : c ≠ '&' := fun h => hc (h ▸ List.mem_cons_self)
    rw [escapeChar_of_not_mem hc, List.singleton_append, unescape_cons hamp]

/-- Reading the references of an escaped text back gives the text. -/
theorem unescape_escape (s : List Char) : unescape (escape s) = s := by
  induction s with
  | nil => rfl
  | cons c s ih => rw [escape_cons, unescape_escapeChar, ih]

/-! ### What an escaped text is made of -/

/-- A character with a meaning in an escaped character is an ampersand that begins a reference. -/
theorem escapeChar_eq_append_cons {x : Char} (hx : x ∈ marks) (h : escapeChar c = before ++ x :: after) :
    x = '&' ∧ before = [] ∧ escapeChar c ∈ references := by
  by_cases hc : c ∈ marks
  · have href := escapeChar_of_mem hc
    obtain ⟨tail, htail, hplain⟩ := references_shape _ href
    rw [htail] at h
    rcases before with _ | ⟨y, before⟩
    · exact ⟨(List.cons.inj h).1.symm, rfl, href⟩
    · have hmem : x ∈ tail := (List.cons.inj h).2 ▸ List.mem_append_right _ List.mem_cons_self
      exact absurd hx (hplain x hmem)
  · rw [escapeChar_of_not_mem hc] at h
    have hmem : x ∈ [c] := h ▸ List.mem_append_right _ List.mem_cons_self
    exact absurd (List.mem_singleton.mp hmem ▸ hx) hc

/-- A character with a meaning in an escaped text is an ampersand that begins a reference. The induction is on the
text; the character belongs to what stands for the first character of it, or to what stands for the others. -/
theorem exists_reference {x : Char} (hx : x ∈ marks) (h : escape s = before ++ x :: after) :
    x = '&' ∧ ∃ r ∈ references, r <+: x :: after := by
  induction s generalizing before with
  | nil => exact absurd h (by simp [escape])
  | cons c s ih =>
    rw [escape_cons] at h
    rcases List.append_eq_append_iff.mp h with ⟨between, -, hrest⟩ | ⟨between, hfirst, hrest⟩
    · exact ih hrest
    · cases between with
      | nil =>
        have hsame : escape s = [] ++ x :: after := hrest.symm
        exact ih hsame
      | cons y between =>
        obtain ⟨rfl, hafter⟩ := List.cons.inj hrest
        obtain ⟨rfl, rfl, href⟩ := escapeChar_eq_append_cons hx hfirst
        rw [hfirst] at href
        exact ⟨rfl, _, href, escape s, by rw [hafter]; rfl⟩

/-- A text that has references of its own is escaped as any other one. -/
example : escape "&lt;'".toList = "&amp;lt;&#39;".toList := by decide

end Text

/-! ### Fenced blocks -/

namespace Markdown.Fence

open Text

variable {line piece markup : Glyphs} {origin : Origin}

/-- Characters are no finished markup. -/
theorem raw_not_mem_ofChars (s : List Char) : .raw markup origin ∉ Glyphs.ofChars s := by
  simp [Glyphs.ofChars]

/-- The lines of a block that is no block after all hold no finished markup. -/
theorem raw_not_mem_lines (b : Opened) (h : line ∈ b.lines) : .raw markup origin ∉ line := by
  obtain ⟨s, -, rfl⟩ := List.mem_map.mp h
  exact raw_not_mem_ofChars s

/-- All finished markup of a finished block is a block of code. -/
theorem codeBlock_of_mem_finish {b : Opened} {last : List Char} (h : .raw markup origin ∈ b.finish last) :
    ∃ source, markup = Glyphs.ofChars (codeBlock source) := by
  rcases List.mem_append.mp h with h | h
  · exact absurd h (raw_not_mem_ofChars _)
  · exact ⟨_, (Glyph.raw.inj (List.mem_singleton.mp h)).1⟩

/-- All finished markup among the lines of a text is a block of code, within an open block or not. The induction is
on the lines; only the one that closes a block gives markup. -/
theorem codeBlock_of_mem_boxedFrom {opened : Option Opened} {lines : List (List Char)}
    (hline : line ∈ boxedFrom opened lines) (h : .raw markup origin ∈ line) :
    ∃ source, markup = Glyphs.ofChars (codeBlock source) := by
  fun_induction boxedFrom opened lines with
  | case1 => exact absurd hline List.not_mem_nil
  | case2 b => exact absurd h (raw_not_mem_lines b hline)
  | case3 first lines b hopens ih => exact ih hline
  | case4 first lines hopens ih =>
    rcases List.mem_cons.mp hline with rfl | hline
    · exact absurd h (raw_not_mem_ofChars _)
    · exact ih hline
  | case5 b first lines b' hread ih => exact ih hline
  | case6 b first lines hread ih =>
    rcases List.mem_cons.mp hline with rfl | hline
    · exact codeBlock_of_mem_finish h
    · exact ih hline
  | case7 b first lines hread ih =>
    rcases List.mem_append.mp hline with hline | hline
    · exact absurd h (raw_not_mem_lines b hline)
    · rcases List.mem_cons.mp hline with rfl | hline
      · exact absurd h (raw_not_mem_ofChars _)
      · exact ih hline

end Markdown.Fence

/-! ### Blocks of code -/

namespace Text

/-- **Blocks of code hold no markup and lose nothing.** A block is the escaped source between two tags: no character
with a meaning is left in it but ampersands, each of which begins one of the five references, and reading these back
gives the source. So different sources have different blocks. Whatever language, class and options stand behind the
opening fences of a document, every fenced block in it becomes such a block. -/
theorem codeBlock_characterized (source : List Char) :
    (∃ body, codeBlock source = "<div class=\"code-block\"><pre>".toList ++ body ++ "</pre></div>".toList ∧
      body = escapeInPasses source ∧
      ('<' ∉ body ∧ '>' ∉ body ∧ '"' ∉ body ∧ '\'' ∉ body) ∧
      (∀ before after, body = before ++ '&' :: after → ∃ r ∈ references, r <+: '&' :: after) ∧
      unescape body = source) ∧
    (∀ other, codeBlock source = codeBlock other → source = other) ∧
    ∀ lines, ∀ line ∈ Markdown.Fence.boxedBlocks lines, ∀ markup origin, .raw markup origin ∈ line →
      ∃ code, markup = Markdown.Glyphs.ofChars (codeBlock code) := by
  have hplain : ∀ x ∈ marks, x ≠ '&' → x ∉ escape source := by
    intro x hx hne hmem
    obtain ⟨before, after, h⟩ := List.append_of_mem hmem
    exact hne (exists_reference hx h).1
  refine ⟨⟨escape source, rfl, (escapeInPasses_eq source).symm, ?_, ?_, unescape_escape source⟩, ?_, ?_⟩
  · exact ⟨hplain _ (by decide) (by decide), hplain _ (by decide) (by decide), hplain _ (by decide) (by decide),
      hplain _ (by decide) (by decide)⟩
  · exact fun before after h => (exists_reference (by decide) h).2
  · intro other h
    have hbody : escape source = escape other := List.append_cancel_left (List.append_cancel_right h)
    rw [← unescape_escape source, hbody, unescape_escape]
  · exact fun lines line hline markup origin h => Markdown.Fence.codeBlock_of_mem_boxedFrom hline h

end Text

end StaticSite
