import StaticSite.Template.Compare
import StaticSite.Text.Letter
import StaticSite.Text.Reference

/-!
# Markup from text and back

Texts without their markup, links for the addresses in a text, attributes from a mapping, and the
percent form of texts in addresses.

## Main definitions

* `stripTags`: a text without comments and tags.
* `linkify`: addresses as links.
* `attributes`: the attributes of an element.
* `percentEncoded`: the percent form.
-/

namespace StaticSite.Template

open Rendering

/-! ### Removing markup -/

/-- Remove what stands between two marks, as long as both are there. -/
def removeBetween (opening closing : List Char) : Nat → List Char → List Char
  | 0, s => s
  | fuel + 1, s =>
    match Text.breakOn? opening s with
    | none => s
    | some (before, after) =>
      match Text.breakOn? closing (opening ++ after) with
      | none => s
      | some (_, rest) => removeBetween opening closing fuel (before ++ rest)

/-- A text without comments and tags, with its blanks collapsed and its references replaced. -/
def stripTags (s : List Char) : List Char :=
  let s := removeBetween "<!--".toList "-->".toList (s.length + 1) s
  let s := removeBetween ['<'] ['>'] (s.length + 1) s
  Text.resolveReferences (Text.join [' '] (Text.words s))

/-! ### Percent form -/

/-- The character stands for itself in an address. -/
def isUnreserved (c : Char) : Bool :=
  c.toNat < 128 && (c.isAlphanum || "_.-~".toList.contains c)

/-- The percent form of a text, in which a slash stands for itself unless it is part of a query; there a
blank is a plus sign. -/
def percentEncoded (query : Bool) (s : List Char) : List Char :=
  s.flatMap fun c =>
    if isUnreserved c then [c]
    else if c == '/' && !query then [c]
    else if c == ' ' && query then ['+']
    else (Text.Utf8.encode [c]).flatMap fun b =>
      '%' :: (Text.padded 16 2 b.toNat).map Char.toUpper

/-! ### Links -/

/-- Cut off the signs of a class of texts at the beginning. -/
def cutStart (marks : List (List Char)) : Nat → List Char → List Char × List Char
  | 0, s => ([], s)
  | fuel + 1, s =>
    match marks.findSome? fun m => (Text.stripStart? m s).map fun rest => (m, rest) with
    | some (m, rest) =>
      let (more, left) := cutStart marks fuel rest
      (m ++ more, left)
    | none => ([], s)

/-- Cut off the signs of a class of texts at the end. -/
def cutEnd (marks : List (List Char)) (fuel : Nat) (s : List Char) : List Char × List Char :=
  let (tail, rest) := cutStart (marks.map List.reverse) fuel s.reverse
  (rest.reverse, tail.reverse)

/-- Move closing signs from the tail back to an address that has more opening ones. -/
def balance (opening closing : List Char) : Nat → List Char → List Char → List Char × List Char
  | 0, middle, tail => (middle, tail)
  | n + 1, middle, tail =>
    match Text.breakOn? closing tail with
    | some (before, after) => balance opening closing n (middle ++ before ++ closing) after
    | none => (middle, tail)

/-- Letters of a host name. -/
def isHostChar (c : Char) : Bool := Text.isWord c || c == '%' || c == '-'

/-- Labels with dots between them, where the last one is made of letters only. -/
def isHost (letters : List Char → Bool) (labelsBefore : Nat) (s : List Char) : Bool :=
  let labels := Text.splitOn '.' s
  let last := labels.getLast?.getD []
  labelsBefore + 1 ≤ labels.length &&
    labels.dropLast.all (fun l => !l.isEmpty && l.all isHostChar) && letters last

/-- Between two and sixty-three letters. -/
def isTopLabel (s : List Char) : Bool :=
  2 ≤ s.length && s.length ≤ 63 && s.all Char.isAlpha

/-- One of the top labels that make an address without a scheme. -/
def isCommonTop (s : List Char) : Bool :=
  ["com", "net", "int", "edu", "gov", "org", "info", "mil"].contains
    (String.ofList (s.map Char.toLower))

/-- Four numbers with dots between them. -/
def isNumericHost (s : List Char) : Bool :=
  let labels := Text.splitOn '.' s
  labels.length == 4 &&
    labels.all fun l => !l.isEmpty && l.length ≤ 3 && l.all Char.isDigit

/-- A text is an address of a page. -/
def isAddress (s : List Char) : Bool :=
  let lowered := s.map Char.toLower
  let scheme? := (["https://", "http://"].findSome? fun p => Text.stripStart? p.toList lowered)
  let bare := ((scheme?.or (Text.stripStart? "www.".toList lowered))).getD lowered
  let start := lowered.length - bare.length
  let rest := s.drop start
  let host := rest.takeWhile fun c => !(['/', '?', '#', ':'].contains c)
  let after := rest.drop host.length
  let afterPort := match after with
    | ':' :: more =>
      let digits := more.takeWhile Char.isDigit
      if digits.isEmpty || 5 < digits.length then after else more.drop digits.length
    | _ => after
  let pathOk := match afterPort with
    | [] => true
    | c :: more => ['/', '?', '#'].contains c && more.all fun x => !Text.isBlank x
  let hasMark := start != 0
  pathOk &&
    ((hasMark && isHost isTopLabel 0 host) || isHost isCommonTop 1 host && !hasMark ||
      (scheme?.isSome && isNumericHost host))

/-- A text is an address of a mailbox. -/
def isMailbox (s : List Char) : Bool :=
  match Text.splitOn '@' s with
  | [user, host] =>
    let labels := Text.splitOn '.' host
    !user.isEmpty && user.all (fun c => !Text.isBlank c) && 2 ≤ labels.length &&
      (host.head?.map Text.isWord).getD false &&
      host.all (fun c => Text.isWord c || c == '.' || c == '-') &&
      (let last := labels.getLast?.getD []
       !last.isEmpty && last.all Text.isWord)
  | _ => false

/-- How links are written. -/
structure LinkStyle where
  /-- The longest text of a link. -/
  limit : Option Nat
  /-- The attributes after the address. -/
  attributes : List Char

/-- A link. -/
def link (style : LinkStyle) (address text : List Char) : List Char :=
  let shown := match style.limit with
    | some n => if n < text.length then text.take n ++ "...".toList else text
    | none => text
  "<a href=\"".toList ++ address ++ ['"'] ++ style.attributes ++ ['>'] ++ shown ++ "</a>".toList

/-- A word with its address as a link. -/
def linkWord (style : LinkStyle) (word : List Char) : List Char :=
  let fuel := word.length + 1
  let opening := [['('], ['<'], "&lt;".toList]
  let closing := [[')'], ['>'], ['.'], [','], ['\n'], "&gt;".toList]
  let (head, middle) := cutStart opening fuel word
  let (middle, tail) :=
    if [")", ">", ".", ",", "\n", "&gt;"].any fun e => Text.endsWith e.toList middle then
      cutEnd closing fuel middle
    else (middle, [])
  let rebalance (p : List Char × List Char) (marks : String × String) : List Char × List Char :=
    let (o, c) := (marks.1.toList, marks.2.toList)
    let extra := Text.occurrences o p.1
    if extra ≤ Text.occurrences c p.1 then p
    else balance o c (min extra (Text.occurrences c p.2)) p.1 p.2
  let (middle, tail) :=
    [("(", ")"), ("<", ">"), ("&lt;", "&gt;")].foldl rebalance (middle, tail)
  let hasScheme := Text.startsWith "https://".toList middle || Text.startsWith "http://".toList middle
  let plainLink (address : List Char) : List Char :=
    "<a href=\"".toList ++ address ++ ['"', '>'] ++ middle ++ "</a>".toList
  let linked :=
    if isAddress middle then
      link style (if hasScheme then middle else "https://".toList ++ middle) middle
    else match Text.stripStart? "mailto:".toList middle with
      | some box =>
        if isMailbox box then
          "<a href=\"".toList ++ middle ++ ['"', '>'] ++ box ++ "</a>".toList
        else middle
      | none =>
        if middle.contains '@' && !Text.startsWith "www.".toList middle && !middle.contains ':' &&
            isMailbox middle then
          plainLink ("mailto:".toList ++ middle)
        else middle
  head ++ linked ++ tail

/-- An escaped text with the addresses in it as links. -/
def linkify (style : LinkStyle) (s : List Char) : List Char :=
  (s.splitBy fun a b => Text.isBlank a == Text.isBlank b).flatMap fun piece =>
    if piece.any Text.isBlank then piece else linkWord style piece

/-! ### Attributes -/

/-- The character may not stand in the name of an attribute. -/
def isForbiddenInName (c : Char) : Bool :=
  [' ', '\t', '\n', '\r', Char.ofNat 11, Char.ofNat 12, '/', '>', '='].contains c

/-- The attributes of an element, from the entries of a mapping that have a value. -/
def attributes (entries : List (Datum × Datum)) : Rendering (List Char) := do
  let mut items : List (List Char) := []
  for (k, v) in entries do
    match v with
    | .null => pure ()
    | .undefined _ => pure ()
    | .absent _ => pure ()
    | _ =>
      let name ← k.plain
      if name.toList.any isForbiddenInName then
        badValue ("Invalid character in attribute name: " ++ String.ofList (k.quoted (← get)))
      items := items ++ [(← k.escaped).toList ++ "=\"".toList ++ (← v.escaped).toList ++ ['"']]
  pure (Text.join [' '] items)

end StaticSite.Template
