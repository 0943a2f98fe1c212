import StaticSite.Yaml.Node

/-!
# The values of settings texts

The value of a document: scalars by their tags, sequences as lists, mappings with the entries of
merged mappings first. A node whose tag has no meaning, or whose tag does not fit its kind, has no
value.

## Main definitions

* `Node.value`: the value of a node.
* `load`: the value of a settings text.
-/

namespace StaticSite.Yaml

namespace Node

/-- A node without a value. -/
def noValue (context : Option String) (start : Option Mark) (text : String) (m : Mark) :
    Except Fault α :=
  .error (.at .values context start text m)

/-- The value may be a key. -/
def isKey : Value → Bool
  | .list _ => false
  | .dict _ => false
  | .set _ => false
  | _ => true

/-- The entries of a node that may be merged into a mapping, or the reason why it may not. Merging
goes as deep as `fuel`. -/
def mergedEntries (start : Mark) :
    Nat → List (Node × Node) → Except Fault (List (Node × Node))
  | 0, _ => .error .tooDeep
  | fuel + 1, entries => do
    let mut merged := []
    let mut own := []
    for (key, value) in entries do
      if key.tag == Tag.standard "merge" then
        match value with
        | mapping _ inner m => merged := merged ++ (← mergedEntries m fuel inner)
        | sequence _ items _ =>
          let mut parts := []
          for item in items do
            match item with
            | mapping _ inner m => parts := (← mergedEntries m fuel inner) :: parts
            | other =>
              noValue (some "while constructing a mapping") (some start)
                ("expected a mapping for merging, but found " ++ other.kindName) other.mark
          merged := merged ++ parts.flatten
        | other =>
          noValue (some "while constructing a mapping") (some start)
            ("expected a mapping or list of mappings for merging, but found " ++ other.kindName)
            other.mark
      else if key.tag == Tag.standard "value" then
        own := own ++ [(scalar Tag.text "=" key.mark, value)]
      else own := own ++ [(key, value)]
    pure (merged ++ own)

/-- The text of a node that has to be a scalar; a mapping may hold it under the key `=`. -/
def scalarText (fuel : Nat) (node : Node) : Except Fault String :=
  match fuel, node with
  | _, scalar _ text _ => .ok text
  | fuel + 1, mapping _ entries m =>
    match entries.find? fun (key, _) => key.tag == Tag.standard "value" with
    | some (_, value) => scalarText fuel value
    | none => noValue none none "expected a scalar node, but found mapping" m
  | _, other => noValue none none ("expected a scalar node, but found " ++ other.kindName) other.mark

/-- The single entry of an item of an ordered map. -/
def singleEntry (what : String) (start : Mark) : Node → Except Fault (Node × Node)
  | mapping _ [entry] _ => .ok entry
  | mapping _ entries m =>
    noValue (some ("while constructing " ++ what)) (some start)
      ("expected a single mapping item, but found " ++ toString entries.length ++ " items") m
  | other =>
    noValue (some ("while constructing " ++ what)) (some start)
      ("expected a mapping of length 1, but found " ++ other.kindName) other.mark

/-- The value of a node, as deep as `fuel`. -/
def valueWithin : Nat → Node → Except Fault Value
  | 0, _ => .error .tooDeep
  | fuel + 1, node => do
    let tag := node.tag
    let entriesOf (node : Node) : Except Fault (List (Value × Value)) := do
      match node with
      | mapping _ entries m =>
        let mut all : List (Value × Value) := []
        for (keyNode, valueNode) in ← mergedEntries m fuel entries do
          let key ← valueWithin fuel keyNode
          if !isKey key then
            noValue (some "while constructing a mapping") (some m) "found unhashable key"
              keyNode.mark
          all := Value.store key (← valueWithin fuel valueNode) all
        pure all
      | other =>
        noValue none none ("expected a mapping node, but found " ++ other.kindName) other.mark
    let pairsOf (what : String) : Except Fault Value := do
      match node with
      | sequence _ items m =>
        let mut all := []
        for item in items do
          let (keyNode, valueNode) ← singleEntry what m item
          all := all ++ [Value.tuple [← valueWithin fuel keyNode, ← valueWithin fuel valueNode]]
        pure (Value.list all)
      | other =>
        noValue (some ("while constructing " ++ what)) (some other.mark)
          ("expected a sequence, but found " ++ other.kindName) other.mark
    if tag == Tag.sequence then
      match node with
      | sequence _ items _ =>
        let mut all := []
        for item in items do
          all := all ++ [← valueWithin fuel item]
        pure (.list all)
      | other =>
        noValue none none ("expected a sequence node, but found " ++ other.kindName) other.mark
    else if tag == Tag.mapping then return .dict (← entriesOf node)
    else if tag == Tag.standard "set" then
      return .set ((← entriesOf node).map fun (key, _) => key)
    else if tag == Tag.standard "omap" then pairsOf "an ordered map"
    else if tag == Tag.standard "pairs" then pairsOf "pairs"
    else
      match scalarValue? tag "" node.mark with
      | none =>
        noValue none none
          ("could not determine a constructor for the tag " ++ Text.quote tag) node.mark
      | some _ =>
        let text ← scalarText fuel node
        match scalarValue? tag text node.mark with
        | some result => result
        | none => noValue none none "" node.mark

/-- The value of a node with a depth that no document of `size` characters exceeds. -/
def value (size : Nat) (node : Node) : Except Fault Value := valueWithin (4 * (size + 4)) node

end Node

/-- The value of a settings text called `name`; an empty text is nothing. -/
def load (name : String) (text : List Char) : Except Failure Value :=
  let result : Except Fault Value := do
    match ← Node.ofText? text with
    | none => pure .null
    | some node => node.value text.length
  match result with
  | .ok v => .ok v
  | .error fault => .error (fault.failure name)

end StaticSite.Yaml
