import StaticSite.Yaml.Scalar
import StaticSite.Yaml.Token

/-!
# Nodes of settings texts

The tree of a document: scalars, sequences and mappings with their tags. The grammar of the tokens is
followed by recursive descent; an anchored node is remembered for its aliases. A settings text holds
one document at most.

## Main definitions

* `Node`: a node with its tag and place.
* `Node.ofText?`: the document of a text.
-/

namespace StaticSite.Yaml

/-- A node of a document. -/
inductive Node
  | scalar (tag : String) (text : String) (mark : Mark)
  | sequence (tag : String) (items : List Node) (mark : Mark)
  | mapping (tag : String) (entries : List (Node × Node)) (mark : Mark)
  deriving Inhabited

namespace Node

/-- The tag of a node. -/
def tag : Node → String
  | scalar t _ _ => t
  | sequence t _ _ => t
  | mapping t _ _ => t

/-- The place where a node begins. -/
def mark : Node → Mark
  | scalar _ _ m => m
  | sequence _ _ m => m
  | mapping _ _ m => m

/-- The name of a node's kind in messages. -/
def kindName : Node → String
  | scalar _ _ _ => "scalar"
  | sequence _ _ _ => "sequence"
  | mapping _ _ _ => "mapping"

/-! ### Composing -/

/-- What is known while a document is composed. -/
structure Composer where
  /-- The tokens. -/
  stream : Stream
  /-- The beginnings of tags by handle. -/
  handles : List (String × String) := []
  /-- The anchored nodes with their places; a node that is not finished has no value yet. -/
  anchors : List (String × Mark × Option Node) := []

/-- Computations that compose nodes. -/
abbrev Composing := StateT Composer (Except Fault)

/-- Run a computation on the tokens. -/
def streaming (r : Streaming α) : Composing α := do
  let s ← get
  match r.run s.stream with
  | .ok (a, stream) =>
    set { s with stream := stream }
    pure a
  | .error f => throw f

/-- The next token. -/
def look : Composing Token := streaming Stream.peek

/-- Take the next token. -/
def take : Composing Token := streaming Stream.next

/-- A structure that does not nest. -/
def misfit (context : Option String) (start : Option Mark) (text : String) (m : Mark) :
    Composing α :=
  throw (.at .nesting context start text m)

/-- The tag of an empty or plain text. -/
def emptyAt (m : Mark) : Node := scalar (implicitTag "") "" m

/-- The tag of a scalar from its written tag and style. -/
def scalarTag (tag : Option String) (style : Style) (text : String) : String :=
  match tag with
  | none => if style == .plain then implicitTag text else Tag.text
  | some "!" => implicitTag text
  | some t => t

/-- The tag of a collection from its written tag. -/
def collectionTag (tag : Option String) (default : String) : String :=
  match tag with
  | none => default
  | some "!" => default
  | some t => t

/-- Give an anchor its node. -/
def fasten (anchor : Option String) (m : Mark) (node : Option Node) : Composing Unit :=
  match anchor with
  | none => pure ()
  | some name =>
    modify fun s =>
      { s with anchors := (name, m, node) :: s.anchors.filter fun (other, _) => other != name }

/-- An anchor stands for one node only. -/
def refuseDuplicate (anchor : Option String) (m : Mark) : Composing Unit := do
  match anchor with
  | none => pure ()
  | some name =>
    match (← get).anchors.lookup name with
    | none => pure ()
    | some (first, _) =>
      throw (.at .nodes
        (some ("found duplicate anchor " ++ Text.quote name ++ "; first occurrence"))
        (some first) "second occurrence" m)

/-- The anchor and the tag before a node, in either order, with the place where they begin and the
place of the tag. -/
def properties : Composing (Option String × Option TagText × Option Mark × Option Mark) := do
  let first ← look
  match first.kind with
  | .anchor name =>
    let _ ← take
    let second ← look
    match second.kind with
    | .tag text =>
      let _ ← take
      pure (some name, some text, some first.start, some second.start)
    | _ => pure (some name, none, some first.start, none)
  | .tag text =>
    let _ ← take
    let second ← look
    match second.kind with
    | .anchor name =>
      let _ ← take
      pure (some name, some text, some first.start, some first.start)
    | _ => pure (none, some text, some first.start, some first.start)
  | _ => pure (none, none, none, none)

/-- The full tag of a written one. -/
def resolveTag (text : TagText) (start place : Mark) : Composing String := do
  match text.handle with
  | none => pure text.suffix
  | some handle =>
    match (← get).handles.lookup handle with
    | some beginning => pure (beginning ++ text.suffix)
    | none =>
      misfit (some "while parsing a node") (some start)
        ("found undefined tag handle " ++ Text.quote handle) place

/-- The position of a node decides which collections it may be. -/
inductive Position
  /-- Inside a flow collection. -/
  | flow
  /-- Inside a block collection or at the top. -/
  | block
  /-- The key or value of a block mapping, where a sequence need not be indented. -/
  | entry
  deriving DecidableEq

mutual

/-- Compose the node at the next token. -/
def compose (fuel : Nat) (position : Position) : Composing Node := do
  match fuel with
  | 0 => throw .tooDeep
  | fuel + 1 =>
    let first ← look
    match first.kind with
    | .aliasName name =>
      let _ ← take
      match (← get).anchors.lookup name with
      | some (_, some node) => pure node
      | some (m, none) => pure (emptyAt m)
      | none =>
        throw (.at .nodes none none ("found undefined alias " ++ Text.quote name) first.start)
    | _ =>
      let (anchor, written, start, place) ← properties
      let token ← look
      let start := start.getD token.start
      let tag ← match written with
        | none => pure none
        | some text => some <$> resolveTag text start (place.getD start)
      let inBlock := position != .flow
      match token.kind with
      | .blockEntry =>
        if position == .entry then
          refuseDuplicate anchor start
          fasten anchor start none
          let items ← indentlessItems fuel
          let node := sequence (collectionTag tag Tag.sequence) items start
          fasten anchor start (some node)
          pure node
        else content fuel anchor tag start inBlock token
      | _ => content fuel anchor tag start inBlock token

/-- Compose the content of a node after its properties. -/
def content (fuel : Nat) (anchor tag : Option String) (start : Mark) (inBlock : Bool)
    (token : Token) : Composing Node := do
  match fuel with
  | 0 => throw .tooDeep
  | fuel + 1 =>
    match token.kind with
    | .scalar text style =>
      let _ ← take
      refuseDuplicate anchor start
      let node := scalar (scalarTag tag style text) text start
      fasten anchor start (some node)
      pure node
    | .flowSequenceStart =>
      refuseDuplicate anchor start
      fasten anchor start none
      let _ ← take
      let items ← flowItems fuel token.start true
      let node := sequence (collectionTag tag Tag.sequence) items start
      fasten anchor start (some node)
      pure node
    | .flowMappingStart =>
      refuseDuplicate anchor start
      fasten anchor start none
      let _ ← take
      let entries ← flowEntries fuel token.start true
      let node := mapping (collectionTag tag Tag.mapping) entries start
      fasten anchor start (some node)
      pure node
    | kind =>
      if inBlock && kind == .blockSequenceStart then
        refuseDuplicate anchor start
        fasten anchor start none
        let _ ← take
        let items ← blockItems fuel token.start
        let node := sequence (collectionTag tag Tag.sequence) items start
        fasten anchor start (some node)
        pure node
      else if inBlock && kind == .blockMappingStart then
        refuseDuplicate anchor start
        fasten anchor start none
        let _ ← take
        let entries ← blockEntries fuel token.start
        let node := mapping (collectionTag tag Tag.mapping) entries start
        fasten anchor start (some node)
        pure node
      else if anchor.isSome || tag.isSome then
        refuseDuplicate anchor start
        let node := scalar (match tag with
          | none => implicitTag ""
          | some "!" => implicitTag ""
          | some t => t) "" start
        fasten anchor start (some node)
        pure node
      else
        misfit (some ("while parsing a " ++ (if inBlock then "block" else "flow") ++ " node"))
          (some start) ("expected the node content, but found " ++ Text.quote kind.name)
          token.start

/-- The items of a block sequence. -/
def blockItems (fuel : Nat) (start : Mark) : Composing (List Node) := do
  match fuel with
  | 0 => throw .tooDeep
  | fuel + 1 =>
    let token ← look
    match token.kind with
    | .blockEntry =>
      let _ ← take
      let next ← look
      let item ←
        if next.kind == .blockEntry || next.kind == .blockEnd then pure (emptyAt token.stop)
        else compose fuel .block
      return item :: (← blockItems fuel start)
    | .blockEnd =>
      let _ ← take
      pure []
    | kind =>
      misfit (some "while parsing a block collection") (some start)
        ("expected <block end>, but found " ++ Text.quote kind.name) token.start

/-- The items of a sequence that is not indented. -/
def indentlessItems (fuel : Nat) : Composing (List Node) := do
  match fuel with
  | 0 => throw .tooDeep
  | fuel + 1 =>
    let token ← look
    match token.kind with
    | .blockEntry =>
      let _ ← take
      let next ← look
      let item ←
        if next.kind == .blockEntry || next.kind == .key || next.kind == .value ||
            next.kind == .blockEnd then pure (emptyAt token.stop)
        else compose fuel .block
      return item :: (← indentlessItems fuel)
    | _ => pure []

/-- The entries of a block mapping. -/
def blockEntries (fuel : Nat) (start : Mark) : Composing (List (Node × Node)) := do
  match fuel with
  | 0 => throw .tooDeep
  | fuel + 1 =>
    let token ← look
    let ends (kind : Kind) : Bool := kind == .key || kind == .value || kind == .blockEnd
    match token.kind with
    | .key =>
      let _ ← take
      let key ←
        if ends (← look).kind then pure (emptyAt token.stop) else compose fuel .entry
      let colon ← look
      let value ←
        if colon.kind == .value then do
          let _ ← take
          if ends (← look).kind then pure (emptyAt colon.stop) else compose fuel .entry
        else pure (emptyAt colon.start)
      return (key, value) :: (← blockEntries fuel start)
    | .blockEnd =>
      let _ ← take
      pure []
    | kind =>
      misfit (some "while parsing a block mapping") (some start)
        ("expected <block end>, but found " ++ Text.quote kind.name) token.start

/-- The items of a flow sequence; a key inside it makes an item that is a mapping of one entry. -/
def flowItems (fuel : Nat) (start : Mark) (isFirst : Bool) : Composing (List Node) := do
  match fuel with
  | 0 => throw .tooDeep
  | fuel + 1 =>
    if (← look).kind == .flowSequenceEnd then
      let _ ← take
      pure []
    else
      if !isFirst then
        let token ← look
        if token.kind == .flowEntry then
          let _ ← take
        else
          misfit (some "while parsing a flow sequence") (some start)
            ("expected ',' or ']', but got " ++ Text.quote token.kind.name) token.start
      let token ← look
      match token.kind with
      | .key =>
        let _ ← take
        let ends (kind : Kind) : Bool := kind == .flowEntry || kind == .flowSequenceEnd
        let next ← look
        let key ←
          if next.kind == .value || ends next.kind then pure (emptyAt token.stop)
          else compose fuel .flow
        let colon ← look
        let value ←
          if colon.kind == .value then do
            let _ ← take
            if ends (← look).kind then pure (emptyAt colon.stop) else compose fuel .flow
          else pure (emptyAt colon.start)
        return mapping Tag.mapping [(key, value)] token.start :: (← flowItems fuel start false)
      | .flowSequenceEnd =>
        let _ ← take
        pure []
      | _ =>
        let item ← compose fuel .flow
        return item :: (← flowItems fuel start false)

/-- The entries of a flow mapping. -/
def flowEntries (fuel : Nat) (start : Mark) (isFirst : Bool) :
    Composing (List (Node × Node)) := do
  match fuel with
  | 0 => throw .tooDeep
  | fuel + 1 =>
    if (← look).kind == .flowMappingEnd then
      let _ ← take
      pure []
    else
      if !isFirst then
        let token ← look
        if token.kind == .flowEntry then
          let _ ← take
        else
          misfit (some "while parsing a flow mapping") (some start)
            ("expected ',' or '\x7d', but got " ++ Text.quote token.kind.name) token.start
      let token ← look
      let ends (kind : Kind) : Bool := kind == .flowEntry || kind == .flowMappingEnd
      match token.kind with
      | .key =>
        let _ ← take
        let next ← look
        let key ←
          if next.kind == .value || ends next.kind then pure (emptyAt token.stop)
          else compose fuel .flow
        let colon ← look
        let value ←
          if colon.kind == .value then do
            let _ ← take
            if ends (← look).kind then pure (emptyAt colon.stop) else compose fuel .flow
          else pure (emptyAt colon.start)
        return (key, value) :: (← flowEntries fuel start false)
      | .flowMappingEnd =>
        let _ ← take
        pure []
      | _ =>
        let key ← compose fuel .flow
        let value := emptyAt (← look).start
        return (key, value) :: (← flowEntries fuel start false)

end

/-! ### Documents -/

/-- The handles that every document knows. -/
def defaultHandles : List (String × String) := [("!", "!"), ("!!", "tag:yaml.org,2002:")]

/-- Read the directives before a document. -/
def directives (version : Bool) : Nat → Composing Unit
  | 0 => throw .tooDeep
  | fuel + 1 => do
    let token ← look
    match token.kind with
    | .directive (.version major _) =>
      let _ ← take
      if version then misfit none none "found duplicate YAML directive" token.start
      if major != 1 then
        misfit none none "found incompatible YAML document (version 1.* is required)" token.start
      directives true fuel
    | .directive (.tag handle beginning) =>
      let _ ← take
      if ((← get).handles.lookup handle).isSome then
        misfit none none ("duplicate tag handle " ++ Text.quote handle) token.start
      modify fun s => { s with handles := s.handles ++ [(handle, beginning)] }
      directives version fuel
    | .directive .other =>
      let _ ← take
      directives version fuel
    | _ => pure ()

/-- Pass over the ends of documents. -/
def skipEnds : Nat → Composing Unit
  | 0 => throw .tooDeep
  | fuel + 1 => do
    if (← look).kind == .documentEnd then
      let _ ← take
      skipEnds fuel

/-- The beginning of a document: whether one begins here, whether it is marked, and where. -/
def beginDocument (fuel : Nat) (isFirst : Bool) : Composing (Option (Bool × Mark)) := do
  let token ← look
  let explicit := match token.kind with
    | .directive _ => true
    | .documentStart => true
    | .streamEnd => true
    | _ => false
  if isFirst && !explicit then
    modify fun s => { s with handles := defaultHandles }
    pure (some (false, token.start))
  else
    skipEnds fuel
    let first ← look
    if first.kind == .streamEnd then pure none
    else
      modify fun s => { s with handles := [] }
      directives false fuel
      modify fun s =>
        { s with handles := s.handles ++
            defaultHandles.filter fun (h, _) => (s.handles.lookup h).isNone }
      let token ← look
      if token.kind != .documentStart then
        misfit none none
          ("expected '<document start>', but found " ++ Text.quote token.kind.name) token.start
      let _ ← take
      pure (some (true, first.start))

/-- The document of the tokens, if there is one. -/
def document (fuel : Nat) : Composing (Option Node) := do
  match ← beginDocument fuel true with
  | none => pure none
  | some (explicit, _) =>
    let token ← look
    let isEmpty := explicit && (match token.kind with
      | .directive _ => true
      | .documentStart => true
      | .documentEnd => true
      | .streamEnd => true
      | _ => false)
    let node ← if isEmpty then pure (emptyAt token.start) else compose fuel .block
    if (← look).kind == .documentEnd then
      let _ ← take
    match ← beginDocument fuel false with
    | none => pure (some node)
    | some (_, second) =>
      throw (.at .nodes (some "expected a single document in the stream") (some node.mark)
        "but found another document" second)

/-- The document of a text, if there is one. -/
def ofText? (text : List Char) : Except Fault (Option Node) :=
  match firstInadmissible? 0 text with
  | some (c, index) => .error (.character c index)
  | none =>
    (document (8 * (text.length + 8))).run' { stream := Stream.ofText text }

end Node

end StaticSite.Yaml
