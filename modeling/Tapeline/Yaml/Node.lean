import Tapeline.Yaml.Token

/-!
# Nodes

The tokens of a document form a tree of scalars, sequences and mappings.  A node may have a tag and
an anchor; an alias stands for the node of its anchor, which must come before it and be complete.
A text holds at most one document.
-/

namespace Tapeline

namespace Yaml

/-- A node with its tag, if it has one. -/
inductive Node where
  | scalar (tag : Option Text) (isPlain : Bool) (text : Text)
  | sequence (tag : Option Text) (items : List Node)
  | mapping (tag : Option Text) (entries : List (Node × Node))

/-- The node of a value that is not written. -/
def Node.empty : Node :=
  .scalar none true []

/-- What is left to read: tokens, the nodes of the anchors so far, and the handles of tags. -/
structure Source where
  tokens : List Token
  anchors : List (Text × Node)
  handles : List (Text × Text)

namespace Source

/-- The next token. -/
def peek (s : Source) : Option Token :=
  s.tokens.head?

/-- The source behind the next token. -/
def skip (s : Source) : Source :=
  { s with tokens := s.tokens.drop 1 }

/-- Is the next token one of the given ones? -/
def at_ (s : Source) (tokens : List Token) : Bool :=
  (s.peek.map tokens.contains).getD false

end Source

/-- The full tag for a handle and a suffix. -/
def fullTag? (handles : List (Text × Text)) : Option Text → Text → Option Text
  | none, suffix => some suffix
  | some handle, suffix => do
    let entry ← handles.find? (·.1 = handle)
    return entry.2 ++ suffix

/-- The tag and anchor in front of a node, in either order. -/
structure Properties where
  tag : Option Text := none
  anchor : Option Text := none

/-- The tag and anchor at the start of a source. -/
def readProperties? (s : Source) : Option (Properties × Source) :=
  match s.tokens with
  | .anchor name :: .tag handle suffix :: rest => do
    let tag ← fullTag? s.handles handle suffix
    return (⟨some tag, some name⟩, { s with tokens := rest })
  | .tag handle suffix :: .anchor name :: rest => do
    let tag ← fullTag? s.handles handle suffix
    return (⟨some tag, some name⟩, { s with tokens := rest })
  | .anchor name :: rest => some (⟨none, some name⟩, { s with tokens := rest })
  | .tag handle suffix :: rest => do
    let tag ← fullTag? s.handles handle suffix
    return (⟨some tag, none⟩, { s with tokens := rest })
  | _ => some ({}, s)

/-- The single exclamation mark, which stands for no tag and makes a scalar plain. -/
def bareTag : Text := ['!']

/-- The tag of a collection. -/
def collectionTag (tag : Option Text) : Option Text :=
  if tag = some bareTag then none else tag

/-- Where a node stands. -/
inductive Context where
  /-- In a block. -/
  | block
  /-- In a block mapping, where a sequence needs no indent. -/
  | mapping
  /-- Between flow brackets. -/
  | flow
deriving DecidableEq, Repr

mutual

/-- A node, at most `depth` steps deep. -/
def readNode? (depth : Nat) (context : Context) (s : Source) : Option (Node × Source) :=
  match depth with
  | 0 => none
  | depth + 1 =>
    match s.peek with
    | some (.alias name) => do
      let entry ← s.anchors.find? (·.1 = name)
      return (entry.2, s.skip)
    | _ => do
      let (properties, s) ← readProperties? s
      if (properties.anchor.map fun name => s.anchors.any (·.1 = name)).getD false then none
      let (node, s) ← readContent? depth context properties s
      match properties.anchor with
      | none => return (node, s)
      | some name => return (node, { s with anchors := (name, node) :: s.anchors })

/-- A node behind its tag and anchor. -/
def readContent? (depth : Nat) (context : Context) (p : Properties) (s : Source) :
    Option (Node × Source) :=
  match depth with
  | 0 => none
  | depth + 1 =>
    let sequence := fun (items, s) => (Node.sequence (collectionTag p.tag) items, s)
    let mapping := fun (entries, s) => (Node.mapping (collectionTag p.tag) entries, s)
    match s.peek with
    | some .entry =>
      if context = .mapping then (readIndentless? depth s).map sequence
      else if p.tag.isSome || p.anchor.isSome then some (.scalar p.tag true [], s)
      else none
    | some (.scalar isPlain text) =>
      let node :=
        if p.tag = some bareTag then .scalar none true text
        else .scalar p.tag (isPlain && p.tag.isNone) text
      some (node, s.skip)
    | some .flowSequenceStart => (readFlowSequence? depth true s.skip).map sequence
    | some .flowMappingStart => (readFlowMapping? depth true s.skip).map mapping
    | some .sequenceStart =>
      if context = .flow then none else (readBlockSequence? depth s.skip).map sequence
    | some .mappingStart =>
      if context = .flow then none else (readBlockMapping? depth s.skip).map mapping
    | _ =>
      if p.tag.isSome || p.anchor.isSome then
        some (.scalar (collectionTag p.tag) (p.tag.isNone || p.tag = some bareTag) [], s)
      else none

/-- A node, or the empty one before a token that ends it. -/
def readOptional? (depth : Nat) (context : Context) (ends : List Token) (s : Source) :
    Option (Node × Source) :=
  match depth with
  | 0 => none
  | depth + 1 => if s.at_ ends then some (.empty, s) else readNode? depth context s

/-- The items of a block sequence. -/
def readBlockSequence? (depth : Nat) (s : Source) : Option (List Node × Source) :=
  match depth with
  | 0 => none
  | depth + 1 =>
    match s.peek with
    | some .entry => do
      let (item, s) ← readOptional? depth .block [.entry, .blockEnd] s.skip
      let (items, s) ← readBlockSequence? depth s
      return (item :: items, s)
    | some .blockEnd => some ([], s.skip)
    | _ => none

/-- The items of a sequence that has the indent of the mapping around it. -/
def readIndentless? (depth : Nat) (s : Source) : Option (List Node × Source) :=
  match depth with
  | 0 => none
  | depth + 1 =>
    match s.peek with
    | some .entry => do
      let (item, s) ← readOptional? depth .block [.entry, .key, .value, .blockEnd] s.skip
      let (items, s) ← readIndentless? depth s
      return (item :: items, s)
    | _ => some ([], s)

/-- The entries of a block mapping. -/
def readBlockMapping? (depth : Nat) (s : Source) : Option (List (Node × Node) × Source) :=
  match depth with
  | 0 => none
  | depth + 1 =>
    match s.peek with
    | some .key => do
      let ends := [.key, .value, .blockEnd]
      let (key, s) ← readOptional? depth .mapping ends s.skip
      let (value, s) ←
        if s.peek = some .value then readOptional? depth .mapping ends s.skip
        else some (.empty, s)
      let (entries, s) ← readBlockMapping? depth s
      return ((key, value) :: entries, s)
    | some .blockEnd => some ([], s.skip)
    | _ => none

/-- The items of a flow sequence.  An item that is an entry of a mapping is one of its own. -/
def readFlowSequence? (depth : Nat) (first : Bool) (s : Source) : Option (List Node × Source) :=
  match depth with
  | 0 => none
  | depth + 1 =>
    if s.peek = some .flowSequenceEnd then some ([], s.skip)
    else if !first && s.peek != some .flowEntry then none
    else
      let s := if first then s else s.skip
      match s.peek with
      | some .flowSequenceEnd => some ([], s.skip)
      | some .key => do
        let ends := [.value, .flowEntry, .flowSequenceEnd]
        let (key, s) ← readOptional? depth .flow ends s.skip
        let (value, s) ←
          if s.peek = some .value then
            readOptional? depth .flow [.flowEntry, .flowSequenceEnd] s.skip
          else some (.empty, s)
        let (items, s) ← readFlowSequence? depth false s
        return (.mapping none [(key, value)] :: items, s)
      | _ => do
        let (item, s) ← readNode? depth .flow s
        let (items, s) ← readFlowSequence? depth false s
        return (item :: items, s)

/-- The entries of a flow mapping.  A key without a colon has an empty value. -/
def readFlowMapping? (depth : Nat) (first : Bool) (s : Source) :
    Option (List (Node × Node) × Source) :=
  match depth with
  | 0 => none
  | depth + 1 =>
    if s.peek = some .flowMappingEnd then some ([], s.skip)
    else if !first && s.peek != some .flowEntry then none
    else
      let s := if first then s else s.skip
      match s.peek with
      | some .flowMappingEnd => some ([], s.skip)
      | some .key => do
        let ends := [.value, .flowEntry, .flowMappingEnd]
        let (key, s) ← readOptional? depth .flow ends s.skip
        let (value, s) ←
          if s.peek = some .value then
            readOptional? depth .flow [.flowEntry, .flowMappingEnd] s.skip
          else some (.empty, s)
        let (entries, s) ← readFlowMapping? depth false s
        return ((key, value) :: entries, s)
      | _ => do
        let (key, s) ← readNode? depth .flow s
        let (entries, s) ← readFlowMapping? depth false s
        return ((key, .empty) :: entries, s)

end

/-- The handles of tags that every document has. -/
def defaultHandles : List (Text × Text) :=
  [(['!'], ['!']), (['!', '!'], "tag:yaml.org,2002:".toList)]

/-- The directives at the start of tokens: whether a version was given, the handles of tags, and
the tokens behind them. -/
def readDirectives? (version : Bool) (handles : List (Text × Text)) :
    List Token → Option (List (Text × Text) × List Token)
  | .version major :: rest =>
    if version || major != 1 then none else readDirectives? true handles rest
  | .tagHandle handle lead :: rest =>
    if handles.any (·.1 = handle) then none
    else readDirectives? version ((handle, lead) :: handles) rest
  | .otherDirective :: rest => readDirectives? version handles rest
  | rest => some (handles, rest)

/-- Is a token a directive? -/
def Token.isDirective : Token → Bool
  | version _ => true
  | tagHandle _ _ => true
  | otherDirective => true
  | _ => false

/-- The steps that a document of a number of tokens takes at most. -/
def depthOf (tokens : List Token) : Nat :=
  4 * tokens.length + 8

/-- The node of a document without a mark for its start. -/
def readBareDocument? (tokens : List Token) : Option (Node × List Token) := do
  let (node, s) ← readNode? (depthOf tokens) .block ⟨tokens, [], defaultHandles⟩
  return (node, s.tokens)

/-- The node of a document behind its directives. -/
def readMarkedDocument? (tokens : List Token) : Option (Node × List Token) := do
  let (handles, rest) ← readDirectives? false [] tokens
  match rest with
  | .documentStart :: rest =>
    match rest with
    | [] => return (.empty, [])
    | token :: _ =>
      if token = .documentStart || token = .documentEnd || token.isDirective then
        return (.empty, rest)
      else
        let missing := defaultHandles.filter fun h => !handles.any (·.1 = h.1)
        let (node, s) ← readNode? (depthOf rest) .block ⟨rest, [], handles ++ missing⟩
        return (node, s.tokens)
  | _ => none

/-- The node of the only document in tokens, if there is one. -/
def readDocument? (tokens : List Token) : Option (Option Node) :=
  match tokens with
  | [] => some none
  | token :: _ => do
    let (node, rest) ←
      if token = .documentStart || token.isDirective then readMarkedDocument? tokens
      else readBareDocument? tokens
    if rest.all (· = .documentEnd) then return some node else none

/-- The node of the only document in a text, if there is one. -/
def compose? (t : Text) : Option (Option Node) := do
  readDocument? (← tokens? t)

end Yaml

end Tapeline
