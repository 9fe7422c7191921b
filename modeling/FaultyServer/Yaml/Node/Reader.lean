import FaultyServer.Yaml.Node
import FaultyServer.Yaml.Token.Lexer

/-!
# Building documents

The tokens of a text become the nodes of its document. Where a node may be left out, an empty plain
scalar takes its place; the position it gets is that of the indicator before it in a block
collection, and of the token after it in a flow collection.
-/

namespace FaultyServer.Yaml

/-- The anchors of a document while it is read. -/
structure Anchors where
  /-- The number that each name stands for at present. -/
  names : List (List Char × Nat)
  /-- The anchored nodes that are complete. -/
  complete : List Anchored
  /-- How many anchored nodes have begun. -/
  begun : Nat

namespace Anchors

/-- No anchors. -/
def empty : Anchors := ⟨[], [], 0⟩

/-- Gives the next number, which counts the names known so far, to a name. -/
def define (a : Anchors) (name : List Char) : Anchors :=
  let others := a.names.filter (·.1 != name)
  { a with names := (name, a.names.length) :: others, begun := a.begun + 1 }

/-- The number of a name. -/
def find? (a : Anchors) (name : List Char) : Option Nat := a.names.lookup name

/-- Adds a complete node. -/
def add (a : Anchors) (id order : Nat) (node : Node) : Anchors :=
  { a with complete := a.complete ++ [⟨id, order, node⟩] }

end Anchors

/-- The starts of tags that handles stand for. -/
abbrev Handles := List (List Char × TagBytes)

/-- The handles that need no declaration. -/
def defaultHandles : Handles :=
  [(['!'], asciiBytes ['!']), (['!', '!'], asciiBytes "tag:yaml.org,2002:".toList)]

/-- The reader of nodes: the tokens that are left, and the anchors so far. -/
structure NodeReader where
  tokens : List Located
  anchors : Anchors

namespace NodeReader

/-- Moves to these tokens. -/
def moveTo (r : NodeReader) (tokens : List Located) : NodeReader := { r with tokens := tokens }

/-- The properties of a node: its anchor, its tag, and where they begin. -/
structure Properties where
  anchor : Option (List Char)
  tag : Option (List Char × TagBytes)
  mark : Option Mark

/-- Reads an anchor and a tag, in either order. -/
def properties : List Located → Properties × List Located
  | ⟨.anchor a, m, _⟩ :: ⟨.tag h s, _, _⟩ :: r => (⟨some a, some (h, s), some m⟩, r)
  | ⟨.tag h s, m, _⟩ :: ⟨.anchor a, _, _⟩ :: r => (⟨some a, some (h, s), some m⟩, r)
  | ⟨.anchor a, m, _⟩ :: r => (⟨some a, none, some m⟩, r)
  | ⟨.tag h s, m, _⟩ :: r => (⟨none, some (h, s), some m⟩, r)
  | r => (⟨none, none, none⟩, r)

/-- The tag that a handle and a suffix spell. -/
def spellTag (handles : Handles) : Option (List Char × TagBytes) →
    Except SyntaxFault (Option TagBytes)
  | none => .ok none
  | some ([], suffix) => .ok (some suffix)
  | some (handle, suffix) =>
    match handles.lookup handle with
    | some start => .ok (some (start ++ suffix))
    | none => .error .badTag

/-- The tag of a scalar: a lone exclamation mark is none. -/
def scalarTag (tag : Option TagBytes) : Option TagBytes :=
  if tag = some (asciiBytes ['!']) then none else tag

/-- Whether the next token is one of these. -/
def nextIs (tokens : List Located) (is : Token → Bool) : Bool :=
  tokens.head?.any fun t => is t.token

/-- The position before the tokens. -/
def markOf (tokens : List Located) : Mark :=
  match tokens with
  | t :: _ => t.start
  | [] => .start

/-- The tokens after which an item of a block sequence is missing. -/
def endsItem : Token → Bool
  | .blockEntry | .blockEnd => true
  | _ => false

/-- The tokens after which an item of a sequence without indentation of its own is missing. -/
def endsIndentlessItem : Token → Bool
  | .blockEntry | .key | .value | .blockEnd => true
  | _ => false

/-- The tokens after which a key or value of a block mapping is missing. -/
def endsBlockPart : Token → Bool
  | .key | .value | .blockEnd => true
  | _ => false

/-- The tokens after which a key of a pair in a flow sequence is missing. -/
def endsPairKey : Token → Bool
  | .value | .flowEntry | .flowSequenceEnd => true
  | _ => false

/-- The tokens after which the value of a pair in a flow sequence is missing. -/
def endsPairValue : Token → Bool
  | .flowEntry | .flowSequenceEnd => true
  | _ => false

/-- The tokens after which a key of a flow mapping is missing. -/
def endsFlowKey : Token → Bool
  | .value | .flowEntry | .flowMappingEnd => true
  | _ => false

/-- The tokens after which a value of a flow mapping is missing. -/
def endsFlowValue : Token → Bool
  | .flowEntry | .flowMappingEnd => true
  | _ => false

mutual

/-- Reads a node. Only where `inBlock` is set may it be a block collection, and only where
`mayBeIndentless` is set a sequence without indentation of its own. -/
def node (handles : Handles) (inBlock mayBeIndentless : Bool) :
    Nat → NodeReader → Except SyntaxFault (Node × NodeReader)
  | 0, _ => .error .unexpectedToken
  | fuel + 1, r =>
    match r.tokens with
    | ⟨.reference name, mark, _⟩ :: rest =>
      match r.anchors.find? name with
      | some id => .ok (.reference id mark, r.moveTo rest)
      | none => .error .unknownAlias
    | tokens => do
      let (p, rest) := properties tokens
      let tag ← spellTag handles p.tag
      let mark := p.mark.getD (markOf rest)
      match p.anchor with
      | none => content handles inBlock mayBeIndentless tag p.mark.isSome mark fuel (r.moveTo rest)
      | some name =>
        let id := r.anchors.names.length
        let order := r.anchors.begun
        let (n, r) ← content handles inBlock mayBeIndentless tag true mark fuel
          ⟨rest, r.anchors.define name⟩
        pure (n, { r with anchors := r.anchors.add id order n })

/-- Reads a node after its properties. -/
def content (handles : Handles) (inBlock mayBeIndentless : Bool) (tag : Option TagBytes)
    (hasProperties : Bool) (mark : Mark) :
    Nat → NodeReader → Except SyntaxFault (Node × NodeReader)
  | 0, _ => .error .unexpectedToken
  | fuel + 1, r =>
    match r.tokens with
    | ⟨.scalar text style, _, _⟩ :: rest =>
      .ok (.scalar (scalarTag tag) text style mark, r.moveTo rest)
    | ⟨.flowSequenceStart, _, _⟩ :: rest => do
      let (items, r) ← flowItems handles true fuel (r.moveTo rest)
      pure (.sequence tag items mark, r)
    | ⟨.flowMappingStart, _, _⟩ :: rest => do
      let (entries, r) ← flowEntries handles true fuel (r.moveTo rest)
      pure (.mapping tag entries mark, r)
    | tokens => do
      if mayBeIndentless && nextIs tokens (· == .blockEntry) then
        let (items, r) ← indentlessItems handles fuel r
        return (.sequence tag items mark, r)
      if inBlock && nextIs tokens (· == .blockSequenceStart) then
        let (items, r) ← blockItems handles fuel (r.moveTo (tokens.drop 1))
        return (.sequence tag items mark, r)
      if inBlock && nextIs tokens (· == .blockMappingStart) then
        let (entries, r) ← blockEntries handles fuel (r.moveTo (tokens.drop 1))
        return (.mapping tag entries mark, r)
      if hasProperties then return (.scalar tag [] .plain mark, r)
      .error .unexpectedToken

/-- Reads a node that is missing if the next token is one of these. -/
def optional (handles : Handles) (inBlock mayBeIndentless : Bool) (isMissing : Token → Bool)
    (mark : Mark) : Nat → NodeReader → Except SyntaxFault (Node × NodeReader)
  | 0, _ => .error .unexpectedToken
  | fuel + 1, r =>
    if nextIs r.tokens isMissing then .ok (.empty mark, r)
    else node handles inBlock mayBeIndentless fuel r

/-- Reads the items of a block sequence. -/
def blockItems (handles : Handles) :
    Nat → NodeReader → Except SyntaxFault (List Node × NodeReader)
  | 0, _ => .error .unexpectedToken
  | fuel + 1, r =>
    match r.tokens with
    | ⟨.blockEntry, _, after⟩ :: rest => do
      let (item, r) ← optional handles true false endsItem after fuel (r.moveTo rest)
      let (items, r) ← blockItems handles fuel r
      pure (item :: items, r)
    | ⟨.blockEnd, _, _⟩ :: rest => .ok ([], r.moveTo rest)
    | _ => .error .unexpectedToken

/-- Reads the items of a sequence without indentation of its own. -/
def indentlessItems (handles : Handles) :
    Nat → NodeReader → Except SyntaxFault (List Node × NodeReader)
  | 0, _ => .error .unexpectedToken
  | fuel + 1, r =>
    match r.tokens with
    | ⟨.blockEntry, _, after⟩ :: rest => do
      let (item, r) ← optional handles true false endsIndentlessItem after fuel (r.moveTo rest)
      let (items, r) ← indentlessItems handles fuel r
      pure (item :: items, r)
    | _ => .ok ([], r)

/-- Reads the entries of a block mapping. -/
def blockEntries (handles : Handles) :
    Nat → NodeReader → Except SyntaxFault (List (Node × Node) × NodeReader)
  | 0, _ => .error .unexpectedToken
  | fuel + 1, r =>
    match r.tokens with
    | ⟨.key, _, after⟩ :: rest => do
      let (key, r) ← optional handles true true endsBlockPart after fuel (r.moveTo rest)
      let (value, r) ← blockValue handles fuel r
      let (entries, r) ← blockEntries handles fuel r
      pure ((key, value) :: entries, r)
    | ⟨.blockEnd, _, _⟩ :: rest => .ok ([], r.moveTo rest)
    | _ => .error .unexpectedToken

/-- Reads the value of an entry of a block mapping. -/
def blockValue (handles : Handles) : Nat → NodeReader → Except SyntaxFault (Node × NodeReader)
  | 0, _ => .error .unexpectedToken
  | fuel + 1, r =>
    match r.tokens with
    | ⟨.value, _, after⟩ :: rest =>
      optional handles true true endsBlockPart after fuel (r.moveTo rest)
    | tokens => .ok (.empty (markOf tokens), r)

/-- Reads the items of a flow sequence. A key among them starts a mapping of one entry. -/
def flowItems (handles : Handles) (isFirst : Bool) :
    Nat → NodeReader → Except SyntaxFault (List Node × NodeReader)
  | 0, _ => .error .unexpectedToken
  | fuel + 1, r =>
    match r.tokens with
    | ⟨.flowSequenceEnd, _, _⟩ :: rest => .ok ([], r.moveTo rest)
    | tokens => do
      let rest ←
        if isFirst then pure tokens
        else if nextIs tokens (· == .flowEntry) then pure (tokens.drop 1)
        else .error .unexpectedToken
      match rest with
      | ⟨.flowSequenceEnd, _, _⟩ :: rest => pure ([], r.moveTo rest)
      | ⟨.key, mark, _⟩ :: rest =>
        let (key, r) ← pairKey handles fuel (r.moveTo rest)
        let (value, r) ← pairValue handles fuel r
        let (items, r) ← flowItems handles false fuel r
        pure (.mapping none [(key, value)] mark :: items, r)
      | rest =>
        let (item, r) ← node handles false false fuel (r.moveTo rest)
        let (items, r) ← flowItems handles false fuel r
        pure (item :: items, r)

/-- Reads the key of a pair in a flow sequence. If it is missing, the token after it is taken with
it. -/
def pairKey (handles : Handles) : Nat → NodeReader → Except SyntaxFault (Node × NodeReader)
  | 0, _ => .error .unexpectedToken
  | fuel + 1, r =>
    match r.tokens with
    | t :: rest =>
      if endsPairKey t.token then .ok (.empty t.finish, r.moveTo rest)
      else node handles false false fuel r
    | [] => .error .unexpectedToken

/-- Reads the value of a pair in a flow sequence. -/
def pairValue (handles : Handles) : Nat → NodeReader → Except SyntaxFault (Node × NodeReader)
  | 0, _ => .error .unexpectedToken
  | fuel + 1, r =>
    match r.tokens with
    | ⟨.value, _, _⟩ :: rest =>
      optional handles false false endsPairValue (markOf rest) fuel (r.moveTo rest)
    | tokens => .ok (.empty (markOf tokens), r)

/-- Reads the entries of a flow mapping. A node among them that is no key is a key without value. -/
def flowEntries (handles : Handles) (isFirst : Bool) :
    Nat → NodeReader → Except SyntaxFault (List (Node × Node) × NodeReader)
  | 0, _ => .error .unexpectedToken
  | fuel + 1, r =>
    match r.tokens with
    | ⟨.flowMappingEnd, _, _⟩ :: rest => .ok ([], r.moveTo rest)
    | tokens => do
      let rest ←
        if isFirst then pure tokens
        else if nextIs tokens (· == .flowEntry) then pure (tokens.drop 1)
        else .error .unexpectedToken
      match rest with
      | ⟨.flowMappingEnd, _, _⟩ :: rest => pure ([], r.moveTo rest)
      | ⟨.key, _, _⟩ :: rest =>
        let (key, r) ← optional handles false false endsFlowKey (markOf rest) fuel (r.moveTo rest)
        let (value, r) ← flowValue handles fuel r
        let (entries, r) ← flowEntries handles false fuel r
        pure ((key, value) :: entries, r)
      | rest =>
        let (key, r) ← node handles false false fuel (r.moveTo rest)
        let value := Node.empty (markOf r.tokens)
        let (entries, r) ← flowEntries handles false fuel r
        pure ((key, value) :: entries, r)

/-- Reads the value of an entry of a flow mapping. -/
def flowValue (handles : Handles) : Nat → NodeReader → Except SyntaxFault (Node × NodeReader)
  | 0, _ => .error .unexpectedToken
  | fuel + 1, r =>
    match r.tokens with
    | ⟨.value, _, _⟩ :: rest =>
      optional handles false false endsFlowValue (markOf rest) fuel (r.moveTo rest)
    | tokens => .ok (.empty (markOf tokens), r)

end

end NodeReader

/-- The directives before a document. -/
structure Directives where
  hasVersion : Bool
  handles : Handles

/-- Reads directives. The version may be given once and has to be 1.1 or 1.2; a handle may be
declared once. -/
def Directives.read (d : Directives) :
    List Located → Except SyntaxFault (Directives × List Located)
  | ⟨.versionDirective major minor, _, _⟩ :: rest =>
    if d.hasVersion || major != 1 || (minor != 1 && minor != 2) then .error .badDirective
    else read { d with hasVersion := true } rest
  | ⟨.tagDirective handle start, _, _⟩ :: rest =>
    if (d.handles.lookup handle).isSome then .error .badDirective
    else read { d with handles := d.handles ++ [(handle, start)] } rest
  | rest => .ok (d, rest)

namespace Document

/-- Whether a token cannot begin the content of a document. -/
def endsDocument : Token → Bool
  | .versionDirective .. | .tagDirective .. | .documentStart | .documentEnd | .streamEnd => true
  | _ => false

/-- Whether a token begins a document with a marker. -/
def startsExplicitly : Token → Bool
  | .versionDirective .. | .tagDirective .. | .documentStart => true
  | _ => false

/-- Reads the root of the first document. -/
def readRoot (tokens : List Located) : Except SyntaxFault (Node × NodeReader) := do
  let fuel := 3 * tokens.length + 3
  if NodeReader.nextIs tokens startsExplicitly then
    let (directives, rest) ← Directives.read ⟨false, []⟩ tokens
    match rest with
    | ⟨.documentStart, _, _⟩ :: rest =>
      if NodeReader.nextIs rest endsDocument then
        pure (.empty (NodeReader.markOf rest), ⟨rest, .empty⟩)
      else NodeReader.node (directives.handles ++ defaultHandles) true false fuel ⟨rest, .empty⟩
    | _ => .error .badDirective
  else NodeReader.node defaultHandles true false fuel ⟨tokens, .empty⟩

/-- The document of these tokens. Only markers of its end may follow it. -/
def ofTokens (tokens : List Located) : Except SyntaxFault Document := do
  if NodeReader.nextIs tokens (· == .streamEnd) then pure ⟨none, []⟩
  else
    let (root, r) ← readRoot tokens
    let rest := r.tokens.dropWhile (·.token == .documentEnd)
    if NodeReader.nextIs rest (· == .streamEnd) then pure ⟨some root, r.anchors.complete⟩
    else .error .severalDocuments

/-- The document of a text. -/
def ofText (text : List Char) : Except SyntaxFault Document := do ofTokens (← Token.ofText text)

end Document

end FaultyServer.Yaml
