import FaultyServer.Duration.Human
import FaultyServer.Settings.Fault
import FaultyServer.Yaml.Node.Reader

/-!
# Reading a configuration

A configuration is a YAML document whose mappings are records: each entry with a known name sets its
field, an entry with another name is ignored, and a known name that comes twice is a fault. A record
that is left empty keeps its initial value, and so does every field without an entry. Entries are
read in the order of the document, and the first fault is the one that is reported.
-/

namespace FaultyServer

open Yaml (Document Node TagBytes ScalarStyle Found Mark)

/-- The result of decoding a part of a document. -/
abbrev Decoded (α : Type) := Except SettingsFault α

/-- What a decoder knows besides the node: the document and the entries around the node. -/
structure Surroundings where
  doc : Document
  path : FieldPath

namespace Decode

/-- A fault whose place is still open. -/
def unplaced (cause : DataCause) : SettingsFault := .dataFault ⟨cause, none⟩

/-- Gives a fault a place unless it has one. -/
def placeFault (path : FieldPath) (mark : Mark) : SettingsFault → SettingsFault
  | .dataFault ⟨cause, none⟩ => .dataFault ⟨cause, some (path, mark)⟩
  | fault => fault

/-- Gives a fault of a result a place unless it has one. -/
def placing {α : Type} (path : FieldPath) (mark : Mark) (result : Decoded α) : Decoded α :=
  result.mapError (placeFault path mark)

/-- The bytes of a tag of the core schema. -/
def coreTag (name : String) : TagBytes := Yaml.asciiBytes ("tag:yaml.org,2002:" ++ name).toList

/-- A local tag: one that starts with an exclamation mark. -/
def isLocalTag (tag : TagBytes) : Bool := tag.head? == some 0x21

/-- What a scalar is found to be where its text is not all that counts. -/
def foundScalar (tag : Option TagBytes) (text : List Char) (style : ScalarStyle) : Decoded Found :=
  let plain := Found.ofValue (.ofPlain text)
  let misfit (expected : String) := unplaced (.invalidValue (.text text) expected)
  match tag with
  | none => .ok (if style = .plain then plain else .text text)
  | some t =>
    if t = coreTag "bool" then
      match Yaml.boolean? text with
      | some b => .ok (.boolean b)
      | none => .error (misfit "a boolean")
    else if t = coreTag "int" then
      match Yaml.integer? text with
      | some n => .ok (Found.ofValue n)
      | none => .error (misfit "an integer")
    else if t = coreTag "float" then
      match Yaml.float? text with
      | some x => .ok (.float x)
      | none => .error (misfit "a float")
    else if t = coreTag "null" then
      if Yaml.isNull text then .ok .unit else .error (misfit "null")
    else .ok (if isLocalTag t && style == .plain then plain else .text text)

/-- The fault of finding a node where something else is expected. -/
def wrongType {α : Type} (s : Surroundings) (node : Node) (expected : String) : Decoded α :=
  placing s.path node.mark <|
    match node with
    | .scalar tag text style _ => do
      .error (unplaced (.invalidType (← foundScalar tag text style) expected))
    | .mapping .. => .error (unplaced (.invalidType .map expected))
    | .sequence .. | .reference .. => .error (unplaced (.invalidType .sequence expected))

/-- The text of a scalar, however it is written or tagged. -/
def text (expected : String) (s : Surroundings) (node : Node) : Decoded (List Char) :=
  match s.doc.follow node with
  | .scalar _ text _ _ => .ok text
  | node => wrongType s node expected

/-- A string. -/
def string (s : Surroundings) (node : Node) : Decoded String := do
  pure (String.ofList (← text "a string" s node))

/-- Whether a scalar may be a number: it is plain, or literal and tagged as a number. -/
def mayBeNumber (tag : Option TagBytes) (style : ScalarStyle) : Bool :=
  style == .plain || (style == .literal && tag == some (coreTag "int"))

/-- A natural number below `bound`, which is at most that of 64-bit words. -/
def natural (bound : Nat) (expected : String) (s : Surroundings) (node : Node) : Decoded Nat :=
  match s.doc.follow node with
  | .scalar tag text style mark =>
    match if mayBeNumber tag style then Yaml.unsigned? UInt64.size text else none with
    | some n =>
      if n < bound then .ok n
      else
        placing s.path mark (.error (unplaced (.invalidValue (.integer (Int.ofNat n)) expected)))
    | none => wrongType s (.scalar tag text style mark) expected
  | node => wrongType s node expected

/-- A TCP port. -/
def port (s : Surroundings) (node : Node) : Decoded UInt16 := do
  pure (UInt16.ofNat (← natural UInt16.size "u16" s node))

/-- A step of the counter. -/
def step (s : Surroundings) (node : Node) : Decoded UInt64 := do
  pure (UInt64.ofNat (← natural UInt64.size "u64" s node))

/-- A duration by its human text. -/
def duration (s : Surroundings) (node : Node) : Decoded Duration := do
  let cs ← text "a duration" s node
  match Duration.ofHuman (String.ofList cs) with
  | .ok d => pure d
  | .error .carry => .error .carry
  | .error .unreadable =>
    placing s.path (s.doc.follow node).mark
      (.error (unplaced (.invalidValue (.text cs) "a duration")))

/-- The word of a local tag. -/
def tagWord? (tag : Option TagBytes) : Option String :=
  match tag with
  | some (0x21 :: []) => some "!"
  | some (0x21 :: word) => String.fromUTF8? (ByteArray.mk word.toArray)
  | _ => none

/-- The tag of a node. -/
def tagOf : Node → Option TagBytes
  | .scalar tag .. | .sequence tag .. | .mapping tag .. => tag
  | .reference .. => none

/-- Nothing, as the content of a tagged word has to be. -/
def nothing (s : Surroundings) : Node → Decoded Unit
  | .scalar _ text style mark =>
    if style = .plain ∧ (text.isEmpty ∨ Yaml.isNull text) then .ok ()
    else placing s.path mark (.error (unplaced (.invalidValue (.text text) "null")))
  | node => wrongType s node "unit"

/-- The mode of a keyword. -/
def modeOfKeyword (word : String) : Decoded Mode :=
  match Mode.ofKeyword? word with
  | some mode => .ok mode
  | none => .error (unplaced (.unknownMode word))

/-- A mode: a keyword, or nothing with the keyword as its tag. -/
def mode (s : Surroundings) (node : Node) : Decoded Mode :=
  let node := s.doc.follow node
  match tagWord? (tagOf node) with
  | some word => do
    let mode ← modeOfKeyword word
    nothing s node
    pure mode
  | none =>
    match node with
    | .scalar _ text _ mark => placing s.path mark (modeOfKeyword (String.ofList text))
    | node => wrongType s node "a YAML tag starting with '!'"

/-- A value that may be missing: a plain null stands for none. -/
def optional {α : Type} (decode : Surroundings → Node → Decoded α) (s : Surroundings)
    (node : Node) : Decoded (Option α) :=
  match s.doc.follow node with
  | .scalar none [] .plain _ => .ok none
  | .scalar none text .plain _ => if Yaml.isNull text then .ok none else some <$> decode s node
  | .scalar (some tag) text .plain _ =>
    if tag = coreTag "null" then
      if Yaml.isNull text then .ok none
      else .error (unplaced (.invalidValue (.text text) "null"))
    else some <$> decode s node
  | _ => some <$> decode s node

/-! ### Records -/

/-- A field of a record: its name, and how an entry of that name sets it. -/
structure Field (α : Type) where
  name : String
  set : Surroundings → Node → α → Decoded α

/-- The field that an entry with this decoder sets. -/
def field {α β : Type} (name : String) (decode : Surroundings → Node → Decoded β)
    (update : α → β → α) : Field α :=
  ⟨name, fun s node record => do pure (update record (← decode s node))⟩

/-- The name of an entry. -/
def entryName (s : Surroundings) (key : Node) : Decoded String := do
  pure (String.ofList (← text "field identifier" s key))

/-- The surroundings of the value of an entry. A key that is no scalar has no name in a path. -/
def Surroundings.enter (s : Surroundings) (key : Node) : Surroundings :=
  match key with
  | .scalar _ text _ _ => ⟨s.doc, s.path ++ [String.ofList text]⟩
  | _ => ⟨s.doc, s.path ++ ["?"]⟩

/-- Reads the entries of a record, given the names that have been set. -/
def entries {α : Type} (fields : List (Field α)) (s : Surroundings) :
    List String → α → List (Node × Node) → Decoded α
  | _, record, [] => .ok record
  | seen, record, (key, value) :: rest => do
    let name ← entryName s key
    match fields.find? (·.name == name) with
    | none => entries fields s seen record rest
    | some f =>
      if seen.contains name then .error (unplaced (.duplicateField name))
      else
        let record ← f.set (Surroundings.enter s key) value record
        entries fields s (name :: seen) record rest

/-- Reads a record. -/
def record {α : Type} (typeName : String) (fields : List (Field α)) (start : α)
    (s : Surroundings) (node : Node) : Decoded α :=
  match s.doc.follow node with
  | .mapping _ es mark => placing s.path mark (entries fields s [] start es)
  | .scalar _ [] .plain _ => .ok start
  | node => wrongType s node ("struct " ++ typeName)

/-! ### The records of a configuration -/

/-- The log settings. -/
def logs : Surroundings → Node → Decoded LogSettings :=
  record "Logs"
    [field "level" (optional string) fun r level => { r with level := level }] ⟨none⟩

/-- Where to listen. -/
def listen : Surroundings → Node → Decoded ListenSettings :=
  record "Api" [
    field "name" string fun r name => { r with name := name },
    field "host" string fun r host => { r with host := host },
    field "port" port fun r port => { r with port := port }] .default

/-- How long to hang. -/
def hang : Surroundings → Node → Decoded Duration :=
  record "Hang" [field "duration" duration fun _ d => d] Settings.defaultHang

/-- The steps of the counter. -/
def steps : Surroundings → Node → Decoded Steps :=
  record "Counter" [
    field "error_step" step fun r n => { r with error := n },
    field "hang_step" step fun r n => { r with hang := n }] .default

/-- All settings. -/
def server : Surroundings → Node → Decoded Settings :=
  record "ServerBox" [
    field "env" string fun r name => { r with environment := name },
    field "mode" mode fun r mode => { r with mode := mode },
    field "logs" (optional logs) fun r logs => { r with logs := logs },
    field "api" listen fun r listen => { r with listen := listen },
    field "hang" hang fun r d => { r with hang := d },
    field "counter" steps fun r steps => { r with steps := steps }] .default

/-- The whole configuration: a record with one field. -/
def root : Surroundings → Node → Decoded Settings :=
  record "Settings" [field "server" server fun _ settings => settings] .default

end Decode

namespace Settings

/-- The settings that a document describes. -/
def ofDocument (doc : Document) : Except SettingsFault Settings :=
  match doc.root with
  | none => .ok .default
  | some node => Decode.root ⟨doc, []⟩ node

/-- The settings that a text describes, whatever their host. -/
def decode (text : String) : Except SettingsFault Settings :=
  match Document.ofText text.toList with
  | .error fault => .error (.syntaxFault fault)
  | .ok doc => ofDocument doc

/-- The settings that a text describes, if the server may listen on their host. -/
def ofYaml (text : String) : Except SettingsFault Settings := do
  let settings ← decode text
  match settings.listenAddress with
  | .error fault => .error (.host fault)
  | .ok _ => pure settings

end Settings

end FaultyServer
