import FaultyServer.Proofs.Settings.Edit

/-!
# Configurations are decoded field by field

What a configuration says about a field, it says at one place: at the end of the path of names that
leads to the field (`Document.value?`). `Settings.FieldWise` collects this for all fields. If there
is no such place, the field has its default; otherwise it has what the node there is decoded as,
whatever else is in the document.

* `ofYaml_fieldWise`: accepted configurations are decoded so, and stay what they are under edits; a
  record that names one of its fields twice is never accepted.
-/

namespace FaultyServer

open Yaml (Document Node Mark TagBytes)

namespace Decode

/-- The value of the first entry of a name. -/
def valueAt (name : String) : Node → Option Node
  | .mapping _ es _ => (es.find? fun e => nameOf e.1 == some name).map (·.2)
  | _ => none

/-- A value that is the default where nothing is given, and else what the node is decoded as in any
document and at any place. -/
def Given {β : Type} (decode : Surroundings → Node → Decoded β) (node? : Option Node)
    (default x : β) : Prop :=
  match node? with
  | none => x = default
  | some node => ∀ s, decode s node = .ok x

/-- Where a record stands in a configuration. -/
def Section.path : Section → FieldPath
  | root => []
  | server => ["server"]
  | logs => ["server", "logs"]
  | listen => ["server", "api"]
  | hang => ["server", "hang"]
  | steps => ["server", "counter"]

end Decode

namespace Yaml.Document

/-- The node at the end of a path of names. -/
def value? (doc : Document) (path : FieldPath) : Option Node :=
  path.foldl (fun node? name => node?.bind (Decode.valueAt name)) doc.root

/-- A document without anchors, aliases and tags. -/
structure IsBare (doc : Document) : Prop where
  anchored : doc.anchored = []
  root : ∀ node ∈ doc.root, node.IsBare

/-- From one document to another by edits. -/
def Edited (doc doc' : Document) : Prop :=
  Option.Rel (Relation.ReflTransGen (Decode.Edit (some .root))) doc.root doc'.root

end Yaml.Document

open Decode

/-- Every field is its default or what the document says at the place of the field. -/
structure Settings.FieldWise (doc : Document) (cfg : Settings) : Prop where
  environment : Given Decode.string (doc.value? ["server", "env"]) Settings.default.environment
    cfg.environment
  mode : Given Decode.mode (doc.value? ["server", "mode"]) Settings.default.mode cfg.mode
  logs : Given (Decode.optional Decode.logs) (doc.value? ["server", "logs"]) none cfg.logs
  level : ∀ logs ∈ cfg.logs, Given (Decode.optional Decode.string)
    (doc.value? ["server", "logs", "level"]) none logs.level
  name : Given Decode.string (doc.value? ["server", "api", "name"]) ListenSettings.default.name
    cfg.listen.name
  host : Given Decode.string (doc.value? ["server", "api", "host"]) ListenSettings.default.host
    cfg.listen.host
  port : Given Decode.port (doc.value? ["server", "api", "port"]) ListenSettings.default.port
    cfg.listen.port
  hang : Given Decode.duration (doc.value? ["server", "hang", "duration"]) Settings.defaultHang
    cfg.hang
  errorStep : Given Decode.step (doc.value? ["server", "counter", "error_step"])
    Steps.default.error cfg.steps.error
  hangStep : Given Decode.step (doc.value? ["server", "counter", "hang_step"]) Steps.default.hang
    cfg.steps.hang

namespace Decode

variable {α β : Type} {t : Table α} {start r : α} {typeName : String} {node? : Option Node}

/-! ## What is given for a field -/

/-- A value that is the default where nothing is given, and else what the node describes. -/
def Described (f : Format β) (node? : Option Node) (default x : β) : Prop :=
  match node? with
  | none => x = default
  | some node => f.Describes node x

theorem Described.given {f : Format β} {default x : β} (h : Described f node? default x) :
    Given f.decode node? default x := by
  cases node? with
  | none => exact h
  | some node => exact f.sound h

/-- What is given for a record gives each of its fields. -/
theorem Described.field (h : Described (t.format typeName start) node? start r) {c : Column α}
    (hc : c ∈ t.columns) :
    Described c.format (node?.bind (valueAt c.name)) (c.get start) (c.get r) := by
  cases node? with
  | none => exact congrArg c.get h
  | some node =>
    obtain ⟨tag, es, mark, rfl, hes⟩ | ⟨tag, mark, rfl, rfl⟩ := h
    · change Described c.format ((es.find? _).map _) _ _
      cases hfind : es.find? fun e => nameOf e.1 == some c.name with
      | none =>
        refine hes.missing c hc fun e he => ?_
        simpa using List.find?_eq_none.mp hfind e he
      | some e =>
        exact hes.given c hc e (List.mem_of_find?_eq_some hfind) (by simpa using List.find?_some hfind)
    · exact (rfl : c.get r = c.get r)

/-- What is given for a value that may be missing is given for the value. -/
theorem Described.ofOptional {f : Format β} {x default : β}
    (h : Described f.optional node? none (some x)) : Described f node? default x := by
  cases node? with
  | none => cases h
  | some node =>
    obtain ⟨-, hnone⟩ | ⟨-, -, y, hy, hx⟩ := h
    · cases hnone
    · cases hx
      exact hy

/-- What a configuration describes, it describes field by field. -/
theorem fieldWise_of_described {doc : Document} {cfg : Settings}
    (h : Described Format.root doc.root .default cfg) : cfg.FieldWise doc := by
  have hserver : Described Format.server (doc.value? ["server"]) .default cfg :=
    Described.field (t := Table.root) h (.head _)
  have hfield := fun {c} => Described.field (t := Table.server) (c := c) hserver
  have hlogs : Described (.optional .logs) (doc.value? ["server", "logs"]) none cfg.logs :=
    hfield (.tail _ (.tail _ (.head _)))
  have hlisten : Described Format.listen (doc.value? ["server", "api"]) .default cfg.listen :=
    hfield (.tail _ (.tail _ (.tail _ (.head _))))
  have hhang : Described Format.hang (doc.value? ["server", "hang"]) Settings.defaultHang cfg.hang :=
    hfield (.tail _ (.tail _ (.tail _ (.tail _ (.head _)))))
  have hsteps : Described Format.steps (doc.value? ["server", "counter"]) .default cfg.steps :=
    hfield (.tail _ (.tail _ (.tail _ (.tail _ (.tail _ (.head _))))))
  exact {
    environment := (hfield (.head _)).given
    mode := (hfield (.tail _ (.head _))).given
    logs := hlogs.given
    level := fun l hl => by
      rw [Option.mem_def.mp hl] at hlogs
      have hl : Described Format.logs (doc.value? ["server", "logs"]) ⟨none⟩ l := hlogs.ofOptional
      exact (Described.field (t := Table.logs) hl (.head _)).given
    name := (Described.field (t := Table.listen) hlisten (.head _)).given
    host := (Described.field (t := Table.listen) hlisten (.tail _ (.head _))).given
    port := (Described.field (t := Table.listen) hlisten (.tail _ (.tail _ (.head _)))).given
    hang := (Described.field (t := Table.hang) hhang (.head _)).given
    errorStep := (Described.field (t := Table.steps) hsteps (.head _)).given
    hangStep := (Described.field (t := Table.steps) hsteps (.tail _ (.head _))).given }

/-! ## Names that come twice -/

/-- The format reads the node somewhere as something. -/
def Accepts (f : Format β) (node : Node) : Prop := ∃ s x, f.decode s node = .ok x

theorem Accepts.ofOptional {f : Format β} {tag : Option TagBytes} {es : List (Node × Node)}
    {mark : Mark} (h : Accepts f.optional (.mapping tag es mark)) :
    Accepts f (.mapping tag es mark) := by
  obtain ⟨s, x, hx⟩ := h
  change some <$> f.decode s _ = _ at hx
  cases hdecode : f.decode s (.mapping tag es mark) with
  | error fault =>
    rw [hdecode] at hx
    cases hx
  | ok y => exact ⟨s, y, hdecode⟩

theorem Accepts.reads {tag : Option TagBytes} {es : List (Node × Node)} {mark : Mark}
    (h : Accepts (t.format typeName start) (.mapping tag es mark)) : ∃ s r, t.Reads s start es r := by
  obtain ⟨s, r, hr⟩ := h
  have hrecord : record typeName t.fields start s (.mapping tag es mark) = .ok r := hr
  obtain ⟨_, _, _, hnode, hes⟩ | ⟨_, _, hnode, _⟩ := Table.record_eq_ok.mp hrecord
  · cases hnode
    exact ⟨s, r, hes⟩
  · cases hnode

/-- What is given for a field of an accepted record, its format accepts. -/
theorem Accepts.entry {node value : Node} {c : Column α}
    (h : Accepts (t.format typeName start) node) (hc : c ∈ t.columns)
    (hvalue : valueAt c.name node = some value) : Accepts c.format value := by
  cases node with
  | mapping tag es mark =>
    obtain ⟨s, r, hes⟩ := h.reads
    obtain ⟨e, hfind, rfl⟩ := Option.map_eq_some_iff.mp hvalue
    have hname : nameOf e.1 = some c.name := by simpa using List.find?_some hfind
    refine ⟨_, _, hes.given c hc e (List.mem_of_find?_eq_some hfind) ?_⟩
    rw [Table.nameIn_eq (by rw [hname]; rfl), hname]
  | _ => cases hvalue

/-- An accepted record names each of its fields once at most. -/
theorem Accepts.countP_le_one {tag : Option TagBytes} {es : List (Node × Node)} {mark : Mark}
    {name : String} (h : Accepts (t.format typeName start) (.mapping tag es mark))
    (hname : name ∈ t.columns.map (·.name)) :
    es.countP (fun e => nameOf e.1 == some name) ≤ 1 := by
  obtain ⟨s, r, hes⟩ := h.reads
  have hcount := List.nodup_iff_count_le_one.mp hes.nodup name
  rw [Table.names, List.count_filter, List.count_filterMap] at hcount
  · refine Nat.le_trans (List.countP_mono_left fun e _ he => ?_) hcount
    have hkey : nameOf e.1 = some name := by simpa using he
    rw [Table.nameIn_eq (by rw [hkey]; rfl), hkey, beq_self_eq_true]
  · exact decide_eq_true hname

/-- So does a record within an accepted configuration. -/
theorem Section.countP_le_one {doc : Document} {record : Section} {tag : Option TagBytes}
    {es : List (Node × Node)} {mark : Mark} {name : String}
    (hroot : ∀ node ∈ doc.root, Accepts Format.root node)
    (hvalue : doc.value? record.path = some (.mapping tag es mark)) (hname : name ∈ record.names) :
    es.countP (fun e => nameOf e.1 == some name) ≤ 1 := by
  have hserver : ∀ node ∈ doc.value? ["server"], Accepts Format.server node := by
    intro node hnode
    obtain ⟨root, hdoc, hnode⟩ := Option.bind_eq_some_iff.mp hnode
    exact (hroot root hdoc).entry (t := Table.root) (.head _) hnode
  have hfield : ∀ {c node}, c ∈ Table.server.columns →
      node ∈ doc.value? ["server", c.name] → Accepts c.format node := by
    intro c node hc hnode
    obtain ⟨server, hdoc, hnode⟩ := Option.bind_eq_some_iff.mp hnode
    exact (hserver server hdoc).entry (t := Table.server) hc hnode
  cases record with
  | root => exact (hroot _ hvalue).countP_le_one (t := Table.root) hname
  | server => exact (hserver _ hvalue).countP_le_one (t := Table.server) hname
  | logs =>
    have hlogs := hfield (.tail _ (.tail _ (.head _))) hvalue
    exact hlogs.ofOptional.countP_le_one (t := Table.logs) hname
  | listen =>
    have hlisten := hfield (.tail _ (.tail _ (.tail _ (.head _)))) hvalue
    exact hlisten.countP_le_one (t := Table.listen) hname
  | hang =>
    have hhang := hfield (.tail _ (.tail _ (.tail _ (.tail _ (.head _))))) hvalue
    exact hhang.countP_le_one (t := Table.hang) hname
  | steps =>
    have hsteps := hfield (.tail _ (.tail _ (.tail _ (.tail _ (.tail _ (.head _)))))) hvalue
    exact hsteps.countP_le_one (t := Table.steps) hname

end Decode

/-! ## Configurations -/

namespace Settings

variable {text text' : String} {doc doc' : Document} {cfg : Settings}

theorem ofYaml_eq_ok (hdoc : Document.ofText text.toList = .ok doc) :
    Settings.ofYaml text = .ok cfg ↔
      ofDocument doc = .ok cfg ∧ ∃ address, cfg.listenAddress = .ok address := by
  have hdecode : decode text = ofDocument doc := by rw [decode, hdoc]
  rw [ofYaml, hdecode, Except.bind_eq_ok]
  constructor
  · rintro ⟨cfg', hcfg, haddress⟩
    split at haddress
    · cases haddress
    · next address heq =>
      obtain rfl := Except.ok.inj haddress
      exact ⟨hcfg, address, heq⟩
  · rintro ⟨hcfg, address, haddress⟩
    refine ⟨cfg, hcfg, ?_⟩
    rw [haddress]
    rfl

/-- A document is decoded as what it describes. -/
theorem ofDocument_of_described (h : Described Format.root doc.root .default cfg) :
    ofDocument doc = .ok cfg := by
  rw [ofDocument]
  cases hroot : doc.root with
  | none =>
    rw [hroot] at h
    exact congrArg Except.ok (h : cfg = .default).symm
  | some node =>
    rw [hroot] at h
    exact Format.root.sound h _

/-- Without aliases it describes what it is decoded as. -/
theorem described_of_isBare (hbare : doc.IsBare) (h : ofDocument doc = .ok cfg) :
    Described Format.root doc.root .default cfg := by
  rw [ofDocument] at h
  cases hroot : doc.root with
  | none =>
    rw [hroot] at h
    exact (Except.ok.inj h).symm
  | some node =>
    rw [hroot] at h
    exact Format.root.complete (hbare.root node hroot) h

theorem described_of_edited (hedited : doc.Edited doc')
    (h : Described Format.root doc.root .default cfg) :
    Described Format.root doc'.root .default cfg := by
  obtain ⟨root, anchored⟩ := doc
  obtain ⟨root', anchored'⟩ := doc'
  change Option.Rel _ root root' at hedited
  cases hedited with
  | none => exact h
  | some hedits => exact describes_of_edits hedits h

/-- A configuration without aliases is decoded field by field: entries may change places, and
entries of unknown names may be added to its records. No configuration is accepted in which a record
names one of its fields twice. -/
theorem ofYaml_fieldWise :
    (∀ text doc cfg, Document.ofText text.toList = .ok doc → doc.IsBare →
      Settings.ofYaml text = .ok cfg →
        cfg.FieldWise doc ∧ ∀ text' doc', Document.ofText text'.toList = .ok doc' →
          doc.Edited doc' → Settings.ofYaml text' = .ok cfg) ∧
    ∀ text doc record tag es mark, ∀ name ∈ Section.names record,
      Document.ofText text.toList = .ok doc →
      doc.value? (Section.path record) = some (.mapping tag es mark) →
      2 ≤ es.countP (fun e => nameOf e.1 == some name) →
        ∃ fault, Settings.ofYaml text = .error fault := by
  constructor
  · intro text doc cfg hdoc hbare hcfg
    obtain ⟨hdocument, haddress⟩ := (ofYaml_eq_ok hdoc).mp hcfg
    have hdescribed := described_of_isBare hbare hdocument
    refine ⟨fieldWise_of_described hdescribed, fun text' doc' hdoc' hedited => ?_⟩
    have hdescribed' := described_of_edited hedited hdescribed
    exact (ofYaml_eq_ok hdoc').mpr ⟨ofDocument_of_described hdescribed', haddress⟩
  · intro text doc record tag es mark name hname hdoc hvalue htwice
    cases hyaml : Settings.ofYaml text with
    | error fault => exact ⟨fault, rfl⟩
    | ok cfg =>
      obtain ⟨hdocument, -⟩ := (ofYaml_eq_ok hdoc).mp hyaml
      have hroot : ∀ node ∈ doc.root, Accepts Format.root node := by
        intro node hnode
        rw [ofDocument, Option.mem_def.mp hnode] at hdocument
        exact ⟨_, cfg, hdocument⟩
      have honce := Section.countP_le_one hroot hvalue hname
      omega

/-- A word of one letter or more, this far into a text of one line. -/
def wordAt (column : Nat) (word : String) : Node :=
  .scalar none word.toList .plain ⟨column, 0, column⟩

/-- The document of a line that sets fields of the server. -/
def serverLine (es : List (Node × Node)) : Document :=
  ⟨some (.mapping none [(wordAt 0 "server", .mapping none es ⟨8, 0, 8⟩)] ⟨0, 0, 0⟩), []⟩

/-- The entry that names the environment first. -/
def environmentEntry : Node × Node := (wordAt 9 "env", wordAt 14 "a")

theorem ofYaml_fieldWise_line :
    (serverLine [environmentEntry]).IsBare ∧
    Settings.ofYaml "server: \x7benv: a\x7d" = .ok { Settings.default with environment := "a" } ∧
    Settings.FieldWise (serverLine [environmentEntry])
      { Settings.default with environment := "a" } ∧
    Settings.ofYaml "server: \x7benv: a, x: b\x7d" =
      .ok { Settings.default with environment := "a" } ∧
    ∃ fault, Settings.ofYaml "server: \x7benv: a, env: b\x7d" = .error fault := by
  have hdoc : Document.ofText "server: \x7benv: a\x7d".toList =
      .ok (serverLine [environmentEntry]) := by decide +kernel
  have hinserted : Document.ofText "server: \x7benv: a, x: b\x7d".toList =
      .ok (serverLine [environmentEntry, (wordAt 17 "x", wordAt 20 "b")]) := by decide +kernel
  have hrepeated : Document.ofText "server: \x7benv: a, env: b\x7d".toList =
      .ok (serverLine [environmentEntry, (wordAt 17 "env", wordAt 22 "b")]) := by decide +kernel
  have hcfg : Settings.ofYaml "server: \x7benv: a\x7d" =
      .ok { Settings.default with environment := "a" } := by decide +kernel
  have hbare : (serverLine [environmentEntry]).IsBare := by
    refine ⟨rfl, ?_⟩
    rintro _ ⟨⟩
    refine .mapping _ ?_ ?_ <;> rw [List.forall_mem_singleton]
    · exact .scalar _ _ _
    · refine .mapping _ ?_ ?_ <;> rw [List.forall_mem_singleton] <;> exact .scalar _ _ _
  obtain ⟨hfields, hedits⟩ := ofYaml_fieldWise.1 _ _ _ hdoc hbare hcfg
  refine ⟨hbare, hcfg, hfields, hedits _ _ hinserted (.some (.single ?_)), ?_⟩
  · have hinsert := @Edit.insert .server none [environmentEntry] [] ⟨8, 0, 8⟩ (wordAt 17 "x")
      (wordAt 20 "b") "x" rfl (by decide)
    exact @Edit.value (some .root) none [] [] ⟨0, 0, 0⟩ (wordAt 0 "server") _ _ hinsert
  · exact ofYaml_fieldWise.2 _ _ .server none _ _ "env" (by decide) hrepeated rfl (by decide)

end Settings

end FaultyServer
