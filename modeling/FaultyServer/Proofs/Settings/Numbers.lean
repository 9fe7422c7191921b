import FaultyServer.Proofs.Settings.FieldWise
import FaultyServer.Proofs.Settings.Host
import FaultyServer.Proofs.Settings.JsonFrame
import FaultyServer.Proofs.Settings.Load
import FaultyServer.Proofs.Yaml.Numeral

/-!
# Numbers in a configuration

A configuration has three numbers, the port and two steps, each of a type with a bound. A number may
have any number of digits in any of four bases; it is stored as it is or refused, and never cut off,
wrapped around or replaced by the bound (`Settings.numbers_exact`).
-/

namespace FaultyServer

open Yaml (Document FlowText Frame Node Mark Member Numeral TagBytes)

/-- The numbers in a configuration. -/
inductive NumberField
  | port
  | errorStep
  | hangStep
  deriving DecidableEq

namespace NumberField

/-- Where the number stands. -/
def path : NumberField → FieldPath
  | port => ["server", "api", "port"]
  | errorStep => ["server", "counter", "error_step"]
  | hangStep => ["server", "counter", "hang_step"]

/-- The numbers below the bound are those of the type. -/
def bound : NumberField → Nat
  | port => UInt16.size
  | errorStep | hangStep => UInt64.size

/-- The number in these settings. -/
def value : NumberField → Settings → Nat
  | port, s => s.listen.port.toNat
  | errorStep, s => s.steps.error.toNat
  | hangStep, s => s.steps.hang.toNat

/-- The settings with this number in place of theirs. -/
def store : NumberField → Nat → Settings → Settings
  | port, n, s => s.withPort (UInt16.ofNat n)
  | errorStep, n, s => { s with steps := { s.steps with error := UInt64.ofNat n } }
  | hangStep, n, s => { s with steps := { s.steps with hang := UInt64.ofNat n } }

variable {field : NumberField} {n : Nat} {s : Settings}

/-- A number below the bound is stored as it is. -/
theorem value_store (hn : n < field.bound) : field.value (field.store n s) = n := by
  cases field with
  | port => exact UInt16.toNat_ofNat_of_lt' hn
  | errorStep => exact UInt64.toNat_ofNat_of_lt' hn
  | hangStep => exact UInt64.toNat_ofNat_of_lt' hn

theorem bound_le (field : NumberField) : field.bound ≤ UInt64.size := by
  cases field <;> decide

/-- The host is as it was, and so it is accepted if it was. -/
theorem exists_listenAddress_store (h : ∃ address, s.listenAddress = .ok address) :
    ∃ address, (field.store n s).listenAddress = .ok address := by
  have hhost : (field.store n s).listen.host = s.listen.host := by cases field <;> rfl
  cases haddress : (field.store n s).listenAddress with
  | ok address => exact ⟨address, rfl⟩
  | error fault =>
    rw [Settings.listenAddress_eq_error, hhost, ← Settings.listenAddress_eq_error] at haddress
    obtain ⟨address, h⟩ := h
    cases h.symm.trans haddress

end NumberField

namespace Decode

variable {s : Surroundings} {node : Node} (expected : String) {bound n : Nat}
  {tag : Option TagBytes} {word : List Char} {mark : Mark}

theorem natural_of_lt (hnode : s.doc.follow node = .scalar tag word .plain mark)
    (hword : Numeral word n) (hbound : bound ≤ UInt64.size) (hn : n < bound) :
    natural bound expected s node = .ok n :=
  natural_eq_ok.mpr ⟨tag, word, .plain, mark, hnode, rfl,
    Yaml.unsigned?_eq_some_iff.mpr ⟨hword, Nat.lt_of_lt_of_le hn hbound⟩, hn⟩

/-- A number that is too large is a fault at its own place, whether it has 64 bits or more. -/
theorem natural_of_le (hnode : s.doc.follow node = .scalar tag word .plain mark)
    (hword : Numeral word n) (hn : bound ≤ n) : ∃ cause,
      natural bound expected s node = .error (.dataFault ⟨cause, some (s.path, mark)⟩) := by
  rw [natural, hnode]
  dsimp only
  rw [if_pos (by rfl)]
  -- Below 64 bits it is a number that is out of range, and above it is no whole number at all.
  rcases Nat.lt_or_ge n UInt64.size with hlt | hge
  · rw [Yaml.unsigned?_eq_some_iff.mpr ⟨hword, hlt⟩]
    dsimp only
    rw [if_neg (Nat.not_lt.mpr hn)]
    exact ⟨_, rfl⟩
  · rw [hword.unsigned?_eq_none hge]
    exact exists_wrongType s _ expected

/-- Each number has its place in the settings, where it is read with its bound. -/
theorem exists_leads (field : NumberField) : ∃ (β : Type) (g : Format β)
    (set : Settings → β → Settings) (ofNat : Nat → β) (expected : String),
      Format.root.Leads field.path g set ∧
      (∀ s node, g.decode s node = (do pure (ofNat (← natural field.bound expected s node)))) ∧
      ∀ r n, set r (ofNat n) = field.store n r := by
  have hroot : ∀ {β : Type} {g : Format β} {path set}, Format.server.Leads path g set →
      Format.root.Leads ("server" :: path) g set := fun h => .column (t := Table.root) (.head _) h
  have hlisten : ∀ {β : Type} {g : Format β} {path set}, Format.listen.Leads path g set →
      Format.server.Leads ("api" :: path) g fun r x => { r with listen := set r.listen x } :=
    fun h => .column (t := Table.server) (.tail _ (.tail _ (.tail _ (.head _)))) h
  have hsteps : ∀ {β : Type} {g : Format β} {path set}, Format.steps.Leads path g set →
      Format.server.Leads ("counter" :: path) g fun r x => { r with steps := set r.steps x } :=
    fun h => .column (t := Table.server)
      (.tail _ (.tail _ (.tail _ (.tail _ (.tail _ (.head _)))))) h
  cases field with
  | port =>
    exact ⟨UInt16, .port, _, UInt16.ofNat, "u16", hroot (hlisten (.column (t := Table.listen)
      (.tail _ (.tail _ (.head _))) (.here _))), fun _ _ => rfl, fun _ _ => rfl⟩
  | errorStep =>
    exact ⟨UInt64, .step, _, UInt64.ofNat, "u64", hroot (hsteps (.column (t := Table.steps)
      (.head _) (.here _))), fun _ _ => rfl, fun _ _ => rfl⟩
  | hangStep =>
    exact ⟨UInt64, .step, _, UInt64.ofNat, "u64", hroot (hsteps (.column (t := Table.steps)
      (.tail _ (.head _)) (.here _))), fun _ _ => rfl, fun _ _ => rfl⟩

end Decode

open Decode (Format natural)

/-- These are the settings of a document, and the server may listen on their host. -/
def Yaml.Document.Gives (doc : Document) (cfg : Settings) : Prop :=
  Settings.ofDocument doc = .ok cfg ∧ ∃ address, cfg.listenAddress = .ok address

/-- A text has this word as a plain scalar in the place of a number, and its document would be this
one if another value were there. -/
def NumberField.Written (field : NumberField) (text : String) (word : List Char) (mark : Mark)
    (rest : Document) : Prop :=
  ∃ doc tag other, Document.ofText text.toList = .ok doc ∧
    doc.Exchanges field.path (.scalar tag word .plain mark) other rest

namespace Settings

variable {field : NumberField} {text : String} {doc doc' rest : Document} {other : Node}
  {tag : Option TagBytes} {word : List Char} {mark : Mark} {n : Nat} {base cfg : Settings}

/-- In a document that is fine but for a number, the number is stored, or is what is wrong. -/
theorem ofDocument_of_exchanges
    (h : doc.Exchanges field.path (.scalar tag word .plain mark) other doc')
    (hbase : ofDocument doc' = .ok base) (hword : Numeral word n) :
    (n < field.bound → ofDocument doc = .ok (field.store n base)) ∧
      (field.bound ≤ n → ∃ cause path,
        ofDocument doc = .error (.dataFault ⟨cause, some (path, mark)⟩)) := by
  obtain ⟨root, root', hroot, hnode, rfl⟩ := h
  obtain ⟨β, g, set, ofNat, expected, hleads, hdecode, hstore⟩ := Decode.exists_leads field
  -- What is accepted is the other document. Its aliases stand for the same nodes, so it makes no
  -- difference that it is read within this one.
  have hroot' : Format.root.decode ⟨⟨some root', doc.anchored⟩, []⟩ root' = .ok base := hbase
  have haccepted : Format.root.decode ⟨doc, []⟩ root' = .ok base :=
    (Format.ignoresMarks_root.decode_congr (by rfl) root' base).mp hroot'
  obtain ⟨s, value, hs, hvalue, hok, herror⟩ := hleads.exchange hnode haccepted
  have hfollow : s.doc.follow value = .scalar tag word .plain mark := by rw [hs, hvalue]
  have hdoc : ofDocument doc = Format.root.decode ⟨doc, []⟩ root := by rw [ofDocument, hroot]; rfl
  rw [hdoc]
  constructor
  · intro hn
    rw [← hstore]
    refine hok _ ?_
    rw [hdecode, Decode.natural_of_lt _ hfollow hword field.bound_le hn]
    rfl
  · intro hn
    obtain ⟨cause, hcause⟩ := Decode.natural_of_le expected hfollow hword hn
    refine ⟨cause, s.path, herror _ _ ?_⟩
    rw [hdecode, hcause]
    rfl

/-- In a text that is fine but for a number, the number is stored, or is what is wrong. -/
theorem ofYaml_of_written (h : field.Written text word mark rest) (hbase : rest.Gives base)
    (hword : Numeral word n) :
    (n < field.bound → ofYaml text = .ok (field.store n base)) ∧
      (field.bound ≤ n → ∃ cause path,
        ofYaml text = .error (.dataFault ⟨cause, some (path, mark)⟩)) := by
  obtain ⟨doc, tag, other, hdoc, hexchanges⟩ := h
  obtain ⟨hok, herror⟩ := ofDocument_of_exchanges hexchanges hbase.1 hword
  refine ⟨fun hn => ?_, fun hn => ?_⟩
  · exact (ofYaml_eq_ok hdoc).mpr ⟨hok hn, NumberField.exists_listenAddress_store hbase.2⟩
  · obtain ⟨cause, path, hfault⟩ := herror hn
    exact ⟨cause, path, ofYaml_of_ofDocument_error hdoc hfault⟩

/-- What a document gives, it gives at any positions. -/
theorem gives_of_unmarked_eq (h : doc.unmarked = doc'.unmarked) (hdoc : doc.Gives cfg) :
    doc'.Gives cfg :=
  ⟨ofDocument_unmarked.mp (h ▸ ofDocument_unmarked.mpr hdoc.1), hdoc.2⟩

/-- A line of JSON with a number has the document that it has with another value, but for the
number and positions. -/
theorem exists_written_line {fs : List Frame} {value : FlowText}
    (hpath : fs.map (·.name) = field.path)
    (hdoc : Document.ofText (Frame.line fs value).toList = .ok doc) (hword : Numeral word n) :
    ∃ mark rest, field.Written (Frame.line fs (.numeral hword)) word mark rest ∧
      rest.unmarked = doc.unmarked := by
  -- No number is the whole of a line, so there is an object around it, which can be read.
  obtain ⟨f, fs, rfl⟩ : ∃ f fs', fs = f :: fs' := by
    refine List.exists_cons_of_ne_nil fun hnil => ?_
    rw [hnil] at hpath
    cases field <;> cases hpath
  obtain ⟨root, hroot, htext⟩ := f.ofText_object (Frame.plug fs (.numeral hword))
  obtain ⟨root', hroot', htext'⟩ := f.ofText_object (Frame.plug fs value)
  obtain ⟨mark, other, root'', hexchanges, hunmarked⟩ :=
    @Frame.exchanges_plug (f :: fs) value root root' ⟨some root, []⟩ word _ _ hroot hroot'
  rw [Frame.line, String.toList_ofList] at hdoc
  obtain rfl := Except.ok.inj (htext'.symm.trans hdoc)
  refine ⟨mark, ⟨some root'', []⟩, ⟨⟨some root, []⟩, none, other, ?_, root, root'', rfl, ?_, rfl⟩,
    congrArg (fun node => Document.mk (some node) []) hunmarked⟩
  · rwa [Frame.line, String.toList_ofList]
  · rwa [← hpath]

/-- Accepted texts have a document that gives their settings. -/
theorem exists_gives (h : ofYaml text = .ok cfg) :
    ∃ doc, Document.ofText text.toList = .ok doc ∧ doc.Gives cfg := by
  cases hdoc : Document.ofText text.toList with
  | error fault => cases (ofYaml_of_ofText_error hdoc).symm.trans h
  | ok doc => exact ⟨doc, rfl, (ofYaml_eq_ok hdoc).mp h⟩

/-- Each number of a configuration is stored as it is written, however many digits it has, or else
it is what is wrong with the configuration, at its own place. Numbers that are written differently
but are the same give the same settings. A line of JSON can have any number in this way. -/
theorem numbers_exact (field : NumberField) :
    (∀ text word mark rest base n, field.Written text word mark rest → rest.Gives base →
      Numeral word n →
        (n < field.bound → ofYaml text = .ok (field.store n base) ∧
          field.value (field.store n base) = n) ∧
        (field.bound ≤ n → ∃ cause path,
          ofYaml text = .error (.dataFault ⟨cause, some (path, mark)⟩))) ∧
    (∀ text text' word word' mark mark' rest rest' base n, field.Written text word mark rest →
      field.Written text' word' mark' rest' → rest.unmarked = rest'.unmarked → rest.Gives base →
      Numeral word n → Numeral word' n →
        ∀ cfg, ofYaml text = .ok cfg ↔ ofYaml text' = .ok cfg) ∧
    ∀ (fs : List Frame) value base word n (hword : Numeral word n),
      fs.map (·.name) = field.path → ofYaml (Frame.line fs value) = .ok base →
        (n < field.bound → ofYaml (Frame.line fs (.numeral hword)) = .ok (field.store n base)) ∧
        (field.bound ≤ n → ∃ fault,
          ofYaml (Frame.line fs (.numeral hword)) = .error (.dataFault fault)) := by
  refine ⟨fun text word mark rest base n h hbase hword => ?_,
    fun text text' word word' mark mark' rest rest' base n h h' hrest hbase hword hword' cfg => ?_,
    fun fs value base word n hword hpath hbase => ?_⟩
  · obtain ⟨hok, herror⟩ := ofYaml_of_written h hbase hword
    exact ⟨fun hn => ⟨hok hn, NumberField.value_store hn⟩, herror⟩
  · obtain ⟨hok, herror⟩ := ofYaml_of_written h hbase hword
    obtain ⟨hok', herror'⟩ := ofYaml_of_written h' (gives_of_unmarked_eq hrest hbase) hword'
    rcases Nat.lt_or_ge n field.bound with hlt | hge
    · rw [hok hlt, hok' hlt]
    · obtain ⟨cause, path, hfault⟩ := herror hge
      obtain ⟨cause', path', hfault'⟩ := herror' hge
      rw [hfault, hfault']
      simp only [reduceCtorEq]
  · obtain ⟨doc, hdoc, hgives⟩ := exists_gives hbase
    obtain ⟨mark, rest, hwritten, hrest⟩ := exists_written_line hpath hdoc hword
    obtain ⟨hok, herror⟩ :=
      ofYaml_of_written hwritten (gives_of_unmarked_eq hrest.symm hgives) hword
    refine ⟨hok, fun hn => ?_⟩
    obtain ⟨cause, path, hfault⟩ := herror hn
    exact ⟨_, hfault⟩

/-- A document with one anchored number and this port. -/
def anchoredPort (port : Node) : Document :=
  let number := .scalar none "+0xFFFF".toList .plain ⟨4, 0, 4⟩
  let api := .mapping none [(wordAt 31 "port", port)] ⟨30, 0, 30⟩
  let server := .mapping none [(wordAt 25 "api", api)] ⟨24, 0, 24⟩
  ⟨some (.mapping none [(wordAt 1 "n", number), (wordAt 16 "server", server)] ⟨0, 0, 0⟩),
    [⟨0, 0, number⟩]⟩

/-- The line of this step. -/
def stepLine (word : List Char) : String :=
  String.ofList (("\x7b\"server\":\x7b\"env\":\"a\",\"logs\":\x7b\"level\":null\x7d," ++
    "\"counter\":\x7b\"hang_step\":").toList ++ word ++ "\x7d\x7d\x7d".toList)

/-- The line is a step within its objects, with other members in front of one of them: a string, and
an object with a word. -/
theorem exists_stepFrames : ∃ fs : List Frame, fs.map (·.name) = NumberField.hangStep.path ∧
    ∀ {word n} (h : Numeral word n), Frame.line fs (.numeral h) = stepLine word := by
  have hprintable : "a".toList.all Text.isPrintable = true := by decide
  have hname := FlowText.isDetermined_string "a" hprintable
  have hlevel : (FlowText.object ⟨"level", .word Json.null (by decide) (by decide), by decide,
      by decide⟩ []).IsDetermined :=
    FlowText.isDetermined_object <| List.forall_mem_singleton.mpr <|
      FlowText.isDetermined_word Json.null (by decide) (by decide)
  refine ⟨[⟨[], "server", by decide, by decide, [], List.forall_mem_nil _⟩,
    ⟨[⟨"env", _, by decide, by decide⟩, ⟨"logs", _, by decide, by decide⟩], "counter", by decide,
      by decide, [], List.forall_mem_cons.mpr ⟨hname, List.forall_mem_singleton.mpr hlevel⟩⟩,
    ⟨[], "hang_step", by decide, by decide, [], List.forall_mem_nil _⟩], rfl,
    fun h => congrArg String.ofList ?_⟩
  simp [Frame.plug, Frame.object, Frame.member, FlowText.object, FlowText.word, FlowText.numeral,
    Member.pair, Json.object, Json.string, Json.escape, Json.null]

/-- The greatest numbers are stored, also through an alias, and one more is a fault. -/
theorem numbers_exact_greatest :
    ofYaml "\x7bn: &n +0xFFFF, server: \x7bapi: \x7bport: *n\x7d\x7d\x7d" =
      .ok (default.withPort 65535) ∧
    (∀ cfg, ofYaml (stepLine "+18446744073709551615".toList) = .ok cfg ↔
      ofYaml (stepLine "0o1777777777777777777777".toList) = .ok cfg) ∧
    ∃ fault, ofYaml (stepLine "+0x10000000000000000".toList) = .error (.dataFault fault) := by
  have hread : ∀ {word n}, Yaml.unsigned? (n + 1) word = some n → Numeral word n :=
    fun h => (Yaml.unsigned?_eq_some_iff.mp h).1
  have hfive : Numeral "5".toList 5 := hread (by decide)
  obtain ⟨fs, hpath, hline⟩ := exists_stepFrames
  have hbase : ofYaml (Frame.line fs (.numeral hfive)) =
      .ok { default with environment := "a", logs := some ⟨none⟩, steps := ⟨12, 5⟩ } := by
    rw [hline]
    decide +kernel
  refine ⟨?_, ?_, ?_⟩
  · have hdoc : Document.ofText
        "\x7bn: &n +0xFFFF, server: \x7bapi: \x7bport: *n\x7d\x7d\x7d".toList =
          .ok (anchoredPort (.reference 0 ⟨37, 0, 37⟩)) := by decide +kernel
    have hsingle : ∀ {doc old new path name key value value' mark},
        Decode.nameIn doc key = some name → Node.Exchanges doc old new path value value' →
          Node.Exchanges doc old new (name :: path) (.mapping none [(key, value)] mark)
            (.mapping none [(key, value')] mark) :=
      fun hkey h => @Node.Exchanges.entry _ _ _ _ _ _ _ _ _ _ [] [] _ rfl hkey h
    have hwritten : NumberField.port.Written _ _ _ (anchoredPort (wordAt 37 "1")) :=
      ⟨_, none, wordAt 37 "1", hdoc, _, _, rfl,
        @Node.Exchanges.entry _ _ _ _ _ _ _ _ _ _ [_] [] _ rfl rfl
          (hsingle rfl (hsingle rfl (.here rfl))), rfl⟩
    have hgives : (anchoredPort (wordAt 37 "1")).Gives (default.withPort 1) :=
      ⟨by decide +kernel, ⟨.v4 ⟨127, 0, 0, 1⟩, 1⟩, by decide +kernel⟩
    exact (((numbers_exact .port).1 _ _ _ _ _ 65535 hwritten hgives (hread (by decide))).1
      (by decide)).1
  · obtain ⟨doc, hdoc, hgives⟩ := exists_gives hbase
    have hplus : Numeral "+18446744073709551615".toList 18446744073709551615 := hread (by decide)
    have hoctal : Numeral "0o1777777777777777777777".toList 18446744073709551615 :=
      hread (by decide)
    obtain ⟨mark, rest, hwritten, hrest⟩ := exists_written_line hpath hdoc hplus
    obtain ⟨mark', rest', hwritten', hrest'⟩ := exists_written_line hpath hdoc hoctal
    rw [hline] at hwritten hwritten'
    exact (numbers_exact .hangStep).2.1 _ _ _ _ _ _ _ _ _ _ hwritten hwritten'
      (hrest.trans hrest'.symm) (gives_of_unmarked_eq hrest.symm hgives) hplus hoctal
  · have hword : Numeral "+0x10000000000000000".toList 18446744073709551616 := hread (by decide)
    have hfault := ((numbers_exact .hangStep).2.2 fs _ _ _ _ hword hpath hbase).2 (by decide)
    rwa [hline] at hfault

end Settings

end FaultyServer
