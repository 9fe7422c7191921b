import FaultyServer.Proofs.Duration.RoundTrip
import FaultyServer.Proofs.Settings.Format
import FaultyServer.Proofs.Yaml.Numeral

/-!
# Settings are read back from their JSON

What `Settings.json` writes is a YAML document that describes the same settings
(`Settings.ofYaml_json`). Both sides are followed member by member: each value is written as a flow
text (`Settings.jsonText`) whose node is, in the format of its field, a description of the value.
-/

namespace FaultyServer

open Yaml (Node FlowText Member)
open Decode (Format Table Column Meaning IsScalar)

/-! ## Values -/

namespace Yaml

variable {n bound : Nat}

/-- A number in decimal digits is read as itself. -/
theorem unsigned?_decimal (hn : n < bound) : unsigned? bound (Text.decimal n) = some n :=
  unsigned?_eq_some_iff.mpr ⟨.decimal n, hn⟩

/-- A missing value. -/
def FlowText.null : FlowText := .word Json.null (by decide) (by decide)

/-- A number in decimal digits. -/
def FlowText.number (n : Nat) : FlowText :=
  .word (Json.number n) (Text.decimal_ne_nil n) <| List.all_eq_true.mpr fun c hc => by
    rw [isWordChar, Text.isDigit_of_mem_decimal hc, Bool.or_true, Bool.true_or]

end Yaml

/-- The text of a duration is printable. -/
theorem Duration.isPrintable_human (d : Duration) : d.human.toList.all Text.isPrintable = true := by
  rw [human_toList]
  refine Yaml.all_intercalate (by decide) fun text htext => ?_
  obtain ⟨x, hx, rfl⟩ := List.mem_map.mp htext
  rw [Counted.chars, List.all_append, Bool.and_eq_true]
  refine ⟨List.all_eq_true.mpr fun c hc => ?_, List.all_eq_true.mpr fun c hc => ?_⟩
  · exact Yaml.isPrintable_of_isDigit (Text.isDigit_of_mem_decimal hc)
  · exact Yaml.isPrintable_of_isLetter (List.all_eq_true.mp (d.printed_isNamed x hx).2.2 c hc)

theorem Mode.isPrintable_keyword (mode : Mode) :
    mode.keyword.toList.all Text.isPrintable = true := by
  cases mode <;> decide

namespace Decode

variable {α : Type} {t : Table α} {start r : α} {node : Node}

theorem describes_string {s : String} (h : s.toList.all Text.isPrintable = true)
    (hnode : (FlowText.string s h).Holds node) : Format.string.Describes node s := by
  obtain ⟨mark, rfl⟩ := hnode
  exact ⟨none, s.toList, .doubleQuoted, mark, rfl, (String.ofList_toList).symm⟩

theorem means_number {γ : Type} {ofNat : Nat → γ} {n bound : Nat} (hn : n < bound)
    (hbound : bound ≤ UInt64.size) (hnode : (FlowText.number n).Holds node) :
    IsScalar (Decode.meansWord bound ofNat) node (ofNat n) := by
  obtain ⟨mark, rfl⟩ := hnode
  exact ⟨none, Text.decimal n, .plain, mark, rfl, n,
    ⟨rfl, Yaml.unsigned?_decimal (Nat.lt_of_lt_of_le hn hbound), hn⟩, rfl⟩

theorem describes_port {port : UInt16} (hnode : (FlowText.number port.toNat).Holds node) :
    Format.port.Describes node port := by
  have h : IsScalar (meansWord UInt16.size UInt16.ofNat) node (UInt16.ofNat port.toNat) :=
    means_number port.toNat_lt_size (by decide) hnode
  rwa [UInt16.ofNat_toNat] at h

theorem describes_step {step : UInt64} (hnode : (FlowText.number step.toNat).Holds node) :
    Format.step.Describes node step := by
  have h : IsScalar (meansWord UInt64.size UInt64.ofNat) node (UInt64.ofNat step.toNat) :=
    means_number step.toNat_lt_size (Nat.le_refl _) hnode
  rwa [UInt64.ofNat_toNat] at h

theorem describes_duration {d : Duration}
    (hnode : (FlowText.string d.human d.isPrintable_human).Holds node) :
    Format.duration.Describes node d := by
  obtain ⟨mark, rfl⟩ := hnode
  refine ⟨none, d.human.toList, .doubleQuoted, mark, rfl, ?_⟩
  change Duration.ofHuman (String.ofList d.human.toList) = .ok d
  rw [String.ofList_toList]
  exact d.ofHuman_human

theorem describes_mode {mode : Mode}
    (hnode : (FlowText.string mode.keyword mode.isPrintable_keyword).Holds node) :
    Format.mode.Describes node mode := by
  obtain ⟨mark, rfl⟩ := hnode
  refine ⟨none, mode.keyword.toList, .doubleQuoted, mark, rfl, ?_⟩
  change Mode.ofKeyword? (String.ofList mode.keyword.toList) = some mode
  rw [String.ofList_toList]
  cases mode <;> decide

/-- A member that is written for a field and describes its value in a record. -/
def Fills (r : α) (c : Column α) (x : Member) : Prop :=
  x.name = c.name ∧ ∀ n, x.value.Holds n → c.format.Describes n (c.get r)

/-- The entries of such members have the names of their fields and describe their values. -/
theorem entries_of_fills {cs : List (Column α)} {xs : List Member} {es : List (Node × Node)}
    (h : List.Forall₂ (Fills r) cs xs) (hes : List.Forall₂ Member.Holds xs es) :
    es.filterMap (fun e => nameOf e.1) = cs.map (·.name) ∧
      ∀ e ∈ es, ∃ c ∈ cs, nameOf e.1 = some c.name ∧ c.format.Describes e.2 (c.get r) := by
  induction h generalizing es with
  | nil =>
    cases hes
    exact ⟨rfl, nofun⟩
  | @cons c x cs xs hfills _ ih =>
    cases hes with
    | @cons _ e _ es he hes =>
      obtain ⟨hnames, hdescribed⟩ := ih hes
      have hname : nameOf e.1 = some c.name := by
        obtain ⟨mark, hkey⟩ := he.1
        rw [hkey, nameOf, String.ofList_toList, hfills.1]
      refine ⟨?_, List.forall_mem_cons.mpr ⟨⟨c, List.mem_cons_self, hname, hfills.2 _ he.2⟩, ?_⟩⟩
      · rw [List.filterMap_cons, hname, hnames]
        rfl
      · intro e' he'
        obtain ⟨c', hc', hdescribes⟩ := hdescribed e' he'
        exact ⟨c', List.mem_cons_of_mem c hc', hdescribes⟩

/-- An object with a member for every field describes the record. -/
theorem Table.describes_object {x : Member} {xs : List Member}
    (h : List.Forall₂ (Fills r) t.columns (x :: xs)) (hnode : (FlowText.object x xs).Holds node) :
    t.Describes start node r := by
  obtain ⟨es, mark, rfl, hes⟩ := hnode
  obtain ⟨hnames, hdescribed⟩ := entries_of_fills h hes
  refine .inl ⟨none, es, mark, rfl, ⟨fun e he => ?_, ?_, fun c hc hno => ?_, fun c hc e he hname => ?_⟩⟩
  · obtain ⟨c, -, hname, -⟩ := hdescribed e he
    rw [hname]
    rfl
  · rw [names, hnames]
    exact t.nodup.filter _
  · have hmem : c.name ∈ es.filterMap fun e => nameOf e.1 := hnames ▸ List.mem_map_of_mem hc
    obtain ⟨e, he, hname⟩ := List.mem_filterMap.mp hmem
    exact absurd hname (hno e he)
  · obtain ⟨c', hc', hname', hdescribes⟩ := hdescribed e he
    obtain rfl := t.eq_of_name_eq hc hc' (Option.some.inj (hname.symm.trans hname'))
    exact hdescribes

end Decode

/-! ## The whole text -/

namespace Settings

/-- Every text in the settings is printable. -/
structure IsPrintable (s : Settings) : Prop where
  environment : s.environment.toList.all Text.isPrintable = true
  level : ∀ logs ∈ s.logs, ∀ level ∈ logs.level, level.toList.all Text.isPrintable = true
  name : s.listen.name.toList.all Text.isPrintable = true
  host : s.listen.host.toList.all Text.isPrintable = true

/-- A level as JSON. -/
def levelText : (level : Option String) →
    (∀ l ∈ level, l.toList.all Text.isPrintable = true) → FlowText
  | none, _ => .null
  | some l, h => .string l (h l rfl)

/-- Log settings as JSON. -/
def logsText : (logs : Option LogSettings) →
    (∀ l ∈ logs, ∀ level ∈ l.level, level.toList.all Text.isPrintable = true) → FlowText
  | none, _ => .null
  | some l, h => .object ⟨"level", levelText l.level (h l rfl), by decide, by decide⟩ []

/-- Where to listen, as JSON. -/
def listenText (s : Settings) (h : s.IsPrintable) : FlowText :=
  .object ⟨"name", .string s.listen.name h.name, by decide, by decide⟩ [
    ⟨"host", .string s.listen.host h.host, by decide, by decide⟩,
    ⟨"port", .number s.listen.port.toNat, by decide, by decide⟩]

/-- A duration as JSON. -/
def hangText (s : Settings) : FlowText :=
  .object ⟨"duration", .string s.hang.human s.hang.isPrintable_human, by decide, by decide⟩ []

/-- The steps as JSON. -/
def stepsText (s : Settings) : FlowText :=
  .object ⟨"error_step", .number s.steps.error.toNat, by decide, by decide⟩ [
    ⟨"hang_step", .number s.steps.hang.toNat, by decide, by decide⟩]

/-- The fields of the server as JSON. -/
def serverText (s : Settings) (h : s.IsPrintable) : FlowText :=
  .object ⟨"env", .string s.environment h.environment, by decide, by decide⟩ [
    ⟨"mode", .string s.mode.keyword s.mode.isPrintable_keyword, by decide, by decide⟩,
    ⟨"logs", logsText s.logs h.level, by decide, by decide⟩,
    ⟨"api", s.listenText h, by decide, by decide⟩,
    ⟨"hang", s.hangText, by decide, by decide⟩,
    ⟨"counter", s.stepsText, by decide, by decide⟩]

/-- The one member of the whole. -/
def serverMember (s : Settings) (h : s.IsPrintable) : Member :=
  ⟨"server", s.serverText h, by decide, by decide⟩

theorem logsJson_eq {logs : Option LogSettings}
    (h : ∀ l ∈ logs, ∀ level ∈ l.level, level.toList.all Text.isPrintable = true) :
    logsJson logs = (logsText logs h).text := by
  cases logs with
  | none => rfl
  | some l =>
    obtain ⟨level⟩ := l
    cases level <;> rfl

theorem jsonChars_eq {s : Settings} (h : s.IsPrintable) :
    s.jsonChars = (FlowText.object (s.serverMember h) []).text := by
  rw [jsonChars, logsJson_eq h.level]
  rfl

open Decode

theorem describes_level {level : Option String} {node : Node}
    {h : ∀ l ∈ level, l.toList.all Text.isPrintable = true}
    (hnode : (levelText level h).Holds node) :
    (Format.optional .string).Describes node level := by
  cases level with
  | none =>
    obtain ⟨mark, rfl⟩ := hnode
    exact .inl ⟨⟨Json.null, mark, rfl, .inr (by decide)⟩, rfl⟩
  | some l =>
    have hstring := describes_string (h l rfl) hnode
    obtain ⟨mark, rfl⟩ := hnode
    exact .inr ⟨nofun, ⟨rfl, nofun⟩, l, hstring, rfl⟩

theorem describes_logs {logs : Option LogSettings} {node : Node}
    {h : ∀ l ∈ logs, ∀ level ∈ l.level, level.toList.all Text.isPrintable = true}
    (hnode : (logsText logs h).Holds node) : (Format.optional .logs).Describes node logs := by
  cases logs with
  | none =>
    obtain ⟨mark, rfl⟩ := hnode
    exact .inl ⟨⟨Json.null, mark, rfl, .inr (by decide)⟩, rfl⟩
  | some l =>
    have hrecord : Format.logs.Describes node l :=
      Table.describes_object (.cons ⟨rfl, fun _ => describes_level⟩ .nil) hnode
    obtain ⟨es, mark, rfl, -⟩ := hnode
    exact .inr ⟨nofun, ⟨rfl, nofun⟩, l, hrecord, rfl⟩

theorem describes_listen {s : Settings} (h : s.IsPrintable) {node : Node}
    (hnode : (s.listenText h).Holds node) : Format.listen.Describes node s.listen :=
  Table.describes_object (.cons ⟨rfl, fun _ => describes_string h.name⟩
    (.cons ⟨rfl, fun _ => describes_string h.host⟩ (.cons ⟨rfl, fun _ => describes_port⟩ .nil))) hnode

theorem describes_hang {s : Settings} {node : Node} (hnode : s.hangText.Holds node) :
    Format.hang.Describes node s.hang :=
  Table.describes_object (.cons ⟨rfl, fun _ => describes_duration⟩ .nil) hnode

theorem describes_steps {s : Settings} {node : Node} (hnode : s.stepsText.Holds node) :
    Format.steps.Describes node s.steps :=
  Table.describes_object
    (.cons ⟨rfl, fun _ => describes_step⟩ (.cons ⟨rfl, fun _ => describes_step⟩ .nil)) hnode

theorem describes_server {s : Settings} (h : s.IsPrintable) {node : Node}
    (hnode : (s.serverText h).Holds node) : Format.server.Describes node s :=
  Table.describes_object (.cons ⟨rfl, fun _ => describes_string h.environment⟩
    (.cons ⟨rfl, fun _ => describes_mode⟩ (.cons ⟨rfl, fun _ => describes_logs⟩
      (.cons ⟨rfl, fun _ => describes_listen h⟩ (.cons ⟨rfl, fun _ => describes_hang⟩
        (.cons ⟨rfl, fun _ => describes_steps⟩ .nil)))))) hnode

/-- The root of a document that is read from the JSON of settings describes them. -/
theorem describes_root {s : Settings} (h : s.IsPrintable) {node : Node}
    (hnode : (FlowText.object (s.serverMember h) []).Holds node) :
    Format.root.Describes node s :=
  Table.describes_object (.cons ⟨rfl, fun _ => describes_server h⟩ .nil) hnode

theorem decode_json {s : Settings} (h : s.IsPrintable) : Settings.decode s.json = .ok s := by
  obtain ⟨n, hn, htext⟩ := FlowText.ofText_object (s.serverMember h) []
  rw [Settings.decode, json, String.toList_ofList, jsonChars_eq h, htext]
  exact Format.root.sound (describes_root h hn) _

/-- The JSON of settings is a configuration of just these settings, if their texts are printable and
the server may listen on their host; the text of any duration is read as that duration. -/
theorem ofYaml_json :
    (∀ s : Settings, s.IsPrintable → (∃ address, s.listenAddress = .ok address) →
      Settings.ofYaml s.json = .ok s) ∧
    ∀ d : Duration, Duration.ofHuman d.human = .ok d := by
  refine ⟨fun s h ⟨address, haddress⟩ => ?_, Duration.ofHuman_human⟩
  rw [ofYaml, decode_json h, Except.ok_bind, haddress]
  rfl

/-- Settings of which every field is hard to write. -/
def awkward : Settings where
  environment := " \"quoted\", \\ back: \x7bslash\x7d # "
  mode := .hangOnly
  logs := some ⟨some "null"⟩
  listen := ⟨"- 0x10", "::1", 65535⟩
  hang := ⟨18446744073709551615, 999999999, by decide, by decide⟩
  steps := ⟨18446744073709551615, 0⟩

theorem ofYaml_json_awkward :
    awkward.IsPrintable ∧ (∃ address, awkward.listenAddress = .ok address) ∧
      Settings.ofYaml awkward.json = .ok awkward ∧
      Duration.ofHuman awkward.hang.human = .ok awkward.hang := by
  have hprintable : awkward.IsPrintable :=
    ⟨by decide, by rintro l ⟨⟩ level ⟨⟩; decide, by decide, by decide⟩
  have haddress : ∃ address, awkward.listenAddress = .ok address := 
    ⟨⟨.v6 ⟨[0, 0, 0, 0, 0, 0, 0, 1], rfl⟩, 65535⟩, by decide +kernel⟩
  exact ⟨hprintable, haddress, ofYaml_json.1 awkward hprintable haddress,
    ofYaml_json.2 awkward.hang⟩

end Settings

end FaultyServer
