import FaultyServer.Proofs.Settings.Format
import Mathlib.Logic.Relation

/-!
# Rearranging a configuration

What may be done to a document without changing what it describes: the entries of any mapping may
change places, and any of the six records of a configuration may get entries of unknown names. An
`Edit` is one such change, at any depth; nodes may also begin at other positions, as they do in a
text that has been edited.

`Respects` says of a format that edits do not change what nodes describe in it. It passes from the
fields of a record to the record (`respects_format`), and so from scalars up to the whole
configuration (`respects_root`).
-/

namespace FaultyServer

open Yaml (Document Node Mark TagBytes)

/-- The same node at another position. -/
def Yaml.Node.withMark (mark : Mark) : Node → Node
  | .scalar tag text style _ => .scalar tag text style mark
  | .sequence tag items _ => .sequence tag items mark
  | .mapping tag es _ => .mapping tag es mark
  | .reference id _ => .reference id mark

namespace Decode

/-- The records of a configuration. -/
inductive Section
  | root
  | server
  | logs
  | listen
  | hang
  | steps
  deriving DecidableEq

namespace Section

/-- The names that a record knows. -/
def names : Section → List String
  | root => ["server"]
  | server => ["env", "mode", "logs", "api", "hang", "counter"]
  | logs => ["level"]
  | listen => ["name", "host", "port"]
  | hang => ["duration"]
  | steps => ["error_step", "hang_step"]

/-- The record that is the value of an entry. -/
def inner? : Section → String → Option Section
  | root, "server" => some server
  | server, "logs" => some logs
  | server, "api" => some listen
  | server, "hang" => some hang
  | server, "counter" => some steps
  | _, _ => none

end Section

/-- The record that is the value of an entry with this key, if it is within a record itself. -/
def innerSection (place : Option Section) (key : Node) : Option Section :=
  place.bind fun r => (nameOf key).bind r.inner?

/-- A change of a node, which is a record of the configuration or none of them. -/
inductive Edit : Option Section → Node → Node → Prop
  /-- The node begins elsewhere. -/
  | move {place : Option Section} (node : Node) (mark : Mark) : Edit place node (node.withMark mark)
  /-- Entries change places. -/
  | permute {place : Option Section} {tag : Option TagBytes} {es es' : List (Node × Node)}
      {mark : Mark} (h : es.Perm es') : Edit place (.mapping tag es mark) (.mapping tag es' mark)
  /-- A record gets an entry of an unknown name, with any value. -/
  | insert {record : Section} {tag : Option TagBytes} {before after : List (Node × Node)}
      {mark : Mark} {key value : Node} {name : String} (hkey : nameOf key = some name)
      (hname : name ∉ record.names) :
      Edit (some record) (.mapping tag (before ++ after) mark)
        (.mapping tag (before ++ (key, value) :: after) mark)
  /-- The key of an entry is changed. -/
  | key {place : Option Section} {tag : Option TagBytes} {before after : List (Node × Node)}
      {mark : Mark} {key key' value : Node} (h : Edit none key key') :
      Edit place (.mapping tag (before ++ (key, value) :: after) mark)
        (.mapping tag (before ++ (key', value) :: after) mark)
  /-- The value of an entry is changed. -/
  | value {place : Option Section} {tag : Option TagBytes} {before after : List (Node × Node)}
      {mark : Mark} {key value value' : Node} (h : Edit (innerSection place key) value value') :
      Edit place (.mapping tag (before ++ (key, value) :: after) mark)
        (.mapping tag (before ++ (key, value') :: after) mark)
  /-- An item of a sequence is changed. -/
  | item {place : Option Section} {tag : Option TagBytes} {before after : List Node} {mark : Mark}
      {item item' : Node} (h : Edit none item item') :
      Edit place (.sequence tag (before ++ item :: after) mark)
        (.sequence tag (before ++ item' :: after) mark)

/-- Edits of a node do not change what it describes in the format. -/
def Respects {β : Type} (place : Option Section) (f : Format β) : Prop :=
  ∀ (node node' : Node) (x : β), Edit place node node' → f.Describes node x → f.Describes node' x

variable {α β : Type} {place : Option Section} {node node' : Node} {name : String}

/-- A scalar can only be moved. -/
theorem Edit.isScalar {means : Meaning β} {x : β} (h : Edit place node node')
    (hnode : IsScalar means node x) : IsScalar means node' x := by
  obtain ⟨tag, text, style, mark, rfl, hx⟩ := hnode
  cases h with
  | move _ mark' => exact ⟨tag, text, style, mark', rfl, hx⟩

theorem respects_ofScalar {decode : Surroundings → Node → Decoded β} {means : Meaning β}
    (h : ∀ {s node x}, decode s node = .ok x ↔ IsScalar means (s.doc.follow node) x) :
    Respects place (Format.ofScalar decode means h) :=
  fun _ _ _ hedit hnode => hedit.isScalar hnode

/-- A key that names an entry goes on to name it. -/
theorem Edit.nameOf_eq (h : Edit place node node') (hname : nameOf node = some name) :
    nameOf node' = some name := by
  cases h with
  | move node mark => cases node <;> exact hname
  | _ => cases hname

theorem Edit.isNull_iff (h : Edit place node node') : IsNull node' ↔ IsNull node := by
  cases h with
  | move node mark => cases node <;> simp [IsNull, Node.withMark]
  | _ => simp [IsNull]

theorem Edit.isUntagged (h : Edit place node node') (hnode : IsUntagged node) :
    IsUntagged node' := by
  cases h with
  | move node mark =>
    cases node with
    | reference id mark' => exact absurd rfl (hnode.2 id mark')
    | _ => exact ⟨hnode.1, nofun⟩
  | _ => exact ⟨hnode.1, nofun⟩

theorem respects_optional {f : Format β} (h : Respects place f) : Respects place f.optional := by
  intro node node' x hedit hnode
  obtain ⟨hnull, rfl⟩ | ⟨hnull, huntagged, y, hy, rfl⟩ := hnode
  · exact .inl ⟨hedit.isNull_iff.mpr hnull, rfl⟩
  · exact .inr ⟨fun h => hnull (hedit.isNull_iff.mp h), hedit.isUntagged huntagged, y,
      h node node' y hedit hy, rfl⟩

/-- A record respects edits if the formats of its fields do. -/
theorem respects_format {t : Table α} {typeName : String} {start : α} {record : Section}
    (hnames : t.columns.map (·.name) = record.names)
    (h : ∀ c ∈ t.columns, Respects (record.inner? c.name) c.format) :
    Respects (some record) (t.format typeName start) := by
  intro node node' r hedit hnode
  obtain ⟨tag, es, mark, rfl, hes⟩ | ⟨tag, mark, rfl, rfl⟩ := hnode
  · cases hedit with
    | move _ mark' => exact .inl ⟨tag, es, mark', rfl, hes⟩
    | permute hperm => exact .inl ⟨tag, _, mark, rfl, hes.perm hperm⟩
    | insert hkey hname => exact .inl ⟨tag, _, mark, rfl, hes.insert hkey (hnames ▸ hname)⟩
    | @key _ _ before after _ key key' value hkey =>
      obtain ⟨name, hname⟩ := Option.isSome_iff_exists.mp (hes.named (key, value) (by simp))
      refine .inl ⟨tag, _, mark, rfl, hes.replace ?_ fun c _ _ v hv => hv⟩
      exact (hkey.nameOf_eq hname).trans hname.symm
    | @value _ _ before after _ key value value' hvalue =>
      refine .inl ⟨tag, _, mark, rfl, hes.replace rfl fun c hc hname v hv => ?_⟩
      have hplace : innerSection (some record) key = record.inner? c.name := by
        simp only [innerSection, Option.bind_some, hname]
      exact h c hc value value' v (hplace ▸ hvalue) hv
  · cases hedit with
    | move _ mark' => exact .inr ⟨tag, mark', rfl, rfl⟩

theorem respects_logs : Respects (some .logs) Format.logs :=
  respects_format rfl <| List.forall_mem_singleton.mpr (respects_optional (respects_ofScalar string_eq_ok))

theorem respects_listen : Respects (some .listen) Format.listen := by
  refine respects_format rfl ?_
  simp only [Table.listen, List.forall_mem_cons]
  exact ⟨respects_ofScalar string_eq_ok, respects_ofScalar string_eq_ok,
    respects_ofScalar word_eq_ok, nofun⟩

theorem respects_hang : Respects (some .hang) Format.hang :=
  respects_format rfl <| List.forall_mem_singleton.mpr (respects_ofScalar duration_eq_ok)

theorem respects_steps : Respects (some .steps) Format.steps := by
  refine respects_format rfl ?_
  simp only [Table.steps, List.forall_mem_cons]
  exact ⟨respects_ofScalar word_eq_ok, respects_ofScalar word_eq_ok, nofun⟩

theorem respects_server : Respects (some .server) Format.server := by
  refine respects_format rfl ?_
  simp only [Table.server, List.forall_mem_cons]
  exact ⟨respects_ofScalar string_eq_ok, respects_ofScalar mode_eq_ok,
    respects_optional respects_logs, respects_listen, respects_hang, respects_steps, nofun⟩

/-- Edits of a configuration do not change what it describes. -/
theorem respects_root : Respects (some .root) Format.root :=
  respects_format rfl <| List.forall_mem_singleton.mpr respects_server

/-- Neither do several of them. -/
theorem describes_of_edits {x : Settings}
    (h : Relation.ReflTransGen (Edit (some .root)) node node')
    (hnode : Format.root.Describes node x) : Format.root.Describes node' x := by
  induction h with
  | refl => exact hnode
  | tail _ hedit ih => exact respects_root _ _ x hedit ih

end Decode

end FaultyServer
