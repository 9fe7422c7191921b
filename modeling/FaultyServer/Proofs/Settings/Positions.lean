import FaultyServer.Proofs.Settings.Format

/-!
# Positions do not matter

A document says where each of its nodes begins. This is for messages only: two documents that are
the same without their positions give the same settings, if they give any
(`Settings.ofDocument_unmarked`). The same holds of the decoder of each format
(`Format.IgnoresMarks`), and passes from the fields of a record to the record. Of the document
around a node only the anchored nodes count, as aliases stand for them.
-/

namespace FaultyServer

namespace Yaml

mutual

/-- A node without its positions. -/
def Node.unmarked : Node → Node
  | .scalar tag text style _ => .scalar tag text style .start
  | .sequence tag items _ => .sequence tag (Node.unmarkedItems items) .start
  | .mapping tag es _ => .mapping tag (Node.unmarkedEntries es) .start
  | .reference id _ => .reference id .start

/-- Items without their positions. -/
def Node.unmarkedItems : List Node → List Node
  | [] => []
  | item :: items => item.unmarked :: Node.unmarkedItems items

/-- Entries without their positions. -/
def Node.unmarkedEntries : List (Node × Node) → List (Node × Node)
  | [] => []
  | (key, value) :: es => (key.unmarked, value.unmarked) :: Node.unmarkedEntries es

end

/-- An anchored node without its positions. -/
def Anchored.unmarked (a : Anchored) : Anchored := { a with node := a.node.unmarked }

/-- A document without its positions. -/
def Document.unmarked (doc : Document) : Document :=
  ⟨doc.root.map Node.unmarked, doc.anchored.map Anchored.unmarked⟩

/-- The anchored nodes of the second document are those of the first without their positions. -/
def Document.Unmarks (doc doc' : Document) : Prop :=
  doc'.anchored = doc.anchored.map Anchored.unmarked

variable {doc doc' : Document}

theorem Node.unmarkedEntries_eq_map (es : List (Node × Node)) :
    Node.unmarkedEntries es = es.map (Prod.map Node.unmarked Node.unmarked) := by
  induction es with
  | nil => rfl
  | cons e es ih => rw [Node.unmarkedEntries, ih, List.map_cons, Prod.map]

theorem Anchored.last_unmarked (latest : Option Anchored) (a : Anchored) :
    Anchored.last (latest.map unmarked) a.unmarked = (Anchored.last latest a).map unmarked := by
  cases latest with
  | none => rfl
  | some b => exact (apply_ite (Option.map unmarked) (b.order < a.order) (some a) (some b)).symm

theorem Document.Unmarks.target? (h : doc.Unmarks doc') (id : Nat) :
    doc'.target? id = (doc.target? id).map Node.unmarked := by
  have hcandidates : (doc.anchored.map Anchored.unmarked).filter (·.id == id) =
      (doc.anchored.filter (·.id == id)).map Anchored.unmarked := List.filter_map
  have hlast : ∀ l : List Anchored,
      l.foldl (fun latest a => Anchored.last latest a.unmarked)
        (Option.map Anchored.unmarked none) =
          (l.foldl Anchored.last none).map Anchored.unmarked :=
    fun l => List.foldl_hom (Option.map Anchored.unmarked) Anchored.last_unmarked
  rw [Option.map_none] at hlast
  rw [Document.target?, Document.target?, h, hcandidates, List.foldl_map, hlast, Option.map_map,
    Option.map_map]
  rfl

theorem Document.Unmarks.follow (h : doc.Unmarks doc') (node : Node) :
    doc'.follow node.unmarked = (doc.follow node).unmarked := by
  cases node with
  | reference id mark =>
    rw [Document.follow, Node.unmarked, Document.follow, h.target?]
    cases doc.target? id <;> rfl
  | _ => rfl

end Yaml

open Yaml (Document Node)

namespace Decode

variable {α β : Type} {s s' : Surroundings} {node : Node}

/-! ## Scalars and values that may be missing -/

/-- What a node is decoded as does not depend on positions. -/
def Format.IgnoresMarks (f : Format β) : Prop :=
  ∀ (s s' : Surroundings) (node : Node) (x : β), s.doc.Unmarks s'.doc →
    (f.decode s' node.unmarked = .ok x ↔ f.decode s node = .ok x)

theorem isScalar_unmarked {means : Meaning β} {x : β} :
    IsScalar means node.unmarked x ↔ IsScalar means node x := by
  cases node <;> simp [IsScalar, Node.unmarked]

theorem ignoresMarks_ofScalar {decode : Surroundings → Node → Decoded β} {means : Meaning β}
    (h : ∀ {s node x}, decode s node = .ok x ↔ IsScalar means (s.doc.follow node) x) :
    (Format.ofScalar decode means h).IgnoresMarks := by
  intro s s' node x hdoc
  change decode s' node.unmarked = .ok x ↔ decode s node = .ok x
  rw [h, h, hdoc.follow, isScalar_unmarked]

/-- Whether there is a value does not depend on positions, and so neither does the value. -/
theorem ignoresMarks_optional {f : Format β} (h : f.IgnoresMarks) : f.optional.IgnoresMarks := by
  intro s s' node x hdoc
  have hsome : some <$> f.decode s' node.unmarked = .ok x ↔ some <$> f.decode s node = .ok x := by
    simp only [Except.map_eq_ok, h _ _ _ _ hdoc]
  change optional f.decode s' node.unmarked = .ok x ↔ optional f.decode s node = .ok x
  rw [optional, optional, hdoc.follow]
  cases s.doc.follow node with
  | scalar tag text style mark =>
    cases style with
    | plain =>
      cases tag with
      | none =>
        cases text with
        | nil => exact Iff.rfl
        | cons c cs =>
          simp only [Node.unmarked]
          split
          · rfl
          · exact hsome
      | some tag =>
        simp only [Node.unmarked]
        split
        · rfl
        · exact hsome
    | _ => cases tag <;> cases text <;> exact hsome
  | _ => exact hsome

/-! ## Records -/

section Records

variable {t : Table α} {start r : α} {es : List (Node × Node)}

theorem nameIn_unmarked {doc doc' : Document} (hdoc : doc.Unmarks doc') (key : Node) :
    nameIn doc' key.unmarked = nameIn doc key := by
  rw [nameIn, nameIn, hdoc.follow]
  cases doc.follow key <;> rfl

theorem enter_unmarked (hdoc : s.doc.Unmarks s'.doc) (key key' : Node) :
    (Surroundings.enter s key).doc.Unmarks (Surroundings.enter s' key').doc := by
  cases key <;> cases key' <;> exact hdoc

namespace Table

/-- Entries say what they say if each of them is put in another way. -/
theorem fits_map {nameOf nameOf' : Naming} {f : Node × Node → Node × Node}
    {Holds Holds' : (c : Column α) → Node × Node → c.Value → Prop}
    (hname : ∀ e ∈ es, nameOf' (f e).1 = nameOf e.1)
    (hvalue : ∀ c ∈ t.columns, ∀ e ∈ es, ∀ v, Holds' c (f e) v ↔ Holds c e v) :
    t.Fits nameOf' Holds' start (es.map f) r ↔ t.Fits nameOf Holds start es r := by
  have hnames : t.names nameOf' (es.map f) = t.names nameOf es := by
    rw [names, names, List.filterMap_map]
    exact congrArg _ (List.filterMap_congr hname)
  constructor
  · intro h
    exact ⟨fun e he => hname e he ▸ h.named (f e) (List.mem_map_of_mem he), hnames ▸ h.nodup,
      fun c hc hno => h.missing c hc <| List.forall_mem_map.mpr fun e he =>
        (hname e he).symm ▸ hno e he,
      fun c hc e he heq => (hvalue c hc e he _).mp <|
        h.given c hc (f e) (List.mem_map_of_mem he) ((hname e he).trans heq)⟩
  · intro h
    refine ⟨List.forall_mem_map.mpr fun e he => (hname e he).symm ▸ h.named e he,
      hnames.symm ▸ h.nodup, fun c hc hno => h.missing c hc fun e he => ?_,
      fun c hc => List.forall_mem_map.mpr fun e he heq => ?_⟩
    · exact hname e he ▸ hno (f e) (List.mem_map_of_mem he)
    · exact (hvalue c hc e he _).mpr (h.given c hc e he ((hname e he).symm.trans heq))

/-- A record ignores positions if the formats of its fields do. -/
theorem ignoresMarks_format {typeName : String} (h : ∀ c ∈ t.columns, c.format.IgnoresMarks) :
    (t.format typeName start).IgnoresMarks := by
  intro s s' node r hdoc
  change record typeName t.fields start s' node.unmarked = .ok r ↔
    record typeName t.fields start s node = .ok r
  have hreads : ∀ es, t.Reads s' start (es.map (Prod.map Node.unmarked Node.unmarked)) r ↔
      t.Reads s start es r := fun es => fits_map (fun e _ => nameIn_unmarked hdoc e.1)
    fun c hc e _ v => h c hc _ _ e.2 v (enter_unmarked hdoc e.1 e.1.unmarked)
  rw [record_eq_ok, record_eq_ok, hdoc.follow]
  cases s.doc.follow node with
  | mapping tag es mark => simp [Node.unmarked, Yaml.Node.unmarkedEntries_eq_map, hreads]
  | _ => simp [Node.unmarked]

end Table

end Records

namespace Format

theorem ignoresMarks_logs : Format.logs.IgnoresMarks :=
  Table.ignoresMarks_format <| List.forall_mem_singleton.mpr <|
    ignoresMarks_optional (ignoresMarks_ofScalar string_eq_ok)

theorem ignoresMarks_listen : Format.listen.IgnoresMarks := by
  refine Table.ignoresMarks_format ?_
  simp only [Table.listen, List.forall_mem_cons]
  exact ⟨ignoresMarks_ofScalar string_eq_ok, ignoresMarks_ofScalar string_eq_ok,
    ignoresMarks_ofScalar word_eq_ok, nofun⟩

theorem ignoresMarks_hang : Format.hang.IgnoresMarks :=
  Table.ignoresMarks_format <| List.forall_mem_singleton.mpr <|
    ignoresMarks_ofScalar duration_eq_ok

theorem ignoresMarks_steps : Format.steps.IgnoresMarks := by
  refine Table.ignoresMarks_format ?_
  simp only [Table.steps, List.forall_mem_cons]
  exact ⟨ignoresMarks_ofScalar word_eq_ok, ignoresMarks_ofScalar word_eq_ok, nofun⟩

theorem ignoresMarks_server : Format.server.IgnoresMarks := by
  refine Table.ignoresMarks_format ?_
  simp only [Table.server, List.forall_mem_cons]
  exact ⟨ignoresMarks_ofScalar string_eq_ok, ignoresMarks_ofScalar mode_eq_ok,
    ignoresMarks_optional ignoresMarks_logs, ignoresMarks_listen, ignoresMarks_hang,
    ignoresMarks_steps, nofun⟩

theorem ignoresMarks_root : Format.root.IgnoresMarks :=
  Table.ignoresMarks_format <| List.forall_mem_singleton.mpr ignoresMarks_server

/-- Nor does what a node is decoded as depend on the document around it, if that has the same
anchored nodes. -/
theorem IgnoresMarks.decode_congr {f : Format β} (h : f.IgnoresMarks)
    (hdoc : s'.doc.anchored = s.doc.anchored) (node : Node) (x : β) :
    f.decode s' node = .ok x ↔ f.decode s node = .ok x := by
  have hunmarks : s.doc.Unmarks (s.doc.unmarked) := rfl
  have hunmarks' : s'.doc.Unmarks (s.doc.unmarked) :=
    congrArg (List.map Yaml.Anchored.unmarked) hdoc.symm
  exact (h s' ⟨s.doc.unmarked, []⟩ node x hunmarks').symm.trans (h s _ node x hunmarks)

end Format

end Decode

namespace Settings

variable {doc doc' : Document} {cfg : Settings}

/-- The settings that a document gives do not depend on positions. -/
theorem ofDocument_unmarked : ofDocument doc.unmarked = .ok cfg ↔ ofDocument doc = .ok cfg := by
  rw [ofDocument, ofDocument, Document.unmarked]
  cases doc.root with
  | none => rfl
  | some root => exact Decode.Format.ignoresMarks_root ⟨doc, []⟩ _ root cfg rfl

end Settings

end FaultyServer
