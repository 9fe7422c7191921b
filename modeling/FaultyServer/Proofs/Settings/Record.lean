import FaultyServer.Proofs.Except
import FaultyServer.Settings.Decode
import Mathlib.Data.List.Nodup
import Mathlib.Tactic.Tauto

/-!
# Records, field by field

The entries of a record are read one after the other, each into the record that those before it have
left. Seen from its end this is a statement about each field by itself (`Table.record_eq_ok`): all
entries have names, no known name comes twice, and a field has the value of its own entry, or its
initial value if it has none. The order of the entries does not matter to that, nor do entries of
unknown names.

For this the fields of a record have to be independent of each other. A `Table` says so, as the laws
of reading and writing: a field holds what has been written to it, writing another leaves it alone,
and a record is no more than its fields.
-/

namespace FaultyServer

open Yaml (Document Node Mark)

/-- A node that no anchor or alias, nor a tag, belongs to. -/
inductive Yaml.Node.IsBare : Node → Prop
  | scalar (text : List Char) (style : Yaml.ScalarStyle) (mark : Mark) :
      IsBare (.scalar none text style mark)
  | sequence {items : List Node} (mark : Mark) (h : ∀ n ∈ items, IsBare n) :
      IsBare (.sequence none items mark)
  | mapping {es : List (Node × Node)} (mark : Mark) (key : ∀ e ∈ es, IsBare e.1)
      (value : ∀ e ∈ es, IsBare e.2) : IsBare (.mapping none es mark)

theorem Yaml.Document.follow_of_isBare {doc : Document} {n : Node} (h : n.IsBare) :
    doc.follow n = n := by
  cases h <;> rfl

namespace Decode

/-- A decoder, and what the nodes that it reads without any aliases describe. -/
structure Format (β : Type) where
  decode : Surroundings → Node → Decoded β
  Describes : Node → β → Prop
  sound : ∀ {n x}, Describes n x → ∀ s, decode s n = .ok x
  complete : ∀ {s n x}, n.IsBare → decode s n = .ok x → Describes n x

/-- A field of a record with the entry that sets it. -/
structure Column (α : Type) where
  name : String
  Value : Type
  format : Format Value
  get : α → Value
  set : α → Value → α
  get_set : ∀ r v, get (set r v) = v

/-- How entries set the field. -/
def Column.field {α : Type} (c : Column α) : Field α := Decode.field c.name c.format.decode c.set

/-- All the fields of a record. -/
structure Table (α : Type) where
  columns : List (Column α)
  nodup : (columns.map (·.name)).Nodup
  get_set_of_ne : ∀ c ∈ columns, ∀ c' ∈ columns, c'.name ≠ c.name →
    ∀ r v, c'.get (c.set r v) = c'.get r
  ext : ∀ r r', (∀ c ∈ columns, c.get r = c.get r') → r = r'

/-- How the keys of entries are named. -/
abbrev Naming := Node → Option String

namespace Table

variable {α : Type} (t : Table α)

/-- How entries set the fields. -/
def fields : List (Field α) := t.columns.map Column.field

/-- The names among those of the entries that the record knows. -/
def names (nameOf : Naming) (es : List (Node × Node)) : List String :=
  (es.filterMap fun e => nameOf e.1).filter fun name => decide (name ∈ t.columns.map (·.name))

/-- What entries say about the record that is read from them, where `Holds` is what an entry says
about its field. -/
structure Fits (nameOf : Naming) (Holds : (c : Column α) → Node × Node → c.Value → Prop)
    (start : α) (es : List (Node × Node)) (r : α) : Prop where
  named : ∀ e ∈ es, (nameOf e.1).isSome
  nodup : (t.names nameOf es).Nodup
  missing : ∀ c ∈ t.columns, (∀ e ∈ es, nameOf e.1 ≠ some c.name) → c.get r = c.get start
  given : ∀ c ∈ t.columns, ∀ e ∈ es, nameOf e.1 = some c.name → Holds c e (c.get r)

end Table

/-! ## What entries say -/

section Fits

variable {α : Type} {t : Table α} {nameOf nameOf' : Naming}
  {Holds Holds' : (c : Column α) → Node × Node → c.Value → Prop} {start r : α} {name : String}
  {e e' : Node × Node} {es es' before after : List (Node × Node)}

namespace Table

/-- There is one field of a name. -/
theorem eq_of_name_eq {c c' : Column α} (hc : c ∈ t.columns) (hc' : c' ∈ t.columns)
    (h : c.name = c'.name) : c = c' :=
  List.inj_on_of_nodup_map t.nodup hc hc' h

theorem names_cons (he : nameOf e.1 = some name) :
    t.names nameOf (e :: es) =
      if name ∈ t.columns.map (·.name) then name :: t.names nameOf es
      else t.names nameOf es := by
  simp only [names, List.filterMap_cons, he, List.filter_cons, decide_eq_true_eq]

theorem mem_names {c : Column α} (hc : c ∈ t.columns) :
    c.name ∈ t.names nameOf es ↔ ∃ e ∈ es, nameOf e.1 = some c.name := by
  rw [names, List.mem_filter, List.mem_filterMap]
  exact and_iff_left (decide_eq_true (List.mem_map_of_mem hc))

/-- Entries of unknown names say nothing. -/
theorem fits_cons_unknown (he : nameOf e.1 = some name) (hname : name ∉ t.columns.map (·.name)) :
    t.Fits nameOf Holds start (e :: es) r ↔ t.Fits nameOf Holds start es r := by
  have hother : ∀ c ∈ t.columns, nameOf e.1 ≠ some c.name := by
    intro c hc heq
    obtain rfl := Option.some.inj (he.symm.trans heq)
    exact hname (List.mem_map_of_mem hc)
  have hnames : t.names nameOf (e :: es) = t.names nameOf es := by
    rw [names_cons he, if_neg hname]
  constructor
  · intro h
    exact ⟨(List.forall_mem_cons.mp h.named).2, hnames ▸ h.nodup,
      fun c hc hno => h.missing c hc (List.forall_mem_cons.mpr ⟨hother c hc, hno⟩),
      fun c hc e' he' => h.given c hc e' (List.mem_cons_of_mem e he')⟩
  · intro h
    refine ⟨List.forall_mem_cons.mpr ⟨by rw [he]; rfl, h.named⟩, hnames ▸ h.nodup,
      fun c hc hno => h.missing c hc (List.forall_mem_cons.mp hno).2, fun c hc e' he' heq => ?_⟩
    rcases List.mem_cons.mp he' with rfl | he'
    · exact absurd heq (hother c hc)
    · exact h.given c hc e' he' heq

/-- An entry of a field sets it, and none after it names it again. -/
theorem fits_cons_known {c : Column α} {v : c.Value} (hc : c ∈ t.columns)
    (he : nameOf e.1 = some c.name) (hv : ∀ w, Holds c e w ↔ v = w) :
    t.Fits nameOf Holds start (e :: es) r ↔
      t.Fits nameOf Holds (c.set start v) es r ∧ c.name ∉ t.names nameOf es := by
  have hnames : t.names nameOf (e :: es) = c.name :: t.names nameOf es := by
    rw [names_cons he, if_pos (List.mem_map_of_mem hc)]
  constructor
  · intro h
    obtain ⟨hmem, hnodup⟩ := List.nodup_cons.mp (hnames ▸ h.nodup)
    have hvalue : v = c.get r := (hv _).mp (h.given c hc e List.mem_cons_self he)
    refine ⟨⟨(List.forall_mem_cons.mp h.named).2, hnodup, fun c' hc' hno => ?_,
      fun c' hc' e' he' => h.given c' hc' e' (List.mem_cons_of_mem e he')⟩, hmem⟩
    by_cases hne : c'.name = c.name
    · obtain rfl := t.eq_of_name_eq hc' hc hne
      rw [← hvalue, c'.get_set]
    · rw [t.get_set_of_ne c hc c' hc' hne]
      refine h.missing c' hc' (List.forall_mem_cons.mpr ⟨fun heq => hne ?_, hno⟩)
      exact Option.some.inj (heq.symm.trans he)
  · rintro ⟨h, hmem⟩
    refine ⟨List.forall_mem_cons.mpr ⟨by rw [he]; rfl, h.named⟩,
      hnames ▸ List.nodup_cons.mpr ⟨hmem, h.nodup⟩, fun c' hc' hno => ?_,
      fun c' hc' e' he' heq => ?_⟩
    · obtain ⟨hne, hno⟩ := List.forall_mem_cons.mp hno
      rw [h.missing c' hc' hno, t.get_set_of_ne c hc c' hc']
      exact fun heq => hne (heq ▸ he)
    · rcases List.mem_cons.mp he' with rfl | he'
      · obtain rfl := t.eq_of_name_eq hc' hc (Option.some.inj (heq.symm.trans he))
        have hno : ∀ e ∈ es, nameOf e.1 ≠ some c'.name :=
          fun e he heq => hmem ((mem_names hc').mpr ⟨e, he, heq⟩)
        rw [h.missing c' hc' hno, c'.get_set]
        exact (hv v).mpr rfl
      · exact h.given c' hc' e' he' heq

namespace Fits

/-- The order of the entries does not matter. -/
theorem perm (h : t.Fits nameOf Holds start es r) (hes : es.Perm es') :
    t.Fits nameOf Holds start es' r where
  named e he := h.named e (hes.mem_iff.mpr he)
  nodup := ((hes.filterMap _).filter _).nodup_iff.mp h.nodup
  missing c hc hno := h.missing c hc fun e he => hno e (hes.mem_iff.mp he)
  given c hc e he := h.given c hc e (hes.mem_iff.mpr he)

/-- An entry of an unknown name may stand anywhere. -/
theorem insert (h : t.Fits nameOf Holds start (before ++ after) r) (he : nameOf e.1 = some name)
    (hname : name ∉ t.columns.map (·.name)) :
    t.Fits nameOf Holds start (before ++ e :: after) r :=
  ((fits_cons_unknown he hname).mpr h).perm List.perm_middle.symm

/-- The value of an entry may be another one that says the same. -/
theorem replace (h : t.Fits nameOf Holds start (before ++ e :: after) r)
    (hname : nameOf e'.1 = nameOf e.1)
    (hvalue : ∀ c ∈ t.columns, nameOf e.1 = some c.name → ∀ v, Holds c e v → Holds c e' v) :
    t.Fits nameOf Holds start (before ++ e' :: after) r := by
  have hfront := h.perm List.perm_middle
  refine Fits.perm ?_ List.perm_middle.symm
  obtain ⟨hnamed, hrest⟩ := List.forall_mem_cons.mp hfront.named
  refine ⟨List.forall_mem_cons.mpr ⟨hname ▸ hnamed, hrest⟩, ?_, fun c hc hno => ?_,
    fun c hc d hd heq => ?_⟩
  · have hnodup := hfront.nodup
    simpa only [names, List.filterMap_cons, hname] using hnodup
  · obtain ⟨hne, hno⟩ := List.forall_mem_cons.mp hno
    exact hfront.missing c hc (List.forall_mem_cons.mpr ⟨hname ▸ hne, hno⟩)
  · rcases List.mem_cons.mp hd with rfl | hd
    · rw [hname] at heq
      exact hvalue c hc heq _ (hfront.given c hc e List.mem_cons_self heq)
    · exact hfront.given c hc d (List.mem_cons_of_mem e hd) heq

/-- The same entries may say the same in other ways. -/
theorem imp (h : t.Fits nameOf Holds start es r) (hname : ∀ e ∈ es, nameOf' e.1 = nameOf e.1)
    (hvalue : ∀ c ∈ t.columns, ∀ e ∈ es, ∀ v, Holds c e v → Holds' c e v) :
    t.Fits nameOf' Holds' start es r where
  named e he := hname e he ▸ h.named e he
  nodup := by
    have hnames : es.filterMap (fun e => nameOf' e.1) = es.filterMap fun e => nameOf e.1 :=
      List.filterMap_congr hname
    rw [names, hnames]
    exact h.nodup
  missing c hc hno := h.missing c hc fun e he => hname e he ▸ hno e he
  given c hc e he heq := hvalue c hc e he _ (h.given c hc e he (hname e he ▸ heq))

end Fits

end Table

end Fits

/-! ## Reading entries -/

section Reading

variable {α β : Type} {t : Table α} {s : Surroundings} {start r : α} {key node : Node}
  {name : String} {es : List (Node × Node)}

/-- The name of an entry with this key, if it has one. -/
def nameIn (doc : Document) (key : Node) : Option String :=
  match doc.follow key with
  | .scalar _ text _ _ => some (String.ofList text)
  | _ => none

/-- What the entries of a record say in a document. -/
abbrev Table.Reads (t : Table α) (s : Surroundings) : α → List (Node × Node) → α → Prop :=
  t.Fits (nameIn s.doc) fun c e v => c.format.decode (Surroundings.enter s e.1) e.2 = .ok v

theorem foundScalar_eq_error {tag : Option Yaml.TagBytes} {text : List Char}
    {style : Yaml.ScalarStyle} {fault : SettingsFault}
    (h : foundScalar tag text style = .error fault) : ∃ cause, fault = unplaced cause := by
  unfold foundScalar at h
  dsimp only at h
  repeat' split at h
  all_goals first | exact ⟨_, (Except.error.inj h).symm⟩ | cases h

/-- A node of the wrong type is always a fault, at its own place. -/
theorem exists_wrongType (s : Surroundings) (node : Node) (expected : String) :
    ∃ cause, (wrongType s node expected : Decoded β) =
      .error (.dataFault ⟨cause, some (s.path, node.mark)⟩) := by
  cases node with
  | scalar tag text style mark =>
    cases hfound : foundScalar tag text style with
    | ok found => exact ⟨.invalidType found expected, by rw [wrongType, hfound]; rfl⟩
    | error fault =>
      obtain ⟨cause, rfl⟩ := foundScalar_eq_error hfound
      exact ⟨cause, by rw [wrongType, hfound]; rfl⟩
  | _ => exact ⟨_, rfl⟩

theorem wrongType_ne_ok {expected : String} {x : β} : wrongType s node expected ≠ .ok x := by
  obtain ⟨fault, hfault⟩ := exists_wrongType (β := β) s node expected
  rw [hfault]
  nofun

theorem placing_eq_ok {path : FieldPath} {mark : Mark} {result : Decoded β} {x : β} :
    placing path mark result = .ok x ↔ result = .ok x :=
  Except.mapError_eq_ok

theorem entryName_eq_ok : entryName s key = .ok name ↔ nameIn s.doc key = some name := by
  rw [entryName, nameIn, text]
  cases hfollow : s.doc.follow key with
  | scalar tag text style mark => simp
  | _ =>
    obtain ⟨fault, hfault⟩ := exists_wrongType (β := List Char) s (s.doc.follow key)
      "field identifier"
    rw [hfollow] at hfault
    simp [hfault]

namespace Table

theorem entries_cons_unknown {seen : List String} (hkey : nameIn s.doc key = some name)
    (hname : name ∉ t.columns.map (·.name)) :
    entries t.fields s seen start ((key, node) :: es) = entries t.fields s seen start es := by
  have hfind : t.fields.find? (·.name == name) = none := by
    simpa [fields, Column.field, field] using hname
  rw [entries, entryName_eq_ok.mpr hkey, Except.ok_bind, hfind]

theorem entries_cons_known {seen : List String} {c : Column α} (hc : c ∈ t.columns)
    (hkey : nameIn s.doc key = some c.name) :
    entries t.fields s seen start ((key, node) :: es) =
      if c.name ∈ seen then .error (unplaced (.duplicateField c.name))
      else c.format.decode (Surroundings.enter s key) node >>= fun v =>
        entries t.fields s (c.name :: seen) (c.set start v) es := by
  have hfind : t.fields.find? (·.name == c.name) = some c.field := by
    have hcolumn : t.columns.find? (·.name == c.name) = some c := by
      obtain ⟨c', hc'⟩ : ∃ c', t.columns.find? (·.name == c.name) = some c' :=
        Option.isSome_iff_exists.mp (List.find?_isSome.mpr ⟨c, hc, beq_self_eq_true _⟩)
      have hname : c'.name = c.name := by simpa using List.find?_some hc'
      rw [hc', t.eq_of_name_eq (List.mem_of_find?_eq_some hc') hc hname]
    rw [fields, List.find?_map]
    exact congrArg (Option.map Column.field) hcolumn
  rw [entries, entryName_eq_ok.mpr hkey, Except.ok_bind, hfind]
  simp only [List.contains_eq_mem, decide_eq_true_eq]
  split
  · rfl
  · cases hv : c.format.decode (Surroundings.enter s key) node <;>
      simp [Column.field, field, hv]

/-- Entries are read as a record, not naming what has been named before, if each field is what its
own entry says. -/
theorem entries_eq_ok {seen : List String} :
    entries t.fields s seen start es = .ok r ↔
      t.Reads s start es r ∧ ∀ name ∈ t.names (nameIn s.doc) es, name ∉ seen := by
  induction es generalizing seen start with
  | nil =>
    simp only [entries, Except.ok.injEq]
    constructor
    · rintro rfl
      exact ⟨⟨by simp, List.nodup_nil, fun _ _ _ => rfl, nofun⟩, by simp [names]⟩
    · rintro ⟨h, -⟩
      exact t.ext start r fun c hc => (h.missing c hc (by simp)).symm
  | cons e es ih =>
    obtain ⟨key, value⟩ := e
    cases hkey : nameIn s.doc key with
    | none =>
      constructor
      · intro h
        obtain ⟨name, hname, -⟩ := Except.bind_eq_ok.mp h
        rw [entryName_eq_ok, hkey] at hname
        cases hname
      · rintro ⟨h, -⟩
        have hnamed := (List.forall_mem_cons.mp h.named).1
        rw [hkey] at hnamed
        cases hnamed
    | some name =>
      by_cases hname : name ∈ t.columns.map (·.name)
      · obtain ⟨c, hc, rfl⟩ := List.mem_map.mp hname
        rw [entries_cons_known hc hkey, names_cons hkey, if_pos hname, List.forall_mem_cons]
        by_cases hseen : c.name ∈ seen
        · simp [hseen]
        cases hv : c.format.decode (Surroundings.enter s key) value with
        | error fault =>
          constructor
          · simp [hseen]
          · rintro ⟨h, -⟩
            have hgiven := h.given c hc (key, value) List.mem_cons_self hkey
            rw [hv] at hgiven
            cases hgiven
        | ok v =>
          have hcons : t.Reads s start ((key, value) :: es) r ↔
              t.Reads s (c.set start v) es r ∧ c.name ∉ t.names (nameIn s.doc) es :=
            fits_cons_known hc hkey fun w => by rw [hv, Except.ok.injEq]
          have hapart : (∀ name ∈ t.names (nameIn s.doc) es, name ∉ c.name :: seen) ↔
              c.name ∉ t.names (nameIn s.doc) es ∧
                ∀ name ∈ t.names (nameIn s.doc) es, name ∉ seen := by
            simp only [List.mem_cons, not_or, imp_and, forall_and, List.forall_mem_ne']
          rw [if_neg hseen, Except.ok_bind, ih, hcons, hapart]
          tauto
      · have hcons : t.Reads s start ((key, value) :: es) r ↔ t.Reads s start es r :=
          fits_cons_unknown hkey hname
        rw [entries_cons_unknown hkey hname, names_cons hkey, if_neg hname, hcons]
        exact ih

/-- A record is what its entries say, or as it was at first if its node is empty. -/
theorem record_eq_ok {typeName : String} :
    record typeName t.fields start s node = .ok r ↔
      (∃ tag es mark, s.doc.follow node = .mapping tag es mark ∧ t.Reads s start es r) ∨
        ∃ tag mark, s.doc.follow node = .scalar tag [] .plain mark ∧ r = start := by
  rw [record]
  split
  · next tag es mark hnode =>
    simp [hnode, placing_eq_ok, entries_eq_ok]
  · next tag mark hnode =>
    simp [hnode, eq_comm]
  · next hmapping hempty =>
    simp only [wrongType_ne_ok, false_iff, not_or]
    constructor
    · rintro ⟨tag, es, mark, hnode, -⟩
      exact hmapping tag es mark hnode
    · rintro ⟨tag, mark, hnode, -⟩
      exact hempty tag mark hnode

end Table

end Reading

end Decode

end FaultyServer
