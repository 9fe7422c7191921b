import FaultyServer.Proofs.Settings.Faults

/-!
# Exchanging a value

One value of a configuration, at the end of a path of names, is exchanged for another
(`Document.Exchanges`); aliases may stand on the way. If what is there now is accepted, then the
value that was there before decides alone what became of the configuration: it is set in what is
accepted now, or its fault is the fault of the whole (`Format.Leads.exchange`). This is proved for
the entries of one record, and then along the path (`Format.Leads`).
-/

namespace FaultyServer

open Yaml (Document Node Mark TagBytes)

/-- At the end of a path of names, the second node has another value than the first. Where the first
has an alias on the way, the second has the mapping that it stands for. -/
inductive Yaml.Node.Exchanges (doc : Document) (old new : Node) : FieldPath → Node → Node → Prop
  | here {node : Node} (value : doc.follow node = old) : Exchanges doc old new [] node new
  | entry {path : FieldPath} {name : String} {node key value value' : Node} {tag : Option TagBytes}
      {before after : List (Node × Node)} {mark : Mark}
      (mapping : doc.follow node = .mapping tag (before ++ (key, value) :: after) mark)
      (named : Decode.nameIn doc key = some name)
      (inner : Exchanges doc old new path value value') :
      Exchanges doc old new (name :: path) node
        (.mapping tag (before ++ (key, value') :: after) mark)

/-- At the end of a path of names, the second document has another value than the first. -/
def Yaml.Document.Exchanges (doc : Document) (path : FieldPath) (old new : Node)
    (doc' : Document) : Prop :=
  ∃ root root', doc.root = some root ∧ Node.Exchanges doc old new path root root' ∧
    doc' = ⟨some root', doc.anchored⟩

namespace Decode

/-- The value at the end of a path of names is read in the second format, and has its place in what
is read in the first. -/
inductive Format.Leads : {α β : Type} → Format α → FieldPath → Format β → (α → β → α) → Prop
  | here {β : Type} (f : Format β) : Leads f [] f fun _ x => x
  | column {α β : Type} {t : Table α} {typeName : String} {start : α} {c : Column α}
      {path : FieldPath} {g : Format β} {set : c.Value → β → c.Value} (mem : c ∈ t.columns)
      (inner : Leads c.format path g set) :
      Leads (t.format typeName start) (c.name :: path) g fun r x => c.set r (set (c.get r) x)

section Records

variable {α : Type} {t : Table α} {s : Surroundings} {start r : α} {c : Column α} {v : c.Value}
  {key value value' : Node} {seen : List String} {fault : SettingsFault} {typeName : String}
  {before after : List (Node × Node)}

namespace Table

/-- One entry says something else of its field, and the other fields are as they were. -/
theorem Fits.exchange {nameOf : Naming} {Holds : (c : Column α) → Node × Node → c.Value → Prop}
    {e e' : Node × Node} (h : t.Fits nameOf Holds start (before ++ e' :: after) r)
    (hc : c ∈ t.columns) (he' : nameOf e'.1 = some c.name) (he : nameOf e.1 = some c.name)
    (hv : Holds c e v) : t.Fits nameOf Holds start (before ++ e :: after) (c.set r v) := by
  have hfront := h.perm List.perm_middle
  have hnodup := hfront.nodup
  rw [names_cons he', if_pos (List.mem_map_of_mem hc)] at hnodup
  refine Fits.perm ?_ List.perm_middle.symm
  refine ⟨List.forall_mem_cons.mpr ⟨?_, (List.forall_mem_cons.mp hfront.named).2⟩, ?_,
    fun c' hc' hno => ?_, fun c' hc' d hd heq => ?_⟩
  · rw [he]
    rfl
  · rwa [names_cons he, if_pos (List.mem_map_of_mem hc)]
  · obtain ⟨hne, hno⟩ := List.forall_mem_cons.mp hno
    have hname : c'.name ≠ c.name := fun heq => hne (heq ▸ he)
    rw [t.get_set_of_ne c hc c' hc' hname]
    exact hfront.missing c' hc' (List.forall_mem_cons.mpr ⟨he'.symm ▸ he ▸ hne, hno⟩)
  · rcases List.mem_cons.mp hd with rfl | hd
    · obtain rfl := t.eq_of_name_eq hc hc' (Option.some.inj (he.symm.trans heq))
      rwa [c.get_set]
    · -- No other entry has the name of this one.
      have hname : c'.name ≠ c.name := by
        intro hsame
        exact (List.nodup_cons.mp hnodup).1 ((mem_names hc).mpr ⟨d, hd, hsame ▸ heq⟩)
      rw [t.get_set_of_ne c hc c' hc' hname]
      exact hfront.given c' hc' d (List.mem_cons_of_mem e' hd) heq

/-- If all entries are read, the first ones are. -/
theorem exists_of_entries_append (h : entries t.fields s seen start (before ++ after) = .ok r) :
    ∃ r', entries t.fields s seen start before = .ok r' := by
  induction before generalizing seen start with
  | nil => exact ⟨start, rfl⟩
  | cons e before ih =>
    obtain ⟨key, value⟩ := e
    obtain ⟨name, hname, -⟩ := Except.bind_eq_ok.mp h
    have hkey := entryName_eq_ok.mp hname
    by_cases hknown : name ∈ t.columns.map (·.name)
    · obtain ⟨c, hc, rfl⟩ := List.mem_map.mp hknown
      rw [List.cons_append, entries_cons_known hc hkey] at h
      split at h
      · cases h
      · next hseen =>
        obtain ⟨v, hv, h⟩ := Except.bind_eq_ok.mp h
        rw [entries_cons_known hc hkey, if_neg hseen, hv, Except.ok_bind]
        exact ih h
    · rw [List.cons_append, entries_cons_unknown hkey hknown] at h
      rw [entries_cons_unknown hkey hknown]
      exact ih h

/-- The fault of one entry among others that are read is the fault of them all. -/
theorem entries_exchange_error
    (h : entries t.fields s seen start (before ++ (key, value') :: after) = .ok r)
    (hc : c ∈ t.columns) (hkey : nameIn s.doc key = some c.name)
    (hfault : c.format.decode (Surroundings.enter s key) value = .error fault) :
    entries t.fields s seen start (before ++ (key, value) :: after) = .error fault := by
  obtain ⟨r', hbefore⟩ := exists_of_entries_append h
  rw [entries_append hbefore, entries_cons_known hc hkey] at h ⊢
  split at h
  · cases h
  · next hseen => rw [if_neg hseen, hfault, Except.error_bind]

end Table

end Records

/-- A fault that has a place keeps it. -/
theorem placing_error {β : Type} {path : FieldPath} {mark : Mark} {cause : DataCause}
    {place : FieldPath × Mark} :
    placing path mark (.error (.dataFault ⟨cause, some place⟩) : Decoded β) =
      .error (.dataFault ⟨cause, some place⟩) := rfl

/-- The value that was there before decides: either it is set in what is accepted now, or its fault
is the fault of the whole. -/
theorem Format.Leads.exchange {α β : Type} {f : Format α} {g : Format β} {path : FieldPath}
    {set : α → β → α} (hleads : f.Leads path g set) {s : Surroundings} {old new node node' : Node}
    {r : α} (hnode : Node.Exchanges s.doc old new path node node') (h : f.decode s node' = .ok r) :
    ∃ s' value, s'.doc = s.doc ∧ s.doc.follow value = old ∧
      (∀ x, g.decode s' value = .ok x → f.decode s node = .ok (set r x)) ∧
      ∀ cause place, g.decode s' value = .error (.dataFault ⟨cause, some place⟩) →
        f.decode s node = .error (.dataFault ⟨cause, some place⟩) := by
  -- The induction is on the path: what has become of the value of an entry decides what becomes of
  -- the record around it.
  induction hleads generalizing s node node' with
  | here f =>
    cases hnode with
    | here value => exact ⟨s, node, rfl, value, fun _ => id, fun _ _ => id⟩
  | @column α β t typeName start c path g set hc _ ih =>
    cases hnode with
    | @entry _ _ _ key value value' tag before after mark mapping named inner =>
      have hrecord : record typeName t.fields start s
          (.mapping tag (before ++ (key, value') :: after) mark) = .ok r := h
      have hentries : entries t.fields s [] start (before ++ (key, value') :: after) = .ok r :=
        placing_eq_ok.mp hrecord
      have hreads := (Table.entries_eq_ok.mp hentries).1
      have hdoc : (Surroundings.enter s key).doc = s.doc := by cases key <;> rfl
      have hvalue := hreads.given c hc (key, value') (by simp) named
      obtain ⟨s', there, hs', hold, hok, herror⟩ := ih (hdoc.symm ▸ inner) hvalue
      refine ⟨s', there, hs'.trans hdoc, hdoc ▸ hold, fun x hx => ?_, fun cause place hfault => ?_⟩
      · have hexchanged : t.Reads s start (before ++ (key, value) :: after)
            (c.set r (set (c.get r) x)) := hreads.exchange hc named named (hok x hx)
        exact Table.record_eq_ok.mpr (.inl ⟨tag, _, mark, mapping, hexchanged⟩)
      · have hexchanged :=
          Table.entries_exchange_error hentries hc named (herror cause place hfault)
        change record typeName t.fields start s node = _
        simp only [record, mapping, hexchanged, placing_error]

end Decode

end FaultyServer
