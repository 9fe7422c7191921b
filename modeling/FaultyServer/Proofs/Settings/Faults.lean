import FaultyServer.Proofs.Duration.Summands
import FaultyServer.Proofs.Settings.Format

/-!
# What can be wrong with a configuration

A text that gives no settings has one of four faults. Three of them are reported: the text is no
YAML document, its data are wrong at a place that is named, or the host is refused. The fourth is a
carry, which is no report but a crash. It has one source, the text of `server.hang.duration`, and
only if that text overflows and nothing before it in the document is wrong.

* `Decoded.Fails`: what kinds of faults a decoder can have, by its parts;
* `Table.record_eq_carry`: a record ends in a carry exactly if it comes to an entry that does;
* `Settings.ofYaml_eq_carry`: a configuration is a carry exactly if it overflows.
-/

namespace FaultyServer

open Yaml (Document Node Mark TagBytes ScalarStyle)

/-- Whether a fault is one of a document that is decoded, where it may be a carry or not. -/
def SettingsFault.IsOfData (mayCarry : Prop) : SettingsFault → Prop
  | dataFault _ => True
  | carry => mayCarry
  | _ => False

namespace Decode

variable {α β γ : Type} {s : Surroundings} {node : Node} {expected : String} {mayCarry : Prop}

/-! ## The faults of a result -/

/-- A result whose faults are all of data, where they may be a carry or not. -/
def Fails (mayCarry : Prop) (result : Decoded β) : Prop :=
  ∀ fault, result = .error fault → fault.IsOfData mayCarry

theorem fails_ok (x : β) : Fails mayCarry (.ok x) := nofun

theorem fails_unplaced (cause : DataCause) :
    Fails mayCarry (.error (unplaced cause) : Decoded β) := by
  rintro _ ⟨⟩
  trivial

theorem Fails.ne_carry {result : Decoded β} (h : Fails False result) : result ≠ .error .carry :=
  h .carry

theorem Fails.bind {result : Decoded β} {f : β → Decoded γ} (h : Fails mayCarry result)
    (hf : ∀ x, Fails mayCarry (f x)) : Fails mayCarry (result >>= f) := by
  intro fault hfault
  rcases Except.bind_eq_error.mp hfault with hfault | ⟨x, -, hfault⟩
  · exact h fault hfault
  · exact hf x fault hfault

theorem Fails.placing {result : Decoded β} (h : Fails mayCarry result) (path : FieldPath)
    (mark : Mark) : Fails mayCarry (placing path mark result) := by
  intro fault hfault
  obtain ⟨inner, hinner, rfl⟩ := Except.mapError_eq_error.mp hfault
  have hkind := h inner hinner
  cases inner with
  | dataFault f =>
    obtain ⟨cause, _ | _⟩ := f <;> trivial
  | _ => exact hkind

/-- Giving a place to a fault of data leaves none without. -/
theorem place_of_placing {path : FieldPath} {mark : Mark} {result : Decoded β} {f : DataFault}
    (h : placing path mark result = .error (.dataFault f)) : f.place.isSome := by
  obtain ⟨inner, -, hinner⟩ := Except.mapError_eq_error.mp h
  cases inner with
  | dataFault g =>
    obtain ⟨cause, _ | place⟩ := g <;> (cases hinner; rfl)
  | _ => cases hinner

theorem placing_eq_carry {path : FieldPath} {mark : Mark} {result : Decoded β} :
    placing path mark result = .error .carry ↔ result = .error .carry := by
  refine Except.mapError_eq_error.trans ⟨?_, fun h => ⟨_, h, rfl⟩⟩
  rintro ⟨fault, hfault, hplaced⟩
  cases fault with
  | dataFault f => obtain ⟨cause, _ | _⟩ := f <;> cases hplaced
  | _ => exact hplaced ▸ hfault

/-! ## Scalars and values that may be missing -/

/-- All the faults of a format are of data, where they may be a carry or not. -/
def Format.Fails (mayCarry : Prop) (f : Format β) : Prop :=
  ∀ s node, Decode.Fails mayCarry (f.decode s node)

theorem fails_foundScalar (tag : Option TagBytes) (text : List Char) (style : ScalarStyle) :
    Fails mayCarry (foundScalar tag text style) := by
  unfold foundScalar
  dsimp only
  repeat' split
  all_goals first | exact fails_ok _ | exact fails_unplaced _

theorem fails_wrongType : Fails mayCarry (wrongType s node expected : Decoded β) := by
  refine Fails.placing ?_ s.path node.mark
  cases node with
  | scalar tag text style mark =>
    exact (fails_foundScalar tag text style).bind fun _ => fails_unplaced _
  | _ => exact fails_unplaced _

theorem fails_text : Fails mayCarry (text expected s node) := by
  rw [text]
  split
  · exact fails_ok _
  · exact fails_wrongType

theorem fails_natural {bound : Nat} : Fails mayCarry (natural bound expected s node) := by
  rw [natural]
  split
  · split
    · split
      · exact fails_ok _
      · exact (fails_unplaced _).placing _ _
    · exact fails_wrongType
  · exact fails_wrongType

theorem fails_modeOfKeyword {word : String} : Fails mayCarry (modeOfKeyword word) := by
  rw [modeOfKeyword]
  split
  · exact fails_ok _
  · exact fails_unplaced _

theorem fails_nothing : Fails mayCarry (nothing s node) := by
  rw [nothing.eq_def]
  split
  · split
    · exact fails_ok _
    · exact (fails_unplaced _).placing _ _
  · exact fails_wrongType

namespace Format

theorem fails_string : Format.string.Fails mayCarry :=
  fun _ _ => fails_text.bind fun _ => fails_ok _

theorem fails_port : Format.port.Fails mayCarry := fun _ _ => fails_natural.bind fun _ => fails_ok _

theorem fails_step : Format.step.Fails mayCarry := fun _ _ => fails_natural.bind fun _ => fails_ok _

theorem fails_mode : Format.mode.Fails mayCarry := by
  intro s node
  change Decode.Fails mayCarry (Decode.mode s node)
  rw [Decode.mode]
  split
  · exact fails_modeOfKeyword.bind fun _ => fails_nothing.bind fun _ => fails_ok _
  · split
    · exact fails_modeOfKeyword.placing _ _
    · exact fails_wrongType

/-- Only a duration can be a carry. -/
theorem fails_duration : Format.duration.Fails True := by
  intro s node
  change Decode.Fails True (Decode.duration s node)
  refine fails_text.bind fun cs => ?_
  split
  · exact fails_ok _
  · rintro _ ⟨⟩
    trivial
  · exact (fails_unplaced _).placing _ _

theorem Fails.optional {f : Format β} (h : f.Fails mayCarry) : f.optional.Fails mayCarry := by
  have hsome : ∀ s node, Decode.Fails mayCarry (some <$> f.decode s node) := fun s node =>
    (h s node).bind fun x => fails_ok (some x)
  intro s node
  change Decode.Fails mayCarry (Decode.optional f.decode s node)
  rw [Decode.optional]
  repeat' split
  all_goals first | exact fails_ok _ | exact fails_unplaced _ | exact hsome _ _

end Format

/-! ## Records -/

section Records

variable {t : Table α} {start r : α} {key : Node} {name typeName : String} {seen : List String}
  {es before after : List (Node × Node)}

theorem fails_entryName : Fails mayCarry (entryName s key) := fails_text.bind fun _ => fails_ok _

namespace Table

theorem fails_entries (h : ∀ c ∈ t.columns, c.format.Fails mayCarry) :
    Decode.Fails mayCarry (entries t.fields s seen start es) := by
  induction es generalizing seen start with
  | nil => exact fails_ok start
  | cons e es ih =>
    refine fails_entryName.bind fun name => ?_
    split
    · exact ih
    · next f hfind =>
      split
      · exact fails_unplaced _
      · obtain ⟨c, hc, rfl⟩ := List.mem_map.mp (List.mem_of_find?_eq_some hfind)
        exact ((h c hc _ _).bind fun _ => fails_ok _).bind fun _ => ih

theorem fails_format (h : ∀ c ∈ t.columns, c.format.Fails mayCarry) :
    (t.format typeName start).Fails mayCarry := by
  intro s node
  change Decode.Fails mayCarry (record typeName t.fields start s node)
  rw [record]
  split
  · exact (fails_entries h).placing _ _
  · exact fails_ok start
  · exact fails_wrongType

/-- Every fault of the data in a record has a place. -/
theorem place_of_record {f : DataFault}
    (h : record typeName t.fields start s node = .error (.dataFault f)) : f.place.isSome := by
  rw [record] at h
  split at h
  · exact place_of_placing h
  · cases h
  · exact place_of_placing h

/-- Once the first entries are read, the others are read with the names of the first ones taken. -/
theorem entries_append (h : entries t.fields s seen start before = .ok r) :
    entries t.fields s seen start (before ++ after) =
      entries t.fields s ((t.names (nameIn s.doc) before).reverse ++ seen) r after := by
  induction before generalizing seen start with
  | nil =>
    obtain rfl := Except.ok.inj h
    rfl
  | cons e before ih =>
    obtain ⟨key, value⟩ := e
    obtain ⟨name, hname, -⟩ := Except.bind_eq_ok.mp h
    have hkey := entryName_eq_ok.mp hname
    rw [List.cons_append, names_cons hkey]
    split
    · next hknown =>
      obtain ⟨c, hc, rfl⟩ := List.mem_map.mp hknown
      rw [entries_cons_known hc hkey] at h ⊢
      split at h
      · cases h
      · next hseen =>
        obtain ⟨v, hv, h⟩ := Except.bind_eq_ok.mp h
        rw [if_neg hseen, hv, Except.ok_bind, ih h, List.reverse_cons, List.append_assoc]
        rfl
    · next hunknown =>
      rw [entries_cons_unknown hkey hunknown] at h ⊢
      exact ih h

/-- Reading a record comes to the value of an entry with this name: the entries before it are read,
and none of them has the name. -/
def ComesTo (t : Table α) (start : α) (s : Surroundings) (node : Node) (name : String)
    (s' : Surroundings) (value : Node) : Prop :=
  ∃ tag before key after mark r,
    s.doc.follow node = .mapping tag (before ++ (key, value) :: after) mark ∧
      t.Reads s start before r ∧ nameIn s.doc key = some name ∧
      name ∉ t.names (nameIn s.doc) before ∧ s' = Surroundings.enter s key

/-- If entries end in a carry, one of them does, and those before it are read. -/
theorem exists_of_entries_eq_carry (h : entries t.fields s seen start es = .error .carry) :
    ∃ before key value after r, es = before ++ (key, value) :: after ∧
      entries t.fields s seen start before = .ok r ∧ ∃ c ∈ t.columns,
        nameIn s.doc key = some c.name ∧
        c.format.decode (Surroundings.enter s key) value = .error .carry := by
  induction es generalizing seen start with
  | nil => cases h
  | cons e es ih =>
    obtain ⟨key, value⟩ := e
    rcases Except.bind_eq_error.mp h with hname | ⟨name, hname, -⟩
    · exact absurd hname fails_entryName.ne_carry
    have hkey := entryName_eq_ok.mp hname
    by_cases hknown : name ∈ t.columns.map (·.name)
    · obtain ⟨c, hc, rfl⟩ := List.mem_map.mp hknown
      rw [entries_cons_known hc hkey] at h
      split at h
      · cases h
      next hseen =>
      rcases Except.bind_eq_error.mp h with hcarry | ⟨v, hv, h⟩
      · exact ⟨[], key, value, es, start, rfl, rfl, c, hc, hkey, hcarry⟩
      · obtain ⟨before, key', value', after, r, rfl, hr, hcarry⟩ := ih h
        refine ⟨(key, value) :: before, key', value', after, r, rfl, ?_, hcarry⟩
        rw [entries_cons_known hc hkey, if_neg hseen, hv, Except.ok_bind, hr]
    · rw [entries_cons_unknown hkey hknown] at h
      obtain ⟨before, key', value', after, r, rfl, hr, hcarry⟩ := ih h
      refine ⟨(key, value) :: before, key', value', after, r, rfl, ?_, hcarry⟩
      rw [entries_cons_unknown hkey hknown, hr]

theorem entries_eq_carry :
    entries t.fields s [] start es = .error .carry ↔
      ∃ before key value after r, es = before ++ (key, value) :: after ∧
        t.Reads s start before r ∧ ∃ c ∈ t.columns, nameIn s.doc key = some c.name ∧
          c.name ∉ t.names (nameIn s.doc) before ∧
          c.format.decode (Surroundings.enter s key) value = .error .carry := by
  constructor
  · intro h
    obtain ⟨before, key, value, after, r, rfl, hr, c, hc, hkey, hcarry⟩ :=
      exists_of_entries_eq_carry h
    refine ⟨before, key, value, after, r, rfl, (entries_eq_ok.mp hr).1, c, hc, hkey, ?_, hcarry⟩
    -- Otherwise the name would be refused before its value is looked at.
    intro hmem
    rw [entries_append hr, entries_cons_known hc hkey, if_pos (by simpa using hmem)] at h
    cases h
  · rintro ⟨before, key, value, after, r, rfl, hreads, c, hc, hkey, hnew, hcarry⟩
    have hr : entries t.fields s [] start before = .ok r :=
      entries_eq_ok.mpr ⟨hreads, fun _ _ => List.not_mem_nil⟩
    rw [entries_append hr, entries_cons_known hc hkey, if_neg (by simpa using hnew), hcarry]
    rfl

/-- A record ends in a carry exactly if reading it comes to a value that does. -/
theorem record_eq_carry :
    record typeName t.fields start s node = .error .carry ↔
      ∃ c ∈ t.columns, ∃ s' value, t.ComesTo start s node c.name s' value ∧
        c.format.decode s' value = .error .carry := by
  rw [record]
  split
  · next tag es mark hnode =>
    rw [placing_eq_carry, entries_eq_carry]
    constructor
    · rintro ⟨before, key, value, after, r, rfl, hreads, c, hc, hkey, hnew, hcarry⟩
      exact ⟨c, hc, _, value, ⟨tag, before, key, after, mark, r, hnode, hreads, hkey, hnew, rfl⟩,
        hcarry⟩
    · rintro ⟨c, hc, _, value, ⟨_, before, key, after, _, r, hnode', hreads, hkey, hnew, rfl⟩, hcarry⟩
      rw [hnode] at hnode'
      cases hnode'
      exact ⟨before, key, value, after, r, rfl, hreads, c, hc, hkey, hnew, hcarry⟩
  · next tag mark hnode =>
    simp [ComesTo, hnode]
  · next hmapping _ =>
    constructor
    · intro h
      exact absurd h fails_wrongType.ne_carry
    · rintro ⟨c, -, s', value, ⟨tag, _, _, _, mark, _, hnode, -⟩, -⟩
      exact absurd hnode (hmapping tag _ mark)

end Table

end Records

/-! ## Configurations -/

theorem duration_eq_carry :
    Decode.duration s node = .error .carry ↔
      ∃ tag text style mark, s.doc.follow node = .scalar tag text style mark ∧
        Duration.Overflows text := by
  rw [Decode.duration]
  constructor
  · intro h
    rcases Except.bind_eq_error.mp h with htext | ⟨cs, hcs, h⟩
    · exact absurd htext fails_text.ne_carry
    obtain ⟨tag, text, style, mark, hnode, rfl⟩ := text_eq_ok.mp hcs
    refine ⟨tag, cs, style, mark, hnode, ?_⟩
    split at h
    · cases h
    · next hcarry => simpa using Duration.ofHuman_eq_carry.mp hcarry
    · cases placing_eq_carry.mp h
  · rintro ⟨tag, text, style, mark, hnode, hcarry⟩
    have htext : Decode.text "a duration" s node = .ok text :=
      text_eq_ok.mpr ⟨tag, text, style, mark, hnode, rfl⟩
    have hhuman : Duration.ofHuman (String.ofList text) = .error .carry :=
      Duration.ofHuman_eq_carry.mpr (by simpa using hcarry)
    rw [htext, Except.ok_bind, hhuman]

namespace Format

theorem fails_logs : Format.logs.Fails mayCarry := by
  refine Table.fails_format ?_
  simpa [Table.logs] using fails_string.optional

theorem fails_listen : Format.listen.Fails mayCarry := by
  refine Table.fails_format ?_
  simpa [Table.listen] using ⟨fails_string, fails_port⟩

theorem fails_hang : Format.hang.Fails True := by
  refine Table.fails_format ?_
  simpa [Table.hang] using fails_duration

theorem fails_steps : Format.steps.Fails mayCarry := by
  refine Table.fails_format ?_
  simpa [Table.steps] using fails_step

theorem fails_server : Format.server.Fails True := by
  refine Table.fails_format ?_
  simpa [Table.server] using
    ⟨fails_string, fails_mode, fails_logs.optional, fails_listen, fails_hang, fails_steps⟩

theorem fails_root : Format.root.Fails True := by
  refine Table.fails_format fun c hc => ?_
  obtain rfl := List.mem_singleton.mp hc
  exact fails_server

end Format

theorem hang_eq_carry :
    Format.hang.decode s node = .error .carry ↔
      ∃ s' value, Table.hang.ComesTo Settings.defaultHang s node "duration" s' value ∧
        Decode.duration s' value = .error .carry := by
  refine Table.record_eq_carry.trans ⟨?_, ?_⟩
  · rintro ⟨c, hc, s', value, h⟩
    obtain rfl := List.mem_singleton.mp hc
    exact ⟨s', value, h⟩
  · rintro ⟨s', value, h⟩
    exact ⟨_, .head _, s', value, h⟩

/-- Of the fields of the server, only how long to hang can end in a carry. -/
theorem server_eq_carry :
    Format.server.decode s node = .error .carry ↔
      ∃ s' value, Table.server.ComesTo .default s node "hang" s' value ∧
        Format.hang.decode s' value = .error .carry := by
  refine Table.record_eq_carry.trans ⟨?_, ?_⟩
  · rintro ⟨c, hc, s', value, hcomes, hcarry⟩
    have hothers : ∀ {β : Type} {f : Format β}, f.Fails False →
        f.decode s' value ≠ .error .carry := fun hf => (hf s' value).ne_carry
    simp only [Table.server, List.mem_cons, List.not_mem_nil, or_false] at hc
    rcases hc with rfl | rfl | rfl | rfl | rfl | rfl
    · exact absurd hcarry (hothers Format.fails_string)
    · exact absurd hcarry (hothers Format.fails_mode)
    · exact absurd hcarry (hothers Format.fails_logs.optional)
    · exact absurd hcarry (hothers Format.fails_listen)
    · exact ⟨s', value, hcomes, hcarry⟩
    · exact absurd hcarry (hothers Format.fails_steps)
  · rintro ⟨s', value, h⟩
    exact ⟨_, .tail _ (.tail _ (.tail _ (.tail _ (.head _)))), s', value, h⟩

theorem root_eq_carry :
    Decode.root s node = .error .carry ↔
      ∃ s' value, Table.root.ComesTo .default s node "server" s' value ∧
        Format.server.decode s' value = .error .carry := by
  refine (Table.record_eq_carry (t := Table.root)).trans ⟨?_, ?_⟩
  · rintro ⟨c, hc, s', value, h⟩
    obtain rfl := List.mem_singleton.mp hc
    exact ⟨s', value, h⟩
  · rintro ⟨s', value, h⟩
    exact ⟨_, .head _, s', value, h⟩

end Decode

open Decode

/-- The text of `server.hang.duration` overflows, and reading the document comes to it. -/
def Yaml.Document.Overflows (doc : Document) : Prop :=
  ∃ root ∈ doc.root, ∃ s server, Table.root.ComesTo .default ⟨doc, []⟩ root "server" s server ∧
    ∃ s' hang, Table.server.ComesTo .default s server "hang" s' hang ∧
      ∃ s'' duration, Table.hang.ComesTo Settings.defaultHang s' hang "duration" s'' duration ∧
        ∃ tag text style mark, s''.doc.follow duration = .scalar tag text style mark ∧
          Duration.Overflows text

/-- What a fault says about a text that gives no settings. -/
def SettingsFault.Blames (text : String) : SettingsFault → Prop
  | syntaxFault fault => Document.ofText text.toList = .error fault
  | dataFault fault => fault.place.isSome ∧ ∃ doc, Document.ofText text.toList = .ok doc ∧
      Settings.ofDocument doc = .error (.dataFault fault)
  | host fault => ∃ doc s, Document.ofText text.toList = .ok doc ∧
      Settings.ofDocument doc = .ok s ∧ s.listenAddress = .error fault
  | carry => ∃ doc, Document.ofText text.toList = .ok doc ∧ doc.Overflows

namespace Settings

variable {text : String} {doc : Document} {fault : SettingsFault}

theorem ofDocument_eq_carry : ofDocument doc = .error .carry ↔ doc.Overflows := by
  rw [ofDocument, Document.Overflows]
  cases doc.root with
  | none => simp
  | some root =>
    simp only [root_eq_carry, server_eq_carry, hang_eq_carry, duration_eq_carry, Option.mem_some_iff,
      exists_eq_left']

/-- What is wrong with a document that gives no settings has a place, or it overflows. -/
theorem ofDocument_eq_error (h : ofDocument doc = .error fault) :
    (∃ f, fault = .dataFault f ∧ f.place.isSome) ∨ fault = .carry ∧ doc.Overflows := by
  have hroot := h
  rw [ofDocument] at hroot
  cases hdoc : doc.root with
  | none =>
    rw [hdoc] at hroot
    cases hroot
  | some root =>
    rw [hdoc] at hroot
    have hkind := Format.fails_root _ root fault hroot
    cases fault with
    | dataFault f => exact .inl ⟨f, rfl, Table.place_of_record (t := Table.root) hroot⟩
    | carry => exact .inr ⟨rfl, ofDocument_eq_carry.mp h⟩
    | _ => exact hkind.elim

/-- Every fault says what is wrong with the text. -/
theorem blames_of_ofYaml (h : ofYaml text = .error fault) : fault.Blames text := by
  rw [ofYaml, decode] at h
  cases hdoc : Document.ofText text.toList with
  | error f =>
    rw [hdoc] at h
    cases h
    exact hdoc
  | ok doc =>
    rw [hdoc] at h
    rcases Except.bind_eq_error.mp h with hfault | ⟨s, hs, h⟩
    · rcases ofDocument_eq_error hfault with ⟨f, rfl, hplace⟩ | ⟨rfl, hcarry⟩
      · exact ⟨hplace, doc, hdoc, hfault⟩
      · exact ⟨doc, hdoc, hcarry⟩
    · split at h
      · next f haddress =>
        cases h
        exact ⟨doc, s, hdoc, hs, haddress⟩
      · cases h

/-- A configuration is a carry exactly if it overflows. -/
theorem ofYaml_eq_carry :
    ofYaml text = .error .carry ↔ ∃ doc, Document.ofText text.toList = .ok doc ∧ doc.Overflows := by
  refine ⟨fun h => blames_of_ofYaml h, ?_⟩
  rintro ⟨doc, hdoc, hcarry⟩
  simp only [ofYaml, decode, hdoc, ofDocument_eq_carry.mpr hcarry, Except.error_bind]

end Settings

end FaultyServer
