import FaultyServer.Proofs.Settings.Record

/-!
# The formats of a configuration

What a node describes, for each kind of value in a configuration: a scalar by its text, a value that
may be missing by a null, and each of the six records field by field. The description knows no
document around the node and no path to it, so it says of every entry what it means by itself.

Nodes without aliases are read as what they describe, and only as that; this is part of each format.
`Format.root` is the format of a whole configuration, and `decode_root` says that it is the one that
configurations are read in.
-/

namespace FaultyServer.Decode

open Yaml (Document Node ScalarStyle TagBytes Mark)

variable {α β : Type} {s : Surroundings} {node : Node} {expected : String}

/-! ## Scalars -/

/-- What a scalar means, by its tag, text and style. -/
abbrev Meaning (β : Type) := Option TagBytes → List Char → ScalarStyle → β → Prop

/-- Whether a node is a scalar that means this. -/
def IsScalar (means : Meaning β) (node : Node) (x : β) : Prop :=
  ∃ tag text style mark, node = .scalar tag text style mark ∧ means tag text style x

/-- The format of a decoder that reads scalars, each the same way everywhere. -/
def Format.ofScalar (decode : Surroundings → Node → Decoded β) (means : Meaning β)
    (h : ∀ {s node x}, decode s node = .ok x ↔ IsScalar means (s.doc.follow node) x) :
    Format β where
  decode := decode
  Describes := IsScalar means
  sound := by
    rintro n x ⟨tag, text, style, mark, rfl, hx⟩ s
    exact h.mpr ⟨tag, text, style, mark, rfl, hx⟩
  complete := by
    intro s n x hn hx
    exact Yaml.Document.follow_of_isBare hn ▸ h.mp hx

theorem text_eq_ok {cs : List Char} : text expected s node = .ok cs ↔
    IsScalar (fun _ text _ x => x = text) (s.doc.follow node) cs := by
  rw [text]
  split
  · next tag text style mark hnode => simp [hnode, IsScalar, eq_comm]
  · next hscalar =>
    simp only [wrongType_ne_ok, false_iff]
    rintro ⟨tag, text, style, mark, hnode, -⟩
    exact hscalar tag text style mark hnode

theorem string_eq_ok {x : String} : string s node = .ok x ↔
    IsScalar (fun _ text _ x => x = String.ofList text) (s.doc.follow node) x := by
  rw [string, Except.bind_eq_ok]
  constructor
  · rintro ⟨cs, hcs, hx⟩
    obtain ⟨tag, text, style, mark, hnode, rfl⟩ := text_eq_ok.mp hcs
    exact ⟨tag, cs, style, mark, hnode, (Except.ok.inj hx).symm⟩
  · rintro ⟨tag, text, style, mark, hnode, rfl⟩
    exact ⟨text, text_eq_ok.mpr ⟨tag, text, style, mark, hnode, rfl⟩, rfl⟩

/-- What a scalar means as a natural number. -/
def meansNatural (bound : Nat) : Meaning Nat := fun tag text style n =>
  mayBeNumber tag style = true ∧ Yaml.unsigned? UInt64.size text = some n ∧ n < bound

theorem natural_eq_ok {bound n : Nat} : natural bound expected s node = .ok n ↔
    IsScalar (meansNatural bound) (s.doc.follow node) n := by
  rw [natural]
  split
  · next tag text style mark hnode =>
    have hscalar : IsScalar (meansNatural bound) (s.doc.follow node) n ↔
        meansNatural bound tag text style n := by
      simp [hnode, IsScalar]
    rw [hscalar, meansNatural]
    cases hnumber : mayBeNumber tag style with
    | false => simp [wrongType_ne_ok]
    | true =>
      cases hk : Yaml.unsigned? UInt64.size text with
      | none => simp [wrongType_ne_ok]
      | some k =>
        by_cases hlt : k < bound
        · simp only [if_true, if_pos hlt, Except.ok.injEq, true_and, Option.some.injEq]
          exact ⟨fun h => ⟨h, h ▸ hlt⟩, And.left⟩
        · simp only [if_true, if_neg hlt, placing_eq_ok, true_and, Option.some.injEq]
          exact ⟨nofun, fun ⟨h, hn⟩ => absurd (h ▸ hn) hlt⟩
  · next hscalar =>
    simp only [wrongType_ne_ok, false_iff]
    rintro ⟨tag, text, style, mark, hnode, -⟩
    exact hscalar tag text style mark hnode

theorem duration_eq_ok {d : Duration} : duration s node = .ok d ↔
    IsScalar (fun _ text _ d => Duration.ofHuman (String.ofList text) = .ok d)
      (s.doc.follow node) d := by
  rw [duration, Except.bind_eq_ok]
  constructor
  · rintro ⟨cs, hcs, hd⟩
    obtain ⟨tag, text, style, mark, hnode, rfl⟩ := text_eq_ok.mp hcs
    refine ⟨tag, cs, style, mark, hnode, ?_⟩
    split at hd
    · next d' hhuman => rw [hhuman, Except.ok.inj hd]
    · cases hd
    · cases hd
  · rintro ⟨tag, text, style, mark, hnode, hd⟩
    refine ⟨text, text_eq_ok.mpr ⟨tag, text, style, mark, hnode, rfl⟩, ?_⟩
    rw [hd]
    rfl

/-- What a scalar means as a mode. -/
def meansMode : Meaning Mode := fun tag text style mode =>
  match tagWord? tag with
  | some word =>
    Mode.ofKeyword? word = some mode ∧ style = .plain ∧ (text.isEmpty ∨ Yaml.isNull text)
  | none => Mode.ofKeyword? (String.ofList text) = some mode

theorem modeOfKeyword_eq_ok {word : String} {m : Mode} :
    modeOfKeyword word = .ok m ↔ Mode.ofKeyword? word = some m := by
  rw [modeOfKeyword]
  split
  · next hword => simp [hword]
  · next hword => simp [hword]

theorem nothing_eq_ok {u : Unit} : nothing s node = .ok u ↔
    IsScalar (fun _ text style _ => style = .plain ∧ (text.isEmpty ∨ Yaml.isNull text)) node u := by
  cases node with
  | scalar tag text style mark =>
    rw [nothing]
    split
    · next h => simpa [IsScalar] using h
    · next h => simpa [IsScalar, placing_eq_ok] using h
  | _ => simp [nothing, wrongType_ne_ok, IsScalar]

theorem mode_eq_ok {m : Mode} :
    mode s node = .ok m ↔ IsScalar meansMode (s.doc.follow node) m := by
  rw [mode]
  cases htag : tagWord? (tagOf (s.doc.follow node)) with
  | some word =>
    simp only [Except.bind_eq_ok, modeOfKeyword_eq_ok, nothing_eq_ok]
    constructor
    · rintro ⟨m', hm', -, ⟨tag, text, style, mark, hnode, htext⟩, hm⟩
      obtain rfl := Except.ok.inj hm
      rw [hnode] at htag
      refine ⟨tag, text, style, mark, hnode, ?_⟩
      rw [meansMode, show tagWord? tag = some word from htag]
      exact ⟨hm', htext⟩
    · rintro ⟨tag, text, style, mark, hnode, hm⟩
      rw [hnode] at htag
      rw [meansMode, show tagWord? tag = some word from htag] at hm
      exact ⟨m, hm.1, (), ⟨tag, text, style, mark, hnode, hm.2⟩, rfl⟩
  | none =>
    cases hnode : s.doc.follow node with
    | scalar tag text style mark =>
      rw [hnode] at htag
      have hscalar : IsScalar meansMode (.scalar tag text style mark) m ↔
          Mode.ofKeyword? (String.ofList text) = some m := by
        simp [IsScalar, meansMode, show tagWord? tag = none from htag]
      rw [hscalar]
      simp only [placing_eq_ok, modeOfKeyword_eq_ok]
    | _ => simp [wrongType_ne_ok, IsScalar]

/-- What a scalar means as a number of a type of words. -/
def meansWord {γ : Type} (bound : Nat) (ofNat : Nat → γ) : Meaning γ := fun tag text style x =>
  ∃ n, meansNatural bound tag text style n ∧ x = ofNat n

theorem word_eq_ok {γ : Type} {bound : Nat} {ofNat : Nat → γ} {x : γ} :
    (do pure (ofNat (← natural bound expected s node)) : Decoded γ) = .ok x ↔
      IsScalar (meansWord bound ofNat) (s.doc.follow node) x := by
  rw [Except.bind_eq_ok]
  constructor
  · rintro ⟨n, hn, hx⟩
    obtain ⟨tag, text, style, mark, hnode, hmeans⟩ := natural_eq_ok.mp hn
    exact ⟨tag, text, style, mark, hnode, n, hmeans, (Except.ok.inj hx).symm⟩
  · rintro ⟨tag, text, style, mark, hnode, n, hmeans, rfl⟩
    exact ⟨n, natural_eq_ok.mpr ⟨tag, text, style, mark, hnode, hmeans⟩, rfl⟩

namespace Format

/-- A string: any scalar by its text. -/
def string : Format String := .ofScalar Decode.string _ string_eq_ok

/-- A TCP port. -/
def port : Format UInt16 := .ofScalar Decode.port _ word_eq_ok

/-- A step of the counter. -/
def step : Format UInt64 := .ofScalar Decode.step _ word_eq_ok

/-- A duration by its human text. -/
def duration : Format Duration := .ofScalar Decode.duration _ duration_eq_ok

/-- A mode by its keyword. -/
def mode : Format Mode := .ofScalar Decode.mode _ mode_eq_ok

end Format

/-! ## Values that may be missing -/

/-- Whether a node is a null. -/
def IsNull (node : Node) : Prop :=
  ∃ text mark, node = .scalar none text .plain mark ∧ (text = [] ∨ Yaml.isNull text = true)

theorem optional_of_isNull {decode : Surroundings → Node → Decoded β} (h : IsNull node) :
    optional decode s node = .ok none := by
  obtain ⟨text, mark, rfl, htext⟩ := h
  cases text with
  | nil => rfl
  | cons c cs =>
    have hnull : Yaml.isNull (c :: cs) = true := by simpa using htext
    simp [optional, Document.follow, hnull]

/-- Whether a node is no alias and has no tag. -/
def IsUntagged (node : Node) : Prop := tagOf node = none ∧ ∀ id mark, node ≠ .reference id mark

theorem IsUntagged.follow {doc : Document} (h : IsUntagged node) : doc.follow node = node := by
  cases node with
  | reference id mark => exact absurd rfl (h.2 id mark)
  | _ => rfl

theorem isUntagged_of_isBare (h : node.IsBare) : IsUntagged node := by
  cases h <;> exact ⟨rfl, nofun⟩

theorem optional_of_not_isNull {decode : Surroundings → Node → Decoded β}
    (huntagged : IsUntagged node) (h : ¬ IsNull node) :
    optional decode s node = some <$> decode s node := by
  rw [optional, huntagged.follow]
  split
  · next mark => exact absurd ⟨[], mark, rfl, .inl rfl⟩ h
  · next text mark _ => rw [if_neg fun hnull => h ⟨text, mark, rfl, .inr hnull⟩]
  · next => cases huntagged.1
  · rfl

/-- A value that may be missing. -/
def Format.optional (f : Format β) : Format (Option β) where
  decode := Decode.optional f.decode
  Describes n x := IsNull n ∧ x = none ∨
    ¬ IsNull n ∧ IsUntagged n ∧ ∃ y, f.Describes n y ∧ x = some y
  sound := by
    rintro n x (⟨hnull, rfl⟩ | ⟨hnull, huntagged, y, hy, rfl⟩) s
    · exact optional_of_isNull hnull
    · rw [optional_of_not_isNull huntagged hnull, f.sound hy]
      rfl
  complete := by
    intro s n x hn hx
    by_cases hnull : IsNull n
    · rw [optional_of_isNull hnull] at hx
      exact .inl ⟨hnull, (Except.ok.inj hx).symm⟩
    · rw [optional_of_not_isNull (isUntagged_of_isBare hn) hnull] at hx
      refine .inr ⟨hnull, isUntagged_of_isBare hn, ?_⟩
      cases hy : f.decode s n with
      | error fault =>
        rw [hy] at hx
        cases hx
      | ok y =>
        rw [hy] at hx
        exact ⟨y, f.complete hn hy, (Except.ok.inj hx).symm⟩

/-! ## Records -/

/-- The name of an entry with this key, if it has one by itself. -/
def nameOf : Naming
  | .scalar _ text _ _ => some (String.ofList text)
  | _ => none

namespace Table

variable {t : Table α} {start r : α} {es : List (Node × Node)}

/-- What entries describe, each by itself. -/
abbrev Gives (t : Table α) : α → List (Node × Node) → α → Prop :=
  t.Fits nameOf fun c e v => c.format.Describes e.2 v

/-- What a node describes as a record. -/
def Describes (t : Table α) (start : α) (node : Node) (r : α) : Prop :=
  (∃ tag es mark, node = .mapping tag es mark ∧ t.Gives start es r) ∨
    ∃ tag mark, node = .scalar tag [] .plain mark ∧ r = start

theorem nameIn_eq {doc : Document} {key : Node} (h : (nameOf key).isSome) :
    nameIn doc key = nameOf key := by
  cases key with
  | scalar tag text style mark => rfl
  | _ => cases h

theorem nameIn_of_isBare {doc : Document} {key : Node} (h : key.IsBare) :
    nameIn doc key = nameOf key := by
  cases h <;> rfl

/-- The format of a record with these fields and initial values. -/
def format (t : Table α) (typeName : String) (start : α) : Format α where
  decode := record typeName t.fields start
  Describes := t.Describes start
  sound := by
    rintro n r (⟨tag, es, mark, rfl, h⟩ | ⟨tag, mark, rfl, rfl⟩) s
    · refine record_eq_ok.mpr (.inl ⟨tag, es, mark, rfl, ?_⟩)
      exact h.imp (fun e he => nameIn_eq (h.named e he)) fun c _ e _ v hv => c.format.sound hv _
    · exact record_eq_ok.mpr (.inr ⟨tag, mark, rfl, rfl⟩)
  complete := by
    intro s n r hn hr
    have h := record_eq_ok.mp hr
    rw [Yaml.Document.follow_of_isBare hn] at h
    obtain ⟨tag, es, mark, rfl, h⟩ | ⟨tag, mark, rfl, rfl⟩ := h
    · refine .inl ⟨tag, es, mark, rfl, ?_⟩
      cases hn with
      | mapping _ hkey hvalue =>
        exact h.imp (fun e he => (nameIn_of_isBare (hkey e he)).symm)
          fun c _ e he v hv => c.format.complete (hvalue e he) hv
    · exact .inr ⟨tag, mark, rfl, rfl⟩

/-- The fields of the log settings. -/
def logs : Table LogSettings where
  columns := [
    ⟨"level", _, .optional .string, (·.level), fun r v => { r with level := v }, fun _ _ => rfl⟩]
  nodup := by simp
  get_set_of_ne := by simp
  ext := by
    rintro ⟨level⟩ ⟨level'⟩ h
    simpa using h

/-- The fields that say where to listen. -/
def listen : Table ListenSettings where
  columns := [
    ⟨"name", _, .string, (·.name), fun r v => { r with name := v }, fun _ _ => rfl⟩,
    ⟨"host", _, .string, (·.host), fun r v => { r with host := v }, fun _ _ => rfl⟩,
    ⟨"port", _, .port, (·.port), fun r v => { r with port := v }, fun _ _ => rfl⟩]
  nodup := by simp
  get_set_of_ne := by simp
  ext := by
    rintro ⟨name, host, port⟩ ⟨name', host', port'⟩ h
    simpa using h

/-- The field that says how long to hang. -/
def hang : Table Duration where
  columns := [⟨"duration", _, .duration, id, fun _ v => v, fun _ _ => rfl⟩]
  nodup := by simp
  get_set_of_ne := by simp
  ext := by
    intro d d' h
    simpa using h

/-- The steps of the counter. -/
def steps : Table Steps where
  columns := [
    ⟨"error_step", _, .step, (·.error), fun r v => { r with error := v }, fun _ _ => rfl⟩,
    ⟨"hang_step", _, .step, (·.hang), fun r v => { r with hang := v }, fun _ _ => rfl⟩]
  nodup := by simp
  get_set_of_ne := by simp
  ext := by
    rintro ⟨error, hang⟩ ⟨error', hang'⟩ h
    simpa using h

end Table

namespace Format

/-- The log settings. -/
def logs : Format LogSettings := Table.logs.format "Logs" ⟨none⟩

/-- Where to listen. -/
def listen : Format ListenSettings := Table.listen.format "Api" .default

/-- How long to hang. -/
def hang : Format Duration := Table.hang.format "Hang" Settings.defaultHang

/-- The steps of the counter. -/
def steps : Format Steps := Table.steps.format "Counter" .default

end Format

namespace Table

/-- The fields of the server. -/
def server : Table Settings where
  columns := [
    ⟨"env", _, .string, (·.environment), fun r v => { r with environment := v }, fun _ _ => rfl⟩,
    ⟨"mode", _, .mode, (·.mode), fun r v => { r with mode := v }, fun _ _ => rfl⟩,
    ⟨"logs", _, .optional .logs, (·.logs), fun r v => { r with logs := v }, fun _ _ => rfl⟩,
    ⟨"api", _, .listen, (·.listen), fun r v => { r with listen := v }, fun _ _ => rfl⟩,
    ⟨"hang", _, .hang, (·.hang), fun r v => { r with hang := v }, fun _ _ => rfl⟩,
    ⟨"counter", _, .steps, (·.steps), fun r v => { r with steps := v }, fun _ _ => rfl⟩]
  nodup := by simp
  get_set_of_ne := by simp
  ext := by
    rintro ⟨env, mode, logs, listen, hang, steps⟩ ⟨env', mode', logs', listen', hang', steps'⟩ h
    simpa using h

/-- The one field of a configuration. -/
def root : Table Settings where
  columns := [
    ⟨"server", _, server.format "ServerBox" .default, id, fun _ v => v, fun _ _ => rfl⟩]
  nodup := by simp
  get_set_of_ne := by simp
  ext := by
    intro r r' h
    simpa using h

end Table

namespace Format

/-- All settings. -/
def server : Format Settings := Table.server.format "ServerBox" .default

/-- A whole configuration. -/
def root : Format Settings := Table.root.format "Settings" .default

/-- Configurations are read in their format. -/
theorem decode_root : root.decode = Decode.root := rfl

end Format

end FaultyServer.Decode
