import FaultyServer.Proofs.Yaml.Flow
import FaultyServer.Yaml.Node.Reader
import Mathlib.Data.List.Forall2

/-!
# JSON as flow collections

A JSON text of strings, words and objects is a YAML text in flow style. `FlowText` is such a text
together with its tokens and what is known of the node that they are read as; words, strings and
objects of them are flow texts again (`FlowText.word`, `FlowText.string`, `FlowText.object`).

A flow text that is an object is a document with that node (`FlowText.ofText_object`).
-/

namespace FaultyServer.Yaml

open Text (isPrintable)

/-- Inside a flow collection the text is read as these tokens, up to the delimiter after it. -/
def Lexes (cs : List Char) (ts : List Token) : Prop :=
  ∀ ⦃l : Lexer⦄ ⦃depth : Nat⦄ ⦃m : Mark⦄ ⦃d : Char⦄ ⦃tail : List Char⦄, isFlowDelimiter d = true →
    l.InLine (depth + 1) m (cs ++ d :: tail) →
      ∃ l', l.Reads ts l' ∧ l'.InLine (depth + 1) (m.after cs) (d :: tail)

/-- The tokens are read as a node with this property, whatever follows them. -/
structure Builds (ts : List Token) (Holds : Node → Prop) : Prop where
  begins : ∃ t rest, ts = t :: rest ∧ NodeReader.endsFlowValue t = false
  reads : ∀ {handles : Handles} {inBlock : Bool} {fuel : Nat} {ws rest : List Located}
    {anchors : Anchors}, ws.map (·.token) = ts → 3 * ts.length ≤ fuel →
      ∃ n, Holds n ∧ NodeReader.node handles inBlock false fuel ⟨ws ++ rest, anchors⟩ =
        .ok (n, ⟨rest, anchors⟩)

/-- A printable text inside flow collections, its tokens, and what is known of its node. -/
structure FlowText where
  text : List Char
  isPrintable : text.all isPrintable = true
  tokens : List Token
  Holds : Node → Prop
  lexes : Lexes text tokens
  builds : Builds tokens Holds

/-- A member of an object: its name, which is short enough for a key, and its value. -/
structure Member where
  name : String
  value : FlowText
  isPrintable : name.toList.all isPrintable = true
  isShort : (Json.string name).length ≤ 1024

/-- A key of this name. -/
def IsKey (name : String) (key : Node) : Prop :=
  ∃ mark, key = .scalar none name.toList .doubleQuoted mark

namespace Member

/-- The name of a member and the text of its value. -/
def pair (x : Member) : String × List Char := (x.name, x.value.text)

/-- The text of a member. -/
def text (x : Member) : List Char := Json.string x.name ++ ':' :: x.value.text

/-- The tokens of a member. -/
def tokens (x : Member) : List Token :=
  .key :: .scalar x.name.toList .doubleQuoted :: .value :: x.value.tokens

/-- What is known of the entry of a member. -/
def Holds (x : Member) (entry : Node × Node) : Prop :=
  IsKey x.name entry.1 ∧ x.value.Holds entry.2

end Member

/-! ## Tokens -/

section Lexes

variable {l : Lexer} {depth : Nat} {m : Mark} {d : Char} {cs tail : List Char}

theorem lexes_word (hne : cs ≠ []) (h : cs.all isWordChar = true) :
    Lexes cs [.scalar cs .plain] :=
  fun _ _ _ _ _ hd hline => hline.word hne h hd

theorem lexes_string {s : String} (h : s.toList.all isPrintable = true) :
    Lexes (Json.string s) [.scalar s.toList .doubleQuoted] := by
  intro l depth m d tail _ hline
  obtain ⟨l', hreads, hline', -⟩ := hline.string h
  exact ⟨l', hreads, hline'⟩

/-- A member, where a key may start. -/
theorem Member.reads (x : Member) (hd : isFlowDelimiter d = true)
    (hline : l.InLine (depth + 1) m (x.text ++ d :: tail)) (hkey : l.keyAllowed = true) :
    ∃ l', l.Reads x.tokens l' ∧ l'.InLine (depth + 1) (m.after x.text) (d :: tail) := by
  rw [Member.text, List.append_assoc, List.cons_append] at hline
  obtain ⟨k, hkeyReads, hk⟩ := hline.key x.isPrintable x.isShort hkey
  obtain ⟨l', hvalueReads, hl'⟩ := x.value.lexes hd hk
  refine ⟨l', hkeyReads.trans hvalueReads, ?_⟩
  rwa [← Mark.after_append, List.append_assoc] at hl'

/-- After a member stands a comma or the end of the object. -/
theorem exists_delimiter (xs : List Member) (tail : List Char) (hd : isFlowDelimiter d = true) :
    ∃ d' tail', (xs.flatMap fun x => ',' :: x.text) ++ d :: tail = d' :: tail' ∧
      isFlowDelimiter d' = true := by
  cases xs with
  | nil => exact ⟨d, tail, rfl, hd⟩
  | cons x xs => exact ⟨',', _, rfl, by decide⟩

/-- The members after the first, each after its comma. -/
theorem lexes_members (xs : List Member) :
    Lexes (xs.flatMap fun x => ',' :: x.text) (xs.flatMap fun x => .flowEntry :: x.tokens) := by
  induction xs with
  | nil => exact fun l _ _ _ _ _ hline => ⟨l, ⟨.refl l, rfl⟩, hline⟩
  | cons x xs ih =>
    intro l depth m d tail hd hline
    rw [List.flatMap_cons, List.append_assoc, List.cons_append] at hline
    obtain ⟨k, hcomma, hk, hkey⟩ := hline.comma
    obtain ⟨d', tail', htail, hd'⟩ := exists_delimiter xs tail hd
    rw [htail] at hk
    obtain ⟨k', hmember, hk'⟩ := x.reads hd' hk hkey
    rw [← htail] at hk'
    obtain ⟨l', hmembers, hl'⟩ := ih hd hk'
    refine ⟨l', (hcomma.trans hmember).trans hmembers, ?_⟩
    rwa [← @Mark.after_singleton m ',', ← Mark.after_append, ← Mark.after_append] at hl'

/-- What stands between several texts stands before each but the first. -/
theorem intercalate_cons {α : Type} (sep first : List α) (others : List (List α)) :
    sep.intercalate (first :: others) = first ++ others.flatMap (sep ++ ·) := by
  induction others generalizing first with
  | nil => simp
  | cons other others ih =>
    rw [List.intercalate_cons_cons, ih, List.flatMap_cons, List.append_assoc, List.append_assoc]

theorem all_intercalate {α : Type} {p : α → Bool} {sep : List α} {texts : List (List α)}
    (hsep : sep.all p = true) (h : ∀ text ∈ texts, text.all p = true) :
    (sep.intercalate texts).all p = true := by
  cases texts with
  | nil => rfl
  | cons first others =>
    rw [List.forall_mem_cons] at h
    rw [intercalate_cons, List.all_append, h.1, Bool.true_and, List.all_flatMap, List.all_eq_true]
    exact fun text htext => by rw [List.all_append, hsep, h.2 text htext, Bool.and_self]

/-- The tokens of an object. -/
def objectTokens (x : Member) (xs : List Member) : List Token :=
  .flowMappingStart :: x.tokens ++ (xs.flatMap fun x => .flowEntry :: x.tokens) ++
    [.flowMappingEnd]

/-- An object, inside flow collections or as the whole text. -/
theorem reads_object (x : Member) (xs : List Member)
    (hline : l.InLine depth m
      (Json.object ((x :: xs).map Member.pair) ++ tail)) :
    ∃ l', l.Reads (objectTokens x xs) l' ∧
      l'.InLine depth (m.after (Json.object ((x :: xs).map Member.pair)))
        tail := by
  have htext : Json.object ((x :: xs).map Member.pair) =
      '\x7b' :: (x.text ++ (xs.flatMap fun x => ',' :: x.text) ++ ['\x7d']) := by
    rw [Json.object, List.map_map, List.map_cons, intercalate_cons, List.flatMap_map]
    rfl
  rw [htext] at hline ⊢
  rw [List.cons_append, List.append_assoc, List.append_assoc] at hline
  obtain ⟨a, hopen, ha, hkey⟩ := hline.openMapping
  have hbrace : isFlowDelimiter '\x7d' = true := by decide
  obtain ⟨d', tail', htail, hd'⟩ := exists_delimiter xs tail hbrace
  rw [List.singleton_append, htail] at ha
  obtain ⟨b, hmember, hb⟩ := x.reads hd' ha hkey
  rw [← htail] at hb
  obtain ⟨c, hmembers, hc⟩ := lexes_members xs hbrace hb
  obtain ⟨l', hclose, hl'⟩ := hc.closeMapping
  refine ⟨l', ((hopen.trans hmember).trans hmembers).trans hclose, ?_⟩
  rwa [← @Mark.after_singleton _ '\x7d', ← Mark.after_append, ← Mark.after_append,
    ← List.append_assoc, ← @Mark.after_cons m '\x7b'] at hl'

theorem lexes_object (x : Member) (xs : List Member) :
    Lexes (Json.object ((x :: xs).map Member.pair)) (objectTokens x xs) :=
  fun _ _ _ _ _ _ hline => reads_object x xs hline

end Lexes

/-! ## Nodes -/

section Builds

variable {handles : Handles} {fuel : Nat} {ws rest : List Located} {anchors : Anchors}
  {ts : List Token} {Holds : Node → Prop} {r : NodeReader}

open NodeReader

/-- A token and what is left once it has been taken. -/
theorem exists_located {t : Token} (hws : ws.map (·.token) = t :: ts) :
    ∃ start finish ws', ws = ⟨t, start, finish⟩ :: ws' ∧ ws'.map (·.token) = ts := by
  obtain ⟨⟨token, start, finish⟩, ws', rfl, rfl, hws'⟩ := List.map_eq_cons_iff.mp hws
  exact ⟨start, finish, ws', rfl, hws'⟩

/-- A scalar token is a node of its own. -/
theorem builds_scalar {text : List Char} {style : ScalarStyle} :
    Builds [.scalar text style] fun n => ∃ mark, n = .scalar none text style mark where
  begins := ⟨_, [], rfl, rfl⟩
  reads := by
    intro handles inBlock fuel ws rest anchors hws hfuel
    obtain ⟨fuel, rfl⟩ : ∃ n, fuel = n + 2 := ⟨fuel - 2, by simp at hfuel; omega⟩
    obtain ⟨start, finish, ws', rfl, hws'⟩ := exists_located hws
    obtain rfl : ws' = [] := List.map_eq_nil_iff.mp hws'
    refine ⟨_, ⟨start, rfl⟩, ?_⟩
    simp [node, properties, spellTag, content, moveTo, scalarTag, markOf]

theorem flowValue_eq (h : Builds ts Holds) (hws : ws.map (·.token) = .value :: ts)
    (hfuel : 3 * ts.length + 2 ≤ fuel) :
    ∃ n, Holds n ∧ flowValue handles fuel ⟨ws ++ rest, anchors⟩ = .ok (n, ⟨rest, anchors⟩) := by
  obtain ⟨fuel, rfl⟩ : ∃ n, fuel = n + 2 := ⟨fuel - 2, by omega⟩
  obtain ⟨start, finish, ws', rfl, hws'⟩ := exists_located hws
  obtain ⟨n, hn, hnode⟩ := @h.reads handles false fuel ws' rest anchors hws' (by omega)
  obtain ⟨t, ts', rfl, ht⟩ := h.begins
  obtain ⟨start', finish', ws'', rfl, -⟩ := exists_located hws'
  refine ⟨n, hn, ?_⟩
  simpa [flowValue, NodeReader.optional, nextIs, moveTo, ht] using hnode

/-- A member is read as one entry before those after it. -/
theorem flowEntries_member (x : Member) (hws : ws.map (·.token) = x.tokens)
    (hfuel : 3 * ws.length ≤ fuel) :
    ∃ e, x.Holds e ∧ ∀ es, flowEntries handles false fuel ⟨rest, anchors⟩ = .ok (es, r) →
      flowEntries handles true (fuel + 1) ⟨ws ++ rest, anchors⟩ = .ok (e :: es, r) ∧
        ∀ start finish, flowEntries handles false (fuel + 1)
          ⟨⟨.flowEntry, start, finish⟩ :: ws ++ rest, anchors⟩ = .ok (e :: es, r) := by
  obtain ⟨start, finish, ws', rfl, hws'⟩ := exists_located hws
  obtain ⟨start', finish', vs, rfl, hvs⟩ := exists_located hws'
  have hlength := congrArg List.length hvs
  simp only [List.length_map, List.length_cons] at hlength hfuel
  obtain ⟨v, hv, hvalue⟩ := @flowValue_eq handles fuel vs rest anchors _ _ x.value.builds hvs
    (by omega)
  obtain ⟨fuel, rfl⟩ : ∃ n, fuel = n + 3 := ⟨fuel - 3, by omega⟩
  refine ⟨(.scalar none x.name.toList .doubleQuoted start', v), ⟨⟨start', rfl⟩, hv⟩, ?_⟩
  intro es hes
  have hkey : NodeReader.optional handles false false endsFlowKey start' (fuel + 3)
      ⟨⟨.scalar x.name.toList .doubleQuoted, start', finish'⟩ :: (vs ++ rest), anchors⟩ =
        .ok (.scalar none x.name.toList .doubleQuoted start', ⟨vs ++ rest, anchors⟩) := by
    simp [NodeReader.optional, node, properties, spellTag, content, moveTo, scalarTag, markOf,
      nextIs, endsFlowKey]
  constructor
  · rw [flowEntries]
    simp [moveTo, markOf, hkey, hvalue, hes]
  · intro start'' finish''
    rw [flowEntries]
    simp [moveTo, markOf, nextIs, hkey, hvalue, hes]

/-- The entries after the first, up to the end of the mapping. -/
theorem flowEntries_members (xs : List Member)
    (hws : ws.map (·.token) = (xs.flatMap fun x => .flowEntry :: x.tokens) ++ [.flowMappingEnd])
    (hfuel : 3 * ws.length ≤ fuel) :
    ∃ es, List.Forall₂ Member.Holds xs es ∧
      flowEntries handles false fuel ⟨ws ++ rest, anchors⟩ = .ok (es, ⟨rest, anchors⟩) := by
  have hpos : 0 < ws.length := by
    have hlength := congrArg List.length hws
    simp at hlength
    omega
  obtain ⟨fuel, rfl⟩ : ∃ n, fuel = n + 1 := ⟨fuel - 1, by omega⟩
  induction xs generalizing ws fuel with
  | nil =>
    obtain ⟨start, finish, ws', rfl, hws'⟩ := exists_located hws
    obtain rfl : ws' = [] := List.map_eq_nil_iff.mp hws'
    exact ⟨[], .nil, by simp [flowEntries, moveTo]⟩
  | cons x xs ih =>
    rw [List.flatMap_cons, List.cons_append, List.cons_append, List.append_assoc] at hws
    obtain ⟨start, finish, ws', rfl, hws'⟩ := exists_located hws
    obtain ⟨vs, more, rfl, hvs, hmore⟩ := List.map_eq_append_iff.mp hws'
    have hlength := congrArg List.length hmore
    simp only [List.length_map, List.length_append, List.length_cons, List.length_nil] at hlength hfuel
    obtain ⟨fuel, rfl⟩ : ∃ n, fuel = n + 1 := ⟨fuel - 1, by omega⟩
    obtain ⟨es, hes, hmembers⟩ := ih hmore (by omega) fuel (by omega)
    obtain ⟨e, he, hentry⟩ := @flowEntries_member handles (fuel + 1) vs (more ++ rest) anchors
      ⟨rest, anchors⟩ x hvs (by omega)
    refine ⟨e :: es, .cons he hes, ?_⟩
    have hread := (hentry es hmembers).2 start finish
    rwa [List.cons_append, List.append_assoc]

/-- An object is a mapping of its members. -/
theorem builds_object (x : Member) (xs : List Member) :
    Builds (objectTokens x xs) fun n =>
      ∃ es mark, n = .mapping none es mark ∧ List.Forall₂ Member.Holds (x :: xs) es where
  begins := ⟨_, _, rfl, rfl⟩
  reads := by
    intro handles inBlock fuel ws rest anchors hws hfuel
    rw [objectTokens, List.append_assoc] at hws
    obtain ⟨start, finish, ws', rfl, hws'⟩ := exists_located hws
    obtain ⟨vs, more, rfl, hvs, hmore⟩ := List.map_eq_append_iff.mp hws'
    have hvsLength := congrArg List.length hvs
    have hmoreLength := congrArg List.length hmore
    simp only [objectTokens, List.length_map, List.length_append, List.length_cons,
      List.length_nil] at hvsLength hmoreLength hfuel
    obtain ⟨fuel, rfl⟩ : ∃ n, fuel = n + 3 := ⟨fuel - 3, by omega⟩
    obtain ⟨es, hes, hmembers⟩ := @flowEntries_members handles fuel more rest anchors xs hmore
      (by omega)
    obtain ⟨e, he, hentry⟩ := @flowEntries_member handles fuel vs (more ++ rest) anchors
      ⟨rest, anchors⟩ x hvs (by omega)
    refine ⟨.mapping none (e :: es) start, ⟨e :: es, start, rfl, .cons he hes⟩, ?_⟩
    have hread := (hentry es hmembers).1
    simp [node, properties, spellTag, content, moveTo, markOf, hread]

end Builds

/-! ## Texts -/

namespace FlowText

/-- A number or a keyword. -/
def word (cs : List Char) (hne : cs ≠ []) (h : cs.all isWordChar = true) : FlowText where
  text := cs
  isPrintable := List.all_eq_true.mpr fun c hc =>
    isPrintable_of_isWordChar (List.all_eq_true.mp h c hc)
  tokens := [.scalar cs .plain]
  Holds n := ∃ mark, n = .scalar none cs .plain mark
  lexes := lexes_word hne h
  builds := builds_scalar

theorem isPrintable_string {s : String} (h : s.toList.all Text.isPrintable = true) :
    (Json.string s).all Text.isPrintable = true := by
  have hescape : (s.toList.flatMap Json.escape).all Text.isPrintable = true := by
    rw [List.all_flatMap]
    exact List.all_eq_true.mpr fun c hc => isPrintable_escape (List.all_eq_true.mp h c hc)
  simp [Json.string, hescape, show Text.isPrintable '"' = true by decide]

/-- A string. -/
def string (s : String) (h : s.toList.all Text.isPrintable = true) : FlowText where
  text := Json.string s
  isPrintable := isPrintable_string h
  tokens := [.scalar s.toList .doubleQuoted]
  Holds n := ∃ mark, n = .scalar none s.toList .doubleQuoted mark
  lexes := lexes_string h
  builds := builds_scalar

theorem isPrintable_object (xs : List Member) :
    (Json.object (xs.map Member.pair)).all Text.isPrintable = true := by
  obtain ⟨hopen, hclose, hcomma, hcolon⟩ : Text.isPrintable '\x7b' = true ∧
      Text.isPrintable '\x7d' = true ∧ Text.isPrintable ',' = true ∧
      Text.isPrintable ':' = true := by decide
  have hmembers : ∀ cs ∈ xs.map Member.text, cs.all Text.isPrintable = true := by
    intro cs hcs
    obtain ⟨x, -, rfl⟩ := List.mem_map.mp hcs
    simp [Member.text, isPrintable_string x.isPrintable, hcolon, x.value.isPrintable]
  have hall : ([','].intercalate (xs.map Member.text)).all Text.isPrintable = true :=
    all_intercalate (by simpa using hcomma) hmembers
  rw [Json.object, List.map_map]
  change ('\x7b' :: [','].intercalate (xs.map Member.text) ++ ['\x7d']).all _ = true
  rw [List.all_append, List.all_cons, hopen, hall]
  simp [hclose]

/-- An object with these members. -/
def object (x : Member) (xs : List Member) : FlowText where
  text := Json.object ((x :: xs).map Member.pair)
  isPrintable := isPrintable_object (x :: xs)
  tokens := objectTokens x xs
  Holds n := ∃ es mark, n = .mapping none es mark ∧ List.Forall₂ Member.Holds (x :: xs) es
  lexes := lexes_object x xs
  builds := builds_object x xs

/-- The tokens of an object, when it is the whole text. -/
theorem tokens_object (x : Member) (xs : List Member) :
    ∃ ws, Token.ofText (object x xs).text = .ok ws ∧
      ws.map (·.token) = objectTokens x xs ++ [.streamEnd] := by
  have h := (object x xs).isPrintable
  have hallowed : (object x xs).text.all isAllowed = true :=
    List.all_eq_true.mpr fun c hc => isAllowed_of_isPrintable (List.all_eq_true.mp h c hc)
  have hhead : (object x xs).text.head? ≠ some byteOrderMark := by
    intro hbom
    exact absurd (Option.some.inj hbom) (by decide)
  have hline : (Lexer.start (place .start (object x xs).text)
      (Mark.start.after (object x xs).text)).InLine 0 .start ((object x xs).text ++ []) := by
    rw [List.append_nil]
    exact ⟨rfl, rfl, rfl, rfl, rfl, by simp [Lexer.start]⟩
  obtain ⟨l', hreads, hend⟩ := reads_object x xs hline
  obtain ⟨fuel, hfuel, hall⟩ := hreads.steps.readAll _ (Nat.lt_succ_self _)
  obtain ⟨fuel, rfl⟩ : ∃ n, fuel = n + 1 := ⟨fuel - 1, by omega⟩
  obtain ⟨ws, hws, hkinds⟩ := hend.readAll fuel
  refine ⟨ws, ?_, ?_⟩
  · rw [Token.ofText, if_neg hhead, if_pos hallowed, locate_eq h]
    exact hall.trans hws
  · rw [hkinds, hreads.kinds, List.reverse_append, List.reverse_reverse]
    rfl

/-- An object is a document whose root is what is known of the object. -/
theorem ofText_object (x : Member) (xs : List Member) :
    ∃ n, (object x xs).Holds n ∧ Document.ofText (object x xs).text = .ok ⟨some n, []⟩ := by
  obtain ⟨ws, htext, hws⟩ := tokens_object x xs
  obtain ⟨vs, ends, rfl, hvs, hends⟩ := List.map_eq_append_iff.mp hws
  obtain ⟨start, finish, ends, rfl, hnil⟩ := exists_located hends
  obtain rfl : ends = [] := List.map_eq_nil_iff.mp hnil
  have hfuel : 3 * (objectTokens x xs).length ≤
      3 * (vs ++ [Located.mk .streamEnd start finish]).length + 3 := by
    have hlength := congrArg List.length hvs
    simp only [List.length_map, List.length_append] at hlength ⊢
    omega
  obtain ⟨n, hn, hnode⟩ := @Builds.reads _ _ (object x xs).builds defaultHandles true _ vs
    [⟨.streamEnd, start, finish⟩] .empty hvs hfuel
  obtain ⟨start', finish', vs, rfl, -⟩ := exists_located hvs
  refine ⟨n, hn, ?_⟩
  have hroot : Document.readRoot (⟨.flowMappingStart, start', finish'⟩ :: vs ++
      [⟨.streamEnd, start, finish⟩]) = .ok (n, ⟨[⟨.streamEnd, start, finish⟩], .empty⟩) := by
    rw [Document.readRoot]
    simpa [NodeReader.nextIs, Document.startsExplicitly] using hnode
  rw [Document.ofText, htext, Except.ok_bind, Document.ofTokens, hroot]
  simp [NodeReader.nextIs]
  rfl

end FlowText

end FaultyServer.Yaml
