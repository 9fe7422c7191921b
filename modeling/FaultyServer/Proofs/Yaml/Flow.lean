import FaultyServer.Proofs.Except
import FaultyServer.Proofs.Yaml.Line
import FaultyServer.Yaml.Token.Lexer

/-!
# Flow collections in one line

In one line of printable text that is all flow collections, the lexer does no more than read one
token after the other: no block collection opens or closes, and no place where a key may have
started is ever required to have one. `InLine` says that the lexer is at such a place, `Reads` which
tokens it has read since another, and there is one lemma for each token:

* `InLine.open`, `InLine.close` and `InLine.comma` for the characters of a flow mapping;
* `InLine.string` and `InLine.word` for its scalars;
* `InLine.key`, for a key up to its colon, where the token of the key appears before its scalar.

`readAll_of_reads` puts together what has been read.
-/

namespace FaultyServer.Yaml.Lexer

open Text (isPrintable)

/-- The tokens so far without their positions, the newest first. -/
def kinds (l : Lexer) : List Token := l.tokens.map (·.token)

/-- The lexer before the rest of the one line of a text, inside `depth` flow collections. -/
structure InLine (l : Lexer) (depth : Nat) (m : Mark) (cs : List Char) : Prop where
  rest : l.rest = place m cs
  finish : l.finish = m.after cs
  length_outer : l.outer.length = depth
  indent : l.indent = -1
  indents : l.indents = []
  optional : ∀ c ∈ l.candidate :: l.outer, ∀ d ∈ c, d.isRequired = false

/-- From one lexer to another by reading tokens, none of them the last. -/
inductive Steps : Lexer → Lexer → Prop
  | refl (l : Lexer) : Steps l l
  | head {l l' l'' : Lexer} (step : l.step = .ok (l', false))
      (length : l'.rest.length < l.rest.length) (rest : Steps l' l'') : Steps l l''

/-- From one lexer to another by reading these tokens. -/
structure Reads (l : Lexer) (ts : List Token) (l' : Lexer) : Prop where
  steps : Steps l l'
  kinds : l'.kinds = ts.reverse ++ l.kinds

variable {l l' l'' : Lexer} {depth depth' : Nat} {m m' : Mark} {c d : Char} {cs ds : List Char}
  {ts ts' : List Token}

theorem Steps.trans (h : Steps l l') (h' : Steps l' l'') : Steps l l'' := by
  induction h with
  | refl => exact h'
  | head step length _ ih => exact .head step length (ih h')

theorem Reads.trans (h : l.Reads ts l') (h' : l'.Reads ts' l'') : l.Reads (ts ++ ts') l'' :=
  ⟨h.steps.trans h'.steps, by rw [h'.kinds, h.kinds, List.reverse_append, List.append_assoc]⟩

/-- What is left to read after some tokens decides the result, whatever the fuel that is left. -/
theorem Steps.readAll (h : Steps l l') : ∀ fuel, l.rest.length < fuel →
    ∃ fuel', l'.rest.length < fuel' ∧ l.readAll fuel = l'.readAll fuel' := by
  induction h with
  | refl l => exact fun fuel hfuel => ⟨fuel, hfuel, rfl⟩
  | @head l l' l'' step length _ ih =>
    intro fuel hfuel
    obtain ⟨fuel, rfl⟩ : ∃ n, fuel = n + 1 := ⟨fuel - 1, by omega⟩
    obtain ⟨fuel', hfuel', heq⟩ := ih fuel (by omega)
    refine ⟨fuel', hfuel', ?_⟩
    rw [← heq, Lexer.readAll, step]
    rfl

/-! ## One step -/

/-- A place unless it is too far back. -/
def keep (now : Mark) (c : Option Candidate) : Option Candidate := c.filter (!isStale now ·)

/-- The lexer without the places that are too far back. -/
def fresh (l : Lexer) : Lexer :=
  { l with candidate := keep l.mark l.candidate, outer := l.outer.map (keep l.mark) }

/-- The lexer with its place noted if a key may start there. -/
def saved (l : Lexer) : Lexer :=
  if l.keyAllowed then { l with candidate := some ⟨l.tokens.length, l.mark, false⟩ } else l

@[simp]
theorem tokens_saved (l : Lexer) : l.saved.tokens = l.tokens := by
  rw [saved]
  split <;> rfl

theorem insert_second (l : Lexer) {w : Located} {ws : List Located} (token : Token) (m : Mark)
    (h : l.tokens = w :: ws) :
    l.insert ws.length token m = { l with tokens := w :: ⟨token, m, m⟩ :: ws } := by
  have hnewer : l.tokens.length - ws.length = 1 := by
    rw [h, List.length_cons, Nat.add_sub_cancel_left]
  rw [insert, hnewer, h]
  rfl

theorem openBlock_of_inFlow {column : Nat} {position : Option Nat} {token : Token}
    (h : l.inFlow = true) : l.openBlock column position token m = l := by
  rw [openBlock, h, Bool.true_or, if_pos rfl]

theorem refresh_eq {now : Mark} {c : Option Candidate} (h : ∀ d ∈ c, d.isRequired = false) :
    refresh now c = .ok (keep now c) := by
  cases c with
  | none => rfl
  | some c =>
    have hc : c.isRequired = false := h c rfl
    cases hstale : isStale now c <;> simp [refresh, keep, giveUp, hstale, hc, Option.filter]

theorem giveUp_eq {c : Option Candidate} (h : ∀ d ∈ c, d.isRequired = false) :
    giveUp c = .ok none := by
  cases c with
  | none => rfl
  | some c => simp [giveUp, h c rfl]

theorem dropCandidate_eq (h : ∀ d ∈ l.candidate, d.isRequired = false) :
    l.dropCandidate = .ok { l with candidate := none } := by
  rw [dropCandidate, giveUp_eq h]
  rfl

/-- Outside of all block collections there is none to close. -/
theorem closeBlocks_eq {column : Int} (h : l.indents = []) : l.closeBlocks column = l := by
  obtain ⟨rest, finish, tokens, candidate, outer, indent, indents, keyAllowed⟩ := l
  obtain rfl : indents = [] := h
  simp [closeBlocks, closeBlocksFrom]

theorem mapM_refresh {now : Mark} {outer : List (Option Candidate)}
    (h : ∀ c ∈ outer, ∀ d ∈ c, d.isRequired = false) :
    outer.mapM (refresh now) = .ok (outer.map (keep now)) := by
  induction outer with
  | nil => rfl
  | cons c outer ih =>
    rw [List.forall_mem_cons] at h
    rw [List.mapM_cons, refresh_eq h.1, ih h.2]
    rfl

theorem isRequired_keep {now : Mark} {c : Option Candidate} (h : ∀ d ∈ c, d.isRequired = false) :
    ∀ d ∈ keep now c, d.isRequired = false :=
  fun d hd => h d (Option.mem_filter_iff.mp hd).1

namespace InLine

theorem mark_eq (h : l.InLine depth m cs) : l.mark = m := by
  rw [mark, h.rest, h.finish, here_place]

theorem inFlow (h : l.InLine (depth + 1) m cs) : l.inFlow = true := by
  obtain ⟨c, outer, houter⟩ := List.exists_cons_of_length_eq_add_one h.length_outer
  simp [Lexer.inFlow, houter]

theorem dropStale (h : l.InLine depth m cs) : l.dropStale = .ok l.fresh := by
  obtain ⟨hcandidate, houter⟩ := List.forall_mem_cons.mp h.optional
  rw [Lexer.dropStale, mapM_refresh houter, refresh_eq hcandidate]
  rfl

theorem fresh (h : l.InLine depth m cs) : l.fresh.InLine depth m cs where
  rest := h.rest
  finish := h.finish
  length_outer := by rw [Lexer.fresh, List.length_map, h.length_outer]
  indent := h.indent
  indents := h.indents
  optional := by
    obtain ⟨hcandidate, houter⟩ := List.forall_mem_cons.mp h.optional
    refine List.forall_mem_cons.mpr ⟨isRequired_keep hcandidate, ?_⟩
    intro _ hmem
    obtain ⟨c, hc, rfl⟩ := List.mem_map.mp hmem
    exact isRequired_keep (houter c hc)

/-- A visible character is the first of the next token. -/
theorem step (h : l.InLine depth m (c :: cs)) (hspace : isSpace c = false) (hmark : c ≠ '#')
    (hbom : c ≠ byteOrderMark) (hread : l.fresh.readToken c (place m.next cs) = .ok l') :
    l.step = .ok (l', false) := by
  have hnone : l.toToken = l := by
    simp only [isSpace, isBlank, Bool.or_eq_false_iff, beq_eq_false_iff_ne] at hspace
    obtain ⟨rest, finish, tokens, candidate, outer, indent, indents, keyAllowed⟩ := l
    have hrest : rest = place m (c :: cs) := h.rest
    subst hrest
    simp [toToken, place, skipSpace, hspace, hmark, hbom]
  have hrest : l.fresh.rest = ⟨c, m⟩ :: place m.next cs := h.rest
  rw [Lexer.step, hnone, h.dropStale]
  simp only [Except.ok_bind, closeBlocks_eq h.fresh.indents, hrest, hread]
  rfl

theorem steps (h : l.InLine depth m cs) (hstep : l.step = .ok (l', false))
    (h' : l'.InLine depth' m' ds) (hlength : ds.length < cs.length) : Steps l l' := by
  refine .head hstep ?_ (.refl l')
  rwa [h.rest, h'.rest, length_place, length_place]

/-! ## What the parts of a step leave -/

theorem allowKey (h : l.InLine depth m cs) (isAllowed : Bool) :
    (l.allowKey isAllowed).InLine depth m cs :=
  ⟨h.rest, h.finish, h.length_outer, h.indent, h.indents, h.optional⟩

theorem pushWidth (h : l.InLine depth m (c :: cs)) (token : Token) :
    (l.pushWidth token 1).InLine depth m.next cs where
  rest := by simp [Lexer.pushWidth, moveTo, h.rest, place]
  finish := h.finish.trans Mark.after_cons
  length_outer := h.length_outer
  indent := h.indent
  indents := h.indents
  optional := h.optional

theorem pushNode (h : l.InLine depth m (cs ++ ds)) (token : Token) :
    (l.pushNode token (place (m.after cs) ds)).InLine depth (m.after cs) ds where
  rest := rfl
  finish := h.finish.trans Mark.after_append
  length_outer := h.length_outer
  indent := h.indent
  indents := h.indents
  optional := h.optional

theorem insert (h : l.InLine depth m cs) (position : Nat) (token : Token) (mark : Mark) :
    (l.insert position token mark).InLine depth m cs :=
  ⟨h.rest, h.finish, h.length_outer, h.indent, h.indents, h.optional⟩

theorem withoutCandidate (h : l.InLine depth m cs) :
    { l with candidate := none }.InLine depth m cs :=
  ⟨h.rest, h.finish, h.length_outer, h.indent, h.indents, List.forall_mem_cons.mpr
    ⟨nofun, (List.forall_mem_cons.mp h.optional).2⟩⟩

theorem enter (h : l.InLine depth m cs) :
    { l with candidate := none, outer := l.candidate :: l.outer }.InLine (depth + 1) m cs :=
  ⟨h.rest, h.finish, congrArg Nat.succ h.length_outer, h.indent, h.indents,
    List.forall_mem_cons.mpr ⟨nofun, h.optional⟩⟩

theorem leave {candidate : Option Candidate} {outer : List (Option Candidate)}
    (h : l.InLine (depth + 1) m cs) (houter : l.outer = candidate :: outer) :
    { l with candidate := candidate, outer := outer }.InLine depth m cs := by
  have hlength := h.length_outer
  have hoptional := (List.forall_mem_cons.mp h.optional).2
  rw [houter] at hlength hoptional
  exact ⟨h.rest, h.finish, Nat.succ.inj hlength, h.indent, h.indents, hoptional⟩

/-- No key is required here, as no block mapping is open. -/
theorem saveCandidate (h : l.InLine depth m cs) : l.saveCandidate = .ok l.saved := by
  cases hkey : l.keyAllowed with
  | false =>
    simp only [Lexer.saveCandidate, saved, hkey]
    rfl
  | true =>
    have hindent : (l.indent == Int.ofNat l.mark.column) = false := by
      rw [h.indent]
      rfl
    simp only [Lexer.saveCandidate, saved, hkey,
      giveUp_eq (List.forall_mem_cons.mp h.optional).1, hindent, Bool.and_false]
    rfl

theorem saved (h : l.InLine depth m cs) : l.saved.InLine depth m cs := by
  obtain ⟨hcandidate, houter⟩ := List.forall_mem_cons.mp h.optional
  rw [Lexer.saved]
  split
  · refine ⟨h.rest, h.finish, h.length_outer, h.indent, h.indents, ?_⟩
    exact List.forall_mem_cons.mpr ⟨fun d hd => by cases hd; rfl, houter⟩
  · exact h

theorem dropCandidate (h : l.InLine depth m cs) :
    l.dropCandidate = .ok { l with candidate := none } :=
  dropCandidate_eq (List.forall_mem_cons.mp h.optional).1

/-! ## The characters of a mapping -/

/-- What starts with neither a dash nor a dot is no document marker. -/
theorem atDocumentMarker_eq (h : l.InLine depth m (c :: cs)) (hdash : c ≠ '-') (hdot : c ≠ '.') :
    atDocumentMarker l.rest = false := by
  rw [h.rest]
  exact atDocumentMarker_place_cons hdash hdot

theorem openMapping (h : l.InLine depth m ('\x7b' :: cs)) :
    ∃ l', l.Reads [.flowMappingStart] l' ∧ l'.InLine (depth + 1) m.next cs ∧
      l'.keyAllowed = true := by
  have hread : l.fresh.readToken '\x7b' (place m.next cs) = l.fresh.openFlow .flowMappingStart := by
    simp [readToken, h.fresh.atDocumentMarker_eq]
  rw [openFlow, h.fresh.saveCandidate, Except.ok_bind] at hread
  have hopen := (h.fresh.saved.enter.allowKey true).pushWidth .flowMappingStart
  refine ⟨_, ⟨h.steps (h.step (by decide) (by decide) (by decide) hread) hopen (by simp), ?_⟩,
    hopen, rfl⟩
  exact congrArg (fun ws => .flowMappingStart :: ws.map (·.token)) l.fresh.tokens_saved

theorem closeMapping (h : l.InLine (depth + 1) m ('\x7d' :: cs)) :
    ∃ l', l.Reads [.flowMappingEnd] l' ∧ l'.InLine depth m.next cs := by
  have hread : l.fresh.readToken '\x7d' (place m.next cs) = l.fresh.closeFlow .flowMappingEnd := by
    simp [readToken, h.fresh.atDocumentMarker_eq]
  obtain ⟨candidate, outer, houter⟩ := List.exists_cons_of_length_eq_add_one h.fresh.length_outer
  rw [closeFlow, h.fresh.dropCandidate, Except.ok_bind] at hread
  simp only [houter] at hread
  have hclose := ((h.fresh.leave houter).allowKey false).pushWidth .flowMappingEnd
  exact ⟨_, ⟨h.steps (h.step (by decide) (by decide) (by decide) hread) hclose (by simp), rfl⟩,
    hclose⟩

theorem comma (h : l.InLine depth m (',' :: cs)) :
    ∃ l', l.Reads [.flowEntry] l' ∧ l'.InLine depth m.next cs ∧ l'.keyAllowed = true := by
  have hread : l.fresh.readToken ',' (place m.next cs) = l.fresh.readFlowEntry := by
    simp [readToken, h.fresh.atDocumentMarker_eq]
  rw [readFlowEntry, h.fresh.dropCandidate, Except.ok_bind] at hread
  have hcomma := (h.fresh.withoutCandidate.allowKey true).pushWidth .flowEntry
  exact ⟨_, ⟨h.steps (h.step (by decide) (by decide) (by decide) hread) hcomma (by simp), rfl⟩,
    hcomma, rfl⟩

/-! ## Scalars -/

theorem string {s : String} (h : l.InLine depth m (Json.string s ++ cs))
    (hs : s.toList.all isPrintable = true) :
    ∃ l', l.Reads [.scalar s.toList .doubleQuoted] l' ∧
      l'.InLine depth (m.after (Json.string s)) cs ∧ (∃ w, l'.tokens = w :: l.tokens) ∧
      l'.candidate = l.fresh.saved.candidate := by
  have hsaved := h.fresh.saved
  have hrest : l.fresh.saved.rest.drop 1 =
      place m.next (s.toList.flatMap Json.escape ++ '"' :: cs) := by
    simp [hsaved.rest, Json.string, place]
  have htext : readDouble [] .word (l.fresh.saved.rest.drop 1) =
      .ok (s.toList, place (m.after (Json.string s)) cs) := by
    rw [hrest, (@readDouble_escape m.next cs s.toList [] [] (Nat.succ_ne_zero m.column) hs).1,
      ← Mark.after_cons]
    rfl
  have hread : ∀ after, l.fresh.readToken '"' after = .ok (l.fresh.saved.pushNode
      (.scalar s.toList .doubleQuoted) (place (m.after (Json.string s)) cs)) := by
    intro after
    have hquoted : l.fresh.readToken '"' after = l.fresh.readQuoted false := by
      simp [readToken, h.fresh.atDocumentMarker_eq]
    rw [hquoted, readQuoted, h.fresh.saveCandidate, Except.ok_bind, if_neg (by decide), htext]
    rfl
  have hend := hsaved.pushNode (.scalar s.toList .doubleQuoted)
  have htokens : ∀ w, w :: l.fresh.saved.tokens = w :: l.tokens :=
    fun w => congrArg (w :: ·) l.fresh.tokens_saved
  refine ⟨_, ⟨h.steps (h.step (by decide) (by decide) (by decide) (hread _)) hend ?_, ?_⟩, hend,
    ⟨_, htokens _⟩, rfl⟩
  · simp only [Json.string, List.length_append, List.length_cons]
    omega
  · exact congrArg (List.map (·.token)) (htokens _)

/-- A colon says that the scalar before it was a key. -/
theorem colon {w : Located} {ws : List Located} {isRequired : Bool}
    (h : l.InLine (depth + 1) m (':' :: cs))
    (hplace : l.fresh.candidate = some ⟨ws.length, m', isRequired⟩) (hws : l.tokens = w :: ws) :
    ∃ l', Steps l l' ∧ l'.InLine (depth + 1) m.next cs ∧
      l'.kinds = .value :: w.token :: .key :: ws.map (·.token) := by
  have hflow := h.fresh.inFlow
  have hread : l.fresh.readToken ':' (place m.next cs) = l.fresh.readValue := by
    simp [readToken, h.fresh.atDocumentMarker_eq, hflow]
  rw [readValue, hplace] at hread
  simp only [openBlock_of_inFlow (l := l.fresh.insert ws.length .key m') hflow] at hread
  have hend := ((h.fresh.insert ws.length .key m').withoutCandidate.allowKey
    false).pushWidth .value
  refine ⟨_, h.steps (h.step (by decide) (by decide) (by decide) hread) hend (by simp), hend, ?_⟩
  exact congrArg (fun l => .value :: l.kinds) (l.fresh.insert_second .key m' hws)

/-- A key up to its colon. Its token, which goes before that of its scalar, is there once the colon
has been read. -/
theorem key {s : String} (h : l.InLine (depth + 1) m (Json.string s ++ ':' :: cs))
    (hs : s.toList.all isPrintable = true) (hshort : (Json.string s).length ≤ 1024)
    (hkey : l.keyAllowed = true) :
    ∃ l', l.Reads [.key, .scalar s.toList .doubleQuoted, .value] l' ∧
      l'.InLine (depth + 1) (m.after (Json.string s ++ [':'])) cs := by
  obtain ⟨k, hk, hline, ⟨w, htokens⟩, hcandidate⟩ := h.string hs
  have hplace : k.fresh.candidate = some ⟨l.tokens.length, m, false⟩ := calc
    k.fresh.candidate = keep (m.after (Json.string s)) l.fresh.saved.candidate := by
      rw [Lexer.fresh, hline.mark_eq, hcandidate]
    _ = keep (m.after (Json.string s)) (some ⟨l.tokens.length, m, false⟩) := by
      rw [Lexer.saved, if_pos (by exact hkey), h.fresh.mark_eq]
      rfl
    _ = some ⟨l.tokens.length, m, false⟩ :=
      Option.filter_some_pos (by simp [isStale, Mark.after]; omega)
  obtain ⟨l', hcolon, hend, hkinds⟩ := hline.colon hplace htokens
  rw [← @Mark.after_singleton _ ':'] at hend
  refine ⟨l', ⟨hk.steps.trans hcolon, ?_⟩, Mark.after_append ▸ hend⟩
  have hw : w.token = .scalar s.toList .doubleQuoted := by
    have hscalar := hk.kinds
    rw [kinds, htokens] at hscalar
    exact (List.cons.inj hscalar).1
  rw [hkinds, hw]
  rfl

/-- A word is a plain scalar. -/
theorem word {word : List Char} (h : l.InLine (depth + 1) m (word ++ d :: cs)) (hne : word ≠ [])
    (hword : word.all isWordChar = true) (hd : isFlowDelimiter d = true) :
    ∃ l', l.Reads [.scalar word .plain] l' ∧ l'.InLine (depth + 1) (m.after word) (d :: cs) := by
  obtain ⟨c, word, rfl⟩ := List.exists_cons_of_ne_nil hne
  have hc := List.all_eq_true.mp hword c List.mem_cons_self
  have hne : ∀ d, isWordChar d = false → c ≠ d := fun d => ne_of_isWordChar hc
  have hsaved := h.fresh.saved
  have hmarker := h.fresh.atDocumentMarker_eq (hne '-' (by decide)) (hne '.' (by decide))
  have hscalar : readPlain l.fresh.saved.finish l.fresh.saved.inFlow (l.fresh.saved.indent + 1)
      (l.fresh.saved.rest.length + 1) [] l.fresh.saved.mark Gap.none l.fresh.saved.rest =
        .ok ⟨c :: word, m.after (c :: word), false, place (m.after (c :: word)) (d :: cs)⟩ := by
    rw [hsaved.inFlow, hsaved.mark_eq, hsaved.rest]
    exact readPlain_word hword hd
  have hplain : ∀ after, l.fresh.readToken c after = l.fresh.readPlainScalar := by
    intro after
    have hindicator : isIndicator c = false := by
      simp (disch := decide) [isIndicator, hne]
    simp (disch := decide) [readToken, hmarker, hne, hindicator, isSpace_of_isWordChar hc]
  have hread : ∀ after, l.fresh.readToken c after = .ok ((l.fresh.saved.pushNode
      (.scalar (c :: word) .plain) (place (m.after (c :: word)) (d :: cs)))) := by
    intro after
    rw [hplain, readPlainScalar, h.fresh.saveCandidate, Except.ok_bind]
    simp only [hscalar]
    rfl
  have hend := hsaved.pushNode (.scalar (c :: word) .plain)
  have hbom : c ≠ byteOrderMark := hne _ (by decide)
  refine ⟨_, ⟨h.steps (h.step (isSpace_of_isWordChar hc) (hne _ (by decide)) hbom (hread _)) hend ?_,
    ?_⟩, hend⟩
  · simp only [List.length_append, List.length_cons]
    omega
  · exact congrArg (fun ws => .scalar (c :: word) .plain :: ws.map (·.token)) l.fresh.tokens_saved

/-- At the end of the text, when every collection is closed, nothing is left to be said. -/
theorem readAll (h : l.InLine 0 m []) (fuel : Nat) :
    ∃ ws, l.readAll (fuel + 1) = .ok ws ∧ ws.map (·.token) = l.kinds.reverse ++ [.streamEnd] := by
  have hrest : l.rest = [] := h.rest
  have hnone : l.toToken = l := by
    obtain ⟨rest, finish, tokens, candidate, outer, indent, indents, keyAllowed⟩ := l
    obtain rfl : rest = [] := hrest
    rfl
  have hfresh : l.fresh.rest = [] := hrest
  have hstep : ∃ m' l', l.step = .ok (l', true) ∧
      l'.tokens = ⟨.streamEnd, m', m'⟩ :: l.tokens := by
    rw [Lexer.step, hnone, h.dropStale]
    simp only [Except.ok_bind, closeBlocks_eq h.fresh.indents, hfresh, readEnd]
    rw [closeBlocks_eq (by exact h.fresh.indents), dropCandidate_eq]
    · exact ⟨_, _, rfl, rfl⟩
    · exact (List.forall_mem_cons.mp h.fresh.optional).1
  obtain ⟨m', l', hstep, htokens⟩ := hstep
  refine ⟨l'.tokens.reverse, ?_, ?_⟩
  · rw [Lexer.readAll, hstep]
    rfl
  · rw [htokens, kinds, List.reverse_cons, List.map_append, List.map_reverse]
    rfl

end InLine

end FaultyServer.Yaml.Lexer
