import FaultyServer.Settings.Json
import FaultyServer.Yaml.Plain
import FaultyServer.Yaml.Quoted

/-!
# Scalars in one line

Printable text of basic Latin holds no line breaks, so its characters stand side by side
(`locate_eq`), and a scalar in it is read without any folding:

* `readDouble_escape`: between double quotes the reader gives back what JSON escapes;
* `readPlain_word`: inside a flow collection a word is a plain scalar up to the next delimiter.

Away from the start of the line nothing is a document marker, which is the one thing that a reader
of a scalar otherwise has to look out for.
-/

namespace FaultyServer

/-- A printable character of basic Latin. -/
def Text.isPrintable (c : Char) : Bool := decide (0x20 ≤ c.toNat ∧ c.toNat ≤ 0x7E)

namespace Yaml

open Text (isPrintable)

/-- The position after characters of one line. -/
def Mark.after (m : Mark) (cs : List Char) : Mark :=
  ⟨m.index + cs.length, m.line, m.column + cs.length⟩

/-- The characters of one line with their positions. -/
def place (m : Mark) : List Char → List Glyph
  | [] => []
  | c :: r => ⟨c, m⟩ :: place m.next r

variable {m : Mark} {c d : Char} {cs ds tail : List Char}

@[simp]
theorem Mark.after_nil : m.after [] = m := rfl

theorem Mark.after_cons : m.after (c :: cs) = m.next.after cs := by
  simp only [after, next, List.length_cons, Mark.mk.injEq, true_and]
  omega

theorem Mark.after_singleton : m.after [c] = m.next := rfl

theorem Mark.after_append : m.after (cs ++ ds) = (m.after cs).after ds := by
  simp only [after, List.length_append, Mark.mk.injEq, true_and]
  omega

theorem Mark.after_column (h : m.column ≠ 0) : (m.after cs).column ≠ 0 := by
  simp only [after]
  omega

theorem place_append : place m (cs ++ ds) = place m cs ++ place (m.after cs) ds := by
  induction cs generalizing m with
  | nil => rfl
  | cons c cs ih => simp only [List.cons_append, place, ih, Mark.after_cons]

theorem here_place : here (m.after cs) (place m cs) = m := by
  cases cs with
  | nil => rfl
  | cons c cs => rfl

theorem length_place : (place m cs).length = cs.length := by
  induction cs generalizing m with
  | nil => rfl
  | cons c cs ih => simp [place, ih]

/-! ## Printable characters -/

theorem isAllowed_of_isPrintable (h : isPrintable c = true) : isAllowed c = true := by
  simp only [isPrintable, decide_eq_true_eq] at h
  simp only [isAllowed, Bool.or_eq_true, Bool.and_eq_true, decide_eq_true_eq]
  omega

theorem isPrintable_of_isLetter (h : Text.isLetter c = true) : isPrintable c = true := by
  simp only [Text.isLetter, decide_eq_true_eq, Char.le_def, UInt32.le_iff_toNat_le, Char.toNat_val,
    Char.reduceVal, UInt32.reduceToNat] at h
  simp only [isPrintable, decide_eq_true_eq]
  omega

theorem isPrintable_of_isDigit (h : Text.isDigit c = true) : isPrintable c = true := by
  simp only [Text.isDigit, decide_eq_true_eq, Char.le_def, UInt32.le_iff_toNat_le, Char.toNat_val,
    Char.reduceVal, UInt32.reduceToNat] at h
  simp only [isPrintable, decide_eq_true_eq]
  omega

theorem isBreak_of_isPrintable (h : isPrintable c = true) : isBreak c = false := by
  cases hbreak : isBreak c with
  | false => rfl
  | true =>
    simp only [isBreak, Bool.or_eq_true, beq_iff_eq] at hbreak
    rcases hbreak with (rfl | rfl) | rfl <;> cases h

theorem isBlank_of_isPrintable (h : isPrintable c = true) (hspace : c ≠ ' ') :
    isBlank c = false := by
  cases hblank : isBlank c with
  | false => rfl
  | true =>
    simp only [isBlank, Bool.or_eq_true, beq_iff_eq] at hblank
    rcases hblank with rfl | rfl
    · exact absurd rfl hspace
    · cases h

/-- Printable characters are one line, in which each takes up one place. -/
theorem locate_eq (h : cs.all isPrintable = true) : locate m cs = (place m cs, m.after cs) := by
  induction cs generalizing m with
  | nil => rfl
  | cons c cs ih =>
    rw [List.all_cons, Bool.and_eq_true] at h
    have hreturn : ∀ d, isPrintable d = false → c ≠ d := fun d hd hc => by simp [← hc, h.1] at hd
    have hn := hreturn '\n' (by decide)
    have hr := hreturn '\r' (by decide)
    have hnext := hreturn '\x85' (by decide)
    rw [locate, if_neg (by simp [hn, hr, hnext]), isBreak_of_isPrintable h.1]
    · simp [ih h.2, place, Mark.after_cons]
    · exact fun _ hc => absurd hc hr

/-! ## Quoted scalars -/

/-- A document marker starts with a dash or a dot. -/
theorem atDocumentMarker_place_cons (hdash : c ≠ '-') (hdot : c ≠ '.') :
    atDocumentMarker (place m (c :: cs)) = false := by
  simp [atDocumentMarker, place, goesOn, hdash, hdot]

/-- Away from the start of a line there is no document marker. -/
theorem atDocumentMarker_place (hm : m.column ≠ 0) : atDocumentMarker (place m cs) = false := by
  cases cs with
  | nil => rfl
  | cons c cs => simp [atDocumentMarker, place, hm]

/-- Blanks between double quotes are kept for the character after them. -/
theorem readDouble_gap {text blanks : List Char} (hm : m.column ≠ 0) (hblank : isBlank c = false)
    (hbreak : isBreak c = false) :
    readDouble text (.gap (.blanks blanks)) (place m (c :: cs)) =
      readDouble (blanks.reverse ++ text) .word (place m (c :: cs)) := by
  have hmarker : mayResume (place m (c :: cs)) = .ok () := by
    rw [mayResume, atDocumentMarker_place hm]
    rfl
  rw [place] at hmarker ⊢
  simp only [readDouble, hblank, hbreak, Bool.false_eq_true, if_false, hmarker]
  rfl

/-- Of the printable characters only the quote and the backslash are escaped. -/
theorem escape_of_isPrintable (h : isPrintable c = true) :
    Json.escape c = if c = '"' ∨ c = '\\' then ['\\', c] else [c] := by
  have hlow : ¬ c.toNat < 0x20 := by
    simp only [isPrintable, decide_eq_true_eq] at h
    omega
  by_cases hquote : c = '"'
  · subst hquote
    rfl
  by_cases hslash : c = '\\'
  · subst hslash
    rfl
  · rw [Json.escape, if_neg hlow, if_neg (by simp [hquote, hslash])]
    · exact hquote
    · exact hslash
    -- Left are the controls that have an escape of their own.
    all_goals
      rintro rfl
      exact hlow (by decide)

theorem isPrintable_escape (h : isPrintable c = true) : (Json.escape c).all isPrintable = true := by
  rw [escape_of_isPrintable h]
  split
  · simp [h, show isPrintable '\\' = true by decide]
  · simp [h]

/-- Every printable character but the space is read back from how JSON writes it. -/
theorem readDouble_escapeChar {text : List Char} (h : isPrintable c = true) (hspace : c ≠ ' ') :
    readDouble text .word (place m (Json.escape c ++ cs)) =
      readDouble (c :: text) .word (place (m.after (Json.escape c)) cs) := by
  have hblank := isBlank_of_isPrintable h hspace
  have hbreak := isBreak_of_isPrintable h
  rw [escape_of_isPrintable h, place_append]
  by_cases hquote : c = '"'
  · subst hquote
    simp [place, readDouble, isBlank, isBreak, simpleEscape?]
  · by_cases hslash : c = '\\'
    · subst hslash
      simp [place, readDouble, isBlank, isBreak, simpleEscape?]
    · simp [hquote, hslash, place, readDouble, hblank, hbreak]

/-- What JSON writes between its quotes is read as the text itself. -/
theorem readDouble_escape {s text blanks : List Char} (hm : m.column ≠ 0)
    (h : s.all isPrintable = true) :
    readDouble text .word (place m (s.flatMap Json.escape ++ '"' :: tail)) =
        .ok (text.reverse ++ s, place (m.after (s.flatMap Json.escape ++ ['"'])) tail) ∧
      readDouble text (.gap (.blanks blanks)) (place m (s.flatMap Json.escape ++ '"' :: tail)) =
        .ok (text.reverse ++ blanks ++ s,
          place (m.after (s.flatMap Json.escape ++ ['"'])) tail) := by
  induction s generalizing m text blanks with
  | nil =>
    have hword : ∀ text, readDouble text .word (place m ('"' :: tail)) =
        .ok (text.reverse, place m.next tail) := by
      intro text
      simp [place, readDouble, isBlank, isBreak]
    rw [List.flatMap_nil, List.nil_append, readDouble_gap hm (by decide) (by decide), hword, hword]
    simp [Mark.after_cons]
  | cons c s ih =>
    rw [List.all_cons, Bool.and_eq_true] at h
    rw [List.flatMap_cons, List.append_assoc, List.append_assoc, Mark.after_append]
    by_cases hspace : c = ' '
    · -- A space is kept until the next word, or until the quote.
      subst hspace
      have hnext : m.next.column ≠ 0 := Nat.succ_ne_zero m.column
      have hblanks := fun blanks => (@ih m.next text blanks hnext h.2).2
      have hescape : Json.escape ' ' = [' '] := rfl
      rw [hescape, List.singleton_append, place, Mark.after_cons, Mark.after_nil]
      constructor
      · simpa [readDouble, isBlank, Gap.none, Gap.blank] using hblanks [' ']
      · simpa [readDouble, isBlank, Gap.blank] using hblanks (blanks ++ [' '])
    · have hword := fun text => (@ih (m.after (Json.escape c)) (c :: text) []
        (Mark.after_column hm) h.2).1
      have hgap : ∀ rest, readDouble text (.gap (.blanks blanks))
          (place m (Json.escape c ++ rest)) =
            readDouble (blanks.reverse ++ text) .word (place m (Json.escape c ++ rest)) := by
        intro rest
        rw [escape_of_isPrintable h.1]
        split
        · exact readDouble_gap hm (by decide) (by decide)
        · exact readDouble_gap hm (isBlank_of_isPrintable h.1 hspace)
            (isBreak_of_isPrintable h.1)
      constructor
      · rw [readDouble_escapeChar h.1 hspace, hword]
        simp
      · rw [hgap, readDouble_escapeChar h.1 hspace, hword]
        simp

/-! ## Plain scalars -/

/-- A character of a number, which may have a plus sign, or of a keyword. -/
def isWordChar (c : Char) : Bool := Text.isLetter c || Text.isDigit c || c == '+'

theorem isPrintable_of_isWordChar (h : isWordChar c = true) : isPrintable c = true := by
  simp only [isWordChar, Bool.or_eq_true, beq_iff_eq] at h
  rcases h with (h | h) | rfl
  · exact isPrintable_of_isLetter h
  · exact isPrintable_of_isDigit h
  · decide

theorem ne_of_isWordChar (h : isWordChar c = true) (hd : isWordChar d = false) : c ≠ d := by
  rintro rfl
  rw [hd] at h
  cases h

theorem isSpace_of_isWordChar (h : isWordChar c = true) : isSpace c = false := by
  have hne := fun d => ne_of_isWordChar (d := d) h
  simp only [isSpace, isBlank, isBreak, Bool.or_eq_false_iff, beq_eq_false_iff_ne]
  exact ⟨⟨hne _ (by decide), hne _ (by decide)⟩,
    ⟨hne _ (by decide), hne _ (by decide)⟩, hne _ (by decide)⟩

theorem isFlowDelimiter_of_isWordChar (h : isWordChar c = true) : isFlowDelimiter c = false := by
  have hne := fun d => ne_of_isWordChar (d := d) h
  simp only [isFlowDelimiter, Bool.or_eq_false_iff, beq_eq_false_iff_ne]
  exact ⟨⟨⟨⟨hne _ (by decide), hne _ (by decide)⟩, hne _ (by decide)⟩, hne _ (by decide)⟩,
    hne _ (by decide)⟩

/-- A word in a flow collection ends at the next delimiter. -/
theorem readWord_word {text : List Char} (h : cs.all isWordChar = true)
    (hd : isFlowDelimiter d = true) :
    readWord true text (place m (cs ++ d :: tail)) =
      .ok (cs.reverse ++ text, place (m.after cs) (d :: tail)) := by
  induction cs generalizing m text with
  | nil =>
    -- No delimiter is a space or a colon.
    simp only [isFlowDelimiter, Bool.or_eq_true, beq_iff_eq] at hd
    rcases hd with (((rfl | rfl) | rfl) | rfl) | rfl <;>
      simp [place, readWord, isSpace, isBlank, isBreak, isFlowDelimiter]
  | cons c cs ih =>
    rw [List.all_cons, Bool.and_eq_true] at h
    have hcolon : c ≠ ':' := ne_of_isWordChar h.1 (by decide)
    simp [place, readWord, isSpace_of_isWordChar h.1, isFlowDelimiter_of_isWordChar h.1, hcolon,
      ih h.2, Mark.after_cons]

/-- A word in a flow collection is a plain scalar up to the next delimiter. -/
theorem readPlain_word {finish : Mark} {indent : Int} {fuel : Nat}
    (h : (c :: cs).all isWordChar = true) (hd : isFlowDelimiter d = true) :
    readPlain finish true indent (fuel + 1) [] m Gap.none (place m (c :: cs ++ d :: tail)) =
      .ok ⟨c :: cs, m.after (c :: cs), false, place (m.after (c :: cs)) (d :: tail)⟩ := by
  have hc := (List.all_eq_true.mp h c List.mem_cons_self)
  have hmarker : atDocumentMarker (place m (c :: cs ++ d :: tail)) = false :=
    atDocumentMarker_place_cons (ne_of_isWordChar hc (by decide)) (ne_of_isWordChar hc (by decide))
  have hcomment : goesOn ['#'] (place m (c :: cs ++ d :: tail)) = false := by
    simpa [goesOn, place] using ne_of_isWordChar hc (by decide)
  have hgap : readPlainGap indent Gap.none (place (m.after (c :: cs)) (d :: tail)) =
      .ok (Gap.none, place (m.after (c :: cs)) (d :: tail)) := by
    simp only [isFlowDelimiter, Bool.or_eq_true, beq_iff_eq] at hd
    rcases hd with (((rfl | rfl) | rfl) | rfl) | rfl <;>
      simp [place, readPlainGap, isBlank, isBreak]
  simp only [readPlain, hmarker, hcomment, readWord_word h hd, Bool.or_self]
  simp [hgap, bind, Except.bind]
  rfl

end Yaml

end FaultyServer
