import FaultyServer.Proofs.Text.Number
import FaultyServer.Proofs.Yaml.Json
import FaultyServer.Yaml.Scalar
import Mathlib.Data.List.Forall2
import Mathlib.Data.Nat.Digits.Defs
import Mathlib.Tactic.Ring

/-!
# Whole numbers in plain scalars

How a whole number may be written: in base ten without a needless zero in front, or in base 16, 8 or
2 after the mark of the base, and in each case with a plus sign or without. There may be any number
of digits, and what they stand for is the sum of positional notation (`Nat.ofDigits`). `Numeral`
says this as a grammar that knows nothing of the reader.

The reader finds just these numbers in a text, as long as they are below its bound
(`unsigned?_eq_some_iff`). In particular no number is cut off or wrapped around to get below it.
-/

namespace FaultyServer

namespace Text

/-- A digit of this value, where a letter may be of either case. -/
def IsDigitOf (base : Nat) (c : Char) (d : Nat) : Prop :=
  d < base ∧ (c = d.digitChar ∨ c = d.digitChar.toUpper)

/-- What a digit string stands for, the highest digit first. -/
def Denotes (base : Nat) (cs : List Char) (n : Nat) : Prop :=
  cs ≠ [] ∧ ∃ ds, List.Forall₂ (IsDigitOf base) cs ds ∧ n = Nat.ofDigits base ds.reverse

variable {base n acc d : Nat} {c : Char} {cs : List Char}

theorem digit?_eq_some_iff (hbase : base ≤ 16) : digit? base c = some d ↔ IsDigitOf base c d := by
  constructor
  · intro h
    have table : ∀ d < 16, d.digitChar.toNat = (if d < 10 then d + 48 else d + 87) ∧
        d.digitChar.toUpper.toNat = if d < 10 then d + 48 else d + 55 := by decide
    obtain ⟨hvalue, hlt⟩ := Option.filter_eq_some_iff.1 h
    have hd : d < base := of_decide_eq_true hlt
    obtain ⟨hlower, hupper⟩ := table d (by omega)
    refine ⟨hd, ?_⟩
    -- The three ranges of digits are apart, so the value says which one it is.
    split at hvalue
    · next hrange =>
      have hle : 48 ≤ c.toNat ∧ c.toNat ≤ 57 := hrange
      have heq : c.toNat - 48 = d := Option.some.inj hvalue
      rw [if_pos (by omega)] at hlower
      exact .inl (Char.toNat_inj.1 (by omega))
    · split at hvalue
      · next hrange =>
        have hle : 97 ≤ c.toNat ∧ c.toNat ≤ 102 := hrange
        have heq : c.toNat - 97 + 10 = d := Option.some.inj hvalue
        rw [if_neg (by omega)] at hlower
        exact .inl (Char.toNat_inj.1 (by omega))
      · split at hvalue
        · next hrange =>
          have hle : 65 ≤ c.toNat ∧ c.toNat ≤ 70 := hrange
          have heq : c.toNat - 65 + 10 = d := Option.some.inj hvalue
          rw [if_neg (by omega)] at hupper
          exact .inr (Char.toNat_inj.1 (by omega))
        · cases hvalue
  · rintro ⟨hd, rfl | rfl⟩
    · exact digit?_digitChar hbase hd
    · have table : ∀ b ≤ 16, ∀ d < b, digit? b d.digitChar.toUpper = some d := by decide +kernel
      exact table base hbase d hd

theorem naturalFrom?_eq_some_iff (hbase : base ≤ 16) : naturalFrom? base acc cs = some n ↔
    ∃ ds, List.Forall₂ (IsDigitOf base) cs ds ∧
      n = acc * base ^ ds.length + Nat.ofDigits base ds.reverse := by
  induction cs generalizing acc with
  | nil =>
    simp [naturalFrom?, eq_comm]
  | cons c cs ih =>
    have hsum : ∀ d ds, (acc * base + d) * base ^ List.length ds + Nat.ofDigits base ds.reverse =
        acc * base ^ (d :: ds).length + Nat.ofDigits base (d :: ds).reverse := by
      intro d ds
      rw [List.reverse_cons, Nat.ofDigits_append, Nat.ofDigits_singleton, List.length_reverse,
        List.length_cons]
      ring
    simp only [naturalFrom?, Option.bind_eq_some_iff, digit?_eq_some_iff hbase, ih]
    constructor
    · rintro ⟨d, hd, ds, hds, rfl⟩
      exact ⟨d :: ds, .cons hd hds, hsum d ds⟩
    · rintro ⟨_, hds, rfl⟩
      cases hds with
      | @cons _ d _ ds hd hds => exact ⟨d, hd, ds, hds, (hsum d ds).symm⟩

theorem natural?_eq_some_iff_denotes (hbase : base ≤ 16) :
    natural? base cs = some n ↔ Denotes base cs n := by
  rw [natural?_eq_some_iff, naturalFrom?_eq_some_iff hbase, Denotes]
  simp only [Nat.zero_mul, Nat.zero_add]

/-- In base ten a number consists of digits. -/
theorem Denotes.all_isDigit (h : Denotes 10 cs n) : cs.all isDigit = true := by
  obtain ⟨-, hcs⟩ := natural?_eq_some_iff.1 ((natural?_eq_some_iff_denotes (by decide)).2 h)
  refine List.all_eq_true.2 fun c hc => ?_
  have hdigit := isSome_digit?_of_naturalFrom? hcs c hc
  rw [digit?_ten] at hdigit
  split at hdigit
  · next h => exact h
  · cases hdigit

end Text

namespace Yaml

open Text (Denotes natural? isDigit)

/-- The marks of the bases other than ten. -/
def baseMarks : List (Char × Nat) := [('x', 16), ('o', 8), ('b', 2)]

/-- How a whole number may be written without a sign. -/
inductive Numeral.Unsigned : List Char → Nat → Prop
  | decimal {cs : List Char} {n : Nat} (digits : Denotes 10 cs n)
      (zero : cs.length ≤ 1 ∨ cs.head? ≠ some '0') : Unsigned cs n
  | marked {mark : Char} {base : Nat} {cs : List Char} {n : Nat}
      (marks : (mark, base) ∈ baseMarks) (digits : Denotes base cs n) :
      Unsigned ('0' :: mark :: cs) n

/-- How a whole number may be written. -/
inductive Numeral : List Char → Nat → Prop
  | bare {cs : List Char} {n : Nat} (number : Numeral.Unsigned cs n) : Numeral cs n
  | plus {cs : List Char} {n : Nat} (number : Numeral.Unsigned cs n) : Numeral ('+' :: cs) n

variable {bound n m base : Nat} {mark : Char} {cs text : List Char}

theorem le_of_mem_baseMarks (h : (mark, base) ∈ baseMarks) : base ≤ 16 := by
  have table : ∀ p ∈ baseMarks, p.2 ≤ 16 := by decide
  exact table _ h

theorem isDigit_of_mem_baseMarks (h : (mark, base) ∈ baseMarks) : isDigit mark = false := by
  have table : ∀ p ∈ baseMarks, isDigit p.1 = false := by decide
  exact table _ h

theorem marked?_eq_some_iff :
    marked? mark base cs = some n ↔ ∃ ds, cs = '0' :: mark :: ds ∧ natural? base ds = some n := by
  rw [marked?.eq_def]
  split
  · next c r =>
    split
    · next h => simp [h]
    · next h => simp [h]
  · next hmark =>
    simp only [reduceCtorEq, false_iff, not_exists, not_and]
    rintro ds rfl
    exact absurd rfl (hmark mark ds)

/-- The marks are apart, so it does not matter which one is tried first. -/
theorem inMarkedBase?_eq_some_iff : inMarkedBase? cs = some n ↔
    ∃ mark base ds, (mark, base) ∈ baseMarks ∧ cs = '0' :: mark :: ds ∧ Denotes base ds n := by
  have hmarked : ∀ {mark base}, (mark, base) ∈ baseMarks → (marked? mark base cs = some n ↔
      ∃ ds, cs = '0' :: mark :: ds ∧ Denotes base ds n) := by
    intro mark base hmark
    simp only [marked?_eq_some_iff, Text.natural?_eq_some_iff_denotes (le_of_mem_baseMarks hmark)]
  have hother : ∀ {mark mark' base ds}, mark' ≠ mark → cs = '0' :: mark :: ds →
      marked? mark' base cs = none := by
    rintro mark mark' base ds hne rfl
    exact if_neg (Ne.symm hne)
  simp only [inMarkedBase?, Option.orElse_eq_orElse, Option.orElse_eq_or, Option.or_eq_some_iff]
  constructor
  · rintro (h | ⟨-, h | ⟨-, h⟩⟩)
    · obtain ⟨ds, hcs, hds⟩ := (hmarked (by decide)).1 h
      exact ⟨'x', 16, ds, by decide, hcs, hds⟩
    · obtain ⟨ds, hcs, hds⟩ := (hmarked (by decide)).1 h
      exact ⟨'o', 8, ds, by decide, hcs, hds⟩
    · obtain ⟨ds, hcs, hds⟩ := (hmarked (by decide)).1 h
      exact ⟨'b', 2, ds, by decide, hcs, hds⟩
  · rintro ⟨mark, base, ds, hmem, hcs, hds⟩
    have hfound := (hmarked hmem).2 ⟨ds, hcs, hds⟩
    simp only [baseMarks, List.mem_cons, Prod.mk.injEq, List.not_mem_nil, or_false] at hmem
    rcases hmem with ⟨rfl, rfl⟩ | ⟨rfl, rfl⟩ | ⟨rfl, rfl⟩
    · exact .inl hfound
    · exact .inr ⟨hother (by decide) hcs, .inl hfound⟩
    · exact .inr ⟨hother (by decide) hcs, .inr ⟨hother (by decide) hcs, hfound⟩⟩

/-- What counts as a needless zero does not depend on the sign. -/
theorem hasLeadingZero_eq_false_iff (hdigits : cs.all isDigit = true)
    (htext : text = cs ∨ text = '+' :: cs) :
    hasLeadingZero text = false ↔ cs.length ≤ 1 ∨ cs.head? ≠ some '0' := by
  have hunsigned : (if isSigned text then text.drop 1 else text) = cs := by
    rcases htext with rfl | rfl
    · cases text with
      | nil => rfl
      | cons c r =>
        rw [List.all_cons, Bool.and_eq_true] at hdigits
        have hne : ∀ d, isDigit d = false → c ≠ d := by
          rintro d hd rfl
          rw [hdigits.1] at hd
          cases hd
        exact if_neg (by simp [isSigned, hne '+' (by decide), hne '-' (by decide)])
    · rfl
  simp only [hasLeadingZero, hunsigned, hdigits, Bool.and_true, Bool.and_eq_false_iff,
    decide_eq_false_iff_not, beq_eq_false_iff_ne, Nat.not_lt]

/-- After the sign the reader finds what the grammar says. -/
theorem unsigned_iff (htext : text = cs ∨ text = '+' :: cs) :
    (inMarkedBase? cs <|> if hasLeadingZero text then none else natural? 10 cs) = some n ↔
      Numeral.Unsigned cs n := by
  simp only [Option.orElse_eq_orElse, Option.orElse_eq_or, Option.or_eq_some_iff]
  constructor
  · rintro (h | ⟨-, h⟩)
    · obtain ⟨mark, base, ds, hmem, rfl, hds⟩ := inMarkedBase?_eq_some_iff.1 h
      exact .marked hmem hds
    · split at h
      · cases h
      · next hzero =>
        have hcs := (Text.natural?_eq_some_iff_denotes (by decide)).1 h
        have hfalse : hasLeadingZero text = false := by simpa using hzero
        exact .decimal hcs ((hasLeadingZero_eq_false_iff hcs.all_isDigit htext).1 hfalse)
  · rintro (⟨hcs, hzero⟩ | ⟨hmem, hds⟩)
    · -- No mark of a base is a digit, so a decimal number is not taken for one in another base.
      have hmarked : inMarkedBase? cs = none := by
        refine Option.eq_none_iff_forall_ne_some.2 fun m h => ?_
        obtain ⟨mark, base, ds, hmem, rfl, -⟩ := inMarkedBase?_eq_some_iff.1 h
        have hdigit := List.all_eq_true.1 hcs.all_isDigit mark (by simp)
        rw [isDigit_of_mem_baseMarks hmem] at hdigit
        cases hdigit
      refine .inr ⟨hmarked, ?_⟩
      rw [(hasLeadingZero_eq_false_iff hcs.all_isDigit htext).2 hzero]
      exact (Text.natural?_eq_some_iff_denotes (by decide)).2 hcs
    · exact .inl (inMarkedBase?_eq_some_iff.2 ⟨_, _, _, hmem, rfl, hds⟩)

/-- A number without a sign does not begin with one. -/
theorem Numeral.Unsigned.head_ne (h : Numeral.Unsigned cs n) : cs.head? ≠ some '+' := by
  cases h with
  | decimal digits zero =>
    intro hhead
    have hdigit := List.all_eq_true.1 digits.all_isDigit '+' (List.mem_of_mem_head? hhead)
    cases hdigit
  | marked => nofun

/-- The reader finds the numbers below its bound that the text may be read as, and no others. -/
theorem unsigned?_eq_some_iff : unsigned? bound text = some n ↔ Numeral text n ∧ n < bound := by
  have hsign : ∃ cs, dropSign '+' text = cs ∧ (text = cs ∨ text = '+' :: cs) ∧
      (Numeral text n ↔ Numeral.Unsigned cs n) := by
    cases text with
    | nil => exact ⟨[], rfl, .inl rfl, fun h => by cases h; assumption, .bare⟩
    | cons c r =>
      by_cases hc : c = '+'
      · subst hc
        refine ⟨r, rfl, .inr rfl, fun h => ?_, .plus⟩
        cases h with
        | bare number => exact absurd rfl number.head_ne
        | plus number => exact number
      · refine ⟨c :: r, if_neg hc, .inl rfl, fun h => ?_, .bare⟩
        cases h with
        | bare number => exact number
        | plus number => exact absurd rfl hc
  obtain ⟨cs, hcs, htext, hiff⟩ := hsign
  rw [unsigned?, hcs, Option.filter_eq_some_iff, unsigned_iff htext, hiff, decide_eq_true_eq]

/-- A text is read as one number at most. -/
theorem Numeral.unique (h : Numeral text n) (h' : Numeral text m) : n = m := by
  -- The reader gives one result only, and both numbers are below a large bound.
  have hread : ∀ {k}, Numeral text k → k < n + m + 1 → unsigned? (n + m + 1) text = some k :=
    fun hk hlt => unsigned?_eq_some_iff.2 ⟨hk, hlt⟩
  exact Option.some.inj ((hread h (by omega)).symm.trans (hread h' (by omega)))

/-- A number that is not below the bound is not read at all. -/
theorem Numeral.unsigned?_eq_none (h : Numeral text n) (hn : bound ≤ n) :
    unsigned? bound text = none := by
  refine Option.eq_none_iff_forall_ne_some.2 fun m hm => ?_
  obtain ⟨hnumeral, hlt⟩ := unsigned?_eq_some_iff.1 hm
  obtain rfl := hnumeral.unique h
  omega

namespace Numeral

/-- The decimal digits of a number are one way to write it. -/
theorem decimal (n : Nat) : Numeral (Text.decimal n) n := by
  have hdigits := (Text.natural?_eq_some_iff_denotes (by decide)).1 (Text.natural?_decimal n)
  refine .bare (.decimal hdigits ?_)
  rcases Nat.eq_zero_or_pos n with rfl | hpos
  · exact .inl (by decide)
  · exact .inr (Text.head?_decimal (Nat.ne_of_gt hpos))

theorem ne_nil (h : Numeral text n) : text ≠ [] := by
  cases h with
  | bare number =>
    cases number with
    | decimal digits zero => exact digits.1
    | marked => exact List.cons_ne_nil _ _
  | plus => exact List.cons_ne_nil _ _

/-- Digits of all bases, their marks and a plus sign may stand in a word. -/
theorem all_isWordChar (h : Numeral text n) : text.all isWordChar = true := by
  have hdigits : ∀ {base cs n}, base ≤ 16 → Text.Denotes base cs n → cs.all isWordChar = true := by
    rintro base cs n hbase ⟨-, ds, hds, -⟩
    have table : ∀ d < 16, isWordChar d.digitChar = true ∧
        isWordChar d.digitChar.toUpper = true := by decide
    induction hds with
    | nil => rfl
    | @cons c d cs ds hc _ ih =>
      obtain ⟨hd, rfl | rfl⟩ := hc
      · rw [List.all_cons, (table d (by omega)).1, ih, Bool.and_self]
      · rw [List.all_cons, (table d (by omega)).2, ih, Bool.and_self]
  have hunsigned : ∀ {cs n}, Unsigned cs n → cs.all isWordChar = true := by
    rintro cs n (⟨digits, -⟩ | ⟨hmark, digits⟩)
    · exact hdigits (by decide) digits
    · have table : ∀ p ∈ baseMarks, isWordChar p.1 = true := by decide
      rw [List.all_cons, List.all_cons, table _ hmark,
        hdigits (le_of_mem_baseMarks hmark) digits]
      decide
  cases h with
  | bare number => exact hunsigned number
  | plus number =>
    rw [List.all_cons, hunsigned number]
    decide

end Numeral

/-- A number as it is written, as the value of a member. -/
def FlowText.numeral (h : Numeral text n) : FlowText := .word text h.ne_nil h.all_isWordChar

end Yaml

end FaultyServer
