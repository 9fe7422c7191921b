import FaultyServer.Text.Number
import Mathlib.Data.List.Induction
import Mathlib.Tactic.Common

/-!
# Numbers as text

What a digit string stands for, and that writing a number and reading it back gives the number
(`natural?_toDigits`), in every base that has digits. In base ten, reading a number and writing it
gives the digits that have been read, unless there are zeros in front (`decimal_of_natural?`).
-/

namespace FaultyServer.Text

variable {base n acc : Nat} {cs ds : List Char}

/-- A digit reads as its value. -/
theorem digit?_digitChar {d : Nat} (hbase : base ≤ 16) (hd : d < base) :
    digit? base d.digitChar = some d := by
  have table : ∀ b ≤ 16, ∀ d < b, digit? b d.digitChar = some d := by decide +kernel
  exact table base hbase d hd

/-- In base ten the letters are no digits. -/
theorem digit?_ten (c : Char) :
    digit? 10 c = if isDigit c = true then some (c.toNat - '0'.toNat) else none := by
  rw [digit?, isDigit]
  simp only [decide_eq_true_eq]
  split
  · next h =>
    have hnine : c.toNat ≤ 57 := h.2
    have hlt : c.toNat - 48 < 10 := by omega
    simp [Option.filter_some, hlt]
  · split
    · simp
    · split <;> simp

theorem naturalFrom?_append :
    naturalFrom? base acc (cs ++ ds) =
      (naturalFrom? base acc cs).bind fun n => naturalFrom? base n ds := by
  induction cs generalizing acc with
  | nil => rfl
  | cons c cs ih =>
    simp only [List.cons_append, naturalFrom?, Option.bind_assoc, ih]

/-- What has been read so far is at most the whole. -/
theorem le_of_naturalFrom? (hbase : 0 < base) (h : naturalFrom? base acc cs = some n) :
    acc ≤ n := by
  induction cs generalizing acc with
  | nil => exact Nat.le_of_eq (Option.some.inj h)
  | cons c cs ih =>
    obtain ⟨d, _, hrest⟩ := Option.bind_eq_some_iff.1 h
    calc acc ≤ acc * base := Nat.le_mul_of_pos_right acc hbase
      _ ≤ acc * base + d := Nat.le_add_right _ d
      _ ≤ n := ih hrest

/-- A text with a value consists of digits. -/
theorem isSome_digit?_of_naturalFrom? (h : naturalFrom? base acc cs = some n) :
    ∀ c ∈ cs, (digit? base c).isSome = true := by
  induction cs generalizing acc with
  | nil => exact fun _ hc => absurd hc List.not_mem_nil
  | cons c cs ih =>
    obtain ⟨d, hd, hrest⟩ := Option.bind_eq_some_iff.1 h
    exact List.forall_mem_cons.2 ⟨hd ▸ rfl, ih hrest⟩

theorem natural?_eq_some_iff :
    natural? base cs = some n ↔ cs ≠ [] ∧ naturalFrom? base 0 cs = some n := by
  cases cs <;> simp [natural?]

theorem naturalFrom?_toDigits (hlow : 1 < base) (hhigh : base ≤ 16) (n : Nat) :
    naturalFrom? base 0 (Nat.toDigits base n) = some n := by
  induction n using Nat.strongRecOn with
  | ind n ih =>
    have hdigit : digit? base (n % base).digitChar = some (n % base) :=
      digit?_digitChar hhigh (Nat.mod_lt n (by omega))
    rcases Nat.lt_or_ge n base with hn | hn
    · rw [Nat.mod_eq_of_lt hn] at hdigit
      simp [Nat.toDigits_of_lt_base hn, naturalFrom?, hdigit]
    · -- The last digit is read after the number that the digits before it make.
      rw [Nat.toDigits_of_base_le hlow hn, naturalFrom?_append,
        ih (n / base) (Nat.div_lt_self (by omega) hlow)]
      simp [naturalFrom?, hdigit, Nat.div_add_mod']

/-- Writing a number in a base and reading it back gives the number. -/
theorem natural?_toDigits (hlow : 1 < base) (hhigh : base ≤ 16) (n : Nat) :
    natural? base (Nat.toDigits base n) = some n := by
  rw [natural?, if_neg (by simp [Nat.toDigits_ne_nil]), naturalFrom?_toDigits hlow hhigh]

theorem natural?_decimal (n : Nat) : natural? 10 (decimal n) = some n :=
  natural?_toDigits (by decide) (by decide) n

/-! ## The digits of a decimal number -/

theorem decimal_ne_nil (n : Nat) : decimal n ≠ [] := Nat.toDigits_ne_nil

theorem isDigit_of_mem_decimal {c : Char} (h : c ∈ decimal n) : isDigit c = true := by
  have hdigit := Nat.isDigit_of_mem_toDigits (by decide) (by decide) h
  simpa [isDigit, Char.isDigit, Char.le_def] using hdigit

/-- The digits of a decimal number are hexadecimal ones, too. -/
theorem isSome_digit?_of_mem_decimal {c : Char} (h : c ∈ decimal n) :
    (digit? 16 c).isSome = true := by
  have hdigit := of_decide_eq_true (isDigit_of_mem_decimal h)
  have hnine : c.toNat ≤ 57 := hdigit.2
  have hlt : c.toNat - 48 < 16 := by omega
  simp [digit?, hdigit, Option.filter_some, hlt]

/-- Only zero is written with a zero in front. -/
theorem head?_decimal (hn : n ≠ 0) : (decimal n).head? ≠ some '0' := by
  induction n using Nat.strongRecOn with
  | ind n ih =>
    rcases Nat.lt_or_ge n 10 with hlt | hge
    · rw [decimal, Nat.toDigits_of_lt_base hlt]
      simpa using hn
    · have hrest := ih (n / 10) (Nat.div_lt_self (by omega) (by decide)) (by omega)
      obtain ⟨c, cs, hdigits⟩ := List.exists_cons_of_ne_nil (decimal_ne_nil (n / 10))
      rw [decimal, Nat.toDigits_of_base_le (by decide) hge]
      rw [decimal] at hdigits hrest
      rw [hdigits] at hrest ⊢
      exact hrest

/-- A decimal digit is written as it has been read. -/
theorem digitChar_of_digit? {c : Char} {d : Nat} (h : digit? 10 c = some d) :
    d < 10 ∧ d.digitChar = c := by
  rw [digit?_ten] at h
  split at h
  · next hdigit =>
    have table : ∀ d < 10, d.digitChar.toNat = d + 48 := by decide
    obtain ⟨hlow, hhigh⟩ := of_decide_eq_true hdigit
    have hle : 48 ≤ c.toNat ∧ c.toNat ≤ 57 := ⟨hlow, hhigh⟩
    have hd : c.toNat - 48 = d := Option.some.inj h
    have hlt : d < 10 := by omega
    have hchar := table d hlt
    exact ⟨hlt, Char.toNat_inj.1 (by omega)⟩
  · cases h

/-- A number that is read from decimal digits without leading zeros is written in the same way. -/
theorem decimal_of_natural? (h : natural? 10 cs = some n)
    (hzero : cs.length ≤ 1 ∨ cs.head? ≠ some '0') : decimal n = cs := by
  induction cs using List.reverseRecOn generalizing n with
  | nil => cases h
  | append_singleton cs c ih =>
    rw [natural?_eq_some_iff, naturalFrom?_append] at h
    obtain ⟨m, hm, hlast⟩ := Option.bind_eq_some_iff.1 h.2
    obtain ⟨d, hd, heq⟩ := Option.bind_eq_some_iff.1 hlast
    obtain ⟨hlt, rfl⟩ := digitChar_of_digit? hd
    obtain rfl : m * 10 + d = n := Option.some.inj heq
    by_cases hne : cs = []
    · subst hne
      obtain rfl : 0 = m := Option.some.inj hm
      rw [Nat.zero_mul, Nat.zero_add, decimal, Nat.toDigits_of_lt_base hlt]
      rfl
    · have hhead : cs.head? ≠ some '0' := by
        rcases hzero with hlen | hhead
        · have hpos := List.length_pos_iff.2 hne
          rw [List.length_append, List.length_singleton] at hlen
          omega
        · obtain ⟨first, rest, rfl⟩ := List.exists_cons_of_ne_nil hne
          exact hhead
      have hdigits := ih (natural?_eq_some_iff.2 ⟨hne, hm⟩) (.inr hhead)
      -- A zero would be the digit in front.
      have hpos : m ≠ 0 := by
        rintro rfl
        exact hhead (hdigits ▸ rfl)
      have hdiv : (m * 10 + d) / 10 = m := by omega
      have hmod : (m * 10 + d) % 10 = d := by omega
      rw [decimal, Nat.toDigits_of_base_le (by decide) (by omega), hdiv, hmod]
      exact congrArg (· ++ [d.digitChar]) hdigits

end FaultyServer.Text
