import FaultyServer.Duration.Human
import FaultyServer.Proofs.Except
import FaultyServer.Proofs.Text.Number
import Mathlib.Algebra.GroupWithZero.Nat

/-!
# Durations as sums

Reading the text of a duration does two things at once: it follows the grammar, and it adds up what
the numbers and their units stand for. Here the two are taken apart. A text spells `Summands`,
seconds or nanoseconds each, up to the first place that breaks the grammar, and what is read is
their sum.

* `readFrom_eq`: reading is spelling out the summands and then adding them;
* `addAll_of_fits`: summands that make up a duration add up to it;
* `addAll_eq_carry_iff`: a sum ends in a carry exactly if at some summand the seconds come to the
  largest number of 64 bits and the nanoseconds to just one more second;
* `ofHuman_eq_carry`: a text is read as a carry exactly if it spells such a sum (`Overflows`).
-/

namespace FaultyServer.Duration

/-- Seconds and nanoseconds that are added in one go. -/
structure Summand where
  seconds : Nat
  nanos : Nat

/-- What a text spells, in its order, and whether it does so up to its end. -/
structure Summands where
  list : List Summand
  isComplete : Bool

namespace Summands

/-- Nothing, before the grammar is broken. -/
def broken : Summands := ⟨[], false⟩

/-- Nothing, up to the end. -/
def none : Summands := ⟨[], true⟩

/-- What comes after something else is only reached if that is complete. -/
def append (a b : Summands) : Summands :=
  if a.isComplete then ⟨a.list ++ b.list, b.isComplete⟩ else a

/-- One summand, unless there is no such thing. -/
def ofOption : Option Summand → Summands
  | some x => ⟨[x], true⟩
  | Option.none => broken

end Summands

/-- A number of 64 bits divided by a denominator, if that leaves nothing. -/
def quotient? (n denominator : Nat) : Option Nat :=
  if n < UInt64.size ∧ n % denominator = 0 then some (n / denominator) else none

/-- What `count` times a measure, divided by a denominator, adds. -/
def summand? (count denominator : Nat) : TimeUnit.Measure → Option Summand
  | .seconds m => (quotient? (count * m) denominator).map (⟨·, 0⟩)
  | .nanos m => (quotient? (count * m) denominator).map (⟨0, ·⟩)

/-- What an amount of the unit of a name adds: its whole part, and then its decimals. -/
def Amount.summands (amount : Amount) (name : List Char) : Summands :=
  match TimeUnit.ofName? name with
  | none => .broken
  | some unit =>
    (Summands.ofOption (summand? amount.whole 1 unit.measure)).append <|
      match amount.fraction with
      | none => .none
      | some f => .ofOption (unit.fractionMeasure?.bind (summand? f.numerator f.denominator))

/-- What a text spells for a reader that is in the middle of something. -/
def summandsFrom : Reading → List Char → Summands
  | .start, [] => .none
  | .start, c :: r =>
    match Text.digit? 10 c with
    | some d => summandsFrom (.whole d) r
    | none => if Text.isBlank c then summandsFrom .start r else .broken
  | .whole _, [] => .broken
  | .whole n, c :: r =>
    match Text.digit? 10 c with
    | some d =>
      if n * 10 + d < UInt64.size then summandsFrom (.whole (n * 10 + d)) r else .broken
    | none =>
      if Text.isBlank c then summandsFrom (.whole n) r
      else if isUnitChar c then summandsFrom (.unit ⟨n, none⟩ [c]) r
      else if c = '.' then summandsFrom (.decimals n ⟨0, 1⟩) r
      else .broken
  | .decimals _ _, [] => .broken
  | .decimals n f, c :: r =>
    match Text.digit? 10 c with
    | some d =>
      if f.denominator * 10 < UInt64.size ∧ f.numerator * 10 + d < UInt64.size then
        summandsFrom (.decimals n ⟨f.numerator * 10 + d, f.denominator * 10⟩) r
      else .broken
    | none =>
      if Text.isBlank c then summandsFrom (.decimals n f) r
      else if isUnitChar c then
        if f.denominator = 1 then .broken else summandsFrom (.unit ⟨n, some f⟩ [c]) r
      else .broken
  | .unit amount name, [] => amount.summands name.reverse
  | .unit amount name, c :: r =>
    match Text.digit? 10 c with
    | some d => (amount.summands name.reverse).append (summandsFrom (.whole d) r)
    | none =>
      if Text.isBlank c then (amount.summands name.reverse).append (summandsFrom .start r)
      else if isUnitChar c then summandsFrom (.unit amount (c :: name)) r
      else .broken

/-- Adds summands in their order. -/
def addAll (d : Duration) : List Summand → Except HumanFault Duration
  | [] => .ok d
  | x :: xs => do addAll (← d.add x.seconds x.nanos) xs

/-- Adds what a text spells; if it does not do so up to its end there is no sum. -/
def Summands.sum (d : Duration) (xs : Summands) : Except HumanFault Duration := do
  let d ← d.addAll xs.list
  if xs.isComplete then pure d else .error .unreadable

/-! ## Reading is adding -/

variable {d : Duration} {xs ys : List Summand}

theorem addAll_append : d.addAll (xs ++ ys) = d.addAll xs >>= (addAll · ys) := by
  induction xs generalizing d with
  | nil => rfl
  | cons x xs ih =>
    rcases h : d.add x.seconds x.nanos with e | d'
    · simp [addAll, h]
    · simp [addAll, h, ih]

theorem checked_of_lt {n : Nat} (h : n < UInt64.size) : checked n = .ok n := if_pos h

theorem checked_of_not_lt {n : Nat} (h : ¬ n < UInt64.size) : checked n = .error .unreadable :=
  if_neg h

namespace Summands

@[simp]
theorem sum_broken : broken.sum d = .error .unreadable := rfl

@[simp]
theorem sum_none : none.sum d = .ok d := rfl

theorem sum_append (a b : Summands) :
    (a.append b).sum d = a.sum d >>= fun d => b.sum d := by
  obtain ⟨xs, _ | _⟩ := a
  · rcases h : d.addAll xs with e | d' <;> simp [append, sum, h]
  · rcases h : d.addAll xs with e | d' <;> simp [append, sum, h, addAll_append, pure, Except.pure]

theorem sum_single (x : Summand) : (ofOption (some x)).sum d = d.add x.seconds x.nanos := by
  rcases h : d.add x.seconds x.nanos with e | d' <;>
    simp [ofOption, sum, addAll, h, pure, Except.pure]

end Summands

theorem checked_bind_eq (n denominator : Nat) (add : Nat → Except HumanFault Duration) :
    (checked n >>= fun n => if n % denominator = 0 then add (n / denominator)
      else .error .unreadable) =
      match quotient? n denominator with
      | some q => add q
      | none => .error .unreadable := by
  by_cases hlt : n < UInt64.size
  · by_cases hmod : n % denominator = 0
    · simp [checked_of_lt hlt, quotient?, hlt, hmod]
    · simp [checked_of_lt hlt, quotient?, hmod]
  · simp [checked_of_not_lt hlt, quotient?, hlt]

theorem addMeasure_eq (count denominator : Nat) (m : TimeUnit.Measure) :
    d.addMeasure count denominator m =
      (Summands.ofOption (summand? count denominator m)).sum d := by
  cases m with
  | seconds m =>
    refine (checked_bind_eq (count * m) denominator (d.add · 0)).trans ?_
    rw [summand?]
    cases quotient? (count * m) denominator with
    | none => rfl
    | some q => exact (Summands.sum_single ⟨q, 0⟩).symm
  | nanos m =>
    refine (checked_bind_eq (count * m) denominator (d.add 0 ·)).trans ?_
    rw [summand?]
    cases quotient? (count * m) denominator with
    | none => rfl
    | some q => exact (Summands.sum_single ⟨0, q⟩).symm

theorem addAmount_eq (amount : Amount) (name : List Char) :
    d.addAmount amount name = (amount.summands name).sum d := by
  rw [addAmount, Amount.summands]
  cases TimeUnit.ofName? name with
  | none => rfl
  | some unit =>
    simp only [Summands.sum_append, ← addMeasure_eq]
    congr 1
    funext d'
    cases amount.fraction with
    | none => rfl
    | some f =>
      cases unit.fractionMeasure? with
      | none => rfl
      | some m => exact addMeasure_eq f.numerator f.denominator m

/-- Reading a text is spelling out its summands and then adding them. -/
theorem readFrom_eq (sum : Duration) (reading : Reading) (cs : List Char) :
    readFrom sum reading cs = (summandsFrom reading cs).sum sum := by
  fun_induction summandsFrom reading cs generalizing sum <;>
    simp_all [readFrom, addAmount_eq, Summands.sum_append, checked, pure, Except.pure]
  -- Left are the digits that make a number too large.
  case case7 hlarge =>
    rw [if_neg (Nat.not_lt.2 hlarge)]
    rfl
  case case14 hlarge =>
    split
    · next hdenominator =>
      rw [Except.ok_bind, if_neg (Nat.not_lt.2 (hlarge hdenominator))]
      rfl
    · rfl

/-! ## Sums and their limits -/

/-- Unless the nanoseconds are more than a second, they are only carried at the end. -/
theorem add_of_le {seconds nanos : Nat} (h : d.nanos + nanos ≤ 1000000000) :
    d.add seconds nanos = checked (d.seconds + seconds) >>= fun seconds =>
      match of? (seconds + (d.nanos + nanos) / 1000000000) ((d.nanos + nanos) % 1000000000) with
      | some sum => .ok sum
      | none => .error .carry := by
  have hsize : (1000000000 : Nat) < UInt64.size := by decide
  simp only [add, checked_of_lt (Nat.lt_of_le_of_lt h hsize), Except.ok_bind,
    if_neg (Nat.not_lt.2 h)]
  rfl

/-- Below the limits both parts are simply added. -/
theorem add_of_fits {seconds nanos : Nat} (hseconds : d.seconds + seconds < UInt64.size)
    (hnanos : d.nanos + nanos < 1000000000) :
    d.add seconds nanos = .ok ⟨d.seconds + seconds, d.nanos + nanos, hseconds, hnanos⟩ := by
  rw [add_of_le (Nat.le_of_lt hnanos), checked_of_lt hseconds, Except.ok_bind,
    Nat.div_eq_of_lt hnanos, Nat.mod_eq_of_lt hnanos, Nat.add_zero, of?,
    dif_pos ⟨hseconds, hnanos⟩]

/-- More nanoseconds than a second leave nothing to carry at the end. -/
theorem add_ne_carry_of_lt {seconds nanos : Nat} (h : 1000000000 < d.nanos + nanos) :
    d.add seconds nanos ≠ .error .carry := by
  by_cases hnanos : d.nanos + nanos < UInt64.size
  · by_cases hwhole : seconds + (d.nanos + nanos) / 1000000000 < UInt64.size
    · by_cases hseconds :
        d.seconds + (seconds + (d.nanos + nanos) / 1000000000) < UInt64.size
      · have hlt : (d.nanos + nanos) % 1000000000 < 1000000000 := Nat.mod_lt _ (by decide)
        simp [add, checked_of_lt, hnanos, h, hwhole, hseconds, Nat.div_eq_of_lt hlt, of?, hlt, pure,
          Except.pure]
      · simp [add, checked_of_lt, checked_of_not_lt, hnanos, h, hwhole, hseconds]
    · simp [add, checked_of_lt, checked_of_not_lt, hnanos, h, hwhole]
  · simp [add, checked_of_not_lt, hnanos]

/-- What is carried at the very end is one second, which then finds no room. -/
theorem add_eq_carry_iff {seconds nanos : Nat} :
    d.add seconds nanos = .error .carry ↔
      d.seconds + seconds = UInt64.size - 1 ∧ d.nanos + nanos = 1000000000 := by
  have hsize : UInt64.size = 18446744073709551616 := rfl
  rcases Nat.lt_or_ge 1000000000 (d.nanos + nanos) with hlarge | hsmall
  · exact iff_of_false (add_ne_carry_of_lt hlarge) (by omega)
  · rw [add_of_le hsmall]
    by_cases hseconds : d.seconds + seconds < UInt64.size
    · have hrest : (d.nanos + nanos) % 1000000000 < 1000000000 := Nat.mod_lt _ (by decide)
      rw [checked_of_lt hseconds, Except.ok_bind, of?]
      by_cases hroom : d.seconds + seconds + (d.nanos + nanos) / 1000000000 < UInt64.size
      · rw [dif_pos ⟨hroom, hrest⟩]
        simp only [reduceCtorEq, false_iff]
        omega
      · rw [dif_neg fun h => hroom h.1]
        simp only [true_iff]
        omega
    · rw [checked_of_not_lt hseconds]
      simp only [Except.error_bind, Except.error.injEq, reduceCtorEq, false_iff]
      omega

/-- Summands that make up a duration add up to it: no sum on the way leaves the limits. -/
theorem addAll_of_fits {sum : Duration}
    (hseconds : d.seconds + (xs.map (·.seconds)).sum = sum.seconds)
    (hnanos : d.nanos + (xs.map (·.nanos)).sum = sum.nanos) : d.addAll xs = .ok sum := by
  induction xs generalizing d with
  | nil =>
    obtain ⟨seconds, nanos, _, _⟩ := d
    obtain rfl : seconds = sum.seconds := hseconds
    obtain rfl : nanos = sum.nanos := hnanos
    rfl
  | cons x xs ih =>
    rw [List.map_cons, List.sum_cons, ← Nat.add_assoc] at hseconds hnanos
    have hlt := sum.seconds_lt
    have hlt' := sum.nanos_lt
    rw [addAll, add_of_fits (by omega) (by omega), Except.ok_bind]
    exact ih hseconds hnanos

/-- A sum ends in a carry exactly if it does so at some summand, up to which it has been fine. -/
theorem addAll_eq_carry_iff :
    d.addAll xs = .error .carry ↔
      ∃ before x after, xs = before ++ x :: after ∧ ∃ d', d.addAll before = .ok d' ∧
        d'.seconds + x.seconds = UInt64.size - 1 ∧ d'.nanos + x.nanos = 1000000000 := by
  constructor
  · intro h
    induction xs generalizing d with
    | nil => cases h
    | cons x xs ih =>
      rcases hx : d.add x.seconds x.nanos with fault | d'
      · rw [addAll, hx] at h
        obtain rfl := Except.error.inj h
        exact ⟨[], x, xs, rfl, d, rfl, add_eq_carry_iff.1 hx⟩
      · rw [addAll, hx] at h
        obtain ⟨before, y, after, rfl, d'', hbefore, hcarry⟩ := ih h
        exact ⟨x :: before, y, after, rfl, d'', by rw [addAll, hx]; exact hbefore, hcarry⟩
  · rintro ⟨before, x, after, rfl, d', hbefore, hcarry⟩
    rw [addAll_append, hbefore, Except.ok_bind, addAll, add_eq_carry_iff.2 hcarry]
    rfl

/-! ## Texts -/

/-- A blank is no digit. -/
theorem digit?_of_isBlank {c : Char} (h : Text.isBlank c = true) : Text.digit? 10 c = none := by
  rw [Text.digit?_ten, if_neg]
  simp only [Text.isDigit, decide_eq_true_eq, Char.le_def, UInt32.le_iff_toNat_le, Char.toNat_val,
    Char.reduceVal, UInt32.reduceToNat]
  simp only [Text.isBlank, Bool.or_eq_true, Bool.and_eq_true, decide_eq_true_eq, beq_iff_eq] at h
  omega

/-- Blanks spell nothing. -/
theorem summandsFrom_blank {cs : List Char} (h : isBlankText cs = true) :
    (summandsFrom .start cs).list = [] := by
  induction cs with
  | nil => rfl
  | cons c cs ih =>
    rw [isBlankText, List.all_cons, Bool.and_eq_true] at h
    simp only [summandsFrom, digit?_of_isBlank h.1, h.1, if_true]
    exact ih h.2

/-- The sum of what a text spells ends in a carry. -/
def Overflows (text : List Char) : Prop :=
  ∃ before x after, (summandsFrom .start text).list = before ++ x :: after ∧
    ∃ d, zero.addAll before = .ok d ∧
      d.seconds + x.seconds = UInt64.size - 1 ∧ d.nanos + x.nanos = 1000000000

theorem overflows_iff {text : List Char} :
    Overflows text ↔ zero.addAll (summandsFrom .start text).list = .error .carry :=
  addAll_eq_carry_iff.symm

theorem Summands.sum_eq_carry {xs : Summands} :
    xs.sum d = .error .carry ↔ d.addAll xs.list = .error .carry := by
  rw [sum]
  cases d.addAll xs.list with
  | error fault => simp
  | ok d' => cases xs.isComplete <;> simp [pure, Except.pure]

/-- A text is read as a carry exactly if it overflows. -/
theorem ofHuman_eq_carry {s : String} : ofHuman s = .error .carry ↔ Overflows s.toList := by
  rw [overflows_iff, ofHuman]
  split
  · next hzero =>
    have hnone : (summandsFrom .start s.toList).list = [] := by
      rw [hzero]
      rfl
    simp [hnone, addAll]
  · split
    · next hblank => simp [summandsFrom_blank hblank, addAll]
    · rw [readFrom_eq, Summands.sum_eq_carry]

end FaultyServer.Duration
