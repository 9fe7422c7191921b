import FaultyServer.Proofs.Duration.Summands
import Mathlib.Algebra.Order.BigOperators.Group.List
import Mathlib.Algebra.Order.Ring.Nat

/-!
# The printed text of a duration

What `Duration.human` writes, `Duration.ofHuman` reads as the same duration (`ofHuman_human`). The
text is counted units with blanks between them. Each of them spells one summand, and since a count
is what is left over from the larger units, the summands add up to the duration without ever
leaving the limits.
-/

namespace FaultyServer.Duration

/-! ## Reading counted units -/

/-- What a count of a measure stands for. -/
def TimeUnit.Measure.weight (count : Nat) : TimeUnit.Measure → Summand
  | .seconds m => ⟨count * m, 0⟩
  | .nanos m => ⟨0, count * m⟩

/-- The name is one of the unit, in letters of basic Latin. -/
def TimeUnit.IsNamed (unit : TimeUnit) (name : String) : Prop :=
  TimeUnit.ofName? name.toList = some unit ∧ name.toList ≠ [] ∧
    name.toList.all Text.isLetter = true

theorem TimeUnit.IsNamed.isUnitChar {unit : TimeUnit} {name : String} (h : unit.IsNamed name) :
    name.toList.all isUnitChar = true := by
  refine List.all_eq_true.mpr fun c hc => ?_
  rw [Duration.isUnitChar, List.all_eq_true.mp h.2.2 c hc, Bool.true_or]

/-- How many of a unit there are, and how the unit is spelled. -/
structure Counted where
  count : Nat
  name : String
  unit : TimeUnit

namespace Counted

/-- The text of a count and its unit. -/
def chars (x : Counted) : List Char := Text.decimal x.count ++ x.name.toList

/-- What a count of its unit stands for. -/
def weight (x : Counted) : Summand := x.unit.measure.weight x.count

/-- The count can be read, and so can what it stands for. -/
def Fits (x : Counted) : Prop :=
  x.weight.seconds < UInt64.size ∧ x.weight.nanos < UInt64.size

end Counted

variable {x : Counted} {rest : List Char}

theorem digit?_of_isUnitChar {c : Char} (h : isUnitChar c = true) : Text.digit? 10 c = none := by
  simp only [isUnitChar, Text.isLetter, Bool.or_eq_true, decide_eq_true_eq, beq_iff_eq] at h
  rw [Text.digit?_ten, if_neg]
  rw [Text.isDigit, decide_eq_true_eq]
  rintro ⟨_, hnine⟩
  rcases h with (⟨h, _⟩ | ⟨h, _⟩) | rfl
  · exact absurd (Char.le_trans h hnine) (by decide)
  · exact absurd (Char.le_trans h hnine) (by decide)
  · exact absurd hnine (by decide)

theorem isBlank_of_isUnitChar {c : Char} (h : isUnitChar c = true) : Text.isBlank c = false := by
  simp only [isUnitChar, Text.isLetter, Bool.or_eq_true, decide_eq_true_eq, beq_iff_eq] at h
  rcases h with h | rfl
  · simp only [Char.le_def, UInt32.le_iff_toNat_le, Char.toNat_val, Char.reduceVal,
      UInt32.reduceToNat] at h
    simp [Text.isBlank]
    omega
  · decide

/-- A digit string is read as its number. -/
theorem summandsFrom_digits {n m : Nat} {cs : List Char} (hm : m < UInt64.size)
    (h : Text.naturalFrom? 10 n cs = some m) :
    summandsFrom (.whole n) (cs ++ rest) = summandsFrom (.whole m) rest := by
  induction cs generalizing n with
  | nil =>
    obtain rfl := Option.some.inj h
    rfl
  | cons c cs ih =>
    obtain ⟨d, hd, hcs⟩ := Option.bind_eq_some_iff.1 h
    have hlt : n * 10 + d < UInt64.size :=
      Nat.lt_of_le_of_lt (Text.le_of_naturalFrom? (by decide) hcs) hm
    rw [List.cons_append, summandsFrom, hd]
    simp only [if_pos hlt]
    exact ih hcs

/-- A decimal number is read as itself. -/
theorem summandsFrom_decimal {n : Nat} (hn : n < UInt64.size) :
    summandsFrom .start (Text.decimal n ++ rest) = summandsFrom (.whole n) rest := by
  obtain ⟨c, cs, hdigits⟩ := List.exists_cons_of_ne_nil (Text.decimal_ne_nil n)
  have hread := Text.natural?_decimal n
  rw [hdigits, Text.natural?, if_neg (by simp)] at hread
  obtain ⟨d, hd, hcs⟩ := Option.bind_eq_some_iff.1 hread
  rw [hdigits, List.cons_append, summandsFrom, hd]
  rw [Nat.zero_mul, Nat.zero_add] at hcs
  exact summandsFrom_digits hn hcs

/-- The characters of a name are read one by one. -/
theorem summandsFrom_name {amount : Amount} {read name : List Char}
    (h : name.all isUnitChar = true) :
    summandsFrom (.unit amount read) (name ++ rest) =
      summandsFrom (.unit amount (name.reverse ++ read)) rest := by
  induction name generalizing read with
  | nil => rfl
  | cons c cs ih =>
    rw [List.all_cons, Bool.and_eq_true] at h
    simp only [List.cons_append, summandsFrom, digit?_of_isUnitChar h.1,
      isBlank_of_isUnitChar h.1, h.1, if_true, Bool.false_eq_true, if_false, ih h.2]
    simp

/-- A counted unit with a blank after it is read as what it stands for. -/
theorem summandsFrom_counted (hnamed : x.unit.IsNamed x.name) (hfits : x.count < UInt64.size) :
    summandsFrom .start (x.chars ++ ' ' :: rest) =
      ((⟨x.count, none⟩ : Amount).summands x.name.toList).append (summandsFrom .start rest) := by
  have hchars := hnamed.isUnitChar
  obtain ⟨_, hne, _⟩ := hnamed
  obtain ⟨c, cs, hname⟩ := List.exists_cons_of_ne_nil hne
  rw [hname, List.all_cons, Bool.and_eq_true] at hchars
  rw [Counted.chars, List.append_assoc, summandsFrom_decimal hfits, hname, List.cons_append]
  simp only [summandsFrom, digit?_of_isUnitChar hchars.1, isBlank_of_isUnitChar hchars.1,
    hchars.1, if_true, Bool.false_eq_true, if_false, summandsFrom_name hchars.2]
  have hblank : Text.digit? 10 ' ' = none ∧ Text.isBlank ' ' = true := by decide
  simp [hblank]

/-- So is one at the end of the text. -/
theorem summandsFrom_last (hnamed : x.unit.IsNamed x.name) (hfits : x.count < UInt64.size) :
    summandsFrom .start x.chars = (⟨x.count, none⟩ : Amount).summands x.name.toList := by
  have hchars := hnamed.isUnitChar
  obtain ⟨_, hne, _⟩ := hnamed
  obtain ⟨c, cs, hname⟩ := List.exists_cons_of_ne_nil hne
  rw [hname, List.all_cons, Bool.and_eq_true] at hchars
  rw [Counted.chars, summandsFrom_decimal hfits, hname]
  have hrest := @summandsFrom_name [] ⟨x.count, none⟩ [c] cs hchars.2
  rw [List.append_nil] at hrest
  simp only [summandsFrom, digit?_of_isUnitChar hchars.1, isBlank_of_isUnitChar hchars.1,
    hchars.1, if_true, Bool.false_eq_true, if_false, hrest]
  simp

/-- A count of a unit is one summand. -/
theorem summands_counted (hnamed : x.unit.IsNamed x.name) (hfits : x.Fits) :
    (⟨x.count, none⟩ : Amount).summands x.name.toList = ⟨[x.weight], true⟩ := by
  have hsummand : summand? x.count 1 x.unit.measure = some x.weight := by
    rw [Counted.Fits] at hfits
    rw [Counted.weight] at hfits ⊢
    cases hmeasure : x.unit.measure with
    | seconds m =>
      rw [hmeasure] at hfits
      simp only [TimeUnit.Measure.weight] at hfits
      simp [summand?, quotient?, hfits.1, TimeUnit.Measure.weight, Nat.mod_one]
    | nanos m =>
      rw [hmeasure] at hfits
      simp only [TimeUnit.Measure.weight] at hfits
      simp [summand?, quotient?, hfits.2, TimeUnit.Measure.weight, Nat.mod_one]
  rw [Amount.summands, hnamed.1]
  simp only [hsummand]
  rfl

/-- A count that fits in its unit is itself a number of 64 bits. -/
theorem Counted.Fits.count_lt (h : x.Fits) : x.count < UInt64.size := by
  obtain ⟨count, name, unit⟩ := x
  cases unit <;>
    simp only [Counted.Fits, Counted.weight, TimeUnit.Measure.weight, TimeUnit.measure] at h ⊢ <;>
    omega

/-- Counted units with blanks between them are read as what they stand for. -/
theorem summandsFrom_text {xs : List Counted} (hne : xs ≠ []) (hnamed : ∀ x ∈ xs, x.unit.IsNamed x.name)
    (hfits : ∀ x ∈ xs, x.Fits) :
    summandsFrom .start ([' '].intercalate (xs.map Counted.chars)) =
      ⟨xs.map Counted.weight, true⟩ := by
  induction xs with
  | nil => exact absurd rfl hne
  | cons x xs ih =>
    have hx := hnamed x List.mem_cons_self
    have hxfits := hfits x List.mem_cons_self
    cases xs with
    | nil =>
      have htext : [' '].intercalate ([x].map Counted.chars) = x.chars := by
        simp [List.intercalate]
      rw [htext, summandsFrom_last hx hxfits.count_lt, summands_counted hx hxfits]
      rfl
    | cons y xs =>
      have htext : [' '].intercalate ((x :: y :: xs).map Counted.chars) =
          x.chars ++ ' ' :: [' '].intercalate ((y :: xs).map Counted.chars) := by
        simp [List.intercalate]
      rw [htext, summandsFrom_counted hx hxfits.count_lt, summands_counted hx hxfits,
        ih (List.cons_ne_nil y xs) (fun z hz => hnamed z (List.mem_cons_of_mem x hz))
          fun z hz => hfits z (List.mem_cons_of_mem x hz)]
      rfl

/-! ## The printed text -/

/-- A count and a name that is spelled out, with a plural. -/
def long (count : Nat) (name : String) (unit : TimeUnit) : Counted :=
  ⟨count, if 1 < count then name ++ "s" else name, unit⟩

/-- How many there are of each unit in a duration, the largest unit first. -/
def counted (d : Duration) : List Counted :=
  let inYear := d.seconds % 31557600
  let inMonth := inYear % 2630016
  let inDay := inMonth % 86400
  [long (d.seconds / 31557600) "year" .year, long (inYear / 2630016) "month" .month,
    long (inMonth / 86400) "day" .day, ⟨inDay / 3600, "h", .hour⟩,
    ⟨inDay % 3600 / 60, "m", .minute⟩, ⟨inDay % 60, "s", .second⟩,
    ⟨d.nanos / 1000000, "ms", .millisecond⟩, ⟨d.nanos / 1000 % 1000, "us", .microsecond⟩,
    ⟨d.nanos % 1000, "ns", .nanosecond⟩]

/-- What is printed: every unit of which there is any, or no seconds at all. -/
def printed (d : Duration) : List Counted :=
  let xs := d.counted.filter (·.count != 0)
  if xs.isEmpty then [⟨0, "s", .second⟩] else xs

/-- The string of a count and its unit. -/
def Counted.string (x : Counted) : String := String.ofList (Text.decimal x.count) ++ x.name

theorem part_eq (x : Counted) :
    part x.count x.name = ([x].filter (·.count != 0)).map Counted.string := by
  by_cases h : x.count = 0 <;> simp [part, h, Counted.string]

theorem longPart_eq (count : Nat) (name : String) (unit : TimeUnit) :
    longPart count name = ([long count name unit].filter (·.count != 0)).map Counted.string :=
  part_eq (long count name unit)

theorem human_eq (d : Duration) : d.human = " ".intercalate (d.printed.map Counted.string) := by
  have hempty : ∀ xs : List Counted,
      " ".intercalate ((if xs.isEmpty then [⟨0, "s", .second⟩] else xs).map Counted.string) =
        if (xs.map Counted.string).isEmpty then "0s"
          else " ".intercalate (xs.map Counted.string) := by
    intro xs
    cases xs with
    | nil => decide +kernel
    | cons x xs => rfl
  have hparts := fun count name unit => part_eq ⟨count, name, unit⟩
  rw [human, printed, hempty]
  simp only [longPart_eq _ "year" .year, longPart_eq _ "month" .month, longPart_eq _ "day" .day,
    hparts _ "h" .hour, hparts _ "m" .minute, hparts _ "s" .second, hparts _ "ms" .millisecond,
    hparts _ "us" .microsecond, hparts _ "ns" .nanosecond, ← List.map_append,
    ← List.filter_append]
  rfl

theorem human_toList (d : Duration) :
    d.human.toList = [' '].intercalate (d.printed.map Counted.chars) := by
  rw [human_eq, String.toList_intercalate, List.map_map]
  congr 1
  simp [Counted.string, Counted.chars]

theorem isNamed_second : TimeUnit.second.IsNamed "s" := by
  refine ⟨?_, ?_, ?_⟩ <;> decide +kernel

theorem counted_isNamed (d : Duration) : ∀ x ∈ d.counted, x.unit.IsNamed x.name := by
  have hlong : ∀ isPlural : Prop, ∀ [Decidable isPlural],
      TimeUnit.year.IsNamed (if isPlural then "year" ++ "s" else "year") ∧
      TimeUnit.month.IsNamed (if isPlural then "month" ++ "s" else "month") ∧
      TimeUnit.day.IsNamed (if isPlural then "day" ++ "s" else "day") := by
    intro isPlural _
    split <;> refine ⟨⟨?_, ?_, ?_⟩, ⟨?_, ?_, ?_⟩, ⟨?_, ?_, ?_⟩⟩ <;> decide +kernel
  have hshort : TimeUnit.hour.IsNamed "h" ∧ TimeUnit.minute.IsNamed "m" ∧
      TimeUnit.millisecond.IsNamed "ms" ∧ TimeUnit.microsecond.IsNamed "us" ∧
      TimeUnit.nanosecond.IsNamed "ns" := by
    refine ⟨⟨?_, ?_, ?_⟩, ⟨?_, ?_, ?_⟩, ⟨?_, ?_, ?_⟩, ⟨?_, ?_, ?_⟩, ⟨?_, ?_, ?_⟩⟩ <;>
      decide +kernel
  simp only [counted, long, List.forall_mem_cons, List.not_mem_nil, false_imp_iff]
  exact ⟨(hlong _).1, (hlong _).2.1, (hlong _).2.2, hshort.1, hshort.2.1, isNamed_second,
    hshort.2.2.1, hshort.2.2.2.1, hshort.2.2.2.2, fun _ => trivial⟩

/-- The seconds are the sum of what is left over for each unit. -/
theorem seconds_split (s : Nat) :
    s / 31557600 * 31557600 + (s % 31557600 / 2630016 * 2630016 +
      (s % 31557600 % 2630016 / 86400 * 86400 +
        (s % 31557600 % 2630016 % 86400 / 3600 * 3600 +
          (s % 31557600 % 2630016 % 86400 % 3600 / 60 * 60 +
            s % 31557600 % 2630016 % 86400 % 60)))) = s := by
  have hhour := Nat.div_add_mod' (s % 31557600 % 2630016 % 86400 % 3600) 60
  rw [Nat.mod_mod_of_dvd _ (by decide : 60 ∣ 3600)] at hhour
  rw [hhour, Nat.div_add_mod', Nat.div_add_mod', Nat.div_add_mod', Nat.div_add_mod']

/-- So are the nanoseconds. -/
theorem nanos_split (n : Nat) :
    n / 1000000 * 1000000 + (n / 1000 % 1000 * 1000 + n % 1000) = n := by
  have hmillis : n / 1000000 = n / 1000 / 1000 := (Nat.div_div_eq_div_mul n 1000 1000).symm
  rw [hmillis]
  omega

/-- Together the counts make up the duration. -/
theorem counted_sum (d : Duration) :
    ((d.counted.map Counted.weight).map (·.seconds)).sum = d.seconds ∧
      ((d.counted.map Counted.weight).map (·.nanos)).sum = d.nanos := by
  have hsum : ∀ a b c d e f g h i : Nat,
      [a, b, c, d, e, f, g, h, i].sum = a + (b + (c + (d + (e + (f + (g + (h + i))))))) := by
    intros
    rfl
  constructor
  · refine (hsum ..).trans ?_
    simp only [long, Counted.weight, TimeUnit.measure, TimeUnit.Measure.weight, Nat.add_zero,
      Nat.mul_one]
    exact seconds_split d.seconds
  · refine (hsum ..).trans ?_
    simp only [long, Counted.weight, TimeUnit.measure, TimeUnit.Measure.weight, Nat.zero_add,
      Nat.mul_one]
    exact nanos_split d.nanos

/-- A unit of which there is none adds nothing. -/
theorem sum_filter_count (xs : List Counted) :
    (((xs.filter (·.count != 0)).map Counted.weight).map (·.seconds)).sum =
        ((xs.map Counted.weight).map (·.seconds)).sum ∧
      (((xs.filter (·.count != 0)).map Counted.weight).map (·.nanos)).sum =
        ((xs.map Counted.weight).map (·.nanos)).sum := by
  induction xs with
  | nil => exact ⟨rfl, rfl⟩
  | cons x xs ih =>
    by_cases hzero : x.count = 0
    · have hweight : x.weight = ⟨0, 0⟩ := by
        rw [Counted.weight, hzero]
        cases x.unit.measure <;> simp [TimeUnit.Measure.weight]
      simpa [hzero, hweight] using ih
    · simpa [hzero] using ih

theorem printed_ne_nil (d : Duration) : d.printed ≠ [] := by
  rw [printed]
  split <;> simp_all

theorem printed_isNamed (d : Duration) : ∀ x ∈ d.printed, x.unit.IsNamed x.name := by
  intro x hx
  rw [printed] at hx
  split at hx
  · obtain rfl := List.mem_singleton.1 hx
    exact isNamed_second
  · exact d.counted_isNamed x (List.mem_filter.1 hx).1

theorem printed_sum (d : Duration) :
    ((d.printed.map Counted.weight).map (·.seconds)).sum = d.seconds ∧
      ((d.printed.map Counted.weight).map (·.nanos)).sum = d.nanos := by
  have hsum := sum_filter_count d.counted
  rw [d.counted_sum.1, d.counted_sum.2] at hsum
  rw [printed]
  split
  · next hempty =>
    rw [List.isEmpty_iff.1 hempty] at hsum
    exact hsum
  · exact hsum

/-- No count stands for more than the whole duration. -/
theorem printed_fits (d : Duration) : ∀ x ∈ d.printed, x.Fits := by
  intro x hx
  have hmem : x.weight ∈ d.printed.map Counted.weight := List.mem_map_of_mem hx
  have hseconds := List.le_sum_of_mem (List.mem_map_of_mem (f := (·.seconds)) hmem)
  have hnanos := List.le_sum_of_mem (List.mem_map_of_mem (f := (·.nanos)) hmem)
  rw [d.printed_sum.1] at hseconds
  rw [d.printed_sum.2] at hnanos
  have hsize : (1000000000 : Nat) < UInt64.size := by decide
  exact ⟨Nat.lt_of_le_of_lt hseconds d.seconds_lt,
    Nat.lt_of_le_of_lt hnanos (Nat.lt_trans d.nanos_lt hsize)⟩

/-- The printed text spells what the counts stand for. -/
theorem summandsFrom_human (d : Duration) :
    summandsFrom .start d.human.toList = ⟨d.printed.map Counted.weight, true⟩ := by
  rw [human_toList]
  exact summandsFrom_text d.printed_ne_nil d.printed_isNamed d.printed_fits

/-- What is written for a duration is read as that duration. -/
theorem ofHuman_human (d : Duration) : ofHuman d.human = .ok d := by
  have hspelled := d.summandsFrom_human
  have hread : readFrom zero .start d.human.toList = .ok d := by
    obtain ⟨hseconds, hnanos⟩ := d.printed_sum
    rw [readFrom_eq, hspelled, Summands.sum,
      addAll_of_fits ((Nat.zero_add _).trans hseconds) ((Nat.zero_add _).trans hnanos)]
    rfl
  rw [ofHuman, if_neg, if_neg, hread]
  · intro hblank
    have hnil := summandsFrom_blank hblank
    rw [hspelled, List.map_eq_nil_iff] at hnil
    exact d.printed_ne_nil hnil
  · intro hzero
    have hcomplete : (summandsFrom .start "0".toList).isComplete = false := rfl
    rw [← hzero, hspelled] at hcomplete
    cases hcomplete

end FaultyServer.Duration
