import FaultyServer.Address.Ip
import FaultyServer.Proofs.Text.Number

/-!
# Spellings of addresses

What texts there are for an address, said without a reader: an IPv4 address is written as its four
octets in decimal, and an IPv6 address as groups of up to four hexadecimal digits, which make up one
part (`Part`) or stand on the two sides (`Side`) of a double colon. The reader works from left to
right and looks at no more of a text than it has to, and still it takes exactly these texts.

* `readNumber_eq_some_iff`: digits are read up to where they stop;
* `IPv4.read_eq_some_iff`: a dotted quad is read as it is written;
* `Part.readGroups_eq`, `readGroups_sound`: what is read as groups is a part, and all of it;
* `IPv6.read_eq_some_iff`, `Ip.ofChars?_eq_some_iff`: an address is read from its spellings, and
  from no other text;
* `Ip.Spelling.unique`: a text spells one address at most.
-/

namespace FaultyServer.Address

open Text (decimal digit? natural?)

variable {base places bound room n : Nat} {zeros isFirst hasQuad : Bool} {quad : IPv4}
  {group : UInt16} {groups : List UInt16} {cs ds ds' rest rest' text : List Char}

/-! ## Numbers -/

/-- No digit stands in front of a text. -/
def Stops (base : Nat) (rest : List Char) : Prop := ∀ c ∈ rest.head?, digit? base c = none

/-- Digits that stand for a number, and no more of them than there may be. -/
structure IsNumber (base places bound : Nat) (zeros : Bool) (digits : List Char) (n : Nat) :
    Prop where
  value : natural? base digits = some n
  length_le : digits.length ≤ places
  leading : zeros = true ∨ digits.length ≤ 1 ∨ digits.head? ≠ some '0'
  lt : n < bound

/-- Digits are read up to where they stop. -/
theorem takeWhile_digits (hds : ∀ c ∈ ds, (digit? base c).isSome = true)
    (hrest : Stops base rest) :
    (ds ++ rest).takeWhile (fun c => (digit? base c).isSome) = ds ∧
      (ds ++ rest).dropWhile (fun c => (digit? base c).isSome) = rest := by
  rw [List.takeWhile_append_of_pos hds, List.dropWhile_append_of_pos hds]
  cases rest with
  | nil => simp
  | cons c rest => simp [hrest c rfl]

/-- A text is split in one place only into digits and what comes after them. -/
theorem split_digits (h : ds ++ rest = ds' ++ rest')
    (hds : ∀ c ∈ ds, (digit? base c).isSome = true)
    (hds' : ∀ c ∈ ds', (digit? base c).isSome = true)
    (hrest : Stops base rest) (hrest' : Stops base rest') : ds = ds' ∧ rest = rest' := by
  obtain ⟨htake, hdrop⟩ := takeWhile_digits hds hrest
  obtain ⟨htake', hdrop'⟩ := takeWhile_digits hds' hrest'
  rw [h] at htake hdrop
  exact ⟨htake.symm.trans htake', hdrop.symm.trans hdrop'⟩

theorem IsNumber.isSome (h : IsNumber base places bound zeros ds n) :
    ∀ c ∈ ds, (digit? base c).isSome = true :=
  Text.isSome_digit?_of_naturalFrom? (Text.natural?_eq_some_iff.1 h.value).2

theorem readNumber_eq_some_iff :
    readNumber base places bound zeros cs = some (n, rest) ↔
      ∃ digits, cs = digits ++ rest ∧ Stops base rest ∧
        IsNumber base places bound zeros digits n := by
  constructor
  · intro h
    simp only [readNumber] at h
    split at h
    · next hdigits =>
      split at h
      · next m hvalue =>
        split at h
        · next hlt =>
          cases h
          refine ⟨_, List.takeWhile_append_dropWhile.symm, fun c hc => ?_,
            hvalue, hdigits.1, hdigits.2, hlt⟩
          have hhead := List.head?_dropWhile_not (fun c => (digit? base c).isSome) cs
          rw [Option.mem_def.1 hc] at hhead
          simpa using hhead
        · cases h
      · cases h
    · cases h
  · rintro ⟨digits, rfl, hrest, hnumber⟩
    obtain ⟨htake, hdrop⟩ := takeWhile_digits hnumber.isSome hrest
    simp only [readNumber, htake, hdrop]
    rw [if_pos ⟨hnumber.length_le, hnumber.leading⟩, hnumber.value]
    dsimp only
    rw [if_pos hnumber.lt]

/-- Where no digit stands, no number is read. -/
theorem readNumber_of_stops (h : Stops base cs) :
    readNumber base places bound zeros cs = none := by
  by_contra hne
  obtain ⟨⟨n, rest⟩, hread⟩ := Option.ne_none_iff_exists'.1 hne
  obtain ⟨digits, rfl, _, hnumber⟩ := readNumber_eq_some_iff.1 hread
  obtain ⟨c, digits, rfl⟩ :=
    List.exists_cons_of_ne_nil (Text.natural?_eq_some_iff.1 hnumber.value).1
  have hdigit := hnumber.isSome c List.mem_cons_self
  rw [h c rfl] at hdigit
  cases hdigit

/-! ## Dotted quads -/

theorem stops_point (rest : List Char) : Stops 10 ('.' :: rest) := by
  rintro _ ⟨⟩
  rfl

theorem readOctet_decimal (octet : UInt8) (hrest : Stops 10 rest) :
    readOctet (decimal octet.toNat ++ rest) = some (octet, rest) := by
  have hlt : octet.toNat < 256 := octet.toNat_lt
  have hnumber : IsNumber 10 3 256 false (decimal octet.toNat) octet.toNat :=
    { value := Text.natural?_decimal octet.toNat
      length_le := (Nat.length_toDigits_le_iff (by decide) (by decide)).2 (by omega)
      leading := by
        by_cases hzero : octet.toNat = 0
        · exact .inr (.inl (by rw [hzero]; decide))
        · exact .inr (.inr (Text.head?_decimal hzero))
      lt := hlt }
  rw [readOctet, readNumber_eq_some_iff.2 ⟨_, rfl, hrest, hnumber⟩]
  simp

theorem readNextOctet_decimal (octet : UInt8) (hrest : Stops 10 rest) :
    readNextOctet ('.' :: (decimal octet.toNat ++ rest)) = some (octet, rest) :=
  readOctet_decimal octet hrest

/-- An octet is read as it is written in decimal, and not otherwise. -/
theorem readOctet_eq_some_iff {octet : UInt8} :
    readOctet cs = some (octet, rest) ↔ cs = decimal octet.toNat ++ rest ∧ Stops 10 rest := by
  constructor
  · intro h
    obtain ⟨⟨n, _⟩, hread, heq⟩ := Option.map_eq_some_iff.1 h
    cases heq
    obtain ⟨digits, rfl, hrest, hnumber⟩ := readNumber_eq_some_iff.1 hread
    have hdecimal := Text.decimal_of_natural? hnumber.value (hnumber.leading.resolve_left nofun)
    refine ⟨?_, hrest⟩
    rw [UInt8.toNat_ofNat_of_lt' hnumber.lt, hdecimal]
  · rintro ⟨rfl, hrest⟩
    exact readOctet_decimal octet hrest

theorem readNextOctet_eq_some_iff {octet : UInt8} :
    readNextOctet cs = some (octet, rest) ↔
      cs = '.' :: (decimal octet.toNat ++ rest) ∧ Stops 10 rest := by
  constructor
  · intro h
    unfold readNextOctet at h
    split at h
    · obtain ⟨rfl, hrest⟩ := readOctet_eq_some_iff.1 h
      exact ⟨rfl, hrest⟩
    · cases h
  · rintro ⟨rfl, hrest⟩
    exact readNextOctet_decimal octet hrest

/-- A dotted quad is read as it is written, and not otherwise. -/
theorem IPv4.read_eq_some_iff :
    read cs = some (quad, rest) ↔ cs = quad.chars ++ rest ∧ Stops 10 rest := by
  constructor
  · intro h
    obtain ⟨⟨a, _⟩, ha, h⟩ := Option.bind_eq_some_iff.1 h
    obtain ⟨⟨b, _⟩, hb, h⟩ := Option.bind_eq_some_iff.1 h
    obtain ⟨⟨c, _⟩, hc, h⟩ := Option.bind_eq_some_iff.1 h
    obtain ⟨⟨d, _⟩, hd, h⟩ := Option.bind_eq_some_iff.1 h
    cases h
    obtain ⟨rfl, _⟩ := readOctet_eq_some_iff.1 ha
    obtain ⟨rfl, _⟩ := readNextOctet_eq_some_iff.1 hb
    obtain ⟨rfl, _⟩ := readNextOctet_eq_some_iff.1 hc
    obtain ⟨rfl, hrest⟩ := readNextOctet_eq_some_iff.1 hd
    exact ⟨by simp [chars], hrest⟩
  · rintro ⟨rfl, hrest⟩
    -- Each octet but the last one stops at the point behind it.
    simp [read, chars, readOctet_decimal, readNextOctet_decimal, stops_point, hrest]

theorem IPv4.read_of_stops (h : Stops 10 cs) : read cs = none := by
  rw [read, readOctet, readNumber_of_stops h]
  rfl

/-! ## Groups -/

/-- One to four hexadecimal digits, in either case, stand for a group. -/
structure IsGroup (text : List Char) (group : UInt16) : Prop where
  length_le : text.length ≤ 4
  value : natural? 16 text = some group.toNat

theorem IsGroup.isNumber (h : IsGroup text group) :
    IsNumber 16 4 65536 true text group.toNat where
  value := h.value
  length_le := h.length_le
  leading := .inl rfl
  lt := group.toNat_lt

theorem readGroup_eq_some_iff :
    readGroup cs = some (group, rest) ↔
      ∃ text, cs = text ++ rest ∧ Stops 16 rest ∧ IsGroup text group := by
  constructor
  · intro h
    obtain ⟨⟨n, _⟩, hread, heq⟩ := Option.map_eq_some_iff.1 h
    cases heq
    obtain ⟨digits, rfl, hrest, hnumber⟩ := readNumber_eq_some_iff.1 hread
    refine ⟨digits, rfl, hrest, hnumber.length_le, ?_⟩
    rw [UInt16.toNat_ofNat_of_lt' hnumber.lt, hnumber.value]
  · rintro ⟨text, rfl, hrest, hgroup⟩
    rw [readGroup, readNumber_eq_some_iff.2 ⟨_, rfl, hrest, hgroup.isNumber⟩]
    simp

/-- Groups with a colon between any two of them. A dotted quad may stand for the last two, and the
flag says whether it does. -/
inductive Part : Bool → List Char → List UInt16 → Prop
  | group {text : List Char} {group : UInt16} (first : IsGroup text group) :
      Part false text [group]
  | quad (quad : IPv4) : Part true quad.chars quad.groups
  | cons {text rest : List Char} {group : UInt16} {groups : List UInt16} {hasQuad : Bool}
      (first : IsGroup text group) (others : Part hasQuad rest groups) :
      Part hasQuad (text ++ ':' :: rest) (group :: groups)

/-- Nothing but a colon may follow a group. -/
def Closes (rest : List Char) : Prop := ∀ c ∈ rest.head?, c = ':'

theorem Closes.stops (h : Closes rest) : Stops base rest := by
  intro c hc
  rw [h c hc]
  rfl

theorem closes_colon (rest : List Char) : Closes (':' :: rest) := by
  rintro _ ⟨⟩
  rfl

/-- Groups end with the text or before a double colon. -/
def Ends (rest : List Char) : Prop := rest = [] ∨ ∃ more, rest = ':' :: ':' :: more

theorem Ends.closes (h : Ends rest) : Closes rest := by
  obtain rfl | ⟨more, rfl⟩ := h
  · exact nofun
  · exact closes_colon _

theorem readGroup_of_stops (h : Stops 16 cs) : readGroup cs = none := by
  rw [readGroup, readNumber_of_stops h]
  rfl

/-- A group is no dotted quad: no point follows its digits. -/
theorem IsGroup.read_eq_none (h : IsGroup text group) (hrest : Closes rest) :
    IPv4.read (text ++ rest) = none := by
  by_contra hne
  obtain ⟨⟨quad, after⟩, hread⟩ := Option.ne_none_iff_exists'.1 hne
  obtain ⟨heq, _⟩ := IPv4.read_eq_some_iff.1 hread
  rw [IPv4.chars, List.append_assoc, List.append_assoc, List.append_assoc] at heq
  -- The digits of a decimal octet are hexadecimal digits, too, so both texts split where they end.
  obtain ⟨_, hpoint⟩ := split_digits heq h.isNumber.isSome
    (fun _ => Text.isSome_digit?_of_mem_decimal) hrest.stops (by rintro _ ⟨⟩; rfl)
  have hcolon := hrest '.' (by rw [hpoint]; rfl)
  cases hcolon

/-! ## Parts -/

/-- What comes before a group. -/
def separator (isFirst : Bool) : List Char := if isFirst then [] else [':']

theorem afterSeparator_eq_some_iff :
    afterSeparator isFirst cs = some rest ↔ cs = separator isFirst ++ rest := by
  cases isFirst with
  | true => simp [afterSeparator, separator]
  | false =>
    constructor
    · intro h
      unfold afterSeparator at h
      split at h
      · next hfirst => cases hfirst
      · split at h
        · obtain rfl := Option.some.inj h
          rfl
        · cases h
    · rintro rfl
      rfl

/-- Where groups end, none is read. -/
theorem Ends.readGroups_eq (h : Ends rest) (room : Nat) (isFirst : Bool) :
    readGroups room isFirst rest = ([], false, rest) := by
  cases room with
  | zero => rfl
  | succ room =>
    rw [readGroups]
    cases hbody : afterSeparator isFirst rest with
    | none => rfl
    | some body =>
      -- What comes after a separator is the end, or the second colon.
      have hcloses : Closes body := by
        obtain rfl := afterSeparator_eq_some_iff.1 hbody
        cases isFirst with
        | true => exact h.closes
        | false =>
          obtain hnil | ⟨more, hmore⟩ := h
          · cases hnil
          · cases hmore
            exact closes_colon _
      simp only [IPv4.read_of_stops hcloses.stops, readGroup_of_stops hcloses.stops, ite_self]

/-- A part is read as far as it goes, if there is room for its groups. -/
theorem Part.readGroups_eq (h : Part hasQuad text groups) (hroom : groups.length ≤ room)
    (hrest : Ends rest) (isFirst : Bool) :
    readGroups room isFirst (separator isFirst ++ (text ++ rest)) = (groups, hasQuad, rest) := by
  induction h generalizing room isFirst with
  | group first =>
    obtain ⟨room, rfl⟩ := Nat.exists_eq_succ_of_ne_zero (Nat.ne_of_gt hroom)
    have hgroup := readGroup_eq_some_iff.2 ⟨_, rfl, hrest.closes.stops, first⟩
    rw [readGroups, afterSeparator_eq_some_iff.2 rfl]
    simp only [first.read_eq_none hrest.closes, ite_self, hgroup, hrest.readGroups_eq]
  | quad quad =>
    obtain ⟨room, rfl⟩ : ∃ more, room = more + 2 := Nat.exists_eq_add_of_le' hroom
    have hquad := IPv4.read_eq_some_iff.2 ⟨Eq.refl (quad.chars ++ rest), hrest.closes.stops⟩
    rw [readGroups, afterSeparator_eq_some_iff.2 rfl]
    simp only [hquad, if_pos (Nat.succ_pos _)]
  | @cons text rest' group groups hasQuad first others ih =>
    obtain ⟨room, rfl⟩ := Nat.exists_eq_add_of_le' (Nat.le_trans (Nat.le_add_left 1 _) hroom)
    have hcolon := closes_colon (rest' ++ rest)
    have hgroup := readGroup_eq_some_iff.2 ⟨_, rfl, hcolon.stops, first⟩
    -- The colon behind the first group is what separates the others from it.
    have hothers : readGroups room false (':' :: (rest' ++ rest)) = (groups, hasQuad, rest) :=
      ih (Nat.le_of_succ_le_succ hroom) false
    rw [readGroups, afterSeparator_eq_some_iff.2 rfl, List.append_assoc, List.cons_append]
    simp only [first.read_eq_none hcolon, ite_self, hgroup, hothers]

/-- What has been read is a part, unless nothing has. -/
theorem readGroups_sound (h : readGroups room isFirst cs = (groups, hasQuad, rest)) :
    groups.length ≤ room ∧
      (groups = [] ∧ hasQuad = false ∧ rest = cs ∨
        ∃ text, cs = separator isFirst ++ (text ++ rest) ∧ Part hasQuad text groups) := by
  -- The induction is on the room, of which every group takes one.
  induction room generalizing isFirst cs groups with
  | zero =>
    cases h
    exact ⟨Nat.le_refl _, .inl ⟨rfl, rfl, rfl⟩⟩
  | succ room ih =>
    rw [readGroups] at h
    split at h
    · cases h
      exact ⟨Nat.zero_le _, .inl ⟨rfl, rfl, rfl⟩⟩
    · next body hbody =>
      obtain rfl := afterSeparator_eq_some_iff.1 hbody
      split at h
      · next quad after hquad =>
        cases h
        obtain ⟨hroom, hquad⟩ : 0 < room ∧ IPv4.read body = some (quad, rest) := by
          simpa using hquad
        obtain ⟨rfl, _⟩ := IPv4.read_eq_some_iff.1 hquad
        exact ⟨Nat.succ_le_succ hroom, .inr ⟨_, rfl, .quad quad⟩⟩
      · split at h
        · cases h
          exact ⟨Nat.zero_le _, .inl ⟨rfl, rfl, rfl⟩⟩
        · next group after hgroup =>
          obtain ⟨text, rfl, _, hfirst⟩ := readGroup_eq_some_iff.1 hgroup
          rcases hothers : readGroups room false after with ⟨others, hasQuad, last⟩
          rw [hothers] at h
          cases h
          obtain ⟨hroom, ⟨rfl, rfl, rfl⟩ | ⟨later, rfl, hpart⟩⟩ := ih hothers
          · exact ⟨Nat.succ_le_succ hroom, .inr ⟨text, rfl, .group hfirst⟩⟩
          · refine ⟨Nat.succ_le_succ hroom, .inr ⟨_, ?_, .cons hfirst hpart⟩⟩
            simp [separator]

/-- What may stand on one side of a double colon. -/
inductive Side : Bool → List Char → List UInt16 → Prop
  | nothing : Side false [] []
  | part {hasQuad : Bool} {text : List Char} {groups : List UInt16}
      (part : Part hasQuad text groups) : Side hasQuad text groups

theorem Side.readGroups_eq (h : Side hasQuad text groups) (hroom : groups.length ≤ room)
    (hrest : Ends rest) : readGroups room true (text ++ rest) = (groups, hasQuad, rest) := by
  cases h with
  | nothing => exact hrest.readGroups_eq room true
  | part hpart => exact hpart.readGroups_eq hroom hrest true

theorem exists_side_of_readGroups (h : readGroups room true cs = (groups, hasQuad, rest)) :
    groups.length ≤ room ∧ ∃ text, cs = text ++ rest ∧ Side hasQuad text groups := by
  obtain ⟨hroom, ⟨rfl, rfl, rfl⟩ | ⟨text, hcs, hpart⟩⟩ := readGroups_sound h
  · exact ⟨hroom, [], rfl, .nothing⟩
  · exact ⟨hroom, text, hcs, .part hpart⟩

/-! ## Whole addresses -/

/-- A text spells an IPv6 address: as its eight groups, or with a double colon for one or more
groups of zeros. -/
inductive IPv6.Spelling (a : IPv6) : List Char → Prop
  | whole {hasQuad : Bool} {text : List Char} (all : Part hasQuad text a.groups) :
      Spelling a text
  | short {hasQuad : Bool} {before after : List Char} {first last : List UInt16} {zeros : Nat}
      (left : Side false before first) (right : Side hasQuad after last)
      (groups : a.groups = first ++ List.replicate (zeros + 1) 0 ++ last) :
      Spelling a (before ++ ':' :: ':' :: after)

theorem IPv6.ofGroups?_eq_some_iff {a : IPv6} : ofGroups? groups = some a ↔ a.groups = groups := by
  rw [ofGroups?]
  constructor
  · intro h
    split at h
    · obtain rfl := Option.some.inj h
      rfl
    · cases h
  · rintro rfl
    rw [dif_pos a.length_eq]

theorem IPv6.Spelling.read_eq {a : IPv6} (h : a.Spelling cs) : read cs = some (a, []) := by
  have hend : Ends [] := .inl rfl
  have hof : ofGroups? a.groups = some a := ofGroups?_eq_some_iff.2 rfl
  cases h with
  | whole all =>
    have hread := (Side.part all).readGroups_eq (Nat.le_of_eq a.length_eq) hend
    rw [List.append_nil] at hread
    rw [read, hread]
    simp only [a.length_eq, if_true, hof]
    rfl
  | @short hasQuad before after first last zeros left right groups =>
    have hlength := a.length_eq
    rw [groups, List.length_append, List.length_append, List.length_replicate] at hlength
    have hfirst : first.length ≤ 8 := by omega
    have hlast : last.length ≤ 7 - first.length := by omega
    have hbefore := left.readGroups_eq hfirst (.inr ⟨after, rfl⟩)
    have hafter := right.readGroups_eq hlast hend
    rw [List.append_nil] at hafter
    have hzeros : 8 - first.length - last.length = zeros + 1 := by omega
    have hne : first.length ≠ 8 := by omega
    rw [read, hbefore]
    simp only [if_neg hne, Bool.false_eq_true, if_false, hafter, hzeros, ← groups, hof]
    rfl

theorem IPv6.spelling_of_read {a : IPv6} (h : read cs = some (a, [])) : a.Spelling cs := by
  rcases hbefore : readGroups 8 true cs with ⟨first, hasQuad, rest⟩
  obtain ⟨hroom, before, rfl, hside⟩ := exists_side_of_readGroups hbefore
  rw [read, hbefore] at h
  dsimp only at h
  split at h
  · -- Eight groups have been read, so the text is over.
    next hlength =>
    obtain ⟨_, hgroups, heq⟩ := Option.map_eq_some_iff.1 h
    cases heq
    cases hside with
    | nothing => cases hlength
    | part hpart =>
      rw [List.append_nil]
      exact .whole (ofGroups?_eq_some_iff.1 hgroups ▸ hpart)
  · next hlength =>
    split at h
    · cases h
    · next hquad =>
      split at h
      · next rest =>
        -- The room that is left is for at most seven groups, so that zeros are always missing.
        rcases hafter : readGroups (7 - first.length) true rest with ⟨last, hasQuad', rest'⟩
        obtain ⟨hroom', after, rfl, hside'⟩ := exists_side_of_readGroups hafter
        rw [hafter] at h
        obtain ⟨_, hgroups, heq⟩ := Option.map_eq_some_iff.1 h
        cases heq
        have hzeros : 8 - first.length - last.length = 7 - first.length - last.length + 1 := by
          omega
        rw [Bool.not_eq_true] at hquad
        rw [hzeros] at hgroups
        rw [List.append_nil]
        exact .short (hquad ▸ hside) hside' (ofGroups?_eq_some_iff.1 hgroups)
      · cases h

/-- An IPv6 address is read from its spellings, and from no other text. -/
theorem IPv6.read_eq_some_iff {a : IPv6} : read cs = some (a, []) ↔ a.Spelling cs :=
  ⟨spelling_of_read, Spelling.read_eq⟩

/-! ## Either family -/

theorem Part.read_eq_none (h : Part hasQuad text groups)
    (hgroups : hasQuad = false ∨ 2 < groups.length) (hrest : Closes rest) :
    IPv4.read (text ++ rest) = none := by
  cases h with
  | group first => exact first.read_eq_none hrest
  | quad quad => exact absurd hgroups (by simp [IPv4.groups])
  | cons first others =>
    rw [List.append_assoc]
    exact first.read_eq_none (closes_colon _)

/-- No spelling of an IPv6 address starts like a dotted quad. -/
theorem IPv6.Spelling.read_quad {a : IPv6} (h : a.Spelling cs) : IPv4.read cs = none := by
  cases h with
  | whole all =>
    have hgroups : 2 < a.groups.length := by
      rw [a.length_eq]
      decide
    rw [← List.append_nil cs]
    exact all.read_eq_none (.inr hgroups) nofun
  | @short _ _ after _ _ _ left _ _ =>
    have hcolon := closes_colon (':' :: after)
    cases left with
    | nothing => exact IPv4.read_of_stops hcolon.stops
    | part hpart => exact hpart.read_eq_none (.inl rfl) hcolon

/-- A text spells an address. An IPv4 address has one spelling. -/
def Ip.Spelling : Ip → List Char → Prop
  | v4 a, text => text = a.chars
  | v6 a, text => a.Spelling text

/-- An address is read from its spellings, and from no other text. -/
theorem Ip.ofChars?_eq_some_iff {ip : Ip} : ofChars? cs = some ip ↔ ip.Spelling cs := by
  constructor
  · intro h
    rw [ofChars?] at h
    split at h
    · next a hread =>
      obtain rfl := Option.some.inj h
      obtain ⟨rfl, _⟩ := IPv4.read_eq_some_iff.1 hread
      exact List.append_nil _
    · cases h
    · split at h
      · next a hread =>
        obtain rfl := Option.some.inj h
        exact IPv6.read_eq_some_iff.1 hread
      · cases h
  · intro h
    cases ip with
    | v4 a =>
      have hread := IPv4.read_eq_some_iff.2 ⟨(List.append_nil a.chars).symm, nofun⟩
      rw [show cs = a.chars from h, ofChars?, hread]
    | v6 a =>
      rw [ofChars?, IPv6.Spelling.read_quad h, IPv6.Spelling.read_eq h]

/-- A text spells one address at most. -/
theorem Ip.Spelling.unique {ip other : Ip} (h : ip.Spelling text) (h' : other.Spelling text) :
    ip = other :=
  Option.some.inj ((ofChars?_eq_some_iff.2 h).symm.trans (ofChars?_eq_some_iff.2 h'))

end FaultyServer.Address
