import FaultyServer.Proofs.Address.Spelling

/-!
# The spelling that is printed

Of the spellings of an address one is printed. Which zeros it leaves out is found by a search for
the longest run of them; whatever that search finds is a run of zeros (`isZeros_longestZeros`), so
what is printed spells the address (`Ip.spelling_chars`) and is read as that address again.
-/

namespace FaultyServer.Address

variable {groups all : List UInt16}

/-! ## Groups -/

theorem isGroup_toDigits (group : UInt16) : IsGroup (Nat.toDigits 16 group.toNat) group where
  length_le := (Nat.length_toDigits_le_iff (by decide) (by decide)).2 group.toNat_lt
  value := Text.natural?_toDigits (by decide) (by decide) _

theorem part_joinGroups (h : groups ≠ []) : Part false (joinGroups groups) groups := by
  induction groups with
  | nil => exact absurd rfl h
  | cons group rest ih =>
    cases rest with
    | nil =>
      have hjoin : joinGroups [group] = Nat.toDigits 16 group.toNat := by simp [joinGroups]
      exact hjoin ▸ .group (isGroup_toDigits group)
    | cons next rest =>
      have hjoin : joinGroups (group :: next :: rest) =
          Nat.toDigits 16 group.toNat ++ ':' :: joinGroups (next :: rest) := by
        simp [joinGroups]
      exact hjoin ▸ .cons (isGroup_toDigits group) (ih (List.cons_ne_nil _ _))

theorem side_joinGroups (groups : List UInt16) : Side false (joinGroups groups) groups := by
  cases groups with
  | nil => exact .nothing
  | cons group rest => exact .part (part_joinGroups (List.cons_ne_nil _ _))

/-! ## Zeros -/

/-- All groups of a run are zeros. -/
def Run.IsZeros (run : Run) (groups : List UInt16) : Prop :=
  ∀ i, run.start ≤ i → i < run.start + run.length → groups[i]? = some 0

/-- A run that is still open goes on with a zero, and without one a new run begins. -/
theorem Run.IsZeros.extend {run : Run} {position : Nat} (h : run.IsZeros all)
    (hopen : run.length ≠ 0 → run.start + run.length = position)
    (hzero : all[position]? = some 0) :
    let next : Run := if run.length = 0 then ⟨position, 1⟩ else ⟨run.start, run.length + 1⟩
    next.IsZeros all ∧ next.start + next.length = position + 1 := by
  intro next
  by_cases hlength : run.length = 0
  · have hnext : next = ⟨position, 1⟩ := if_pos hlength
    rw [hnext]
    refine ⟨fun i hlow hhigh => ?_, rfl⟩
    obtain rfl : i = position := Nat.le_antisymm (Nat.le_of_lt_succ hhigh) hlow
    exact hzero
  · have hnext : next = ⟨run.start, run.length + 1⟩ := if_neg hlength
    have hposition := hopen hlength
    rw [hnext]
    refine ⟨fun i hlow hhigh => ?_, congrArg (· + 1) hposition⟩
    rcases Nat.lt_or_ge i position with hlt | hge
    · exact h i hlow (hposition ▸ hlt)
    · obtain rfl : i = position := by
        dsimp only at hhigh
        omega
      exact hzero

/-- Whatever the search finds is a run of zeros: the best run so far is one, and so is the run that
is still open, which goes up to the position. -/
theorem isZeros_longestZeros {position : Nat} {best current : Run}
    (hgroups : all.drop position = groups) (hbest : best.IsZeros all)
    (hcurrent : current.IsZeros all)
    (hopen : current.length ≠ 0 → current.start + current.length = position) :
    (longestZeros position best current groups).IsZeros all := by
  induction groups generalizing position best current with
  | nil => exact hbest
  | cons group rest ih =>
    have hgroup : all[position]? = some group := by
      rw [← Nat.add_zero position, ← List.getElem?_drop, hgroups]
      rfl
    have hrest : all.drop (position + 1) = rest := by
      rw [← List.drop_drop, hgroups]
      rfl
    rw [longestZeros]
    split
    · next hzero =>
      have hextend := hcurrent.extend hopen (hzero ▸ hgroup)
      dsimp only at hextend ⊢
      generalize (if current.length = 0 then (⟨position, 1⟩ : Run)
        else ⟨current.start, current.length + 1⟩) = next at hextend ⊢
      refine ih hrest ?_ hextend.1 fun _ => hextend.2
      split
      · exact hextend.1
      · exact hbest
    · exact ih hrest hbest (fun _ _ hi => absurd hi (by simp)) (absurd rfl)

/-- A run of zeros, with what comes before and after it. -/
theorem Run.IsZeros.split {run : Run} (h : run.IsZeros groups) (hlength : run.length ≠ 0) :
    groups = groups.take run.start ++ List.replicate run.length 0 ++
      groups.drop (run.start + run.length) := by
  -- The last zero of the run is there, so the run ends before the groups do.
  have hlast := h (run.start + run.length - 1) (by omega) (by omega)
  have hlt := (List.getElem?_eq_some_iff.1 hlast).1
  have hzeros : (groups.drop run.start).take run.length = List.replicate run.length 0 := by
    refine List.eq_replicate_iff.2 ⟨by simp; omega, fun group hgroup => ?_⟩
    obtain ⟨i, hi⟩ := List.mem_iff_getElem?.1 hgroup
    rw [List.getElem?_take] at hi
    split at hi
    · next hlt =>
      rw [List.getElem?_drop, h _ (Nat.le_add_right _ _) (Nat.add_lt_add_left hlt _)] at hi
      exact (Option.some.inj hi).symm
    · cases hi
  calc groups = groups.take run.start ++ groups.drop run.start := (List.take_append_drop ..).symm
    _ = groups.take run.start ++ ((groups.drop run.start).take run.length ++
          (groups.drop run.start).drop run.length) :=
        congrArg (groups.take run.start ++ ·) (List.take_append_drop ..).symm
    _ = _ := by rw [hzeros, List.drop_drop, List.append_assoc]

/-! ## Addresses -/

/-- The quad inside an IPv4-mapped address stands for its last two groups. -/
theorem IPv6.groups_of_mapped? {a : IPv6} {quad : IPv4} (h : a.mapped? = some quad) :
    a.groups = List.replicate 5 0 ++ 0xffff :: quad.groups := by
  have hhalves : ∀ group : UInt16,
      (group / 256).toUInt8.toUInt16 * 256 + (group % 256).toUInt8.toUInt16 = group := by
    intro group
    refine UInt16.toNat_inj.1 ?_
    have hlt := group.toNat_lt
    simp
    omega
  rw [mapped?] at h
  split at h
  · next high low hgroups =>
    obtain rfl := Option.some.inj h
    rw [hgroups, IPv4.groups, hhalves, hhalves]
    rfl
  · cases h

/-- An IPv6 address is printed in one of its spellings. -/
theorem IPv6.spelling_chars (a : IPv6) : a.Spelling a.chars := by
  rw [chars]
  split
  · next quad hquad =>
    have hffff : IsGroup "ffff".toList 0xffff := ⟨by decide, by decide⟩
    have hgroups : a.groups = [] ++ List.replicate (4 + 1) 0 ++ 0xffff :: quad.groups :=
      groups_of_mapped? hquad
    exact .short .nothing (.part (.cons hffff (.quad quad))) hgroups
  · dsimp only
    split
    · next hlength =>
      have hnone : (⟨0, 0⟩ : Run).IsZeros a.groups := fun _ _ hi => absurd hi (Nat.not_lt_zero _)
      have hzeros := isZeros_longestZeros (List.drop_zero (l := a.groups)) hnone hnone (absurd rfl)
      -- That the run is the longest one does not matter from here on.
      generalize longestZeros 0 ⟨0, 0⟩ ⟨0, 0⟩ a.groups = run at hlength hzeros
      obtain ⟨start, _ | length⟩ := run
      · cases hlength
      · exact .short (side_joinGroups _) (side_joinGroups _) (hzeros.split (Nat.succ_ne_zero _))
    · exact .whole (part_joinGroups (List.ne_nil_of_length_eq_add_one a.length_eq))

/-- An address is printed in one of its spellings. -/
theorem Ip.spelling_chars (ip : Ip) : ip.Spelling ip.chars := by
  cases ip with
  | v4 a => rfl
  | v6 a => exact a.spelling_chars

/-- What is printed for an address is read as that address. -/
theorem Ip.ofString?_toString (ip : Ip) : ofString? (toString ip) = some ip := by
  rw [ofString?, ofChars?_eq_some_iff]
  exact String.toList_ofList ▸ ip.spelling_chars

end FaultyServer.Address
