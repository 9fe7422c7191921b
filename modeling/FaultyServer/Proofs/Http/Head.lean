import FaultyServer.Http.Wire
import Mathlib.Data.List.TakeWhile
import Mathlib.Tactic.Common

/-!
# Heads on a connection

A reader that finds a whole line, or a whole head, has looked at no byte beyond it
(`readLine_split`, `readFields_split`). So a head that has come is read as the same head whatever
follows it, and what follows is left as it is (`Incoming.read_split`).
-/

namespace FaultyServer.Http

variable {bytes rest : List UInt8}

theorem readLine_cons {b c : UInt8} (hb : b ≠ 0x0A) (hc : b = 0x0D → c ≠ 0x0A) :
    readLine (b :: c :: rest) =
      (readLine (c :: rest)).map fun (line, rest) => (b :: line, rest) := by
  rw [readLine.eq_def]
  split
  · next heq => cases heq
  · next heq => exact absurd (List.cons.inj heq).1 hb
  · next heq => cases heq
  · next heq =>
    cases heq
    exact absurd rfl (hc rfl)
  · next heq =>
    cases heq
    rfl

/-- A line is read in the same way whatever follows it. -/
theorem readLine_split {line : List UInt8} (h : readLine bytes = some (line, rest)) :
    ∃ first, bytes = first ++ rest ∧ first ≠ [] ∧
      ∀ more, readLine (first ++ more) = some (line, more) := by
  fun_induction readLine bytes generalizing line with
  | case1 => cases h
  | case2 tail =>
    cases h
    exact ⟨[0x0A], rfl, List.cons_ne_nil _ _, fun _ => rfl⟩
  | case3 => cases h
  | case4 tail =>
    cases h
    exact ⟨[0x0D, 0x0A], rfl, List.cons_ne_nil _ _, fun _ => rfl⟩
  | case5 b tail hline _ hbreak ih =>
    obtain ⟨⟨inner, _⟩, hinner, heq⟩ := Option.map_eq_some_iff.1 h
    cases heq
    obtain ⟨first, rfl, hne, hfirst⟩ := ih hinner
    obtain ⟨c, first, rfl⟩ := List.exists_cons_of_ne_nil hne
    -- The byte behind the first one has come, so whether the line ends there is settled.
    have hc : b = 0x0D → c ≠ 0x0A := by
      rintro rfl rfl
      exact hbreak _ rfl rfl
    refine ⟨b :: c :: first, rfl, List.cons_ne_nil _ _, fun more => ?_⟩
    have hmore := hfirst more
    rw [List.cons_append] at hmore
    rw [List.cons_append, List.cons_append, readLine_cons hline hc, hmore]
    rfl

/-- Header fields are read in the same way whatever follows them. -/
theorem readFields_split {fields : Headers} {fuel : Nat}
    (h : readFields fuel bytes = some (some (fields, rest))) :
    ∃ first, bytes = first ++ rest ∧ ∀ more fuel, first.length ≤ fuel →
      readFields fuel (first ++ more) = some (some (fields, more)) := by
  induction fuel generalizing bytes fields with
  | zero => cases h
  | succ fuel ih =>
    rw [readFields] at h
    split at h
    · cases h
    · next hline =>
      cases h
      obtain ⟨first, rfl, hne, hfirst⟩ := readLine_split hline
      refine ⟨first, rfl, fun more fuel hfuel => ?_⟩
      have hpos := List.length_pos_iff.2 hne
      obtain ⟨fuel, rfl⟩ := Nat.exists_eq_succ_of_ne_zero (show fuel ≠ 0 by omega)
      rw [readFields, hfirst more]
    · next line after hnonempty hline =>
      split at h
      · next field _ fields rest hfield hfields =>
        cases h
        obtain ⟨first, rfl, hfirst⟩ := ih hfields
        obtain ⟨start, rfl, hstart, hsplit⟩ := readLine_split hline
        refine ⟨start ++ first, (List.append_assoc _ _ _).symm, fun more fuel hfuel => ?_⟩
        -- Each line has at least one byte, so that the fuel is enough for the lines that follow.
        rw [List.length_append] at hfuel
        have hpos := List.length_pos_iff.2 hstart
        obtain ⟨fuel, rfl⟩ := Nat.exists_eq_succ_of_ne_zero (show fuel ≠ 0 by omega)
        rw [List.append_assoc, readFields, hsplit]
        simp only [hfirst more fuel (by omega), hfield]
      · cases h
      · cases h

/-- The bytes before the first that passes a test, and that one, do not depend on what follows. -/
theorem dropWhile_split {p : UInt8 → Bool} {first : List UInt8} (hne : first ≠ [])
    (h : bytes.dropWhile p = first ++ rest) :
    ∃ skipped, bytes = skipped ++ (first ++ rest) ∧
      ∀ more, (skipped ++ (first ++ more)).dropWhile p = first ++ more := by
  obtain ⟨c, first, rfl⟩ := List.exists_cons_of_ne_nil hne
  refine ⟨bytes.takeWhile p, ?_, fun more => ?_⟩
  · rw [← h, List.takeWhile_append_dropWhile]
  · have hc : ¬ p c = true := by
      have hhead := List.head_dropWhile_not p (l := bytes) (by rw [h]; exact List.cons_ne_nil _ _)
      simpa [h] using hhead
    rw [List.dropWhile_append_of_pos fun b hb => List.mem_takeWhile_imp hb, List.cons_append,
      List.dropWhile_cons_of_neg hc]

namespace Incoming

/-- A head is read as the same head whatever follows it. -/
theorem read_split {head : Head} (h : read bytes = .complete head rest) :
    ∃ first, bytes = first ++ rest ∧ ∀ more, read (first ++ more) = .complete head more := by
  rw [read] at h
  split at h
  · cases h
  · next line after hline =>
    split at h
    · next method target version headers rest hrequest hfields =>
      split at h
      · next m t framing hm ht hframing =>
        cases h
        obtain ⟨start, hstart, hne, hsplit⟩ := readLine_split hline
        obtain ⟨fieldBytes, rfl, hfieldBytes⟩ := readFields_split hfields
        rw [← List.append_assoc] at hstart
        obtain ⟨skipped, rfl, hskipped⟩ := dropWhile_split (by simp [hne]) hstart
        refine ⟨skipped ++ (start ++ fieldBytes), by simp, fun more => ?_⟩
        have hmore := hskipped more
        simp only [List.append_assoc] at hmore ⊢
        have hfuel : fieldBytes.length ≤ (start ++ (fieldBytes ++ more)).length := by
          simp only [List.length_append]
          omega
        simp only [read, hmore, hsplit, hrequest, hfieldBytes more _ hfuel, hm, ht, hframing]
      · cases h
    · cases h
    · cases h

end Incoming

end FaultyServer.Http
