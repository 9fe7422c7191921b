import FaultyServer.Proofs.Shutdown.Schedule
import Mathlib.Data.List.Nodup

/-!
# The tasks follow their schedule

The invariant of the tasks (`Tasks.Valid`): at every instant each task has come as far as the
schedule says, and the queue, the waiters and the sleepers are the tasks in the phases that belong
there. One task may have left the queue to make its move (`active`).

* `Valid.cancel`: the cancellation keeps the invariant;
* `Valid.rest`: the end of a move keeps the invariant, if the task follows its schedule.
-/

namespace FaultyServer.Shutdown

/-! ## Phases -/

namespace Phase

/-- Whether a task in this phase is in the queue. -/
def isRunnable : Phase → Bool
  | ready | resumed | woken => true
  | _ => false

/-- Whether a task is in this phase at an instant, by its schedule and with the cancellation as far
as it has happened. -/
def Fits (now : Nat) (cancelled : Option Nat) (sp : Spawned) : Phase → Prop
  | ready => sp.born = now
  | waiting => sp.plan.awaitsCancel = true ∧ cancelled = none
  | resumed => sp.plan.awaitsCancel = true ∧ cancelled = some now
  | asleep due => sp.endsAt cancelled = some due ∧ now < due
  | woken => sp.endsAt cancelled = some now
  | stuck => sp.plan.sleep = none
  | ended => ∃ time, sp.endsAt cancelled = some time ∧ time ≤ now

/-- The phase of a task after the cancellation. -/
def onCancel (phase : Phase) : Phase := if phase = .waiting then .resumed else phase

end Phase

/-- A task has come as far as its schedule says. -/
structure Spawned.Follows (now : Nat) (cancelled : Option Nat) (sp : Spawned) (phase : Phase) :
    Prop where
  born_le : sp.born ≤ now
  fits : phase.Fits now cancelled sp
  cancels : phase = .ended → sp.plan.cancels = true → ∃ c ∈ cancelled, ∀ time,
    sp.endsAt cancelled = some time → c ≤ time

/-- A task that has not ended has not cancelled, either. -/
theorem Spawned.Follows.of_ne {sp : Spawned} {now : Nat} {cancelled : Option Nat} {phase : Phase}
    (hborn : sp.born ≤ now) (hfits : phase.Fits now cancelled sp) (hne : phase ≠ .ended) :
    sp.Follows now cancelled phase :=
  ⟨hborn, hfits, fun hended => absurd hended hne⟩

/-- A task follows its schedule through the cancellation. -/
theorem Spawned.Follows.cancel {sp : Spawned} {now : Nat} {phase : Phase}
    (hf : sp.Follows now none phase) : sp.Follows now (some now) phase.onCancel := by
  refine ⟨hf.born_le, ?_, ?_⟩
  · have hfits := hf.fits
    cases phase with
    | ready => exact hfits
    | waiting => exact ⟨hfits.1, rfl⟩
    | resumed => exact ⟨hfits.1, rfl⟩
    | asleep due => exact ⟨sp.endsAt_of_none hfits.1 _, hfits.2⟩
    | woken => exact sp.endsAt_of_none hfits _
    | stuck => exact hfits
    | ended =>
      obtain ⟨time, htime, hle⟩ := hfits
      exact ⟨time, sp.endsAt_of_none htime _, hle⟩
  · intro hended hcancels
    have : phase = .ended := by
      cases phase <;> simp_all [Phase.onCancel]
    obtain ⟨c, hc, _⟩ := hf.cancels this hcancels
    exact absurd hc (Option.not_mem_none c)

/-- A task that rests still follows its schedule later, as long as it is to sleep on. -/
theorem Spawned.Follows.later {sp : Spawned} {now time : Nat} {cancelled : Option Nat}
    {phase : Phase} (hf : sp.Follows now cancelled phase) (hphase : phase.isRunnable = false)
    (hle : now ≤ time) (hdue : ∀ due, phase = .asleep due → time < due) :
    sp.Follows time cancelled phase := by
  refine ⟨Nat.le_trans hf.born_le hle, ?_, hf.cancels⟩
  have hfits := hf.fits
  cases phase with
  | ready | resumed | woken => cases hphase
  | waiting => exact hfits
  | asleep due => exact ⟨hfits.1, hdue due rfl⟩
  | stuck => exact hfits
  | ended =>
    obtain ⟨ends, hends, hle'⟩ := hfits
    exact ⟨ends, hends, Nat.le_trans hle' hle⟩

/-- How far the task of a number has come. -/
def Tasks.phase? (t : Tasks) (i : Nat) : Option Phase := (t.tasks[i]?).map (·.phase)

/-- The tasks follow the schedule of a history, in which the cancellation has happened at
`cancelled` if it has. The task `active` makes its move; it is not in the queue any more. -/
structure Tasks.Valid (h : History) (cancelled active : Option Nat) (t : Tasks) : Prop where
  plans : t.tasks.map (·.plan) = h.spawned.map (·.plan)
  follows : ∀ i sp phase, h.spawned[i]? = some sp → t.phase? i = some phase →
    sp.Follows t.now cancelled phase
  isCancelled : t.isCancelled = cancelled.isSome
  cancelled_le : ∀ c ∈ cancelled, c ≤ t.now
  origin : ∀ c ∈ cancelled, c ∈ h.cancellations
  triggers : ∀ time ∈ h.triggers, ∃ c ∈ cancelled, c ≤ time
  queue : ∀ i, i ∈ t.queue ∨ active = some i ↔ (t.phase? i).any Phase.isRunnable
  queue_nodup : (active.toList ++ t.queue).Nodup
  waiters : ∀ i, i ∈ t.waiters ↔ t.phase? i = some .waiting
  waiters_nodup : t.waiters.Nodup
  sleepers : ∀ i due, (i, due) ∈ t.sleepers ↔ t.phase? i = some (.asleep due)
  sleepers_nodup : (t.sleepers.map (·.1)).Nodup

namespace Tasks

variable {h : History} {cancelled active : Option Nat} {t : Tasks} {i : Nat}

theorem Valid.length_eq (hv : Valid h cancelled active t) :
    t.tasks.length = h.spawned.length := by
  simpa using congrArg List.length hv.plans

theorem setPhase_phase? (t : Tasks) (i j : Nat) (phase : Phase) :
    (t.setPhase i phase).phase? j =
      if i = j then (t.phase? j).map fun _ => phase else t.phase? j := by
  simp only [phase?, setPhase, List.getElem?_modify]
  split <;> simp [Function.comp_def]

theorem setPhase_plans (t : Tasks) (i : Nat) (phase : Phase) :
    (t.setPhase i phase).tasks.map (·.plan) = t.tasks.map (·.plan) := by
  refine List.ext_getElem? fun j => ?_
  simp only [setPhase, List.getElem?_map, List.getElem?_modify]
  split <;> simp [Function.comp_def]

/-! ## The cancellation -/

theorem cancel_of_isCancelled (hc : t.isCancelled = true) : t.cancel = t := if_pos hc

theorem cancel_of_not_isCancelled (hc : t.isCancelled = false) :
    t.cancel = { t with
      isCancelled := true
      tasks := t.tasks.map Task.resume
      queue := t.queue ++ t.waiters
      waiters := [] } := if_neg (by simp [hc])

theorem resume_phase (task : Task) : task.resume.phase = task.phase.onCancel := by
  rw [Task.resume, Phase.onCancel]
  split <;> rfl

theorem resume_plan (task : Task) : task.resume.plan = task.plan := by
  rw [Task.resume]
  split <;> rfl

/-- The cancellation keeps the invariant, if it is recorded and nothing recorded comes before. -/
theorem Valid.cancel {h' : History} (hv : Valid h none active t) (hspawned : h'.spawned = h.spawned)
    (htriggers : ∀ time ∈ h'.triggers, t.now ≤ time) (hnow : t.now ∈ h'.cancellations) :
    Valid h' (some t.now) active t.cancel := by
  have hphase : ∀ i, t.cancel.phase? i = (t.phase? i).map Phase.onCancel := by
    intro i
    simp [cancel_of_not_isCancelled hv.isCancelled, phase?, Function.comp_def, resume_phase]
  have heq := cancel_of_not_isCancelled hv.isCancelled
  constructor
  case plans => simpa [heq, Function.comp_def, resume_plan, hspawned] using hv.plans
  case follows =>
    intro i sp phase hsp hp
    rw [hphase] at hp
    obtain ⟨before, hbefore, rfl⟩ := Option.map_eq_some_iff.1 hp
    rw [hspawned] at hsp
    simpa [heq] using (hv.follows i sp before hsp hbefore).cancel
  case isCancelled => simp [heq]
  case cancelled_le => simp [heq]
  case origin => simpa using hnow
  case triggers => simpa using htriggers
  case queue =>
    -- The waiters are the only tasks that become able to go on.
    intro i
    have hq := hv.queue i
    have hw := hv.waiters i
    rw [hphase]
    rcases hp : t.phase? i with _ | phase
    · simp_all
    · cases phase <;> simp_all [Phase.onCancel, Phase.isRunnable]
  case queue_nodup =>
    -- A waiter was not in the queue, so nothing is there twice.
    have hd : ∀ i ∈ t.waiters, ¬ (i ∈ t.queue ∨ active = some i) := by
      intro i hi
      rw [hv.queue, (hv.waiters i).1 hi]
      simp [Phase.isRunnable]
    have hn := List.nodup_append'.2 ⟨hv.queue_nodup, hv.waiters_nodup, fun i hi hw => hd i hw ?_⟩
    · simpa [heq] using hn
    · simpa [or_comm] using hi
  case waiters =>
    intro i
    rw [hphase]
    rcases t.phase? i with _ | phase
    · simp [heq]
    · cases phase <;> simp [heq, Phase.onCancel]
  case waiters_nodup => simp [heq]
  case sleepers =>
    intro i due
    have hs := hv.sleepers i due
    rw [hphase]
    rcases hp : t.phase? i with _ | phase
    · simp_all
    · cases phase <;> simp_all [Phase.onCancel]
  case sleepers_nodup => simpa [heq] using hv.sleepers_nodup

/-! ## New tasks -/

theorem spawn_phase? (t : Tasks) (plan : Plan) (i : Nat) :
    (t.spawn plan).phase? i = if i = t.tasks.length then some .ready else t.phase? i := by
  simp only [phase?, spawn, List.getElem?_append, List.getElem?_singleton]
  split
  · next hlt => rw [if_neg (by omega)]
  · next hge =>
    split
    · next h0 => rw [if_pos (by omega)]; rfl
    · next h0 =>
      rw [if_neg (by omega), List.getElem?_eq_none (by omega)]

/-- A new task keeps the invariant. -/
theorem Valid.spawn (hv : Valid h cancelled none t) (plan : Plan) :
    Valid (h.spawn plan t.now) cancelled none (t.spawn plan) := by
  have hlength := hv.length_eq
  have hnone : t.phase? t.tasks.length = none := by simp [phase?]
  refine { hv with plans := ?plans, follows := ?follows, origin := ?origin, queue := ?queue
                   queue_nodup := ?queue_nodup, waiters := ?waiters, sleepers := ?sleepers }
  case plans => simpa [Tasks.spawn, History.spawn] using hv.plans
  case follows =>
    intro i sp phase hsp hp
    rw [spawn_phase?] at hp
    by_cases hi : i = t.tasks.length
    · -- The new task, which has not moved since it was spawned.
      rw [if_pos hi] at hp
      obtain rfl := Option.some.inj hp
      obtain rfl : ⟨plan, t.now⟩ = sp := by
        simpa [History.spawn, hi, hlength] using hsp
      exact .of_ne (Nat.le_refl _) rfl (by simp)
    · rw [if_neg hi] at hp
      have hlt : i < h.spawned.length := by
        rw [← hlength]
        simpa [phase?] using (Option.isSome_iff_exists.2 ⟨phase, hp⟩ : (t.phase? i).isSome)
      refine hv.follows i sp phase ?_ hp
      rwa [History.spawn, List.getElem?_append_left hlt] at hsp
  case origin =>
    exact fun c hc => (History.cancellations_spawn plan t.now).2 (.inl (hv.origin c hc))
  case queue =>
    intro i
    have := hv.queue i
    rw [spawn_phase?]
    by_cases hi : i = t.tasks.length
    · simp [Tasks.spawn, hi, Phase.isRunnable]
    · simpa [Tasks.spawn, hi] using this
  case queue_nodup =>
    have hnotin : t.tasks.length ∉ t.queue := by
      intro hmem
      have := (hv.queue _).1 (.inl hmem)
      simp [hnone] at this
    have hn : (t.queue ++ [t.tasks.length]).Nodup :=
      List.nodup_append'.2 ⟨hv.queue_nodup, List.nodup_singleton _, by simpa using hnotin⟩
    exact hn
  case waiters =>
    intro i
    rw [spawn_phase?, show (t.spawn plan).waiters = t.waiters from rfl, hv.waiters]
    by_cases hi : i = t.tasks.length <;> simp [hi, hnone]
  case sleepers =>
    intro i due
    rw [spawn_phase?, show (t.spawn plan).sleepers = t.sleepers from rfl, hv.sleepers]
    by_cases hi : i = t.tasks.length <;> simp [hi, hnone]

/-! ## The end of a move -/

/-- A task comes to rest in a phase in which it is not in the queue. -/
def rest (t : Tasks) (i : Nat) (phase : Phase) : Tasks :=
  { t.setPhase i phase with
    waiters := if phase = .waiting then t.waiters ++ [i] else t.waiters
    sleepers := match phase with
      | .asleep due => t.sleepers ++ [(i, due)]
      | _ => t.sleepers
    done := if phase = .ended then t.done ++ [i] else t.done }

@[simp]
theorem rest_queue (t : Tasks) (i : Nat) (phase : Phase) : (t.rest i phase).queue = t.queue := rfl

theorem rest_phase? (t : Tasks) (i j : Nat) (phase : Phase) :
    (t.rest i phase).phase? j = if i = j then (t.phase? j).map fun _ => phase else t.phase? j :=
  t.setPhase_phase? i j phase

theorem mem_rest_waiters {phase : Phase} {j : Nat} :
    j ∈ (t.rest i phase).waiters ↔ j ∈ t.waiters ∨ j = i ∧ phase = .waiting := by
  unfold rest
  dsimp only
  split <;> simp_all

theorem mem_rest_sleepers {phase : Phase} {j due : Nat} :
    (j, due) ∈ (t.rest i phase).sleepers ↔
      (j, due) ∈ t.sleepers ∨ j = i ∧ phase = .asleep due := by
  cases phase <;> simp [rest, setPhase, eq_comm]

/-- The first task leaves the queue to make its move. -/
theorem Valid.pop {queue : List Nat} (hv : Valid h cancelled none t) (hq : t.queue = i :: queue) :
    Valid h cancelled (some i) { t with queue := queue } := by
  refine { hv with queue := fun j => ?_, queue_nodup := ?_ }
  · have := hv.queue j
    simp only [hq, List.mem_cons, Option.some.injEq, reduceCtorEq, or_false] at this ⊢
    rw [or_comm, eq_comm]
    exact this
  · simpa [hq] using hv.queue_nodup

/-- A task that makes its move is in a phase in which it can. -/
theorem Valid.active_isRunnable (hv : Valid h cancelled (some i) t) :
    ∃ phase, t.phase? i = some phase ∧ phase.isRunnable = true :=
  (Option.any_eq_true _ _).1 ((hv.queue i).1 (.inr rfl))

/-- The end of a move keeps the invariant if the task follows its schedule. -/
theorem Valid.rest {phase : Phase} (hv : Valid h cancelled (some i) t)
    (hphase : phase.isRunnable = false)
    (hf : ∀ sp, h.spawned[i]? = some sp → sp.Follows t.now cancelled phase) :
    Valid h cancelled none (t.rest i phase) := by
  -- The task was able to go on, so it neither waits nor sleeps yet.
  obtain ⟨before, hbefore, hrunnable⟩ := hv.active_isRunnable
  have hactive : (t.rest i phase).phase? i = some phase := by
    simp [rest_phase?, hbefore]
  have hother : ∀ j, i ≠ j → (t.rest i phase).phase? j = t.phase? j := fun j hj => by
    simp [rest_phase?, hj]
  have hnodup := hv.queue_nodup
  rw [Option.toList_some, List.singleton_append, List.nodup_cons] at hnodup
  have hwaiter : i ∉ t.waiters := by
    rw [hv.waiters, hbefore]
    rintro ⟨⟩
    cases hrunnable
  have hsleeper : ∀ due, (i, due) ∉ t.sleepers := by
    intro due
    rw [hv.sleepers, hbefore]
    rintro ⟨⟩
    cases hrunnable
  refine { hv with plans := (t.setPhase_plans i phase).trans hv.plans, queue_nodup := hnodup.2
                   follows := ?follows, queue := ?queue
                   waiters := ?waiters, waiters_nodup := ?waiters_nodup
                   sleepers := ?sleepers, sleepers_nodup := ?sleepers_nodup }
  case follows =>
    intro j sp after hsp hafter
    by_cases hj : i = j
    · subst hj
      obtain rfl := Option.some.inj (hactive.symm.trans hafter)
      exact hf sp hsp
    · exact hv.follows j sp after hsp ((hother j hj).symm.trans hafter)
  case queue =>
    intro j
    by_cases hj : i = j
    · subst hj
      rw [hactive, Option.any_some, hphase]
      simpa using hnodup.1
    · rw [hother j hj, ← hv.queue j]
      simp [hj]
  case waiters =>
    intro j
    rw [mem_rest_waiters]
    by_cases hj : i = j
    · subst hj
      simp [hactive, hwaiter]
    · simp [hother j hj, ← hv.waiters j, Ne.symm hj]
  case waiters_nodup =>
    unfold Tasks.rest
    dsimp only
    split
    · exact hv.waiters_nodup.append (List.nodup_singleton i) (by simpa using hwaiter)
    · exact hv.waiters_nodup
  case sleepers =>
    intro j due
    rw [mem_rest_sleepers]
    by_cases hj : i = j
    · subst hj
      simp [hactive, hsleeper]
    · simp [hother j hj, ← hv.sleepers j, Ne.symm hj]
  case sleepers_nodup =>
    have hn := hv.sleepers_nodup
    cases phase with
    | asleep due =>
      have : (t.sleepers.map (·.1) ++ [i]).Nodup :=
        hn.append (List.nodup_singleton i) (by simpa using hsleeper)
      simpa [Tasks.rest] using this
    | _ => exact hn

end Tasks

end FaultyServer.Shutdown
