import FaultyServer.Proofs.Shutdown.Trigger

/-!
# The outcome of a shutdown

A shutdown waits, from its trigger on, until every task has ended or the timeout is over, and says
which came first (`Outcome.Fits`).

* `Session.make_await`: so does every shutdown that is awaited while the tasks follow their
  schedule;
* `Session.run_follows`: and they do after any steps;
* `Session.completes_of_prompt`: a signal is enough if no task takes any time after it;
* `Session.await_outcome`: what therefore holds of every shutdown of every session.
-/

namespace FaultyServer.Shutdown

/-- What the outcome says of a shutdown that has waited since an instant. -/
def Outcome.Fits (h : History) (c start deadline : Nat) (t : Tasks) : Outcome → Prop
  | .completed => t.allEnded = true ∧ (t.now = start ∨ start ≤ t.now ∧ t.now < deadline ∧
      ∃ sp ∈ h.spawned, sp.endsAt (some c) = some t.now)
  | .timedOut => t.now = deadline ∧
      ∃ sp ∈ h.spawned, ∀ time, sp.endsAt (some c) = some time → deadline ≤ time

namespace Tasks

variable {h : History} {cancelled active : Option Nat} {t : Tasks} {i : Nat} {sp : Spawned}

theorem allEnded_iff : t.allEnded = true ↔ ∀ i phase, t.phase? i = some phase → phase = .ended := by
  simp only [allEnded, List.all_eq_true, beq_iff_eq]
  constructor
  · intro hall i phase hp
    obtain ⟨task, htask, rfl⟩ := Option.map_eq_some_iff.1 hp
    exact hall task (List.mem_of_getElem? htask)
  · intro hall task htask
    obtain ⟨i, hi⟩ := List.getElem?_of_mem htask
    exact hall i task.phase (by simp [phase?, hi])

/-- When every task has ended, every end is over. -/
theorem Valid.ends_le (hv : Valid h cancelled active t) (hall : t.allEnded = true)
    (hsp : sp ∈ h.spawned) : ∃ time, sp.endsAt cancelled = some time ∧ time ≤ t.now := by
  obtain ⟨i, phase, hi, hp⟩ := hv.exists_phase hsp
  obtain rfl := allEnded_iff.1 hall i phase hp
  exact (hv.follows i sp _ hi hp).fits

/-- When not every task has ended, some task has not. -/
theorem Valid.exists_unended (hv : Valid h cancelled active t) (hall : ¬ t.allEnded = true) :
    ∃ i sp phase, h.spawned[i]? = some sp ∧ t.phase? i = some phase ∧ phase ≠ .ended := by
  simp only [allEnded_iff, not_forall] at hall
  obtain ⟨i, phase, hp, hne⟩ := hall
  obtain ⟨sp, hsp⟩ := hv.exists_spawned hp
  exact ⟨i, sp, phase, hsp, hp, hne⟩

/-- When every task has ended, no task is in the queue. -/
theorem Valid.queue_of_allEnded (hv : Valid h cancelled none t) (hall : t.allEnded = true) :
    t.queue = [] := by
  refine List.eq_nil_iff_forall_not_mem.2 fun i hi => ?_
  obtain ⟨phase, hp, hrunnable⟩ := (Option.any_eq_true _ _).1 ((hv.queue i).1 (.inl hi))
  obtain rfl := allEnded_iff.1 hall i phase hp
  cases hrunnable

/-- A sleeping task ends when it wakes. -/
theorem Valid.ends_of_sleeper {due : Nat} (hv : Valid h cancelled active t)
    (hmem : (i, due) ∈ t.sleepers) : ∃ sp ∈ h.spawned, sp.endsAt cancelled = some due := by
  have hp := (hv.sleepers i due).1 hmem
  obtain ⟨sp, hsp⟩ := hv.exists_spawned hp
  exact ⟨sp, List.mem_of_getElem? hsp, (hv.follows i sp _ hsp hp).fits.1⟩

end Tasks

open Tasks

namespace Session

variable {h : History} {cancelled : Option Nat} {t : Tasks} {c deadline fuel : Nat}

/-! ## Waiting for the tasks -/

/-- If no task wakes before the deadline and some task has not ended, the deadline comes first. -/
theorem timedOut_fits {start : Nat} (hs : Settled h (some c) t) (hle : t.now ≤ deadline)
    (hall : ¬ t.allEnded = true) (hdue : ∀ i due, (i, due) ∈ t.sleepers → deadline ≤ due) :
    Valid h (some c) none (t.moveTo deadline) ∧
      Outcome.timedOut.Fits h c start deadline (t.moveTo deadline) := by
  obtain ⟨i, sp, phase, hsp, hp, hne⟩ := hs.valid.exists_unended hall
  refine ⟨hs.moveTo hle hdue, ?_, sp, List.mem_of_getElem? hsp, fun time hends => ?_⟩
  · rw [moveTo_now, Nat.max_eq_right hle]
  · exact hdue i time (hs.asleep hsp hp hne hends).1

/-- Waiting for the tasks ends at the last end of a task or at the deadline, and says which. -/
theorem untilEnded_fits (hs : Settled h (some c) t) (hlt : t.now < deadline)
    (hfuel : t.pending < fuel) :
    Valid h (some c) none (untilEnded deadline fuel t).2 ∧
      (untilEnded deadline fuel t).1.Fits h c t.now deadline (untilEnded deadline fuel t).2 := by
  induction fuel generalizing t with
  | zero => omega
  | succ fuel ih =>
    rw [untilEnded]
    split
    · next hall => exact ⟨hs.valid, hall, .inl rfl⟩
    · next hall =>
      split
      · next hwake =>
        -- No task sleeps, so the one that has not ended never ends.
        refine timedOut_fits hs hlt.le hall fun i due hmem => ?_
        rw [nextWake?_eq_none_iff.1 hwake] at hmem
        cases hmem
      · next time hwake =>
        obtain ⟨⟨i, hi⟩, hdue⟩ := nextWake?_eq_some_iff.1 hwake
        split
        · next htime =>
          obtain ⟨x, hx, hlt', hnow, hpending, hcancelled⟩ := hs.wake hwake
          obtain rfl : x = some c := hcancelled.resolve_right nofun
          -- The rest of the waiting says what came first after this waking; only what it says of
          -- its own start has to be told again from ours.
          obtain ⟨hv, hfits⟩ := ih hx (by omega) (by omega)
          refine ⟨hv, ?_⟩
          cases houtcome : (untilEnded deadline fuel (t.moveTo time).settle).1 with
          | completed =>
            rw [houtcome, hnow] at hfits
            obtain ⟨hall, heq | ⟨hle, hlt'', hends⟩⟩ := hfits
            · -- Nothing has ended after this waking, so it was the last end.
              refine ⟨hall, .inr ⟨by omega, by omega, ?_⟩⟩
              rw [heq]
              exact hs.valid.ends_of_sleeper hi
            · exact ⟨hall, .inr ⟨by omega, hlt'', hends⟩⟩
          | timedOut =>
            rw [houtcome] at hfits
            exact hfits
        · next htime =>
          refine timedOut_fits hs hlt.le hall fun i due hmem => ?_
          have := hdue i due hmem
          omega

variable {s s' : Session} {signal signal' : Option Signal} {delay delay' : Nat}

/-- Waiting for the tasks of a shutdown. -/
theorem awaitEnds_fits {timeout : Nat} (hv : Valid h (some c) none t)
    (htimeout : timeout < Timer.longest) :
    Valid h (some c) none (awaitEnds timeout t).2 ∧
      (awaitEnds timeout t).1.Fits h c t.now (t.now + timeout) (awaitEnds timeout t).2 := by
  unfold awaitEnds
  dsimp only
  rw [Nat.min_eq_left htimeout.le]
  split
  · next hall => exact ⟨hv, hall, .inl rfl⟩
  · next hall =>
    split
    · next hzero =>
      -- The tasks have not made their moves yet, but none of them ends before now.
      obtain ⟨i, sp, phase, hsp, hp, hne⟩ := hv.exists_unended hall
      refine ⟨hv, by simp [hzero], sp, List.mem_of_getElem? hsp, fun time hends => ?_⟩
      simpa [hzero] using hv.now_le hsp hp hne hends
    · next hpos =>
      obtain ⟨x, hx, hwithin⟩ := hv.settle
      obtain rfl : x = some c := hwithin.cancelled.resolve_right nofun
      have hpending := hwithin.pending_le
      have hle := t.pending_le
      have hnow := hwithin.now_eq
      rw [← hnow]
      exact untilEnded_fits hx (by omega) (by omega)

/-! ## Steps -/

/-- A session whose shutdowns have this timeout and whose tasks follow the schedule. -/
structure Follows (h : History) (cancelled : Option Nat) (timeout : Nat) (s : Session) : Prop where
  settled : Settled h cancelled s.tasks
  timeout_eq : s.timeout = timeout

/-- What the outcome says still holds when the tasks have made their moves. -/
theorem fits_settle {outcome : Outcome} {start : Nat} (hv : Valid h (some c) none t)
    (hfits : outcome.Fits h c start deadline t) : outcome.Fits h c start deadline t.settle := by
  cases outcome with
  | completed =>
    rw [settle_of_queue (hv.queue_of_allEnded hfits.1)]
    exact hfits
  | timedOut =>
    obtain ⟨_, _, hwithin⟩ := hv.settle
    exact ⟨hwithin.now_eq.trans hfits.1, hfits.2⟩

/-- Letting every task make its moves completes a step. -/
theorem settle_follows {timeout : Nat} (hv : Valid h cancelled none s.tasks)
    (htimeout : s.timeout = timeout) :
    ∃ cancelled', Follows h cancelled' timeout s.settle ∧ ∀ c ∈ cancelled, cancelled' = some c := by
  obtain ⟨x, hx, hwithin⟩ := hv.settle
  refine ⟨x, ⟨hx, htimeout⟩, fun c hc => ?_⟩
  rcases hwithin.cancelled with rfl | ⟨rfl, _⟩
  · exact hc
  · cases hc

/-- Every shutdown ends at the trigger or later, as its outcome says, or it has no trigger. -/
theorem make_await {timeout : Nat} (signal : Option Signal) (delay : Nat)
    (hs : Follows h cancelled timeout s) (htimeout : timeout < Timer.longest) :
    match (h.record s.tasks.now (.await signal delay)).cancelledAt? with
    | none => s.make (.await signal delay) = none
    | some c => (∀ c' ∈ cancelled, c' = c) ∧ ∃ outcome s',
        s.make (.await signal delay) = some (some outcome, s') ∧
        Follows (h.record s.tasks.now (.await signal delay)) (some c) timeout s' ∧
        outcome.Fits (h.record s.tasks.now (.await signal delay)) c (max s.tasks.now c)
          (max s.tasks.now c + timeout) s'.tasks := by
  rcases htrigger : s.trigger signal delay with _ | triggered
  · -- Without a trigger, nothing in the history cancels.
    rw [trigger_eq_none hs.settled htrigger]
    simp [make, await, htrigger]
  · obtain ⟨c, hc, hv, hnow, htimeout', hkept⟩ := trigger_eq_some hs.settled htrigger
    have heq : triggered.timeout = timeout := htimeout'.trans hs.timeout_eq
    obtain ⟨hv', hfits⟩ := awaitEnds_fits hv htimeout
    have htasks : triggered.awaitTasks.2.tasks = (awaitEnds timeout triggered.tasks).2 := by
      rw [← heq]
      rfl
    rw [← htasks] at hv' hfits
    rw [hnow] at hfits
    rw [hc]
    -- The step ends when the tasks that are left have made their moves; this changes neither the
    -- outcome nor its instant (`fits_settle`).
    obtain ⟨x, hx, hkept'⟩ := settle_follows hv' heq
    obtain rfl := hkept' c rfl
    refine ⟨hkept, (awaitEnds timeout triggered.tasks).1, triggered.awaitTasks.2.settle, ?_, hx, ?_⟩
    · simp [make, await, htrigger, awaitTasks, heq]
    · exact fits_settle hv' hfits

/-- A cancellation by a step keeps the invariant. -/
theorem cancel_valid (hs : Settled h cancelled t) :
    ∃ cancelled', Valid (h.trigger t.now) cancelled' none t.cancel ∧
      ∀ c ∈ cancelled, cancelled' = some c := by
  cases cancelled with
  | some c =>
    rw [cancel_of_isCancelled hs.valid.isCancelled]
    exact ⟨some c, hs.valid.trigger (hs.valid.cancelled_le c rfl), fun _ hc => hc⟩
  | none =>
    refine ⟨some t.now, hs.valid.cancel rfl (fun time ht => ?_) ?_, nofun⟩
    · rcases List.mem_append.1 ht with ht | ht
      · obtain ⟨c, hc, _⟩ := hs.valid.triggers time ht
        cases hc
      · exact (List.mem_singleton.1 ht).ge
    · exact (History.cancellations_trigger t.now).2 (.inr rfl)

/-- Every step that has a result keeps the invariant. -/
theorem make_follows {timeout : Nat} {step : Step} {outcome : Option Outcome}
    (hs : Follows h cancelled timeout s) (htimeout : timeout < Timer.longest)
    (heq : s.make step = some (outcome, s')) :
    ∃ cancelled', Follows (h.record s.tasks.now step) cancelled' timeout s' ∧
      ∀ c ∈ cancelled, cancelled' = some c := by
  cases step with
  | spawn plan =>
    obtain ⟨_, rfl⟩ := Prod.mk.inj (Option.some.inj heq)
    exact settle_follows (hs.settled.valid.spawn plan) hs.timeout_eq
  | cancel =>
    obtain ⟨_, rfl⟩ := Prod.mk.inj (Option.some.inj heq)
    obtain ⟨x, hx, hkept⟩ := cancel_valid hs.settled
    obtain ⟨y, hy, hkept'⟩ := settle_follows (s := { s with tasks := s.tasks.cancel }) hx
      hs.timeout_eq
    exact ⟨y, hy, fun c hc => hkept' c (hkept c hc)⟩
  | advance ms =>
    obtain ⟨_, rfl⟩ := Prod.mk.inj (Option.some.inj heq)
    obtain ⟨x, hx, _, hkept⟩ := hs.settled.pass ms
    obtain ⟨y, hy, hkept'⟩ := settle_follows (s := { s with tasks := s.tasks.pass ms }) hx.valid
      hs.timeout_eq
    exact ⟨y, hy, fun c hc => hkept' c (hkept c hc)⟩
  | await signal delay =>
    have hawait := make_await signal delay hs htimeout
    split at hawait
    · rw [hawait] at heq
      cases heq
    · next c _ =>
      obtain ⟨hkept, _, _, hmake, hfollows, _⟩ := hawait
      rw [hmake] at heq
      obtain ⟨_, rfl⟩ := Prod.mk.inj (Option.some.inj heq)
      exact ⟨some c, hfollows, fun c' hc' => congrArg some (hkept c' hc').symm⟩

/-- The tasks follow the schedule of their history after any steps. -/
theorem run_follows {timeout : Nat} {steps : List Step} (hs : Follows h cancelled timeout s)
    (htimeout : timeout < Timer.longest) (heq : s.run steps = some s') :
    ∃ cancelled', Follows (s.history h steps) cancelled' timeout s' ∧
      ∀ c ∈ cancelled, cancelled' = some c := by
  induction steps generalizing h cancelled s with
  | nil =>
    obtain rfl := Option.some.inj heq
    exact ⟨cancelled, hs, fun _ hc => hc⟩
  | cons step rest ih =>
    obtain ⟨⟨outcome, after⟩, hmake, hrest⟩ := Option.bind_eq_some_iff.1 heq
    obtain ⟨x, hx, hkept⟩ := make_follows hs htimeout hmake
    obtain ⟨y, hy, hkept'⟩ := ih hx hrest
    refine ⟨y, ?_, fun c hc => hkept' c (hkept c hc)⟩
    simpa only [history, hmake] using hy

/-- Nothing has happened yet. -/
theorem fresh_follows (timeout : Nat) : Follows ⟨[], []⟩ none timeout (fresh timeout) := by
  refine ⟨⟨?_, rfl⟩, rfl⟩
  constructor <;> simp [fresh, Tasks.empty, Tasks.phase?]

/-! ## Every shutdown -/

/-- What a shutdown does that starts in a session with this history, which includes its own signal,
and whose first trigger comes at `c`. -/
structure Awaited (h : History) (c : Nat) (s : Session) (outcome : Outcome) (s' : Session) :
    Prop where
  /-- It completes if every task ends before the timeout is over. -/
  completes : (∀ sp ∈ h.spawned, ∃ time, sp.endsAt (some c) = some time ∧
    time < max s.tasks.now c + s.timeout) → outcome = .completed
  /-- It times out if some task ends after that or never. -/
  timesOut : (∃ sp ∈ h.spawned, ∀ time, sp.endsAt (some c) = some time →
    max s.tasks.now c + s.timeout < time) → outcome = .timedOut
  /-- It completes with the last end of a task, but not before its trigger. -/
  completed_at : outcome = .completed → (max s.tasks.now c :: h.ends).max? = some s'.tasks.now
  /-- It never completes while a task has not ended. -/
  completed_allEnded : outcome = .completed → s'.tasks.allEnded = true
  timedOut_at : outcome = .timedOut → s'.tasks.now = max s.tasks.now c + s.timeout
  /-- Afterwards the cancellation has happened, whatever follows. -/
  isCancelled : ∀ later s'', s'.run later = some s'' → s''.tasks.isCancelled = true

theorem awaited {timeout : Nat} {outcome : Outcome} (hc : h.cancelledAt? = some c)
    (hs' : Follows h (some c) timeout s') (heq : s.timeout = timeout)
    (htimeout : timeout < Timer.longest)
    (hfits : outcome.Fits h c (max s.tasks.now c) (max s.tasks.now c + timeout) s'.tasks) :
    Awaited h c s outcome s' := by
  subst heq
  constructor
  case completes =>
    -- Had it timed out, some task would not end before the deadline.
    intro hall
    cases outcome with
    | completed => rfl
    | timedOut =>
      obtain ⟨_, sp, hsp, hle⟩ := hfits
      obtain ⟨time, hends, hlt⟩ := hall sp hsp
      exact absurd (hle time hends) (by omega)
  case timesOut =>
    -- Had it completed, the late task would have ended by then.
    rintro ⟨sp, hsp, hlate⟩
    cases outcome with
    | completed =>
      obtain ⟨time, hends, hle⟩ := hs'.settled.valid.ends_le hfits.1 hsp
      have := hlate time hends
      obtain ⟨_, hnow | ⟨_, hlt, _⟩⟩ := hfits <;> omega
    | timedOut => rfl
  case completed_at =>
    -- The instant is the start or an end of a task, and no end is later, as all are over.
    rintro rfl
    obtain ⟨hall, hnow⟩ := hfits
    refine List.max?_eq_some_iff.2 ⟨?_, fun time ht => ?_⟩
    · rcases hnow with hnow | ⟨_, _, sp, hsp, hends⟩
      · exact hnow ▸ List.mem_cons_self
      · refine List.mem_cons_of_mem _ (List.mem_filterMap.2 ⟨sp, hsp, ?_⟩)
        rwa [hc]
    · rcases List.mem_cons.1 ht with rfl | ht
      · rcases hnow with hnow | ⟨hle, _⟩ <;> omega
      · obtain ⟨sp, hsp, hends⟩ := List.mem_filterMap.1 ht
        rw [hc] at hends
        obtain ⟨time', hends', hle⟩ := hs'.settled.valid.ends_le hall hsp
        obtain rfl := Option.some.inj (hends.symm.trans hends')
        exact hle
  case completed_allEnded =>
    rintro rfl
    exact hfits.1
  case timedOut_at =>
    rintro rfl
    exact hfits.1
  case isCancelled =>
    intro later s'' hlater
    obtain ⟨x, hx, hkept⟩ := run_follows hs' htimeout hlater
    rw [hx.settled.valid.isCancelled, hkept c rfl]
    rfl

/-- A signal ends a shutdown in time if every task ends as soon as the cancellation has happened. -/
theorem completes_of_prompt {timeout : Nat} {steps : List Step} (hpos : 0 < timeout)
    (htimeout : timeout < Timer.longest) (hrun : (fresh timeout).run steps = some s)
    (hprompt : ∀ sp ∈ ((fresh timeout).history ⟨[], []⟩ steps).spawned,
      sp.plan.awaitsCancel = true ∧ sp.plan.sleep = some 0)
    (signal : Signal) (delay : Nat) :
    ∃ triggered, s.trigger (some signal) delay = some triggered ∧
      triggered.awaitTasks.1 = .completed := by
  obtain ⟨x, hx, _⟩ := run_follows (fresh_follows timeout) htimeout hrun
  have hawait := make_await (some signal) delay hx htimeout
  split at hawait
  · next hnone =>
    -- The signal cancels, if nothing else does.
    have hsignal : s.tasks.now + delay ∈ (((fresh timeout).history ⟨[], []⟩ steps).record
        s.tasks.now (.await (some signal) delay)).cancellations :=
      History.mem_record_cancellations.2 (.inr rfl)
    rw [List.min?_eq_none_iff.1 hnone] at hsignal
    cases hsignal
  · next c hc =>
    obtain ⟨_, outcome, s', hmake, hs', hfits⟩ := hawait
    have hcompleted : outcome = .completed := by
      refine (awaited hc hs' hx.timeout_eq htimeout hfits).completes fun sp hsp => ?_
      rw [History.record_spawned] at hsp
      obtain ⟨hawaits, hsleep⟩ := hprompt sp hsp
      obtain ⟨i, phase, hi, hp⟩ := hx.settled.valid.exists_phase hsp
      have hborn := (hx.settled.valid.follows i sp phase hi hp).born_le
      refine ⟨max sp.born c, by simp [Spawned.endsAt, Spawned.startsAt, hawaits, hsleep], ?_⟩
      rw [hx.timeout_eq]
      omega
    cases htrigger : s.trigger (some signal) delay with
    | none => simp [make, await, htrigger] at hmake
    | some triggered =>
      refine ⟨triggered, rfl, ?_⟩
      simp only [make, await, htrigger, Option.map_some, Option.some.injEq, Prod.mk.injEq] at hmake
      exact hmake.1.trans hcompleted

/-- The outcome of a shutdown and the tasks afterwards do not depend on which trigger it was. -/
theorem make_await_congr (hs : Settled h cancelled s.tasks)
    (hc : (h.record s.tasks.now (.await signal delay)).cancelledAt? = some c)
    (hc' : (h.record s.tasks.now (.await signal' delay')).cancelledAt? = some c) :
    (s.make (.await signal delay)).map (fun r => (r.1, r.2.tasks)) =
      (s.make (.await signal' delay')).map fun r => (r.1, r.2.tasks) := by
  have htasks := trigger_tasks_congr hs hc hc'
  have hmake : ∀ signal delay, (s.make (.await signal delay)).map (fun r => (r.1, r.2.tasks)) =
      ((s.trigger signal delay).map (·.tasks)).map fun t =>
        (some (awaitEnds s.timeout t).1, (awaitEnds s.timeout t).2.settle) := by
    intro signal delay
    rcases htrigger : s.trigger signal delay with _ | triggered
    · simp [make, await, htrigger]
    · obtain ⟨_, _, _, _, htimeout, _⟩ := trigger_eq_some hs htrigger
      simp [make, await, htrigger, awaitTasks, settle, log, htimeout]
  rw [hmake, hmake, htasks]

/-- In every session, a shutdown goes on only with a trigger: its signal, a cancellation by a step,
or one by a task. It then ends as the schedule of the tasks says, and which trigger it was does not
matter. -/
theorem await_outcome {timeout : Nat} {steps : List Step} (htimeout : timeout < Timer.longest)
    (hrun : (fresh timeout).run steps = some s) (signal : Option Signal) (delay : Nat) :
    let before := (fresh timeout).history ⟨[], []⟩ steps
    let h := before.record s.tasks.now (.await signal delay)
    s.tasks.tasks.map (·.plan) = before.spawned.map (·.plan) ∧
    (h.cancelledAt? = none → s.make (.await signal delay) = none) ∧
    ∀ c, h.cancelledAt? = some c →
      max s.tasks.now c = (if s.tasks.isCancelled then s.tasks.now else c) ∧
      ∃ outcome s', s.make (.await signal delay) = some (some outcome, s') ∧
        Awaited h c s outcome s' ∧
        ∀ signal' delay',
          (before.record s.tasks.now (.await signal' delay')).cancelledAt? = some c →
          ∃ s'', s.make (.await signal' delay') = some (some outcome, s'') ∧
            s''.tasks = s'.tasks := by
  obtain ⟨x, hx, _⟩ := run_follows (fresh_follows timeout) htimeout hrun
  have hawait := make_await signal delay hx htimeout
  refine ⟨hx.settled.valid.plans, fun hnone => ?_, fun c hc => ?_⟩
  · rw [hnone] at hawait
    exact hawait
  · rw [hc] at hawait
    obtain ⟨hkept, outcome, s', hmake, hs', hfits⟩ := hawait
    refine ⟨?_, outcome, s', hmake,
      awaited hc hs' hx.timeout_eq htimeout hfits, fun signal' delay' hc' => ?_⟩
    · rw [hx.settled.valid.isCancelled]
      cases x with
      | some c' =>
        -- The cancellation is over, so that the shutdown starts at its own start.
        obtain rfl := hkept c' rfl
        exact Nat.max_eq_left (hx.settled.valid.cancelled_le c' rfl)
      | none => exact Nat.max_eq_right (hx.settled.now_le_trigger hc)
    · have hcongr := make_await_congr hx.settled hc hc'
      rw [hmake, Option.map_some] at hcongr
      obtain ⟨⟨_, s''⟩, hmake', heq⟩ := Option.map_eq_some_iff.1 hcongr.symm
      obtain ⟨rfl, htasks⟩ := Prod.mk.inj heq
      exact ⟨s'', hmake', htasks⟩

/-- A signal, a task that waits for it, and a task that ends later. -/
theorem await_outcome_signal :
    let steps : List Step := [.spawn ⟨"flush", false, some 30, false⟩,
      .spawn ⟨"drain", true, some 5, true⟩, .advance 10]
    100 < Timer.longest ∧ ∃ s, (fresh 100).run steps = some s ∧
      ∃ s', s.make (.await (some .terminate) 7) = some (some .completed, s') ∧
        s'.tasks.now = 30 := by
  have htimeout : 100 < Timer.longest := by decide
  have hrun : (fresh 100).run [.spawn ⟨"flush", false, some 30, false⟩,
      .spawn ⟨"drain", true, some 5, true⟩, .advance 10] = some
    ⟨100, ⟨10, false, [⟨⟨"flush", false, some 30, false⟩, .asleep 30⟩,
      ⟨⟨"drain", true, some 5, true⟩, .waiting⟩], [], [1], [(0, 30)], []⟩, []⟩ := rfl
  refine ⟨htimeout, _, hrun, ?_⟩
  obtain ⟨_, _, hevery⟩ := await_outcome htimeout hrun (some .terminate) 7
  obtain ⟨_, outcome, s', hmake, hawaited, _⟩ := hevery 17 (by decide)
  have hends : ∀ sp ∈ [Spawned.mk ⟨"flush", false, some 30, false⟩ 0,
      ⟨⟨"drain", true, some 5, true⟩, 0⟩],
      ∃ time, sp.endsAt (some 17) = some time ∧ time < 117 := by
    simp [Spawned.endsAt, Spawned.startsAt, Timer.longest]
  obtain rfl := hawaited.completes hends
  exact ⟨s', hmake, (Option.some.inj (hawaited.completed_at rfl)).symm⟩

end Session

end FaultyServer.Shutdown
