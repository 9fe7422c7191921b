import FaultyServer.Proofs.Shutdown.Clock

/-!
# The trigger of a shutdown

A shutdown goes on at the first instant at which its signal comes or the token is cancelled, and at
once if it is cancelled already (`Session.trigger_eq_some`); without such an instant it never does
(`Session.trigger_eq_none`). Only that instant matters, and not what brought it about
(`Session.trigger_tasks_congr`).
-/

namespace FaultyServer.Shutdown

/-- The instant at which the signal of a shutdown comes that starts now. -/
def signalAt (signal : Option Signal) (delay now : Nat) : Option Nat :=
  signal.map fun _ => now + delay

namespace History

variable {h : History} {time c now delay : Nat} {signal : Option Signal}

theorem record_spawned (h : History) (now : Nat) (signal : Option Signal) (delay : Nat) :
    (h.record now (.await signal delay)).spawned = h.spawned := by
  cases signal <;> rfl

theorem mem_record_cancellations : time ∈ (h.record now (.await signal delay)).cancellations ↔
    time ∈ h.cancellations ∨ signalAt signal delay now = some time := by
  cases signal with
  | none => simp [record, signalAt]
  | some signal => simp [record, signalAt, cancellations_trigger, eq_comm]

/-- A shutdown is triggered by a cancellation or by its signal. -/
theorem cancelledAt?_record
    (hc : (h.record now (.await signal delay)).cancelledAt? = some c) :
    (h.cancelledAt? = some c ∧ ∀ time ∈ signalAt signal delay now, c ≤ time) ∨
      signalAt signal delay now = some c := by
  obtain ⟨hmem, hmin⟩ := cancelledAt?_eq_some_iff.1 hc
  rcases mem_record_cancellations.1 hmem with hmem | hsignal
  · refine .inl ⟨cancelledAt?_eq_some_iff.2 ⟨hmem, fun time ht => ?_⟩, fun time ht => ?_⟩
    · exact hmin time (mem_record_cancellations.2 (.inl ht))
    · exact hmin time (mem_record_cancellations.2 (.inr ht))
  · exact .inr hsignal

end History

namespace Tasks

variable {h : History} {active : Option Nat} {t : Tasks} {c : Nat}

/-- A trigger that does not come before the cancellation changes nothing. -/
theorem Valid.trigger {time : Nat} (hv : Valid h (some c) active t) (hle : c ≤ time) :
    Valid (h.trigger time) (some c) active t := by
  refine { hv with plans := hv.plans, follows := hv.follows, origin := fun d hd => ?_,
                   triggers := fun d hd => ?_ }
  · exact (History.cancellations_trigger time).2 (.inl (hv.origin d hd))
  · rcases List.mem_append.1 hd with hd | hd
    · exact hv.triggers d hd
    · obtain rfl := List.mem_singleton.1 hd
      exact ⟨c, rfl, hle⟩

theorem Valid.record {signal : Option Signal} {delay now : Nat} (hv : Valid h (some c) active t)
    (hle : ∀ time ∈ signalAt signal delay now, c ≤ time) :
    Valid (h.record now (.await signal delay)) (some c) active t := by
  cases signal with
  | none => exact hv
  | some signal => exact hv.trigger (hle _ rfl)

/-- A signal that comes before the cancellation is the trigger: anything else that cancels is a task
that still sleeps. -/
theorem Settled.cancelledAt?_record {signal : Option Signal} {delay now : Nat}
    (hs : Settled h none t) (hsignal : signalAt signal delay now = some t.now) :
    (h.record now (.await signal delay)).cancelledAt? = some t.now := by
  refine History.cancelledAt?_eq_some_iff.2
    ⟨History.mem_record_cancellations.2 (.inr hsignal), fun time ht => ?_⟩
  rcases History.mem_record_cancellations.1 ht with ht | ht
  · obtain ⟨_, _, hlt⟩ := hs.exists_sleeper ht
    exact hlt.le
  · rw [hsignal, Option.some.injEq] at ht
    exact ht.le

/-- Before the cancellation, no trigger of a shutdown that starts now is over. -/
theorem Settled.now_le_trigger {signal : Option Signal} {delay : Nat} (hs : Settled h none t)
    (hc : (h.record t.now (.await signal delay)).cancelledAt? = some c) : t.now ≤ c := by
  rcases History.mem_record_cancellations.1 (History.cancelledAt?_eq_some_iff.1 hc).1 with hc | hc
  · obtain ⟨_, _, hlt⟩ := hs.exists_sleeper hc
    exact hlt.le
  · obtain ⟨_, _, rfl⟩ := Option.map_eq_some_iff.1 hc
    exact Nat.le_add_right _ _

end Tasks

open Tasks

namespace Session

variable {h : History} {cancelled : Option Nat} {t t' : Tasks} {stop : Option Nat} {fuel c : Nat}

/-! ## Waiting for the cancellation -/

theorem untilCancelled_of_some (hs : Settled h (some c) t) :
    untilCancelled stop (fuel + 1) t = some t := by
  have hc : t.isCancelled = true := hs.valid.isCancelled
  rw [untilCancelled, if_pos hc]

/-- The next waking, if it is not after the given instant. -/
def nextBefore? (t : Tasks) (stop : Option Nat) : Option Nat :=
  t.nextWake?.filter fun time => stop.all (time ≤ ·)

theorem untilCancelled_of_none (hs : Settled h none t) :
    untilCancelled stop (fuel + 1) t =
      match nextBefore? t stop with
      | none => stop.map t.moveTo
      | some time => untilCancelled stop fuel (t.moveTo time).settle := by
  have hc : t.isCancelled = false := hs.valid.isCancelled
  rw [untilCancelled, if_neg (by simp [hc])]
  rfl

theorem nextBefore?_eq_some {time : Nat} (hnext : nextBefore? t stop = some time) :
    t.nextWake? = some time ∧ ∀ last ∈ stop, time ≤ last := by
  obtain ⟨hwake, hle⟩ := Option.filter_eq_some_iff.1 hnext
  refine ⟨hwake, fun last hlast => ?_⟩
  obtain rfl : stop = some last := hlast
  simpa using hle

theorem nextBefore?_eq_none {last i due : Nat} (hnext : nextBefore? t (some last) = none)
    (hmem : (i, due) ∈ t.sleepers) : last < due := by
  rcases hwake : t.nextWake? with _ | time
  · rw [nextWake?_eq_none_iff.1 hwake] at hmem
    cases hmem
  · have hle := (nextWake?_eq_some_iff.1 hwake).2 i due hmem
    have hlt := Option.filter_eq_none_iff.1 hnext time hwake
    simp only [Option.all_some, decide_eq_true_eq] at hlt
    omega

/-- Waiting for the cancellation keeps the invariant; it ends at the cancellation or, if that does
not come before, at the given instant. -/
theorem untilCancelled_eq_some (hs : Settled h cancelled t) (hstop : ∀ time ∈ stop, t.now ≤ time)
    (heq : untilCancelled stop fuel t = some t') :
    ∃ cancelled', Settled h cancelled' t' ∧ (∀ time ∈ stop, t'.now ≤ time) ∧
      (cancelled' = none → stop = some t'.now) ∧ (∀ c ∈ cancelled', t'.now = max t.now c) ∧
      ∀ c ∈ cancelled, cancelled' = some c := by
  induction fuel generalizing cancelled t with
  | zero => cases heq
  | succ fuel ih =>
    cases cancelled with
    | some c =>
      rw [untilCancelled_of_some hs] at heq
      obtain rfl := Option.some.inj heq
      refine ⟨some c, hs, hstop, nofun, ?_, fun _ hc => hc⟩
      rintro _ ⟨⟩
      exact (Nat.max_eq_left (hs.valid.cancelled_le c rfl)).symm
    | none =>
      rw [untilCancelled_of_none hs] at heq
      split at heq
      · next hnext =>
        -- No task wakes up to the instant given, so the waiting ends there.
        obtain ⟨last, rfl, rfl⟩ := Option.map_eq_some_iff.1 heq
        have hle := hstop last rfl
        have hnow : (t.moveTo last).now = last := by
          rw [moveTo_now, Nat.max_eq_right hle]
        have hi := hs.idle hle fun i due => nextBefore?_eq_none hnext
        refine ⟨none, hi, ?_, fun _ => by rw [hnow], nofun, nofun⟩
        rintro _ ⟨⟩
        exact hnow.le
      · next time hnext =>
        obtain ⟨hwake, hle⟩ := nextBefore?_eq_some hnext
        obtain ⟨x, hx, hlt, hnow, _⟩ := hs.wake hwake
        obtain ⟨y, hy, hlast, hnone, hsome, _⟩ := ih hx (by rwa [hnow]) heq
        refine ⟨y, hy, hlast, hnone, fun c hc => ?_, nofun⟩
        -- The cancellation has not happened yet, so it is not before the waking.
        obtain ⟨i, hmem, _⟩ := hs.exists_sleeper (hy.valid.origin c hc)
        have := (nextWake?_eq_some_iff.1 hwake).2 i c hmem
        rw [hsome c hc, hnow]
        omega

/-- Waiting for the cancellation has no end only without any cancellation. -/
theorem untilCancelled_eq_none (hs : Settled h cancelled t) (hfuel : t.pending < fuel)
    (heq : untilCancelled stop fuel t = none) : stop = none ∧ h.cancellations = [] := by
  induction fuel generalizing cancelled t with
  | zero => omega
  | succ fuel ih =>
    cases cancelled with
    | some c =>
      rw [untilCancelled_of_some hs] at heq
      cases heq
    | none =>
      rw [untilCancelled_of_none hs] at heq
      split at heq
      · next hnext =>
        obtain rfl := Option.map_eq_none_iff.1 heq
        refine ⟨rfl, List.eq_nil_iff_forall_not_mem.2 fun time ht => ?_⟩
        -- Whatever cancels later would be a task that sleeps, but none does.
        obtain ⟨i, hmem, _⟩ := hs.exists_sleeper ht
        have hwake : t.nextWake? = none :=
          Option.eq_none_iff_forall_ne_some.2 (by simpa [nextBefore?] using hnext)
        rw [nextWake?_eq_none_iff.1 hwake] at hmem
        cases hmem
      · next time hnext =>
        obtain ⟨hwake, _⟩ := nextBefore?_eq_some hnext
        obtain ⟨x, hx, _, _, hpending, _⟩ := hs.wake hwake
        exact ih hx (by omega) heq

/-- An instant after the cancellation does not matter. -/
theorem untilCancelled_stop (hs : Settled h cancelled t) (hc : h.cancelledAt? = some c)
    (hle : ∀ time ∈ stop, c ≤ time) : untilCancelled stop fuel t = untilCancelled none fuel t := by
  induction fuel generalizing cancelled t with
  | zero => rfl
  | succ fuel ih =>
    cases cancelled with
    | some c => rw [untilCancelled_of_some hs, untilCancelled_of_some hs]
    | none =>
      obtain ⟨i, hmem, _⟩ := hs.exists_sleeper (History.cancelledAt?_eq_some_iff.1 hc).1
      rcases hwake : t.nextWake? with _ | time
      · rw [nextWake?_eq_none_iff.1 hwake] at hmem
        cases hmem
      · have hbefore := (nextWake?_eq_some_iff.1 hwake).2 i c hmem
        have hnext : ∀ stop : Option Nat, (∀ last ∈ stop, c ≤ last) →
            nextBefore? t stop = some time := by
          intro stop hle
          refine Option.filter_eq_some_iff.2 ⟨hwake, ?_⟩
          cases stop with
          | none => rfl
          | some last => simpa using hbefore.trans (hle last rfl)
        obtain ⟨x, hx, _⟩ := hs.wake hwake
        rw [untilCancelled_of_none hs, untilCancelled_of_none hs, hnext stop hle,
          hnext none nofun]
        exact ih hx

/-! ## The trigger -/

variable {s s' : Session} {signal signal' : Option Signal} {delay delay' : Nat}

theorem trigger_eq (s : Session) (signal : Option Signal) (delay : Nat) :
    s.trigger signal delay =
      (untilCancelled (signalAt signal delay s.tasks.now) (s.tasks.tasks.length + 1)
        s.tasks).bind fun tasks =>
        if tasks.isCancelled then some ({ s with tasks := tasks }.log .cancelled)
        else signal.map fun signal =>
          { s with tasks := tasks.cancel }.log (.signalled signal) := rfl

theorem signalAt_ge : ∀ time ∈ signalAt signal delay s.tasks.now, s.tasks.now ≤ time := by
  intro time ht
  obtain ⟨_, _, rfl⟩ := Option.map_eq_some_iff.1 ht
  exact Nat.le_add_right _ _

/-- A shutdown goes on at the first instant at which something cancels or its signal comes, and the
cancellation has happened then. -/
theorem trigger_eq_some (hs : Settled h cancelled s.tasks)
    (heq : s.trigger signal delay = some s') :
    ∃ c, (h.record s.tasks.now (.await signal delay)).cancelledAt? = some c ∧
      Valid (h.record s.tasks.now (.await signal delay)) (some c) none s'.tasks ∧
      s'.tasks.now = max s.tasks.now c ∧ s'.timeout = s.timeout ∧ ∀ c' ∈ cancelled, c' = c := by
  rw [trigger_eq] at heq
  obtain ⟨t, ht, heq⟩ := Option.bind_eq_some_iff.1 heq
  obtain ⟨x, hx, hlast, hnone, hsome, hkept⟩ := untilCancelled_eq_some hs signalAt_ge ht
  have hisCancelled := hx.valid.isCancelled
  cases x with
  | some c =>
    rw [Option.isSome_some] at hisCancelled
    rw [if_pos hisCancelled] at heq
    obtain rfl := Option.some.inj heq
    have hle : c ≤ t.now := hx.valid.cancelled_le c rfl
    have hsettled : Settled (h.record s.tasks.now (.await signal delay)) (some c) t :=
      ⟨hx.valid.record fun time htime => hle.trans (hlast time htime), hx.queue⟩
    refine ⟨c, hsettled.cancelledAt?, hsettled.valid, hsome c rfl, rfl, fun c' hc' => ?_⟩
    exact Option.some.inj (hkept c' hc').symm
  | none =>
    rw [Option.isSome_none] at hisCancelled
    rw [if_neg (by simp [hisCancelled])] at heq
    obtain ⟨signal, rfl, rfl⟩ := Option.map_eq_some_iff.1 heq
    have hsignal := hnone rfl
    have hge : s.tasks.now ≤ t.now := signalAt_ge _ hsignal
    have hfirst := hx.cancelledAt?_record hsignal
    obtain ⟨hmem, hmin⟩ := History.cancelledAt?_eq_some_iff.1 hfirst
    have htriggers : ∀ time ∈ (h.record s.tasks.now (.await (some signal) delay)).triggers,
        t.now ≤ time := fun time ht => hmin time (History.mem_cancellations.2 (.inl ht))
    have hnow : t.cancel.now = t.now := by
      rw [cancel_of_not_isCancelled hisCancelled]
    refine ⟨t.now, hfirst,
      hx.valid.cancel (h.record_spawned _ _ _) htriggers hmem, ?_, rfl, fun c' hc' => ?_⟩
    · exact hnow.trans (Nat.max_eq_right hge).symm
    · cases hkept c' hc'

/-- Only without any cancellation and without a signal, a shutdown does not go on. -/
theorem trigger_eq_none (hs : Settled h cancelled s.tasks)
    (heq : s.trigger signal delay = none) :
    (h.record s.tasks.now (.await signal delay)).cancelledAt? = none := by
  rw [trigger_eq] at heq
  rcases ht : untilCancelled (signalAt signal delay s.tasks.now) (s.tasks.tasks.length + 1)
    s.tasks with _ | t
  · obtain ⟨hstop, hnil⟩ := untilCancelled_eq_none hs (Nat.lt_succ_of_le s.tasks.pending_le) ht
    obtain rfl := Option.map_eq_none_iff.1 hstop
    simp [History.record, History.cancelledAt?, hnil]
  · obtain ⟨x, hx, _, hnone, _⟩ := untilCancelled_eq_some hs signalAt_ge ht
    rw [ht, Option.bind_some] at heq
    split at heq
    · cases heq
    · next hc =>
      obtain rfl : x = none := by simpa [hx.valid.isCancelled] using hc
      obtain rfl := Option.map_eq_none_iff.1 heq
      cases hnone rfl

/-- What a shutdown finds at its trigger does not depend on which trigger it was. -/
theorem trigger_tasks_congr (hs : Settled h cancelled s.tasks)
    (hc : (h.record s.tasks.now (.await signal delay)).cancelledAt? = some c)
    (hc' : (h.record s.tasks.now (.await signal' delay')).cancelledAt? = some c) :
    (s.trigger signal delay).map (·.tasks) = (s.trigger signal' delay').map (·.tasks) := by
  by_cases hfirst : h.cancelledAt? = some c
  · -- Both wait for the same cancellation.
    have hle : ∀ {signal delay},
        (h.record s.tasks.now (.await signal delay)).cancelledAt? = some c →
        ∀ time ∈ signalAt signal delay s.tasks.now, c ≤ time := by
      intro signal delay hc time ht
      exact (History.cancelledAt?_eq_some_iff.1 hc).2 time
        (History.mem_record_cancellations.2 (.inr ht))
    rw [trigger_eq, trigger_eq, untilCancelled_stop hs hfirst (hle hc),
      untilCancelled_stop hs hfirst (hle hc')]
    rcases ht : untilCancelled none (s.tasks.tasks.length + 1) s.tasks with _ | t
    · rfl
    · obtain ⟨x, hx, _, hnone, _⟩ := untilCancelled_eq_some hs (by simp) ht
      have hcancelled : t.isCancelled = true := by
        rw [hx.valid.isCancelled]
        cases x with
        | none => cases hnone rfl
        | some c => rfl
      simp only [Option.bind_some, if_pos hcancelled]
  · -- Both wait for signals that come at the same instant.
    have hsignal : signalAt signal delay s.tasks.now = some c :=
      (History.cancelledAt?_record hc).resolve_left fun h => hfirst h.1
    have hsignal' : signalAt signal' delay' s.tasks.now = some c :=
      (History.cancelledAt?_record hc').resolve_left fun h => hfirst h.1
    rw [trigger_eq, trigger_eq, hsignal, hsignal']
    obtain ⟨signal, rfl, _⟩ := Option.map_eq_some_iff.1 hsignal
    obtain ⟨signal', rfl, _⟩ := Option.map_eq_some_iff.1 hsignal'
    rcases untilCancelled (some c) (s.tasks.tasks.length + 1) s.tasks with _ | t
    · rfl
    · simp only [Option.bind_some]
      split <;> rfl

end Session

end FaultyServer.Shutdown
