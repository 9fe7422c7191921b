import FaultyServer.Proofs.Shutdown.Settle

/-!
# Time passes

Time passes from waking to waking, and no task is slept past: `nextWake?` is never later than the
end of a sleep. Each waking uses up one of the tasks that may be woken (`Tasks.pending`), so that
the fuel of `passWith` suffices.

* `Settled.moveTo`: moving the clock to an instant before the end of any sleep, or to it, keeps the
  invariant;
* `Settled.wake`: the next waking and what the tasks do then;
* `Settled.pass`: so does letting any time pass.
-/

namespace FaultyServer.Shutdown

namespace Tasks

variable {h : History} {cancelled : Option Nat} {t : Tasks} {time : Nat}

/-! ## The schedule so far -/

/-- A settled task rests in a phase in which it is not in the queue. -/
theorem Settled.not_isRunnable (hs : Settled h cancelled t) {i : Nat} {phase : Phase}
    (hp : t.phase? i = some phase) : phase.isRunnable = false := by
  have := hs.valid.queue i
  simpa [hs.queue, hp] using this

/-- Every task that has been spawned has come to some phase. -/
theorem Valid.exists_phase {active : Option Nat} (hv : Valid h cancelled active t) {sp : Spawned}
    (hsp : sp ∈ h.spawned) :
    ∃ i phase, h.spawned[i]? = some sp ∧ t.phase? i = some phase := by
  obtain ⟨i, hi, rfl⟩ := List.mem_iff_getElem.1 hsp
  have hlt : i < t.tasks.length := hv.length_eq ▸ hi
  exact ⟨i, t.tasks[i].phase, List.getElem?_eq_getElem hi, by simp [phase?, hlt]⟩

/-- A task that has not ended does not end before now. -/
theorem Valid.now_le {active : Option Nat} (hv : Valid h cancelled active t) {i : Nat}
    {sp : Spawned} {phase : Phase} (hsp : h.spawned[i]? = some sp) (hp : t.phase? i = some phase)
    (hne : phase ≠ .ended) (hends : sp.endsAt cancelled = some time) : t.now ≤ time := by
  have hf := hv.follows i sp phase hsp hp
  cases phase with
  | ready => exact hf.fits ▸ sp.born_le hends
  | waiting =>
    obtain ⟨ha, rfl⟩ := hf.fits
    simp [Spawned.endsAt, Spawned.startsAt, ha] at hends
  | resumed =>
    obtain ⟨ha, rfl⟩ := hf.fits
    exact sp.cancelled_le ha hends
  | asleep due =>
    obtain rfl := Option.some.inj (hf.fits.1.symm.trans hends)
    exact hf.fits.2.le
  | woken => exact (Option.some.inj (hf.fits.symm.trans hends)).le
  | stuck =>
    obtain ⟨_, _, _, hsleep, _⟩ := Spawned.endsAt_eq_some_iff.1 hends
    cases hf.fits.symm.trans hsleep
  | ended => exact absurd rfl hne

/-- A settled task that has not ended is asleep, if it ever ends. -/
theorem Settled.asleep (hs : Settled h cancelled t) {i : Nat} {sp : Spawned} {phase : Phase}
    (hsp : h.spawned[i]? = some sp) (hp : t.phase? i = some phase) (hne : phase ≠ .ended)
    (hends : sp.endsAt cancelled = some time) : (i, time) ∈ t.sleepers ∧ t.now < time := by
  have hf := hs.valid.follows i sp phase hsp hp
  have hr := hs.not_isRunnable hp
  cases phase with
  | ready | resumed | woken => cases hr
  | waiting =>
    obtain ⟨ha, rfl⟩ := hf.fits
    simp [Spawned.endsAt, Spawned.startsAt, ha] at hends
  | asleep due =>
    obtain rfl := Option.some.inj (hf.fits.1.symm.trans hends)
    exact ⟨(hs.valid.sleepers i due).2 hp, hf.fits.2⟩
  | stuck =>
    obtain ⟨_, _, _, hsleep, _⟩ := Spawned.endsAt_eq_some_iff.1 hends
    cases hf.fits.symm.trans hsleep
  | ended => exact absurd rfl hne

/-- Before the cancellation, only a sleeping task can bring it about. -/
theorem Settled.exists_sleeper (hs : Settled h none t) (ht : time ∈ h.cancellations) :
    ∃ i, (i, time) ∈ t.sleepers ∧ t.now < time := by
  rcases History.mem_cancellations.1 ht with htrigger | ⟨sp, hmem, hcancels, hends⟩
  · obtain ⟨c, hc, _⟩ := hs.valid.triggers time htrigger
    cases hc
  · obtain ⟨i, phase, hsp, hp⟩ := hs.valid.exists_phase hmem
    refine ⟨i, hs.asleep hsp hp ?_ hends⟩
    -- Had it ended, it would have cancelled.
    rintro rfl
    obtain ⟨c, hc, _⟩ := (hs.valid.follows i sp _ hsp hp).cancels rfl hcancels
    cases hc

/-- The cancellation has happened when the schedule says. -/
theorem Settled.cancelledAt? {c : Nat} (hs : Settled h (some c) t) : h.cancelledAt? = some c := by
  refine History.cancelledAt?_eq_some_iff.2 ⟨hs.valid.origin c rfl, fun time ht => ?_⟩
  rcases History.mem_cancellations.1 ht with htrigger | ⟨sp, hmem, hcancels, hends⟩
  · obtain ⟨_, ⟨⟩, hle⟩ := hs.valid.triggers time htrigger
    exact hle
  · obtain ⟨i, phase, hsp, hp⟩ := hs.valid.exists_phase hmem
    have hends' := sp.endsAt_of_none hends (some c)
    -- A task that cancels at its end has done so no sooner than the cancellation, or still sleeps.
    by_cases he : phase = .ended
    · obtain ⟨_, ⟨⟩, hle⟩ := (hs.valid.follows i sp phase hsp hp).cancels he hcancels
      exact hle time hends'
    · exact (hs.valid.cancelled_le c rfl).trans (hs.asleep hsp hp he hends').2.le

/-! ## Wakings -/

/-- Wakes the tasks of these numbers. -/
def wake (t : Tasks) (ids : List Nat) : Tasks := ids.foldl (fun t id => t.setPhase id .woken) t

theorem wake_cons (t : Tasks) (i : Nat) (ids : List Nat) :
    t.wake (i :: ids) = (t.setPhase i .woken).wake ids := rfl

theorem wake_frame (ids : List Nat) (t : Tasks) :
    (t.wake ids).tasks.map (·.plan) = t.tasks.map (·.plan) ∧
      ∃ tasks, t.wake ids = { t with tasks := tasks } := by
  induction ids generalizing t with
  | nil => exact ⟨rfl, t.tasks, rfl⟩
  | cons i ids ih =>
    obtain ⟨hplans, tasks, heq⟩ := ih (t.setPhase i .woken)
    exact ⟨hplans.trans (t.setPhase_plans i .woken), tasks, heq⟩

theorem wake_phase? (ids : List Nat) (t : Tasks) (j : Nat) :
    (t.wake ids).phase? j = if j ∈ ids then (t.phase? j).map fun _ => .woken else t.phase? j := by
  induction ids generalizing t with
  | nil => rfl
  | cons i ids ih =>
    rw [wake_cons, ih, setPhase_phase?]
    by_cases hj : j ∈ ids <;> by_cases hi : i = j <;> simp [hj, hi, Ne.symm, Function.comp_def]

theorem wake_pending {ids : List Nat} (hn : ids.Nodup)
    (hasleep : ∀ i ∈ ids, ∃ due, t.phase? i = some (.asleep due)) :
    (t.wake ids).pending + ids.length = t.pending := by
  induction ids generalizing t with
  | nil => rfl
  | cons i ids ih =>
    obtain ⟨hi, hn⟩ := List.nodup_cons.1 hn
    obtain ⟨due, hdue⟩ := hasleep i List.mem_cons_self
    have hscore : (t.setPhase i .woken).pending + 1 = t.pending :=
      setPhase_score (fun phase => phase.isPending.toNat) .woken hdue
    have hrest := ih (t := t.setPhase i .woken) hn fun j hj => by
      have hne : i ≠ j := fun heq => hi (heq ▸ hj)
      rw [setPhase_phase?, if_neg hne]
      exact hasleep j (List.mem_cons_of_mem _ hj)
    rw [wake_cons, List.length_cons]
    omega

/-- The numbers of the tasks whose sleep is over at an instant. -/
def wokenAt (t : Tasks) (time : Nat) : List Nat := (t.sleepers.filter (·.2 ≤ time)).map (·.1)

theorem mem_wokenAt {i : Nat} : i ∈ t.wokenAt time ↔ ∃ due, (i, due) ∈ t.sleepers ∧ due ≤ time := by
  simp [wokenAt]

/-- The clock is moved, and the tasks whose sleep is over join the queue. -/
def arrive (t : Tasks) (time : Nat) : Tasks :=
  { t with
    now := max t.now time
    queue := t.queue ++ t.wokenAt time
    sleepers := t.sleepers.filter fun s => !decide (s.2 ≤ time) }

theorem moveTo_phase? (t : Tasks) (time j : Nat) :
    (t.moveTo time).phase? j =
      if j ∈ t.wokenAt time then (t.phase? j).map fun _ => .woken else t.phase? j :=
  wake_phase? _ (t.arrive time) j

/-- Besides the phases, moving the clock changes only what `arrive` says. -/
theorem moveTo_frame (t : Tasks) (time : Nat) :
    (t.moveTo time).tasks.map (·.plan) = t.tasks.map (·.plan) ∧
      ∃ tasks, t.moveTo time = { t.arrive time with tasks := tasks } :=
  wake_frame (t.wokenAt time) (t.arrive time)

@[simp]
theorem moveTo_now (t : Tasks) (time : Nat) : (t.moveTo time).now = max t.now time := by
  obtain ⟨_, tasks, heq⟩ := t.moveTo_frame time
  rw [heq]
  rfl

/-- If no sleep is over before an instant, the tasks that wake then are those that were to. -/
theorem Valid.mem_wokenAt_iff {active : Option Nat} (hv : Valid h cancelled active t)
    (hdue : ∀ i due, (i, due) ∈ t.sleepers → time ≤ due) {i : Nat} :
    i ∈ t.wokenAt time ↔ t.phase? i = some (.asleep time) := by
  rw [mem_wokenAt, ← hv.sleepers]
  constructor
  · rintro ⟨due, hmem, hle⟩
    rwa [Nat.le_antisymm (hdue i due hmem) hle]
  · intro hmem
    exact ⟨time, hmem, Nat.le_refl _⟩

/-- Moving the clock to an instant before the end of any sleep, or to it, keeps the invariant. -/
theorem Settled.moveTo (hs : Settled h cancelled t) (hle : t.now ≤ time)
    (hdue : ∀ i due, (i, due) ∈ t.sleepers → time ≤ due) :
    Valid h cancelled none (t.moveTo time) := by
  have hv := hs.valid
  obtain ⟨hplans, tasks, heq⟩ := t.moveTo_frame time
  have hphase : ∀ i, (t.moveTo time).phase? i =
      if t.phase? i = some (.asleep time) then some .woken else t.phase? i := by
    intro i
    simp only [moveTo_phase?, hv.mem_wokenAt_iff hdue]
    split <;> simp_all
  have hlater : ∀ {i due}, t.phase? i = some (.asleep due) → due ≠ time → time < due := by
    intro i due hp hne
    exact Nat.lt_of_le_of_ne (hdue i due ((hv.sleepers i due).2 hp)) hne.symm
  have hnow : (t.moveTo time).now = time := by
    rw [moveTo_now, Nat.max_eq_right hle]
  have hqueue : (t.moveTo time).queue = t.wokenAt time := by
    rw [heq]
    simp [arrive, hs.queue]
  have hwaiters : (t.moveTo time).waiters = t.waiters := by
    rw [heq]
    rfl
  have hsleepers : (t.moveTo time).sleepers =
      t.sleepers.filter fun s => !decide (s.2 ≤ time) := by
    rw [heq]
    rfl
  constructor
  case plans => exact hplans.trans hv.plans
  case follows =>
    intro i sp phase hsp hp
    rw [hphase] at hp
    rw [hnow]
    split at hp
    · next hasleep =>
      -- A task that wakes ends now, as its schedule says.
      obtain rfl := Option.some.inj hp
      have hf := hv.follows i sp _ hsp hasleep
      exact .of_ne (hf.born_le.trans hle) hf.fits.1 (by simp)
    · next hasleep =>
      refine (hv.follows i sp phase hsp hp).later (hs.not_isRunnable hp) hle fun due hsleep => ?_
      subst hsleep
      exact hlater hp fun heq => hasleep (heq ▸ hp)
  case isCancelled =>
    rw [heq]
    exact hv.isCancelled
  case cancelled_le =>
    intro c hc
    rw [hnow]
    exact (hv.cancelled_le c hc).trans hle
  case origin => exact hv.origin
  case triggers => exact hv.triggers
  case queue =>
    intro i
    rw [hqueue, hphase, hv.mem_wokenAt_iff hdue]
    split
    · simp_all [Phase.isRunnable]
    · next hasleep =>
      rcases hp : t.phase? i with _ | phase
      · simp
      · simp_all [hs.not_isRunnable hp]
  case queue_nodup =>
    rw [hqueue]
    exact hv.sleepers_nodup.sublist (List.filter_sublist.map _)
  case waiters =>
    intro i
    rw [hwaiters, hphase, hv.waiters]
    split <;> simp_all
  case waiters_nodup => exact hwaiters ▸ hv.waiters_nodup
  case sleepers =>
    intro i due
    rw [hsleepers, hphase, List.mem_filter, hv.sleepers]
    by_cases hasleep : t.phase? i = some (.asleep time)
    · simp [hasleep]
      omega
    · simp only [hasleep, if_false, and_iff_left_iff_imp]
      intro hp
      simpa using hlater hp fun heq => hasleep (heq ▸ hp)
  case sleepers_nodup =>
    rw [hsleepers]
    exact hv.sleepers_nodup.sublist (List.filter_sublist.map _)

/-! ## From waking to waking -/

theorem Valid.exists_spawned {active : Option Nat} (hv : Valid h cancelled active t) {i : Nat}
    {phase : Phase} (hp : t.phase? i = some phase) : ∃ sp, h.spawned[i]? = some sp := by
  obtain ⟨task, htask, _⟩ := Option.map_eq_some_iff.1 hp
  have hlt : i < h.spawned.length := hv.length_eq ▸ (List.getElem?_eq_some_iff.1 htask).1
  exact ⟨_, List.getElem?_eq_getElem hlt⟩

/-- A sleeping task wakes later. -/
theorem Valid.now_lt {active : Option Nat} (hv : Valid h cancelled active t) {i : Nat}
    (hmem : (i, time) ∈ t.sleepers) : t.now < time := by
  have hp := (hv.sleepers i time).1 hmem
  obtain ⟨sp, hsp⟩ := hv.exists_spawned hp
  exact (hv.follows i sp _ hsp hp).fits.2

/-- A sleeping task may still be woken. -/
theorem Valid.pending_pos {active : Option Nat} (hv : Valid h cancelled active t) {i : Nat}
    (hmem : (i, time) ∈ t.sleepers) : 0 < t.pending := by
  have := wake_pending (List.nodup_singleton i) fun j hj =>
    ⟨time, List.mem_singleton.1 hj ▸ (hv.sleepers i time).1 hmem⟩
  rw [List.length_singleton] at this
  omega

/-- Each waking uses up a task that may be woken. -/
theorem Valid.moveTo_pending {active : Option Nat} (hv : Valid h cancelled active t) (time : Nat) :
    (t.moveTo time).pending + (t.wokenAt time).length = t.pending := by
  have hn : (t.wokenAt time).Nodup := hv.sleepers_nodup.sublist (List.filter_sublist.map _)
  refine wake_pending (t := t.arrive time) hn fun i hi => ?_
  obtain ⟨due, hmem, _⟩ := mem_wokenAt.1 hi
  exact ⟨due, (hv.sleepers i due).1 hmem⟩

theorem nextWake?_eq_some_iff : t.nextWake? = some time ↔
    (∃ i, (i, time) ∈ t.sleepers) ∧ ∀ i due, (i, due) ∈ t.sleepers → time ≤ due := by
  rw [nextWake?]
  rw [List.min?_eq_some_iff]
  simp only [List.mem_map, Prod.exists, exists_eq_right, forall_exists_index]
  exact and_congr_right fun _ => forall_comm

theorem nextWake?_eq_none_iff : t.nextWake? = none ↔ t.sleepers = [] := by
  simp [nextWake?]

/-- The next waking and what the tasks do then keep the invariant, and fewer tasks may be woken. -/
theorem Settled.wake (hs : Settled h cancelled t) (hwake : t.nextWake? = some time) :
    ∃ cancelled', Settled h cancelled' (t.moveTo time).settle ∧ t.now < time ∧
      (t.moveTo time).settle.now = time ∧
      (t.moveTo time).settle.pending < t.pending ∧
      (cancelled' = cancelled ∨ cancelled = none ∧ cancelled' = some time) := by
  obtain ⟨⟨i, hi⟩, hdue⟩ := nextWake?_eq_some_iff.1 hwake
  have hlt := hs.valid.now_lt hi
  have hpending := hs.valid.moveTo_pending time
  have hpos : 0 < (t.wokenAt time).length :=
    List.length_pos_of_mem (mem_wokenAt.2 ⟨time, hi, Nat.le_refl _⟩)
  obtain ⟨x, hx, hwithin⟩ := (hs.moveTo hlt.le hdue).settle
  have hnow : (t.moveTo time).now = time := by
    rw [moveTo_now, Nat.max_eq_right hlt.le]
  have hle := hwithin.pending_le
  refine ⟨x, hx, hlt, hwithin.now_eq.trans hnow, by omega, ?_⟩
  rw [← hnow]
  exact hwithin.cancelled

/-- Without a waking on the way, only the clock moves. -/
theorem Settled.idle (hs : Settled h cancelled t) (hle : t.now ≤ time)
    (hdue : ∀ i due, (i, due) ∈ t.sleepers → time < due) :
    Settled h cancelled (t.moveTo time) := by
  refine ⟨hs.moveTo hle fun i due hmem => (hdue i due hmem).le, ?_⟩
  obtain ⟨_, tasks, heq⟩ := t.moveTo_frame time
  have hwoken : t.wokenAt time = [] := by
    refine List.eq_nil_iff_forall_not_mem.2 fun i hi => ?_
    obtain ⟨due, hmem, hle'⟩ := mem_wokenAt.1 hi
    exact absurd (hdue i due hmem) (by omega)
  rw [heq]
  simp [arrive, hs.queue, hwoken]

/-- The last stretch of time, without a waking on the way. -/
theorem Settled.passLast (hs : Settled h cancelled t) (hle : t.now ≤ time)
    (hdue : ∀ i due, (i, due) ∈ t.sleepers → time < due) :
    ∃ cancelled', Settled h cancelled' (t.moveTo time).settle ∧ (t.moveTo time).settle.now = time ∧
      ∀ c ∈ cancelled, cancelled' = some c := by
  have hi := hs.idle hle hdue
  rw [settle_of_queue hi.queue]
  exact ⟨cancelled, hi, by rw [moveTo_now, Nat.max_eq_right hle], fun _ hc => hc⟩

/-- The invariant holds while time passes. -/
theorem Settled.passWith {stop fuel : Nat} (hs : Settled h cancelled t) (hstop : t.now ≤ stop)
    (hfuel : t.pending ≤ fuel) :
    ∃ cancelled', Settled h cancelled' (t.passWith stop fuel) ∧ (t.passWith stop fuel).now = stop ∧
      ∀ c ∈ cancelled, cancelled' = some c := by
  induction fuel generalizing cancelled t with
  | zero =>
    -- Without fuel no task is left that could be woken.
    refine hs.passLast hstop fun i due hmem => ?_
    have := hs.valid.pending_pos hmem
    omega
  | succ fuel ih =>
    simp only [Tasks.passWith]
    rcases hwake : t.nextWake? with _ | time
    · refine hs.passLast hstop fun i due hmem => ?_
      rw [nextWake?_eq_none_iff.1 hwake] at hmem
      cases hmem
    · dsimp only
      split
      · next hle =>
        obtain ⟨x, hx, _, hnow, hpending, hcancelled⟩ := hs.wake hwake
        obtain ⟨y, hy, hstop', hkept⟩ := ih hx (by omega) (by omega)
        refine ⟨y, hy, hstop', fun c hc => ?_⟩
        rcases hcancelled with rfl | ⟨rfl, _⟩
        · exact hkept c hc
        · cases hc
      · next hlt =>
        refine hs.passLast hstop fun i due hmem => ?_
        have := (nextWake?_eq_some_iff.1 hwake).2 i due hmem
        omega

/-- The invariant holds after any time. -/
theorem Settled.pass (hs : Settled h cancelled t) (ms : Nat) :
    ∃ cancelled', Settled h cancelled' (t.pass ms) ∧
      (t.pass ms).now = t.now + min ms Timer.longest ∧ ∀ c ∈ cancelled, cancelled' = some c :=
  hs.passWith (Nat.le_add_right _ _) t.pending_le

end Tasks

end FaultyServer.Shutdown
