import FaultyServer.Proofs.Shutdown.Invariant
import Mathlib.Algebra.Order.BigOperators.Group.List
import Mathlib.Algebra.Order.Ring.Nat

/-!
# The tasks make their moves

What the tasks do before time passes (`Tasks.Within`) keeps the invariant, and it comes to an end:
with each move the tasks have fewer turns left (`Phase.turns`).

* `Valid.finish`, `Valid.proceed`, `Valid.move`: a move keeps the invariant and takes one turn;
* `Valid.settle`: working off the queue empties it (`Settled`), for which its fuel suffices.
-/

namespace FaultyServer.Shutdown

namespace Phase

/-- How often a task in this phase may still come out of the queue. -/
def turns : Phase → Nat
  | ready => 3
  | waiting | resumed => 2
  | asleep _ | woken => 1
  | stuck | ended => 0

/-- Whether a task in this phase may still be woken. -/
def isPending : Phase → Bool
  | ready | waiting | resumed | asleep _ => true
  | woken | stuck | ended => false

end Phase

namespace Tasks

variable {h : History} {cancelled active : Option Nat} {t : Tasks} {i : Nat}

/-! ## Scores -/

/-- The sum of a score of the tasks' phases. -/
def score (f : Phase → Nat) (t : Tasks) : Nat := (t.tasks.map fun task => f task.phase).sum

/-- How often the tasks may still come out of the queue. -/
def turns (t : Tasks) : Nat := t.score Phase.turns

/-- How many tasks may still be woken. -/
def pending (t : Tasks) : Nat := t.score fun phase => phase.isPending.toNat

theorem sum_map_modify {α : Type} (f : α → Nat) (g : α → α) {l : List α} {i : Nat} {a : α}
    (h : l[i]? = some a) : ((l.modify i g).map f).sum + f a = (l.map f).sum + f (g a) := by
  induction l generalizing i with
  | nil => simp at h
  | cons b l ih =>
    cases i with
    | zero =>
      obtain rfl : b = a := by simpa using h
      simp only [List.modify_zero_cons, List.map_cons, List.sum_cons]
      omega
    | succ i =>
      have := ih (by simpa using h)
      simp only [List.modify_succ_cons, List.map_cons, List.sum_cons]
      omega

theorem setPhase_score (f : Phase → Nat) {before : Phase} (phase : Phase)
    (h : t.phase? i = some before) :
    (t.setPhase i phase).score f + f before = t.score f + f phase := by
  obtain ⟨task, htask, rfl⟩ := Option.map_eq_some_iff.1 h
  exact sum_map_modify (fun task => f task.phase) _ htask

theorem cancel_score {f : Phase → Nat} (hf : f .waiting = f .resumed) (t : Tasks) :
    t.cancel.score f = t.score f := by
  unfold cancel score
  split
  · rfl
  · simp only [List.map_map]
    congr 2
    funext task
    simp only [Function.comp_apply, resume_phase, Phase.onCancel]
    split
    · next hw => rw [hw, hf]
    · rfl

theorem score_le {f : Phase → Nat} {k : Nat} (hf : ∀ phase, f phase ≤ k) (t : Tasks) :
    t.score f ≤ k * t.tasks.length := by
  rw [score]
  induction t.tasks with
  | nil => simp
  | cons task tasks ih =>
    have := hf task.phase
    simp only [List.map_cons, List.sum_cons, List.length_cons, Nat.mul_succ]
    omega

theorem turns_le (t : Tasks) : t.turns ≤ 3 * t.tasks.length :=
  score_le (fun phase => by cases phase <;> simp [Phase.turns]) t

theorem pending_le (t : Tasks) : t.pending ≤ t.tasks.length := by
  have := score_le (f := fun phase => phase.isPending.toNat) (fun phase => Bool.toNat_le _) t
  simpa [pending] using this

theorem cancel_turns (t : Tasks) : t.cancel.turns = t.turns := cancel_score rfl t

theorem cancel_pending (t : Tasks) : t.cancel.pending = t.pending := cancel_score rfl t

/-! ## Within an instant -/

/-- What the tasks do within an instant: the clock stands still, no task may be woken that could not
be before, and the cancellation may happen. -/
structure Within (cancelled cancelled' : Option Nat) (t t' : Tasks) : Prop where
  now_eq : t'.now = t.now
  pending_le : t'.pending ≤ t.pending
  cancelled : cancelled' = cancelled ∨ cancelled = none ∧ cancelled' = some t.now

theorem Within.refl (cancelled : Option Nat) (t : Tasks) : Within cancelled cancelled t t :=
  ⟨rfl, le_rfl, .inl rfl⟩

theorem Within.trans {x x' x'' : Option Nat} {t t' t'' : Tasks} (h₁ : Within x x' t t')
    (h₂ : Within x' x'' t' t'') : Within x x'' t t'' := by
  refine ⟨h₂.now_eq.trans h₁.now_eq, h₂.pending_le.trans h₁.pending_le, ?_⟩
  have hnow := h₁.now_eq
  rcases h₁.cancelled with rfl | ⟨rfl, rfl⟩ <;> rcases h₂.cancelled with rfl | ⟨h, rfl⟩
  · exact .inl rfl
  · exact .inr ⟨h, by rw [hnow]⟩
  · exact .inr ⟨rfl, rfl⟩
  · cases h

/-- A task that comes to rest does so within an instant, and takes one of its turns. -/
theorem rest_within {before : Phase} (phase : Phase) (hbefore : t.phase? i = some before)
    (hturns : phase.turns < before.turns)
    (hpending : phase.isPending.toNat ≤ before.isPending.toNat) (cancelled : Option Nat) :
    Within cancelled cancelled t (t.rest i phase) ∧ (t.rest i phase).turns < t.turns := by
  have h₁ : (t.rest i phase).turns + before.turns = t.turns + phase.turns :=
    setPhase_score Phase.turns phase hbefore
  have h₂ : (t.rest i phase).pending + before.isPending.toNat =
      t.pending + phase.isPending.toNat :=
    setPhase_score (fun phase => phase.isPending.toNat) phase hbefore
  exact ⟨⟨rfl, by omega, .inl rfl⟩, by omega⟩

/-- A task that ends at the right instant keeps the invariant; if it cancels, the cancellation has
happened then. -/
theorem Valid.finish {sp : Spawned} (hv : Valid h cancelled (some i) t)
    (hsp : h.spawned[i]? = some sp) (hends : sp.endsAt cancelled = some t.now) :
    ∃ cancelled', Valid h cancelled' none (t.finish i sp.plan) ∧
      Within cancelled cancelled' t (t.finish i sp.plan) ∧
      (t.finish i sp.plan).turns < t.turns := by
  -- The cancellation comes first, so that the rest is the same with and without it.
  obtain ⟨x, u, hu, hx, hends', hw, hturns, hcancels⟩ : ∃ x u,
      (if sp.plan.cancels then t.cancel else t) = u ∧ Valid h x (some i) u ∧
      sp.endsAt x = some t.now ∧ Within cancelled x t u ∧ u.turns = t.turns ∧
      (sp.plan.cancels = true → ∃ c ∈ x, c ≤ t.now) := by
    by_cases hcancels : sp.plan.cancels = true
    · rw [if_pos hcancels]
      cases cancelled with
      | none =>
        have hmem : t.now ∈ h.cancellations :=
          History.mem_cancellations.2 (.inr ⟨sp, List.mem_of_getElem? hsp, hcancels, hends⟩)
        refine ⟨some t.now, _, rfl, hv.cancel rfl (fun time htime => ?_) hmem,
          sp.endsAt_of_none hends _, ?_, t.cancel_turns, fun _ => ⟨_, rfl, le_rfl⟩⟩
        · obtain ⟨c, hc, _⟩ := hv.triggers time htime
          cases hc
        · refine ⟨?_, t.cancel_pending.le, .inr ⟨rfl, rfl⟩⟩
          rw [cancel_of_not_isCancelled hv.isCancelled]
      | some c =>
        -- A second cancellation does nothing.
        rw [cancel_of_isCancelled hv.isCancelled]
        exact ⟨_, _, rfl, hv, hends, .refl _ _, rfl, fun _ => ⟨c, rfl, hv.cancelled_le c rfl⟩⟩
    · rw [if_neg hcancels]
      exact ⟨_, _, rfl, hv, hends, .refl _ _, rfl, fun h => absurd h hcancels⟩
  obtain ⟨before, hbefore, hrunnable⟩ := hx.active_isRunnable
  have hrest := rest_within .ended hbefore
    (by cases before <;> simp_all [Phase.turns, Phase.isRunnable]) (Nat.zero_le _) x
  rw [show t.finish i sp.plan = u.rest i .ended by rw [← hu]; rfl]
  refine ⟨x, hx.rest rfl fun sp' hsp' => ?_, hw.trans hrest.1, by omega⟩
  obtain rfl := Option.some.inj (hsp.symm.trans hsp')
  refine ⟨?_, ⟨t.now, hends', hw.now_eq.ge⟩, fun _ hc => ?_⟩
  · rw [hw.now_eq]
    exact sp.born_le hends'
  · obtain ⟨c, hc, hle⟩ := hcancels hc
    refine ⟨c, hc, fun time htime => ?_⟩
    rw [hends', Option.some.injEq] at htime
    omega

/-- A task that starts to sleep at the right instant keeps the invariant. -/
theorem Valid.proceed {sp : Spawned} {before : Phase} (hv : Valid h cancelled (some i) t)
    (hsp : h.spawned[i]? = some sp) (hbefore : t.phase? i = some before)
    (hturns : 1 < before.turns) (hpending : before.isPending = true)
    (hstart : sp.startsAt cancelled = some t.now) :
    ∃ cancelled', Valid h cancelled' none (t.proceed i sp.plan) ∧
      Within cancelled cancelled' t (t.proceed i sp.plan) ∧
      (t.proceed i sp.plan).turns < t.turns := by
  have hborn := (hv.follows i sp before hsp hbefore).born_le
  have hone : ∀ phase : Phase, phase.isPending.toNat ≤ before.isPending.toNat := fun phase => by
    rw [hpending]
    exact Bool.toNat_le _
  rcases hsleep : sp.plan.sleep with _ | ms
  · rw [show t.proceed i sp.plan = t.rest i .stuck by simp only [Tasks.proceed, hsleep]; rfl]
    refine ⟨cancelled, hv.rest rfl fun sp' hsp' => ?_,
      rest_within .stuck hbefore (Nat.zero_lt_of_lt hturns) (hone _) _⟩
    obtain rfl := Option.some.inj (hsp.symm.trans hsp')
    exact .of_ne hborn hsleep (by simp)
  · have hends : sp.endsAt cancelled = some (t.now + min ms Timer.longest) :=
      Spawned.endsAt_eq_some_iff.2 ⟨t.now, ms, hstart, hsleep, rfl⟩
    -- Without any sleep the task ends at once, and only a real sleep reaches into the future.
    rcases Nat.eq_zero_or_pos ms with rfl | hms
    · rw [show t.proceed i sp.plan = t.finish i sp.plan by simp only [Tasks.proceed, hsleep]]
      exact hv.finish hsp (by simpa using hends)
    · have hdue : t.now < t.now + min ms Timer.longest :=
        Nat.lt_add_of_pos_right (Nat.lt_min.2 ⟨hms, by decide⟩)
      have heq : t.proceed i sp.plan = t.rest i (.asleep (t.now + min ms Timer.longest)) := by
        obtain ⟨ms, rfl⟩ := Nat.exists_eq_succ_of_ne_zero hms.ne'
        simp only [Tasks.proceed, hsleep]
        rfl
      rw [heq]
      refine ⟨cancelled, hv.rest rfl fun sp' hsp' => ?_,
        rest_within (.asleep _) hbefore hturns (hone _) _⟩
      obtain rfl := Option.some.inj (hsp.symm.trans hsp')
      exact .of_ne hborn ⟨hends, hdue⟩ (by simp)

/-- A move keeps the invariant and takes one turn. -/
theorem Valid.move (hv : Valid h cancelled (some i) t) :
    ∃ cancelled', Valid h cancelled' none (t.move i) ∧ Within cancelled cancelled' t (t.move i) ∧
      (t.move i).turns < t.turns := by
  obtain ⟨before, hbefore, hrunnable⟩ := hv.active_isRunnable
  obtain ⟨⟨plan, _⟩, htask, rfl⟩ := Option.map_eq_some_iff.1 hbefore
  obtain ⟨sp, hsp, rfl⟩ : ∃ sp, h.spawned[i]? = some sp ∧ sp.plan = plan := by
    have := congrArg (·[i]?) hv.plans
    simp only [List.getElem?_map, htask, Option.map_some] at this
    obtain ⟨sp, hsp, hplan⟩ := Option.map_eq_some_iff.1 this.symm
    exact ⟨sp, hsp, hplan⟩
  have hfollows := hv.follows i sp _ hsp hbefore
  rename_i phase
  dsimp only at hbefore hrunnable hfollows
  cases phase with
  | ready =>
    have hborn : sp.born = t.now := hfollows.fits
    simp only [Tasks.move, htask, hv.isCancelled]
    -- The first move: the task waits for the cancellation only if that has not happened yet.
    rcases ha : sp.plan.awaitsCancel with _ | _
    · exact hv.proceed hsp hbefore (by decide) rfl (by simp [Spawned.startsAt, ha, hborn])
    · cases cancelled with
      | none =>
        refine ⟨none, hv.rest rfl fun sp' hsp' => ?_, rest_within .waiting hbefore ?_ ?_ none⟩
        · obtain rfl := Option.some.inj (hsp.symm.trans hsp')
          exact .of_ne hfollows.born_le ⟨ha, rfl⟩ (by simp)
        · decide
        · decide
      | some c =>
        have := hv.cancelled_le c rfl
        refine hv.proceed hsp hbefore (by decide) rfl ?_
        simp [Spawned.startsAt, ha, hborn, this]
  | resumed =>
    obtain ⟨ha, rfl⟩ := hfollows.fits
    simp only [Tasks.move, htask]
    refine hv.proceed hsp hbefore (by decide) rfl ?_
    simp [Spawned.startsAt, ha, hfollows.born_le]
  | woken =>
    simp only [Tasks.move, htask]
    exact hv.finish hsp hfollows.fits
  | waiting | asleep | stuck | ended => cases hrunnable

/-! ## The queue -/

/-- The tasks follow the schedule, and every task has made its move. -/
structure Settled (h : History) (cancelled : Option Nat) (t : Tasks) : Prop where
  valid : Valid h cancelled none t
  queue : t.queue = []

/-- A queue without turns is empty. -/
theorem Valid.queue_eq_nil (hv : Valid h cancelled none t) (hturns : t.turns = 0) :
    t.queue = [] := by
  refine List.eq_nil_iff_forall_not_mem.2 fun i hi => ?_
  obtain ⟨phase, hphase, hrunnable⟩ := (Option.any_eq_true _ _).1 ((hv.queue i).1 (.inl hi))
  obtain ⟨task, htask, rfl⟩ := Option.map_eq_some_iff.1 hphase
  have hle : task.phase.turns ≤ t.turns :=
    List.le_sum_of_mem (List.mem_map.2 ⟨task, List.mem_of_getElem? htask, rfl⟩)
  cases hp : task.phase <;> simp_all [Phase.turns, Phase.isRunnable]

theorem Valid.settleWith {fuel : Nat} (hv : Valid h cancelled none t) (hfuel : t.turns ≤ fuel) :
    ∃ cancelled', Settled h cancelled' (t.settleWith fuel) ∧
      Within cancelled cancelled' t (t.settleWith fuel) := by
  induction fuel generalizing cancelled t with
  | zero => exact ⟨cancelled, ⟨hv, hv.queue_eq_nil (by omega)⟩, .refl _ _⟩
  | succ fuel ih =>
    rcases hq : t.queue with _ | ⟨i, queue⟩
    · simp only [Tasks.settleWith, hq]
      exact ⟨cancelled, ⟨hv, hq⟩, .refl _ _⟩
    · simp only [Tasks.settleWith, hq]
      -- The move takes a turn, so the fuel that is left suffices for the turns that are.
      obtain ⟨x, hx, hwithin, hturns⟩ := (hv.pop hq).move
      have : turns { t with queue := queue } = t.turns := rfl
      obtain ⟨y, hy, hwithin'⟩ := ih hx (by omega)
      exact ⟨y, hy, .trans ⟨hwithin.1, hwithin.2, hwithin.3⟩ hwithin'⟩

/-- Working off the queue empties it and keeps the invariant. -/
theorem Valid.settle (hv : Valid h cancelled none t) :
    ∃ cancelled', Settled h cancelled' t.settle ∧ Within cancelled cancelled' t t.settle :=
  hv.settleWith t.turns_le

theorem settle_of_queue (hq : t.queue = []) : t.settle = t := by
  rw [settle]
  generalize 3 * t.tasks.length = fuel
  cases fuel with
  | zero => rfl
  | succ fuel => simp [Tasks.settleWith, hq]

end Tasks

end FaultyServer.Shutdown
