import FaultyServer.Proofs.Except
import FaultyServer.Proofs.Network.LifeCycle

/-!
# Starts that fail

A server starts in steps: its host becomes an address, the address is bound, and only then does the
machine change. The steps that may fail come first (`Network.startInSteps`), so that there is
nothing to give back when one of them does. A start that fails is as good as none, and all of them
can be left out of a session (`Network.run_succeeding`).

* `Network.bind_eq_error`, `Network.start_eq_error`: why a start fails, for its host before anything
  else;
* `Network.startInSteps_run`: a start in steps changes nothing unless every step succeeds;
* `Network.make_startFailed`: a start that fails leaves the machine as it was.
-/

namespace FaultyServer

open Address (Socket)

namespace Network

variable {n : Network} {settings : Settings} {token : Nat} {address : Socket}

/-! ## Why a start fails -/

/-- The machine has no such address: the interface is down, and carries no IPv6. -/
def Lacks (n : Network) (address : Socket) : Prop :=
  n.link = .down ∧ ∃ a, address.ip = .v6 a

theorem bind_of_not_lacks (h : ¬ n.Lacks address) :
    n.bind address =
      if address.port = 0 then
        match n.freePort? with
        | some port => .ok { address with port := port }
        | none => .error .inUse
      else if n.isTaken address then .error .inUse
      else .ok address := by
  rw [bind]
  split
  · next a hip hlink => exact absurd ⟨hlink, a, hip⟩ h
  · rfl

/-- An address cannot be bound if the machine does not have it. Otherwise it cannot be bound if
somebody listens there, or if the system that is to choose its port has none left. -/
theorem bind_eq_error {fault : BindFault} :
    n.bind address = .error fault ↔
      (n.Lacks address ∧ fault = .unavailable) ∨
      (¬ n.Lacks address ∧ fault = .inUse ∧
        if address.port = 0 then n.freePort? = none else n.isTaken address = true) := by
  by_cases hlacks : n.Lacks address
  · have hbind : n.bind address = .error .unavailable := by
      obtain ⟨hlink, a, hip⟩ := hlacks
      rw [bind, hip, hlink]
    rw [hbind, Except.error.injEq]
    exact ⟨fun h => .inl ⟨hlacks, h.symm⟩, fun h => h.elim (·.2.symm) (absurd hlacks ·.1)⟩
  · rw [bind_of_not_lacks hlacks]
    by_cases hport : address.port = 0
    · rcases n.freePort? with _ | port <;> simp [hlacks, hport, eq_comm]
    · by_cases htaken : n.isTaken address = true <;> simp [hlacks, hport, htaken, eq_comm]

/-- A start fails for its host before anything else, and then for its address. -/
theorem start_eq_error {fault : StartFault} :
    n.start settings token = .error fault ↔
      (∃ f, settings.listenAddress = .error f ∧ fault = .host f) ∨
      ∃ address f, settings.listenAddress = .ok address ∧ n.bind address = .error f ∧
        fault = .bind address f := by
  rcases haddress : settings.listenAddress with f | address
  · simp [start, haddress, eq_comm]
  · rcases hbound : n.bind address with f | bound
    · simp [start, haddress, hbound, eq_comm]
    · simp [start, haddress, hbound]

/-! ## Starting in steps -/

/-- The start of an application in its steps. What one of them has done to the machine stays done
when a later one fails. -/
def startInSteps (settings : Settings) (token : Nat) :
    ExceptT StartFault (StateM Network) Unit := do
  let address ← settings.listenAddress.mapError StartFault.host
  let n ← get
  let bound ← (n.bind address).mapError (StartFault.bind address)
  modify (·.log [.appStarted bound settings.mode])
  modify (·.listen settings.listen.name (.ofSettings settings) (some settings.mode) bound token)

/-- The steps make up the whole start, and nothing has changed when one of them fails. -/
theorem startInSteps_run (n : Network) (settings : Settings) (token : Nat) :
    (startInSteps settings token).run.run n =
      match n.start settings token with
      | .ok m => (.ok (), m)
      | .error fault => (.error fault, n) := by
  rw [start_eq, startInSteps]
  cases settings.listenAddress with
  | error fault => rfl
  | ok address =>
    -- What is left when the address is known. It begins with the address being bound.
    let bindStep : Except StartFault Socket := (n.bind address).mapError (StartFault.bind address)
    let finish (bound : Socket) : ExceptT StartFault (StateM Network) Unit := do
      modify (·.log [.appStarted bound settings.mode])
      modify (·.listen settings.listen.name (.ofSettings settings) (some settings.mode) bound token)
    show (liftM bindStep >>= finish).run.run n = _
    rw [Except.mapError_ok, Except.bind]
    simp only [bindStep]
    cases n.bind address with
    | error fault => rfl
    | ok bound => rfl

/-! ## Sessions -/

/-- Whether a result is that of a start that has failed. -/
def Result.isStartFailed : Result → Bool
  | startFailed _ => true
  | _ => false

/-- The actions of a session but for the starts that fail in it. -/
def succeeding (n : Network) : List Action → List Action
  | [] => []
  | action :: rest =>
    if (n.make action).2.isStartFailed then (n.make action).1.succeeding rest
    else action :: (n.make action).1.succeeding rest

/-- Only a start can fail to start. -/
theorem exists_of_isStartFailed {action : Action} (h : (n.make action).2.isStartFailed = true) :
    ∃ settings token fault, action = .start settings token ∧
      n.start settings (token.getD n.freshToken) = .error fault := by
  cases action with
  | start settings token =>
    rw [make_start] at h
    split at h
    · cases h
    · next fault hstart => exact ⟨settings, token, fault, rfl, hstart⟩
  | request address bytes =>
    rw [make_request] at h
    split at h <;> cases h
  | wait id =>
    rw [make] at h
    split at h <;> cases h
  | _ => cases h

/-- A start that fails leaves the machine as it was. -/
theorem make_startFailed {action : Action} (h : (n.make action).2.isStartFailed = true) :
    (n.make action).1 = n := by
  obtain ⟨settings, token, fault, rfl, hstart⟩ := exists_of_isStartFailed h
  rw [make_start, hstart]

/-- A session is the same without the starts that fail in it, whatever else happens: it ends with
the same machine, and all other actions have the same results. -/
theorem run_succeeding (n : Network) (actions : List Action) :
    n.run (n.succeeding actions) =
      ((n.run actions).1, (n.run actions).2.filter fun result => !result.isStartFailed) := by
  induction actions generalizing n with
  | nil => rfl
  | cons action rest ih =>
    rw [run_cons_eq, succeeding]
    cases hfailed : (n.make action).2.isStartFailed with
    | true =>
      rw [if_pos rfl, make_startFailed hfailed, ih, List.filter_cons_of_neg (by simp [hfailed])]
    | false =>
      rw [if_neg Bool.false_ne_true, run_cons_eq, ih, List.filter_cons_of_pos (by simp [hfailed])]

theorem make_start_eq_startFailed {token : Option Nat} {fault : StartFault} :
    (n.make (.start settings token)).2 = .startFailed fault ↔
      n.start settings (token.getD n.freshToken) = .error fault := by
  rw [make_start]
  cases n.start settings (token.getD n.freshToken) <;> simp

/-- A start on an address that the machine has and nobody listens on succeeds. -/
theorem make_start_of_free (haddress : settings.listenAddress = .ok address)
    (hhas : ¬ n.Lacks address) (hport : address.port ≠ 0) (hfree : n.isTaken address = false)
    (token : Option Nat) : (n.make (.start settings token)).2 = .started n.servers.length := by
  have hbound : n.bind address = .ok address := by
    rw [bind_of_not_lacks hhas, if_neg hport, hfree]
    rfl
  rw [make_start, start_eq, haddress, Except.mapError_ok, Except.bind, hbound]
  rfl

/-- Starts that fail leave no trace, whatever the machine is like: whatever servers listen on it or
have been stopped, whatever tokens they share, and whatever requests are in flight.

A start fails for its host before anything else, so that a bad host is reported even if the port is
taken, and then for its address. It leaves the machine as it was, with every address that is bound,
every server and its counter, every token, every request in flight and the log; so do the steps it
consists of, without anything being given back. What comes after it has the same results as without
it, and so a start on a free address succeeds. Over whole sessions, all starts that fail can be left
out. -/
theorem failed_start_harmless (n : Network) :
    (∀ settings token fault,
      (n.make (.start settings token)).2 = .startFailed fault ↔
        (∃ f, settings.listenAddress = .error f ∧ fault = .host f) ∨
        ∃ address, settings.listenAddress = .ok address ∧
          ((n.Lacks address ∧ fault = .bind address .unavailable) ∨
          (¬ n.Lacks address ∧ fault = .bind address .inUse ∧
            if address.port = 0 then n.freePort? = none
            else address ∈ n.taken ∨ address ∈ n.listening))) ∧
    (∀ settings token fault, (n.make (.start settings token)).2 = .startFailed fault →
      (n.make (.start settings token)).1 = n ∧
      (startInSteps settings (token.getD n.freshToken)).run.run n = (.error fault, n) ∧
      (∀ rest, n.run (.start settings token :: rest) =
        ((n.run rest).1, .startFailed fault :: (n.run rest).2)) ∧
      ∀ later address, later.listenAddress = .ok address → ¬ n.Lacks address →
        address.port ≠ 0 → address ∉ n.taken → address ∉ n.listening → ∀ laterToken,
          (n.run [.start settings token, .start later laterToken]).2 =
            [.startFailed fault, .started n.servers.length]) ∧
    ∀ actions, n.run (n.succeeding actions) =
      ((n.run actions).1, (n.run actions).2.filter fun result => !result.isStartFailed) := by
  refine ⟨fun settings token fault => ?_, fun settings token fault hfailed => ?_, n.run_succeeding⟩
  · have htaken : ∀ address,
        n.isTaken address = true ↔ address ∈ n.taken ∨ address ∈ n.listening := fun address => by
      rw [← not_iff_not, Bool.not_eq_true, isTaken_eq_false, not_or]
    simp only [make_start_eq_startFailed, start_eq_error, bind_eq_error, htaken]
    constructor
    · rintro (hhost | ⟨address, f, haddress, ⟨hlacks, rfl⟩ | ⟨hhas, rfl, hbusy⟩, rfl⟩)
      · exact .inl hhost
      · exact .inr ⟨address, haddress, .inl ⟨hlacks, rfl⟩⟩
      · exact .inr ⟨address, haddress, .inr ⟨hhas, rfl, hbusy⟩⟩
    · rintro (hhost | ⟨address, haddress, ⟨hlacks, rfl⟩ | ⟨hhas, rfl, hbusy⟩⟩)
      · exact .inl hhost
      · exact .inr ⟨address, _, haddress, .inl ⟨hlacks, rfl⟩, rfl⟩
      · exact .inr ⟨address, _, haddress, .inr ⟨hhas, rfl, hbusy⟩, rfl⟩
  · have hstays : (n.make (.start settings token)).1 = n := make_startFailed (by rw [hfailed]; rfl)
    have hrun : ∀ rest, n.run (.start settings token :: rest) =
        ((n.run rest).1, .startFailed fault :: (n.run rest).2) := fun rest => by
      rw [run_cons_eq, hfailed, hstays]
    have hsteps :
        (startInSteps settings (token.getD n.freshToken)).run.run n = (.error fault, n) := by
      rw [startInSteps_run, make_start_eq_startFailed.1 hfailed]
    refine ⟨hstays, hsteps, hrun,
      fun later address haddress hhas hport htaken hlistening laterToken => ?_⟩
    have hstarted := make_start_of_free haddress hhas hport
      (isTaken_eq_false.2 ⟨htaken, hlistening⟩) laterToken
    rw [hrun, run_cons_eq, hstarted]
    rfl

/-- Two servers share a token, and a request is in flight. A third server with the same token does
not start on the address of the first one, nor one with a bad host there; then one starts next to
it. -/
theorem failed_start_harmless_shared :
    let address : Socket := ⟨.localhost, 12345⟩
    let n := ((fresh .up []).run [.start .default (some 7),
      .start (Settings.default.withPort 80) (some 7),
      .request address (Http.Request.bytes "GET" "/hang" "HTTP/1.1" [])]).1
    let busy := Settings.default.withMode .hangOnly
    let elsewhere := Settings.default.withHost "10.0.0.1"
    n.isInFlight 0 = true ∧
      n.make (.start busy (some 7)) = (n, .startFailed (.bind address .inUse)) ∧
      n.make (.start elsewhere (some 7)) =
        (n, .startFailed (.host (.notLoopback (.v4 ⟨10, 0, 0, 1⟩)))) ∧
      (n.run [.start busy (some 7), .start (busy.withPort 81) none]).2 =
        [.startFailed (.bind address .inUse), .started 2] := by
  intro address n busy elsewhere
  obtain ⟨_, hharmless, _⟩ := failed_start_harmless n
  have hbusy : (n.make (.start busy (some 7))).2 = .startFailed (.bind address .inUse) := by
    decide +kernel
  have helsewhere : (n.make (.start elsewhere (some 7))).2 =
      .startFailed (.host (.notLoopback (.v4 ⟨10, 0, 0, 1⟩))) := by decide +kernel
  obtain ⟨hstays, _, _, hlater⟩ := hharmless _ _ _ hbusy
  obtain ⟨hstays', _⟩ := hharmless _ _ _ helsewhere
  have hup : n.link = .up := by decide +kernel
  have hhas : ¬ n.Lacks ⟨.localhost, 81⟩ := fun ⟨hdown, _⟩ => by
    rw [hup] at hdown
    cases hdown
  have hnext := hlater (busy.withPort 81) ⟨.localhost, 81⟩ (by decide +kernel) hhas (by decide)
    (by decide +kernel) (by decide +kernel) none
  rw [show n.servers.length = 2 by decide +kernel] at hnext
  exact ⟨by decide +kernel, Prod.ext hstays hbusy, Prod.ext hstays' helsewhere, hnext⟩

end Network

end FaultyServer
