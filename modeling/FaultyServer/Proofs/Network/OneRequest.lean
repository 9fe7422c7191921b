import FaultyServer.Proofs.Http.Head
import FaultyServer.Proofs.Network.OneByOne

/-!
# One request per connection

The server of an application answers the first request on a connection and closes it. Whatever comes
behind the head of that request is never looked at, be it a body, another request or nothing
(`SingleRequests.only`), and no connection that has had its request takes anything more. So there
are no more requests than connections, and no more changes of a counter by requests
(`one_request_per_connection`).

* `Connection.receive`: more bytes come on a connection;
* `Quiet.make_flights_length`, `Quiet.make_changes`: what an action can do to the number of
  requests, and to the counters;
* `Retired.make`, `Retired.run`: nothing reaches a server that has been stopped.
-/

namespace FaultyServer

open Address (Socket)
open Http (Head Incoming)

namespace Connection

/-- More bytes come on a connection. They are lost if the server does not read it any more. -/
def receive (connection : Connection) (bytes : List UInt8) : Connection :=
  if connection.isOpen then { connection with unread := connection.unread ++ bytes }
  else connection

/-- Nothing is read on a closed connection, whatever comes. -/
theorem next_receive {connection : Connection} (h : connection.isOpen = false)
    (bytes : List UInt8) (service : Service) (c : Counter) :
    (connection.receive bytes).next service c = none := by
  simp [receive, next, h]

end Connection

namespace Network

variable {n : Network} {id : Nat} {s : Server}

/-! ## Counting -/

/-- Whether a client has been connected. -/
def Result.isConnected : Result → Bool
  | sent _ => true
  | _ => false

/-- Whether an action changes a counter from outside, without a request. -/
def Action.isOutside : Action → Bool
  | advance _ _ | reset _ => true
  | _ => false

/-- The counters of the servers, by their numbers. -/
def counters (n : Network) : List Counter := n.servers.map (·.counter)

/-- How many of the counters change from one list to another. -/
def changes (before after : List Counter) : Nat :=
  (before.zip after).countP fun (c, c') => decide (c ≠ c')

/-- How many changes of counters in a session are not made from outside. -/
def requestChanges (n : Network) : List Action → Nat
  | [] => 0
  | action :: rest =>
    let m := (n.make action).1
    (if action.isOutside then 0 else changes n.counters m.counters) + m.requestChanges rest

theorem changes_append {before after : List Counter} (h : before <+: after) :
    changes before after = 0 := by
  obtain ⟨more, rfl⟩ := h
  induction before with
  | nil => simp [changes]
  | cons c rest ih => simpa [changes] using ih

theorem changes_modify_le (before : List Counter) (id : Nat) (change : Counter → Counter) :
    changes before (before.modify id change) ≤ 1 := by
  induction before generalizing id with
  | nil => simp [changes]
  | cons c' rest ih =>
    cases id with
    | zero =>
      have hrest := changes_append (List.prefix_refl rest)
      simp only [changes] at hrest
      simp only [changes, List.modify_zero_cons, List.zip_cons_cons, List.countP_cons, hrest]
      split <;> omega
    | succ id => simpa [changes] using ih id

/-! ## What an action does to requests and counters -/

theorem exists_of_connect {address : Socket} (h : n.connect address = .ok id) :
    ∃ s, n.servers[id]? = some s ∧ s.isListening = true ∧ s.address = address := by
  rw [connect] at h
  split at h
  · cases h
  · split at h
    · next found hfound =>
      obtain rfl := Except.ok.inj h
      obtain ⟨hlt, hserver, _⟩ := List.findIdx?_eq_some_iff_getElem.1 hfound
      simp only [Bool.and_eq_true, beq_iff_eq] at hserver
      exact ⟨_, List.getElem?_eq_getElem hlt, hserver⟩
    · cases h

theorem cancel_counters (n : Network) (token : Nat) : (n.cancel token).counters = n.counters := by
  rw [cancel]
  split
  · rfl
  · simp only [counters, log, List.map_map]
    refine List.map_congr_left fun s _ => ?_
    simp only [Function.comp_apply]
    split <;> rfl

theorem stop_counters (n : Network) (server : Nat) : (n.stop server).counters = n.counters := by
  rw [stop]
  split
  · rfl
  · next s _ =>
    dsimp only
    split <;> exact n.cancel_counters s.token

theorem abandon_fixed (n : Network) (other : Nat) :
    (n.abandon other).flights.map Flight.fixed = n.flights.map Flight.fixed := by
  rw [abandon]
  split
  · refine Flight.map_fixed_modify ?_ n.flights other
    exact fun _ => rfl
  · rfl

theorem modify_counters (n : Network) (id : Nat) (change : Counter → Counter) :
    (n.servers.modify id fun s => { s with counter := change s.counter }).map (·.counter) =
      n.counters.modify id change := by
  refine List.ext_getElem? fun i => ?_
  simp only [counters, List.getElem?_map, List.getElem?_modify]
  split <;> cases n.servers[i]? <;> rfl

theorem afterAnswer_counters (n : Network) (id : Nat) (answer : Connection.Answer) :
    (n.afterAnswer id answer).counters = n.counters.modify id fun _ => answer.exchange.counter :=
  n.modify_counters id fun _ => answer.exchange.counter

/-- All that an action can do to requests and counters if no connection is read on: it leaves them
alone but for the fresh counters of new servers, a server that listens answers a request, or a
counter is changed from outside. -/
theorem Quiet.make_cases (h : n.Quiet) (action : Action) :
    ((n.make action).1.flights.map Flight.fixed = n.flights.map Flight.fixed ∧
      ∃ new, (n.make action).1.counters = n.counters ++ new ∧ ∀ c ∈ new, c = .fresh) ∨
    (∃ id s answer bytes, n.servers[id]? = some s ∧ s.isListening = true ∧
      (Connection.ofBytes bytes).next s.service s.counter = some answer ∧
      n.make action = (n.afterAnswer id answer, .sent (some n.flights.length))) ∨
    ∃ id change, (action = .reset id ∧ change = (fun _ => .fresh) ∨
        ∃ step, action = .advance id step ∧ change = (·.advance step)) ∧
      (n.make action).1.flights = n.flights ∧
      (n.make action).1.counters = n.counters.modify id change := by
  have hsame : ∀ {m : Network}, m.counters = n.counters →
      ∃ new, m.counters = n.counters ++ new ∧ ∀ c ∈ new, c = .fresh := fun heq =>
    ⟨[], by rw [heq, List.append_nil], nofun⟩
  cases action with
  | start settings token =>
    rw [make_start]
    split
    · next hstart =>
      obtain ⟨_, _, _, _, rfl⟩ := start_ok hstart
      exact .inl ⟨rfl, [.fresh], by simp [counters, listen, log], by simp⟩
    · exact .inl ⟨rfl, hsame rfl⟩
  | stop server =>
    have hflights : (n.make (.stop server)).1.flights = n.flights := (n.stop_flights server).1
    exact .inl ⟨hflights ▸ rfl, hsame (n.stop_counters server)⟩
  | wait server => exact .inl ⟨rfl, hsame rfl⟩
  | cancel token =>
    have hflights : (n.make (.cancel token)).1.flights = n.flights := (n.cancel_flights token).1
    exact .inl ⟨hflights ▸ rfl, hsame (n.cancel_counters token)⟩
  | request address bytes =>
    cases hconnect : n.connect address with
    | error fault =>
      rw [make_request, hconnect]
      exact .inl ⟨rfl, hsame rfl⟩
    | ok id =>
      obtain ⟨s, hs, hlistening, _⟩ := exists_of_connect hconnect
      rw [make_request_of_connect hconnect hs]
      split
      · exact .inl ⟨rfl, hsame rfl⟩
      · next answer hanswer =>
        exact .inr (.inl ⟨id, s, answer, bytes, hs, hlistening, hanswer, rfl⟩)
  | abandon other =>
    have hservers : (n.make (.abandon other)).1.counters = n.counters := by
      show (n.abandon other).counters = n.counters
      rw [Network.abandon]
      split <;> rfl
    exact .inl ⟨n.abandon_fixed other, hsame hservers⟩
  | advance server step =>
    exact .inr (.inr ⟨server, (·.advance step), .inr ⟨step, rfl, rfl⟩, rfl,
      n.modify_counters server (·.advance step)⟩)
  | reset server =>
    exact .inr (.inr ⟨server, fun _ => .fresh, .inl ⟨rfl, rfl⟩, rfl,
      n.modify_counters server fun _ => .fresh⟩)
  | pass ms =>
    have hpass : (n.make (.pass ms)).1 = { n with now := n.now + ms } := h.pass ms
    rw [hpass]
    exact .inl ⟨rfl, hsame rfl⟩

/-! ## Sessions -/

/-- An action reads at most one request, and only if it connects a client. -/
theorem Quiet.make_flights_length (h : n.Quiet) (action : Action) :
    (n.make action).1.flights.length ≤
      n.flights.length + [(n.make action).2].countP Result.isConnected := by
  rcases h.make_cases action with ⟨hflights, _⟩ | ⟨id, s, answer, _, _, _, _, heq⟩ |
    ⟨id, change, _, hflights, _⟩
  · have hlength := congrArg List.length hflights
    simp only [List.length_map] at hlength
    omega
  · rw [heq]
    simp [afterAnswer, Result.isConnected]
  · rw [hflights]
    exact Nat.le_add_right _ _

/-- An action that is not from outside changes at most one counter, and only if it connects a
client. -/
theorem Quiet.make_changes (h : n.Quiet) {action : Action} (haction : action.isOutside = false) :
    changes n.counters (n.make action).1.counters ≤
      [(n.make action).2].countP Result.isConnected := by
  rcases h.make_cases action with ⟨_, new, hcounters, _⟩ | ⟨id, s, answer, _, _, _, _, heq⟩ |
    ⟨id, change, ⟨rfl, _⟩ | ⟨step, rfl, _⟩, _⟩
  · rw [changes_append ⟨new, hcounters.symm⟩]
    exact Nat.zero_le _
  · rw [heq, afterAnswer_counters]
    exact changes_modify_le _ id _
  · cases haction
  · cases haction

theorem Quiet.run_flights_length (h : n.Quiet) (actions : List Action) :
    (n.run actions).1.flights.length ≤
      n.flights.length + (n.run actions).2.countP Result.isConnected := by
  induction actions generalizing n with
  | nil => exact Nat.le_refl _
  | cons action rest ih =>
    have hfirst := h.make_flights_length action
    have hrest := ih (h.make action)
    rw [run_cons]
    show _ ≤ _ + ((n.make action).2 :: ((n.make action).1.run rest).2).countP Result.isConnected
    rw [← List.singleton_append, List.countP_append]
    omega

theorem Quiet.run_changes (h : n.Quiet) (actions : List Action) :
    n.requestChanges actions ≤ (n.run actions).2.countP Result.isConnected := by
  induction actions generalizing n with
  | nil => exact Nat.le_refl _
  | cons action rest ih =>
    have hrest := ih (h.make action)
    show _ ≤ ((n.make action).2 :: ((n.make action).1.run rest).2).countP Result.isConnected
    rw [requestChanges, ← List.singleton_append, List.countP_append]
    split
    · omega
    · next haction =>
      have hfirst := h.make_changes (Bool.not_eq_true _ ▸ haction)
      omega

/-! ## Servers that have been stopped -/

/-- What of its requests has been fixed by a server. -/
def readBy (n : Network) (id : Nat) : List Flight :=
  (n.flights.map Flight.fixed).filter (·.server == id)

/-- A server does not listen, its counter has this value, and these are its requests. -/
structure Retired (n : Network) (id : Nat) (c : Counter) (requests : List Flight) : Prop where
  valid : n.Valid
  quiet : n.Quiet
  silent : ∃ s, n.servers[id]? = some s ∧ s.isListening = false
  counter : n.counters[id]? = some c
  requests : n.readBy id = requests

/-- An action names this server to change its counter from outside. -/
def Action.Adjusts (id : Nat) (action : Action) : Prop :=
  action = .reset id ∨ ∃ step, action = .advance id step

namespace Retired

variable {c : Counter} {requests : List Flight}

/-- Nothing that clients do changes a server that has been stopped. -/
theorem make (h : n.Retired id c requests) {action : Action} (haction : ¬ action.Adjusts id) :
    (n.make action).1.Retired id c requests := by
  obtain ⟨s, hs, hsilent⟩ := h.silent
  have hsilent' : ∃ s, (n.make action).1.servers[id]? = some s ∧ s.isListening = false := by
    obtain ⟨s', hs', _, _, _, hlistening⟩ := h.valid.make_servers action hs
    refine ⟨s', hs', ?_⟩
    rw [← Bool.not_eq_true, hlistening]
    simp [hsilent]
  have hrest : (n.make action).1.counters[id]? = some c ∧ (n.make action).1.readBy id = requests := by
    rcases h.quiet.make_cases action with ⟨hflights, new, hcounters, _⟩ |
      ⟨other, s', answer, _, hs', hlistens, _, heq⟩ | ⟨other, change, hadjusts, hflights, hcounters⟩
    · have hlt := (List.getElem?_eq_some_iff.1 h.counter).1
      rw [hcounters, List.getElem?_append_left hlt, readBy, hflights]
      exact ⟨h.counter, h.requests⟩
    · -- The server that answers listens, so it is another one.
      have hne : other ≠ id := by
        rintro rfl
        rw [hs] at hs'
        cases hs'
        rw [hsilent] at hlistens
        cases hlistens
      have hnot : ((Flight.ofAnswer other n.now answer).fixed.server == id) = false :=
        beq_eq_false_iff_ne.2 hne
      rw [heq, afterAnswer_counters, List.getElem?_modify_ne _ _ hne]
      refine ⟨h.counter, ?_⟩
      rw [readBy, afterAnswer, List.map_append, List.filter_append, List.map_singleton,
        List.filter_cons_of_neg (by simp [hnot]), List.filter_nil, List.append_nil]
      exact h.requests
    · have hne : other ≠ id := by
        rintro rfl
        rcases hadjusts with ⟨hreset, _⟩ | ⟨step, hadvance, _⟩
        · exact haction (.inl hreset)
        · exact haction (.inr ⟨step, hadvance⟩)
      rw [hcounters, List.getElem?_modify_ne _ _ hne, readBy, hflights]
      exact ⟨h.counter, h.requests⟩
  exact ⟨h.valid.make action, h.quiet.make action, hsilent', hrest.1, hrest.2⟩

theorem run (h : n.Retired id c requests) {actions : List Action}
    (hactions : ∀ action ∈ actions, ¬ action.Adjusts id) :
    (n.run actions).1.Retired id c requests := by
  induction actions generalizing n with
  | nil => exact h
  | cons action rest ih =>
    rw [run_cons]
    exact ih (h.make (hactions action List.mem_cons_self))
      fun other hother => hactions other (List.mem_cons_of_mem _ hother)

end Retired

/-! ## Every connection -/

/-- The connections of a machine get one request each. -/
structure SingleRequests (n : Network) : Prop where
  /-- A server answers the head with which the bytes of a client begin, and nothing else happens,
  whatever follows the head. -/
  only : ∀ (id : Nat) (s : Server) bytes head rest, n.servers[id]? = some s →
    s.isListening = true → Incoming.read bytes = .complete head rest →
    ∃ first, bytes = first ++ rest ∧ ∀ more, Incoming.read (first ++ more) = .complete head more ∧
      n.make (.request s.address (first ++ more)) =
        (n.afterAnswer id ⟨s.service.answer s.counter head.request, head.version, .closed⟩,
          .sent (some n.flights.length))
  /-- A connection that has had its request takes no other one. -/
  closed : ∀ f ∈ n.flights, ∀ bytes service c,
    (f.connection.receive bytes).next service c = none
  /-- While time passes, nothing but the clock moves. -/
  pass : ∀ ms, n.pass ms = { n with now := n.now + ms }
  /-- A server that is stopped gets no other request, and no client can change its counter. -/
  stopped : ∀ (id : Nat) (s : Server) actions, n.servers[id]? = some s →
    (∀ action ∈ actions, ¬ Action.Adjusts id action) →
    let m := ((n.stop id).run actions).1
    m.counters[id]? = some s.counter ∧ m.readBy id = n.readBy id

theorem Retired.stop (hn : n.Valid) (h : n.Quiet) (hs : n.servers[id]? = some s) :
    (n.stop id).Retired id s.counter (n.readBy id) := by
  have hmake : (n.make (.stop id)).1 = n.stop id := rfl
  have hcounter : n.counters[id]? = some s.counter := by
    rw [counters, List.getElem?_map, hs]
    rfl
  obtain ⟨s', hs', _, _, _, hlistening⟩ := hn.make_servers (.stop id) hs
  refine ⟨hmake ▸ hn.make (.stop id), hmake ▸ h.make (.stop id), ⟨s', hs', ?_⟩, ?_, ?_⟩
  · rw [← Bool.not_eq_true, hlistening]
    simp [cancels?, hs]
  · rw [n.stop_counters]
    exact hcounter
  · rw [readBy, (n.stop_flights id).1]
    rfl

theorem Quiet.singleRequests (h : n.Quiet) (hn : n.Valid) (hlink : n.link = .up) :
    n.SingleRequests where
  only id s bytes head rest hs hlistening hread := by
    obtain ⟨first, rfl, hfirst⟩ := Incoming.read_split hread
    obtain ⟨settings, hservice⟩ := h.servers s (List.mem_of_getElem? hs)
    have hconnect := (hn.connect_eq_ok hlink).2 ⟨s, hs, hlistening, rfl⟩
    refine ⟨first, rfl, fun more => ⟨hfirst more, ?_⟩⟩
    rw [make_request_of_connect hconnect hs, hservice, Connection.next_of_complete (hfirst more)]
  closed f hf := Connection.next_receive (h.flights f hf)
  pass := h.pass
  stopped id s actions hs hactions := by
    have hretired := (Retired.stop hn h hs).run hactions
    exact ⟨hretired.counter, hretired.requests⟩

/-- In every session every connection gets one request, in every state. There are no more requests
than connections, and requests have not changed counters more often than clients have connected. -/
theorem one_request_per_connection (taken : List Socket) (actions : List Action) :
    let connections := ((fresh .up taken).run actions).2.countP Result.isConnected
    ((fresh .up taken).run actions).1.SingleRequests ∧
      ((fresh .up taken).run actions).1.flights.length ≤ connections ∧
      (fresh .up taken).requestChanges actions ≤ connections := by
  have hquiet := fresh_quiet .up taken
  refine ⟨(hquiet.run actions).singleRequests ((fresh_valid .up taken).run actions)
    ((fresh .up taken).run_frame actions).1, ?_, hquiet.run_changes actions⟩
  have hlength := hquiet.run_flights_length actions
  rwa [show (fresh .up taken).flights.length = 0 from rfl, Nat.zero_add] at hlength

/-- Behind the head of a turn come a reset and another turn, and both are lost: the one request, its
response and the counter are as if the head had come alone, and one counter has changed once. -/
example :
    let get := fun path => Http.Request.bytes "GET" path "HTTP/1.1" []
    let turn := get "/eachThirdReturns200Others503"
    let pipeline := turn ++ get "/resetCounter" ++ turn
    let session := fun bytes : List UInt8 =>
      [Action.start .default none, .request ⟨.localhost, 12345⟩ bytes]
    let seen := fun n : Network => (n.counters, n.flights.map fun f => (f.begun, f.response))
    seen ((fresh .up []).run (session pipeline)).1 = seen ((fresh .up []).run (session turn)).1 ∧
      ((fresh .up []).run (session pipeline)).1.counters = [⟨12⟩] ∧
      ((fresh .up []).run (session pipeline)).1.flights.length = 1 ∧
      (fresh .up []).requestChanges (session pipeline) = 1 := by
  decide +kernel

end Network

end FaultyServer
