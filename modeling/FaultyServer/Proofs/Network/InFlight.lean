import FaultyServer.Proofs.Network.LifeCycle

/-!
# Requests in flight

What a request gets, and when, is fixed once a server has read it. No action changes it but that of
its own client, who may give up (`Network.Keeps`), and time never goes back; so the response comes,
whole, at the instant at which it is complete (`Network.delivery?`).

* `make_flights`: all that an action can do to the requests;
* `make_keeps`, `run_keeps`: an action, and so a session, keeps a request unless its client gives
  up;
* `Valid.make_answered`: every request has been read by its server, which has fixed the response and
  the delay;
* `in_flight_committed`: what a request in flight gets, whatever follows.
-/

namespace FaultyServer

open Address (Socket)
open Http (Received)

/-- What of a request is fixed once it has been read. -/
def Flight.fixed (f : Flight) : Flight := { f with connection := .closed, isAbandoned := false }

/-- A service has answered a request, with the counter as it was then. -/
def Flight.AnsweredBy (f : Flight) (service : Service) : Prop :=
  ∃ connection counter answer, Connection.next connection service counter = some answer ∧
    f.fixed = (Flight.ofAnswer f.server f.begun answer).fixed

theorem Flight.AnsweredBy.congr {f g : Flight} {service : Service} (h : g.AnsweredBy service)
    (hfixed : g.fixed = f.fixed) : f.AnsweredBy service := by
  obtain ⟨connection, counter, answer, hanswer, heq⟩ := h
  obtain ⟨hserver, _, _, hbegun, _⟩ := Flight.mk.inj hfixed
  refine ⟨connection, counter, answer, hanswer, ?_⟩
  rw [← hfixed, ← hserver, ← hbegun]
  exact heq

/-- A change that leaves alone what is fixed of a request. -/
theorem Flight.map_fixed_modify {change : Flight → Flight}
    (hchange : ∀ f, (change f).fixed = f.fixed) (flights : List Flight) (id : Nat) :
    (flights.modify id change).map Flight.fixed = flights.map Flight.fixed := by
  refine List.ext_getElem? fun i => ?_
  simp only [List.getElem?_map, List.getElem?_modify]
  cases flights[i]? with
  | none => rfl
  | some f =>
    refine congrArg some ?_
    dsimp only
    split
    · exact hchange f
    · rfl

theorem Flight.mem_modify_fixed {flights : List Flight} {id : Nat} {change : Flight → Flight}
    (hchange : ∀ f, (change f).fixed = f.fixed) :
    ∀ g ∈ flights.modify id change, ∃ f ∈ flights, g.fixed = f.fixed := by
  intro g hg
  have hmem : g.fixed ∈ flights.map Flight.fixed :=
    Flight.map_fixed_modify hchange flights id ▸ List.mem_map_of_mem hg
  obtain ⟨f, hf, heq⟩ := List.mem_map.1 hmem
  exact ⟨f, hf, heq.symm⟩

/-- What a client has got, and when it was complete. -/
structure Delivery where
  received : Received
  time : Nat

namespace Network

variable {n m : Network} {id stop fuel : Nat} {f : Flight}

/-- What the client of a request has got, once the response is complete. -/
def delivery? (n : Network) (id : Nat) : Option Delivery :=
  (n.flights[id]?).bind fun f =>
    if f.isAbandoned || n.now < f.finish then none else some ⟨f.received, f.finish⟩

/-! ## Time -/

@[simp]
theorem read_now (n : Network) (id : Nat) (connection : Connection) :
    (n.read id connection).now = n.now := by
  rw [read]
  split
  · rfl
  · split <;> rfl

theorem foldl_sooner {due : List (Flight × Nat)} {first : Option (Nat × Flight)}
    (h : due.foldl sooner first = some (id, f)) : (f, id) ∈ due ∨ first = some (id, f) := by
  induction due generalizing first with
  | nil => exact .inr h
  | cons next rest ih =>
    rcases ih h with hmem | heq
    · exact .inl (List.mem_cons_of_mem _ hmem)
    · have hcases : sooner first next = first ∨ sooner first next = some (next.2, next.1) := by
        unfold sooner
        split
        · split <;> simp
        · exact .inr rfl
      rcases hcases with hfirst | hnext
      · exact .inr (hfirst ▸ heq)
      · obtain ⟨rfl, rfl⟩ := Prod.mk.inj (Option.some.inj (hnext.symm.trans heq))
        exact .inl List.mem_cons_self

/-- The next response to be complete is one of an open connection. -/
theorem nextOpen?_eq_some (h : n.nextOpen? stop = some (id, f)) :
    n.flights[id]? = some f ∧ f.connection.isOpen = true ∧ f.finish ≤ stop := by
  have hmem := (foldl_sooner h).resolve_right nofun
  obtain ⟨hindex, hopen⟩ := List.mem_filter.1 hmem
  simp only [Bool.and_eq_true, decide_eq_true_eq] at hopen
  exact ⟨List.mem_zipIdx_iff_getElem?.1 hindex, hopen⟩

/-- Time passes up to the given instant. -/
theorem passWith_now (h : n.now ≤ stop) : (n.passWith stop fuel).now = stop := by
  induction fuel generalizing n with
  | zero => exact Nat.max_eq_right h
  | succ fuel ih =>
    rw [passWith]
    split
    · exact Nat.max_eq_right h
    · next id f hnext =>
      have hle := (nextOpen?_eq_some hnext).2.2
      refine ih ?_
      rw [readOn, read_now]
      exact Nat.max_le.2 ⟨h, hle⟩

theorem pass_now (n : Network) (ms : Nat) : (n.pass ms).now = n.now + ms :=
  passWith_now (Nat.le_add_right _ _)

/-! ## What an action keeps -/

/-- Time has not gone back, and a request is what it was; if its client waited, it still does. -/
structure Keeps (id : Nat) (n m : Network) : Prop where
  now_le : n.now ≤ m.now
  flight : ∀ f, n.flights[id]? = some f →
    ∃ g, m.flights[id]? = some g ∧ g.fixed = f.fixed ∧ g.isAbandoned = f.isAbandoned

namespace Keeps

theorem refl (id : Nat) (n : Network) : Keeps id n n :=
  ⟨Nat.le_refl _, fun f hf => ⟨f, hf, rfl, rfl⟩⟩

theorem trans {k : Network} (h₁ : Keeps id n m) (h₂ : Keeps id m k) : Keeps id n k := by
  refine ⟨Nat.le_trans h₁.now_le h₂.now_le, fun f hf => ?_⟩
  obtain ⟨g, hg, hfixed, habandoned⟩ := h₁.flight f hf
  obtain ⟨g', hg', hfixed', habandoned'⟩ := h₂.flight g hg
  exact ⟨g', hg', hfixed'.trans hfixed, habandoned'.trans habandoned⟩

/-- New requests come after the old ones. -/
theorem of_append (flights : List Flight) (hnow : n.now ≤ m.now)
    (hflights : m.flights = n.flights ++ flights) : Keeps id n m := by
  refine ⟨hnow, fun f hf => ⟨f, ?_, rfl, rfl⟩⟩
  have hlt : id < n.flights.length := (List.getElem?_eq_some_iff.1 hf).1
  rw [hflights, List.getElem?_append_left hlt]
  exact hf

end Keeps

theorem read_keeps (n : Network) (server : Nat) (connection : Connection) :
    Keeps id n (n.read server connection) := by
  rcases hs : n.servers[server]? with _ | s
  · rw [show n.read server connection = n by rw [read, hs]]
    exact .refl id n
  · exact .of_append _ (Nat.le_of_eq (read_now ..).symm) (read_flights hs connection)

theorem readOn_keeps (n : Network) (other : Nat) (f : Flight) : Keeps id n (n.readOn other f) := by
  -- The old connection is closed first, which is not a part of what is fixed.
  refine .trans ⟨Nat.le_max_left n.now f.finish, fun g hg => ?_⟩ (read_keeps _ _ _)
  refine ⟨if other = id then { g with connection := .closed } else g, ?_, ?_, ?_⟩
  · simp only [List.getElem?_modify, hg]
    split <;> rfl
  · split <;> rfl
  · split <;> rfl

theorem passWith_keeps (n : Network) (stop fuel : Nat) : Keeps id n (n.passWith stop fuel) := by
  induction fuel generalizing n with
  | zero => exact ⟨Nat.le_max_left _ _, fun f hf => ⟨f, hf, rfl, rfl⟩⟩
  | succ fuel ih =>
    rw [passWith]
    split
    · exact ⟨Nat.le_max_left _ _, fun f hf => ⟨f, hf, rfl, rfl⟩⟩
    · next other f _ => exact .trans (n.readOn_keeps other f) (ih _)

/-- Another client that gives up does not matter. -/
theorem abandon_keeps {other : Nat} (h : other ≠ id) (n : Network) :
    Keeps id n (n.abandon other) := by
  rw [abandon]
  split
  · refine ⟨Nat.le_refl _, fun f hf => ⟨f, ?_, rfl, rfl⟩⟩
    simpa [List.getElem?_modify, h] using hf
  · exact .refl id n

theorem cancel_flights (n : Network) (token : Nat) :
    (n.cancel token).flights = n.flights ∧ (n.cancel token).now = n.now := by
  rw [cancel]
  split <;> exact ⟨rfl, rfl⟩

theorem stop_flights (n : Network) (server : Nat) :
    (n.stop server).flights = n.flights ∧ (n.stop server).now = n.now := by
  rw [stop]
  split
  · exact ⟨rfl, rfl⟩
  · next s _ =>
    dsimp only
    split <;> exact n.cancel_flights s.token

/-- All that an action can do to the requests: it leaves them alone, a server reads a new one, a
client gives up, or time passes. -/
theorem make_flights (n : Network) (action : Action) :
    ((n.make action).1.flights = n.flights ∧ (n.make action).1.now = n.now) ∨
    (∃ server connection, (n.make action).1 = n.read server connection) ∨
    (∃ other, action = .abandon other ∧ (n.make action).1 = n.abandon other) ∨
    ∃ stop fuel, (n.make action).1 = n.passWith stop fuel := by
  cases action with
  | start settings token =>
    rw [make_start]
    split
    · next h =>
      obtain ⟨_, _, _, _, rfl⟩ := start_ok h
      exact .inl ⟨rfl, rfl⟩
    · exact .inl ⟨rfl, rfl⟩
  | stop server => exact .inl (n.stop_flights server)
  | wait server => exact .inl ⟨rfl, rfl⟩
  | cancel token => exact .inl (n.cancel_flights token)
  | request address bytes =>
    rw [make_request]
    split
    · next server _ => exact .inr (.inl ⟨server, .ofBytes bytes, rfl⟩)
    · exact .inl ⟨rfl, rfl⟩
  | abandon other => exact .inr (.inr (.inl ⟨other, rfl, rfl⟩))
  | advance server step => exact .inl ⟨rfl, rfl⟩
  | reset server => exact .inl ⟨rfl, rfl⟩
  | pass ms => exact .inr (.inr (.inr ⟨_, _, rfl⟩))

/-- Every action keeps a request, unless its own client gives up. -/
theorem make_keeps (n : Network) (action : Action) (h : action ≠ .abandon id) :
    Keeps id n (n.make action).1 := by
  rcases n.make_flights action with ⟨hflights, hnow⟩ | ⟨server, connection, heq⟩ |
    ⟨other, rfl, heq⟩ | ⟨stop, fuel, heq⟩
  · exact .of_append [] (Nat.le_of_eq hnow.symm) (by rw [hflights, List.append_nil])
  · rw [heq]
    exact n.read_keeps server connection
  · rw [heq]
    exact abandon_keeps (fun hid => h (congrArg _ hid)) n
  · rw [heq]
    exact n.passWith_keeps stop fuel

/-- Every session keeps a request, unless its own client gives up. -/
theorem run_keeps (n : Network) {actions : List Action} (h : .abandon id ∉ actions) :
    Keeps id n (n.run actions).1 := by
  induction actions generalizing n with
  | nil => exact .refl id n
  | cons action rest ih =>
    obtain ⟨hne, hrest⟩ := not_or.1 (mt List.mem_cons.2 h)
    exact (n.make_keeps action (Ne.symm hne)).trans (ih _ hrest)

/-! ## Who has answered -/

/-- Every server is still there, with its service. -/
def Serves (n m : Network) : Prop :=
  ∀ (id : Nat) (s : Server), n.servers[id]? = some s →
    ∃ s', m.servers[id]? = some s' ∧ s'.service = s.service

theorem Alike.serves (h : Alike n m) : Serves n m := by
  intro id s hs
  obtain ⟨s', hs', hfixed⟩ := h.getElem? hs
  exact ⟨s', hs', (Server.mk.inj hfixed).2.1⟩

/-- Every request has been read by now, and its server has answered it. -/
def Answered (n : Network) : Prop :=
  ∀ f ∈ n.flights, f.begun ≤ n.now ∧ ∃ s, n.servers[f.server]? = some s ∧ f.AnsweredBy s.service

theorem Answered.mono (h : n.Answered) (hnow : n.now ≤ m.now) (hserves : Serves n m)
    (hflights : ∀ g ∈ m.flights, ∃ f ∈ n.flights, g.fixed = f.fixed) : m.Answered := by
  intro g hg
  obtain ⟨f, hf, hfixed⟩ := hflights g hg
  obtain ⟨hbegun, s, hs, hanswered⟩ := h f hf
  obtain ⟨hserver, _, _, hbegun', _⟩ := Flight.mk.inj hfixed
  obtain ⟨s', hs', hservice⟩ := hserves _ s hs
  refine ⟨?_, s', ?_, hservice ▸ hanswered.congr hfixed.symm⟩
  · rw [hbegun']
    exact Nat.le_trans hbegun hnow
  · rw [hserver]
    exact hs'

theorem Answered.read (h : n.Answered) (server : Nat) (connection : Connection) :
    (n.read server connection).Answered := by
  rcases hs : n.servers[server]? with _ | s
  · rw [show n.read server connection = n by rw [Network.read, hs]]
    exact h
  · have hserves := (n.read_alike server connection).serves
    intro g hg
    rw [read_flights hs] at hg
    rw [read_now]
    rcases List.mem_append.1 hg with hg | hg
    · obtain ⟨hbegun, s', hs', hanswered⟩ := h g hg
      obtain ⟨s'', hs'', hservice⟩ := hserves _ s' hs'
      exact ⟨hbegun, s'', hs'', hservice ▸ hanswered⟩
    · -- The new request, which the server has just answered.
      obtain ⟨answer, hanswer, rfl⟩ := Option.map_eq_some_iff.1 (Option.mem_toList.1 hg)
      obtain ⟨s', hs', hservice⟩ := hserves server s hs
      exact ⟨Nat.le_refl _, s', hs', connection, s.counter, answer, hservice ▸ hanswer, rfl⟩

theorem Answered.later (h : n.Answered) (time : Nat) :
    Answered { n with now := max n.now time } :=
  h.mono (Nat.le_max_left _ _) (Alike.serves ⟨rfl, rfl, rfl, rfl⟩) fun g hg => ⟨g, hg, rfl⟩

theorem Answered.readOn (h : n.Answered) (other : Nat) (f : Flight) :
    (n.readOn other f).Answered := by
  have hclosed : Answered { n with
      now := max n.now f.finish
      flights := n.flights.modify other fun f => { f with connection := .closed } } :=
    h.mono (Nat.le_max_left _ _) (Alike.serves ⟨rfl, rfl, rfl, rfl⟩)
      (Flight.mem_modify_fixed fun _ => rfl)
  exact hclosed.read f.server f.connection

theorem Answered.passWith (h : n.Answered) (stop fuel : Nat) : (n.passWith stop fuel).Answered := by
  induction fuel generalizing n with
  | zero => exact h.later stop
  | succ fuel ih =>
    rw [Network.passWith]
    split
    · exact h.later stop
    · next other f _ => exact ih (h.readOn other f)

theorem Answered.abandon (h : n.Answered) (other : Nat) : (n.abandon other).Answered := by
  rw [Network.abandon]
  split
  · exact h.mono (Nat.le_refl _) (Alike.serves ⟨rfl, rfl, rfl, rfl⟩)
      (Flight.mem_modify_fixed fun _ => rfl)
  · exact h

/-- Every action leaves every request answered by its server. -/
theorem Valid.make_answered (hn : n.Valid) (h : n.Answered) (action : Action) :
    (n.make action).1.Answered := by
  have hserves : Serves n (n.make action).1 := fun id s hs => by
    obtain ⟨s', hs', _, _, hservice, _⟩ := hn.make_servers action hs
    exact ⟨s', hs', hservice⟩
  rcases n.make_flights action with ⟨hflights, hnow⟩ | ⟨server, connection, heq⟩ |
    ⟨other, _, heq⟩ | ⟨stop, fuel, heq⟩
  · exact h.mono (Nat.le_of_eq hnow.symm) hserves fun g hg => ⟨g, hflights ▸ hg, rfl⟩
  · rw [heq]
    exact h.read server connection
  · rw [heq]
    exact h.abandon other
  · rw [heq]
    exact h.passWith stop fuel

theorem Valid.run_answered (hn : n.Valid) (h : n.Answered) (actions : List Action) :
    (n.run actions).1.Answered := by
  induction actions generalizing n with
  | nil => exact h
  | cons action rest ih =>
    rw [run_cons]
    exact ih (hn.make action) (hn.make_answered h action)

/-! ## What a client gets -/

/-- What a session leaves of a request whose client has not given up: when its response is complete
the client has got it, and not before. -/
theorem delivery?_of_kept (hf : n.flights[id]? = some f) (hnot : f.isAbandoned = false)
    (actions : List Action) (h : .abandon id ∉ actions) :
    (n.run actions).1.delivery? id =
      if (n.run actions).1.now < f.finish then none else some ⟨f.received, f.finish⟩ := by
  obtain ⟨g, hg, hfixed, habandoned⟩ := (n.run_keeps h).flight f hf
  have hfinish : g.finish = f.finish := by
    show g.fixed.finish = f.fixed.finish
    rw [hfixed]
  have hreceived : g.received = f.received := by
    show g.fixed.received = f.fixed.received
    rw [hfixed]
  simp only [delivery?, hg, Option.bind_some, habandoned, hnot, Bool.false_or, hfinish, hreceived,
    decide_eq_true_eq]

/-- What a session leaves of a request in flight. -/
theorem delivery?_run (hf : n.flights[id]? = some f) (hflight : n.isInFlight id = true)
    (actions : List Action) (h : .abandon id ∉ actions) :
    (n.run actions).1.delivery? id =
      if (n.run actions).1.now < f.finish then none else some ⟨f.received, f.finish⟩ := by
  rw [isInFlight, hf] at hflight
  simp only [Bool.and_eq_true, Bool.not_eq_true'] at hflight
  exact delivery?_of_kept hf hflight.1 actions h

/-- A request that a server has read and whose client still waits is answered as it was fixed then,
whatever follows, unless the client gives up: its server has fixed the response and the delay, and
when exactly that delay is over, exactly that response is there. Stopping the server, or waiting for
it once its token has been cancelled, does not wait for the request. -/
theorem in_flight_committed (taken : List Socket) (before after : List Action)
    (hf : ((fresh .up taken).run before).1.flights[id]? = some f)
    (hflight : ((fresh .up taken).run before).1.isInFlight id = true)
    (habandon : .abandon id ∉ after) :
    let n := ((fresh .up taken).run before).1
    let m := (n.run after).1
    f.begun ≤ n.now ∧
    m.delivery? id = (if m.now < f.begun + f.totalDelay then none
      else some ⟨f.response.write f.version, f.begun + f.totalDelay⟩) ∧
    (∀ ms, f.begun + f.totalDelay ≤ m.now + ms → (m.pass ms).now = m.now + ms ∧
      (m.pass ms).delivery? id = some ⟨f.response.write f.version, f.begun + f.totalDelay⟩) ∧
    ∃ s, m.servers[f.server]? = some s ∧ f.AnsweredBy s.service ∧
      (∃ k, m.make (.stop f.server) = (k, .done) ∧ k.isCancelled s.token = true ∧
        k.now = m.now ∧ k.flights = m.flights) ∧
      (m.isCancelled s.token = true → m.make (.wait f.server) = (m, .done)) := by
  intro n m
  have hn : n.Valid := (fresh_valid .up taken).run before
  have hanswered : n.Answered := (fresh_valid .up taken).run_answered nofun before
  -- The request is still there, so that its server is the one that has answered it.
  obtain ⟨g, hg, hfixed, _⟩ := (n.run_keeps habandon).flight f hf
  obtain ⟨_, s, hs, hby⟩ := hn.run_answered hanswered after g (List.mem_of_getElem? hg)
  have hserver : g.server = f.server := (Flight.mk.inj hfixed).1
  rw [hserver] at hs
  refine ⟨(hanswered f (List.mem_of_getElem? hf)).1, delivery?_run hf hflight after habandon,
    fun ms hms => ⟨m.pass_now ms, ?_⟩, s, hs, hby.congr hfixed, ?_, fun hcancelled => ?_⟩
  · -- Letting time pass is an action like those before it.
    have hrun := delivery?_run hf hflight (after ++ [.pass ms]) (by simpa using habandon)
    have hpass : (n.run (after ++ [.pass ms])).1 = m.pass ms := n.run_append after [.pass ms]
    rw [hpass, m.pass_now, if_neg (by simpa [Flight.finish] using hms)] at hrun
    exact hrun
  · obtain ⟨hflights, hnow⟩ := m.stop_flights f.server
    refine ⟨m.stop f.server, rfl, ?_, hnow, hflights⟩
    rw [isCancelled, (stop_alike hs).cancelled]
    exact (m.isCancelled_cancel s.token s.token).trans (by simp)
  · have halive := (hn.run after).alive s (List.mem_of_getElem? hs)
    show (m, _) = _
    rw [hs, Option.any_some, halive, hcancelled]
    rfl

/-- A request that hangs for five minutes, while its server is stopped and another one takes its
place. -/
theorem in_flight_committed_restart :
    let bytes := Http.Request.bytes "GET" "/hang" "HTTP/1.1" []
    let before : List Action :=
      [.start Settings.default none, .request ⟨.localhost, 12345⟩ bytes]
    let after : List Action := [.stop 0, .start Settings.default none]
    let n := ((fresh .up []).run before).1
    ∃ f, n.flights[0]? = some f ∧ n.isInFlight 0 = true ∧ .abandon 0 ∉ after ∧
      ((n.run after).1.pass 300000).delivery? 0 = some ⟨f.response.write f.version, 300000⟩ := by
  intro bytes before after n
  have hfinish : (n.flights[0]?).map Flight.finish = some 300000 := by decide +kernel
  obtain ⟨f, hf, heq⟩ := Option.map_eq_some_iff.1 hfinish
  have hflight : n.isInFlight 0 = true := by decide +kernel
  have habandon : .abandon 0 ∉ after := by simp [after]
  obtain ⟨_, _, hpass, _⟩ := in_flight_committed [] before after hf hflight habandon
  rw [show f.begun + f.totalDelay = 300000 from heq] at hpass
  have hdelivery := (hpass 300000 (Nat.le_add_left _ _)).2
  exact ⟨f, hf, hflight, habandon, hdelivery⟩

end Network

end FaultyServer
