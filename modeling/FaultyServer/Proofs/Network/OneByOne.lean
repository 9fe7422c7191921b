import FaultyServer.Proofs.Network.InFlight
import FaultyServer.Proofs.Service.Router
import Mathlib.Algebra.GroupWithZero.Nat

/-!
# Requests one by one

The servers of applications close every connection after its first response, so that nothing but
the clock moves between two requests (`Network.Quiet`). A client that sends its requests one by one
is therefore answered by a server as by the router inside it, request for request, and each response
only says in addition that the connection is closed (`levels_agree`).

* `Connection.next_frame`: an answer that does not depend on the counter;
* `Quiet.make`, `Quiet.run`: in no session is a connection read on;
* `Ready.send_eq`: what is left of the machine by one request;
* `Ready.sendAll_ready`, `Ready.sendAll_flights`: what is left by many;
* `Ready.sendAll_congr`: requests that cannot be told apart leave the same machine.
-/

namespace FaultyServer

open Address (Socket)

/-- The value says one thing only, that the connection closes. -/
theorem Http.listItems_close : listItems "close" = ["close"] := by
  have hstart : "close".toSlice.startsWith Char.isWhitespace = false := by decide +kernel
  have hend : "close".toSlice.endsWith Char.isWhitespace = false := by decide +kernel
  have htrim : "close".trimAscii = "close".toSlice := by
    change ("close".toSlice.dropWhile Char.isWhitespace).dropEndWhile Char.isWhitespace = _
    rw [String.Slice.dropWhile_eq_self hstart, String.Slice.dropEndWhile_eq_self hend]
  have hsplit : Text.split ',' "close" = ["close"] := by decide +kernel
  rw [listItems, hsplit, List.map_singleton, htrim]
  decide +kernel

/-- A response whose header says so ends its connection. -/
theorem Http.Response.closes_put (r : Response) :
    { r with headers := r.headers.put "connection" "close" : Response }.closes = true := by
  simp only [closes, Headers.values_put, List.any_cons, listItems_close, List.contains_cons,
    BEq.rfl, Bool.true_or]

namespace Connection

variable {settings : Settings} {c : Counter}

/-- After a response of an application's server there is nothing left to read. -/
theorem after_ofSettings (head : Http.Head) (request : Http.Request) (rest : List UInt8) :
    after head ((Service.ofSettings settings).answer c request).response rest = closed := by
  have hcloses : ((Service.ofSettings settings).answer c request).response.closes = true :=
    Http.Response.closes_put ((Service.ofSettings settings).bare.answer c request).response
  rw [after, hcloses]
  rfl

/-- The server of an application reads on on no connection. -/
theorem next_ofSettings {connection : Connection} {answer : Answer}
    (h : connection.next (.ofSettings settings) c = some answer) :
    answer.connection = closed := by
  rw [next] at h
  split at h
  · cases h
  · split at h
    · cases h
    · obtain rfl := Option.some.inj h
      rfl
    · obtain rfl := Option.some.inj h
      exact after_ofSettings _ _ _

/-- A whole head is answered whatever follows it, and then there is nothing left to read. -/
theorem next_of_complete {bytes rest : List UInt8} {head : Http.Head}
    (h : Http.Incoming.read bytes = .complete head rest) :
    (ofBytes bytes).next (.ofSettings settings) c =
      some ⟨(Service.ofSettings settings).answer c head.request, head.version, closed⟩ := by
  simp only [next, ofBytes, Bool.not_true, Bool.false_eq_true, if_false, h, after_ofSettings]

/-- If a request gets the same answer with another counter, but for the counter, then so does the
connection on which it comes. -/
theorem next_frame {service : Service} {connection : Connection} {c c' : Counter}
    (h : ∀ head rest, Http.Incoming.read connection.unread = .complete head rest →
      service.answer c head.request = { service.answer c' head.request with counter := c }) :
    connection.next service c = (connection.next service c').map fun answer =>
      { answer with exchange := { answer.exchange with counter := c } } := by
  rw [next, next]
  split
  · rfl
  · cases hread : Http.Incoming.read connection.unread with
    | partialHead => rfl
    | malformed => rfl
    | complete head rest =>
      dsimp only
      rw [h head rest hread]
      rfl

/-- Such a connection leaves the counter alone. -/
theorem counter_of_frame {service : Service} {connection : Connection} {answer : Answer}
    (h : connection.next service c = (connection.next service c).map fun answer =>
      { answer with exchange := { answer.exchange with counter := c } })
    (hanswer : connection.next service c = some answer) : answer.exchange.counter = c := by
  rw [hanswer] at h
  exact congrArg (·.exchange.counter) (Option.some.inj h)

end Connection

namespace Network

variable {n : Network} {id : Nat} {s : Server} {settings : Settings}

/-! ## Nothing is read on -/

/-- All servers are those of applications, and no connection is open after its first response. -/
structure Quiet (n : Network) : Prop where
  servers : ∀ s ∈ n.servers, ∃ settings, s.service = .ofSettings settings
  flights : ∀ f ∈ n.flights, f.connection.isOpen = false

theorem fresh_quiet (link : Link) (taken : List Socket) : (fresh link taken).Quiet :=
  ⟨fun _ hs => absurd hs List.not_mem_nil, fun _ hf => absurd hf List.not_mem_nil⟩

namespace Quiet

theorem passWith (h : n.Quiet) (stop fuel : Nat) :
    n.passWith stop fuel = { n with now := max n.now stop } := by
  cases fuel with
  | zero => rfl
  | succ fuel =>
    rw [Network.passWith]
    split
    · rfl
    · next id f hnext =>
      obtain ⟨hf, hopen, _⟩ := nextOpen?_eq_some hnext
      rw [h.flights f (List.mem_of_getElem? hf)] at hopen
      cases hopen

/-- Time that passes moves the clock and nothing else. -/
theorem pass (h : n.Quiet) (ms : Nat) : n.pass ms = { n with now := n.now + ms } := by
  rw [Network.pass, h.passWith, Nat.max_eq_right (Nat.le_add_right _ _)]

theorem read (h : n.Quiet) (id : Nat) (connection : Connection) :
    ∀ f ∈ (n.read id connection).flights, f.connection.isOpen = false := by
  rcases hs : n.servers[id]? with _ | s
  · rw [show n.read id connection = n by rw [Network.read, hs]]
    exact h.flights
  · intro f hf
    rw [read_flights hs] at hf
    rcases List.mem_append.1 hf with hf | hf
    · exact h.flights f hf
    · obtain ⟨answer, hanswer, rfl⟩ := Option.map_eq_some_iff.1 (Option.mem_toList.1 hf)
      obtain ⟨settings, hservice⟩ := h.servers s (List.mem_of_getElem? hs)
      rw [hservice] at hanswer
      exact congrArg (·.isOpen) (Connection.next_ofSettings hanswer)

theorem abandon (h : n.Quiet) (id : Nat) :
    ∀ f ∈ (n.abandon id).flights, f.connection.isOpen = false := by
  rw [Network.abandon]
  split
  · intro f hf
    obtain ⟨i, hi⟩ := List.getElem?_of_mem hf
    rw [List.getElem?_modify] at hi
    obtain ⟨g, hg, heq⟩ := Option.map_eq_some_iff.1 hi
    split at heq
    · exact heq ▸ rfl
    · exact heq ▸ h.flights g (List.mem_of_getElem? hg)
  · exact h.flights

/-- Every action leaves it so. -/
theorem make (h : n.Quiet) (action : Action) : (n.make action).1.Quiet := by
  refine ⟨make_forall (p := fun service _ => ∃ settings, service = .ofSettings settings)
    (fun settings _ _ _ _ => ⟨settings, rfl⟩) h.servers action, ?_⟩
  rcases n.make_flights action with ⟨hflights, _⟩ | ⟨server, connection, heq⟩ |
    ⟨other, _, heq⟩ | ⟨stop, fuel, heq⟩
  · rw [hflights]
    exact h.flights
  · rw [heq]
    exact h.read server connection
  · rw [heq]
    exact h.abandon other
  · rw [heq, h.passWith]
    exact h.flights

theorem run (h : n.Quiet) (actions : List Action) : (n.run actions).1.Quiet := by
  induction actions generalizing n with
  | nil => exact h
  | cons action rest ih =>
    rw [run_cons]
    exact ih (h.make action)

end Quiet

/-! ## Sending requests -/

/-- The machine when a server has answered a request. -/
def afterAnswer (n : Network) (id : Nat) (answer : Connection.Answer) : Network :=
  { n with
    servers := n.servers.modify id fun s => { s with counter := answer.exchange.counter }
    flights := n.flights ++ [.ofAnswer id n.now answer]
    events := n.events ++ answer.exchange.events }

/-- What becomes of the machine when a client has reached a server, and what the client sees. -/
theorem make_request_of_connect {address : Socket} (hconnect : n.connect address = .ok id)
    (hs : n.servers[id]? = some s) (bytes : List UInt8) :
    n.make (.request address bytes) =
      match (Connection.ofBytes bytes).next s.service s.counter with
      | none => (n, .sent none)
      | some answer => (n.afterAnswer id answer, .sent (some n.flights.length)) := by
  have hread : n.read id (.ofBytes bytes) =
      match (Connection.ofBytes bytes).next s.service s.counter with
      | none => n
      | some answer => n.afterAnswer id answer := by
    rw [read]
    rw [hs]
    rfl
  rw [make_request, hconnect]
  simp only [hread]
  split
  · simp
  · simp [afterAnswer]

/-- A request as a client sends it. -/
structure Sending where
  request : Http.Request
  version : Http.Version
  /-- The bytes of the request. -/
  bytes : List UInt8
  /-- How many milliseconds pass before anything else is sent. -/
  pause : Nat
  /-- The bytes reach a server as the request, whose body comes after the head that is read. -/
  carries : ∃ framing rest, Http.Incoming.read bytes =
    .complete ⟨{ request with body := "" }, version, framing⟩ rest

namespace Sending

/-- What the client does. -/
def actions (address : Socket) (sending : Sending) : List Action :=
  [.request address sending.bytes, .pass sending.pause]

/-- Two sendings that no server can tell apart. -/
structure Interchangeable (a b : Sending) : Prop where
  request : a.request.Interchangeable b.request
  version : a.version = b.version
  pause : a.pause = b.pause

/-- The request that a server has read from a sending. -/
def flight (sending : Sending) (server now : Nat) (exchange : Exchange) : Flight :=
  .ofAnswer server now ⟨exchange, sending.version, .closed⟩

theorem next_eq (sending : Sending) (settings : Settings) (c : Counter) :
    (Connection.ofBytes sending.bytes).next (.ofSettings settings) c =
      some ⟨(Service.ofSettings settings).answer c sending.request, sending.version,
        .closed⟩ := by
  obtain ⟨framing, rest, hread⟩ := sending.carries
  -- No service looks at the body.
  have hbody : Http.Request.Interchangeable { sending.request with body := "" } sending.request :=
    ⟨rfl, .inl rfl⟩
  rw [Connection.next_of_complete hread, Service.answer_congr _ _ hbody]

/-- The requests that a server reads from sendings in their order. -/
def flights (server : Nat) (service : Service) : Nat → Counter → List Sending → List Flight
  | _, _, [] => []
  | now, c, sending :: rest =>
    sending.flight server now (service.answer c sending.request) ::
      flights server service (now + sending.pause) (service.answer c sending.request).counter rest

/-- Each is answered after those before it, and begins when their pauses are over. -/
theorem getElem?_flights (server : Nat) (service : Service) (now : Nat) (c : Counter)
    (sendings : List Sending) (i : Nat) :
    (flights server service now c sendings)[i]? =
      (sendings[i]?).map fun sending =>
        sending.flight server (now + ((sendings.take i).map (·.pause)).sum)
          (service.answer (service.counterAfter c ((sendings.take i).map (·.request)))
            sending.request) := by
  induction sendings generalizing now c i with
  | nil => rfl
  | cons sending rest ih =>
    cases i with
    | zero => rfl
    | succ i =>
      rw [flights, List.getElem?_cons_succ, ih, List.getElem?_cons_succ, List.take_succ_cons,
        List.map_cons, List.sum_cons, Nat.add_assoc]
      rfl

end Sending

/-- A client sends requests one by one. -/
def sendAll (n : Network) (address : Socket) (sendings : List Sending) : Network × List Result :=
  n.run (sendings.flatMap (·.actions address))

theorem sendAll_cons (n : Network) (address : Socket) (sending : Sending) (rest : List Sending) :
    n.sendAll address (sending :: rest) =
      (((n.run (sending.actions address)).1.sendAll address rest).1,
        (n.run (sending.actions address)).2 ++
          ((n.run (sending.actions address)).1.sendAll address rest).2) := rfl

/-- A client can reach the server of an application with these settings. -/
structure Ready (n : Network) (settings : Settings) (id : Nat) (s : Server) : Prop where
  valid : n.Valid
  link : n.link = .up
  quiet : n.Quiet
  server : n.servers[id]? = some s
  isListening : s.isListening = true
  service : s.service = .ofSettings settings

namespace Ready

theorem connect (h : n.Ready settings id s) : n.connect s.address = .ok id :=
  (h.valid.connect_eq_ok h.link).2 ⟨s, h.server, h.isListening, rfl⟩

/-- What is left of the machine when a request has been sent, and what the client sees. -/
theorem send_eq (h : n.Ready settings id s) (sending : Sending) :
    n.run (sending.actions s.address) =
      let exchange := (Service.ofSettings settings).answer s.counter sending.request
      ({ n with
        now := n.now + sending.pause
        servers := n.servers.modify id fun s => { s with counter := exchange.counter }
        flights := n.flights ++ [sending.flight id n.now exchange]
        events := n.events ++ exchange.events }, [.sent (some n.flights.length), .done]) := by
  have hrequest : n.make (.request s.address sending.bytes) =
      (n.afterAnswer id ⟨(Service.ofSettings settings).answer s.counter sending.request,
        sending.version, .closed⟩, .sent (some n.flights.length)) := by
    rw [make_request_of_connect h.connect h.server, h.service, sending.next_eq]
  have hquiet := h.quiet.make (.request s.address sending.bytes)
  rw [hrequest] at hquiet
  have hrun : n.run (sending.actions s.address) =
      (((n.make (.request s.address sending.bytes)).1.pass sending.pause),
        [(n.make (.request s.address sending.bytes)).2, .done]) := rfl
  rw [hrun, hrequest, hquiet.pass]
  rfl

/-- After a request the server can be reached as before, and only its counter is another one. -/
theorem send_ready (h : n.Ready settings id s) (sending : Sending) :
    (n.run (sending.actions s.address)).1.Ready settings id
      { s with
        counter := ((Service.ofSettings settings).answer s.counter sending.request).counter } where
  valid := h.valid.run _
  link := (n.run_frame _).1.trans h.link
  quiet := h.quiet.run _
  server := by
    rw [h.send_eq, List.getElem?_modify_eq, h.server]
    rfl
  isListening := h.isListening
  service := h.service

/-- Requests that are sent one by one leave the counter that they leave with the service. -/
theorem sendAll_ready (h : n.Ready settings id s) (sendings : List Sending) :
    (n.sendAll s.address sendings).1.Ready settings id
      { s with counter :=
        (Service.ofSettings settings).counterAfter s.counter (sendings.map (·.request)) } := by
  induction sendings generalizing n s with
  | nil => exact h
  | cons sending rest ih => exact ih (h.send_ready sending)

/-- Each of them has been read when it was sent. -/
theorem sendAll_flights (h : n.Ready settings id s) (sendings : List Sending) :
    (n.sendAll s.address sendings).1.flights =
      n.flights ++ Sending.flights id (.ofSettings settings) n.now s.counter sendings := by
  induction sendings generalizing n s with
  | nil => exact (List.append_nil _).symm
  | cons sending rest ih =>
    have hrest := ih (h.send_ready sending)
    dsimp only at hrest
    rw [sendAll_cons, hrest, h.send_eq, Sending.flights, List.append_assoc]
    rfl

theorem sendAll_results (h : n.Ready settings id s) (sendings : List Sending) :
    (n.sendAll s.address sendings).2 =
      (List.range' n.flights.length sendings.length).flatMap fun i =>
        [.sent (some i), .done] := by
  induction sendings generalizing n s with
  | nil => rfl
  | cons sending rest ih =>
    have hrest := ih (h.send_ready sending)
    dsimp only at hrest
    rw [sendAll_cons, hrest, h.send_eq, List.length_append, List.length_singleton,
      List.length_cons, List.range'_succ, List.flatMap_cons]

/-- Each gets what the router inside the server gives it, with the connection closed. -/
theorem sendAll_flight (h : n.Ready settings id s) {sendings : List Sending} {sending : Sending}
    {exchange : Exchange} {i : Nat} (hsending : sendings[i]? = some sending)
    (hexchange : ((Service.ofSettings settings).bare.answerAll s.counter
      (sendings.map (·.request)))[i]? = some exchange) :
    (n.sendAll s.address sendings).1.flights[n.flights.length + i]? =
      some (sending.flight id (n.now + ((sendings.take i).map (·.pause)).sum)
        exchange.closing) := by
  have hanswer := Service.getElem?_answerAll_ofSettings _ _ hexchange
  rw [Service.getElem?_answerAll, List.getElem?_map, hsending, ← List.map_take] at hanswer
  rw [h.sendAll_flights sendings, List.getElem?_append_right (Nat.le_add_right _ _),
    Nat.add_sub_cancel_left, Sending.getElem?_flights, hsending, Option.map_some,
    Option.some.inj hanswer]

/-- Requests that cannot be told apart leave the same machine, and their clients see the same. -/
theorem sendAll_congr (h : n.Ready settings id s) {sendings others : List Sending}
    (hsame : List.Forall₂ Sending.Interchangeable sendings others) :
    n.sendAll s.address sendings = n.sendAll s.address others := by
  induction hsame generalizing n s with
  | nil => rfl
  | @cons a b rest others hfirst _ ih =>
    have hflight : ∀ server now exchange,
        a.flight server now exchange = b.flight server now exchange := fun _ _ _ => by
      rw [Sending.flight, Sending.flight, hfirst.version]
    have hsend : n.run (a.actions s.address) = n.run (b.actions s.address) := by
      rw [h.send_eq, h.send_eq]
      simp only [Service.answer_congr _ _ hfirst.request, hfirst.pause, hflight]
    have hrest := ih (h.send_ready a)
    dsimp only at hrest
    rw [sendAll_cons, sendAll_cons, hrest, hsend]

end Ready

/-- A server answers requests that are sent to it one by one with these exchanges, and closes every
connection. -/
structure OneByOne (n : Network) (id : Nat) (s : Server) (sendings : List Sending)
    (exchanges : List Exchange) : Prop where
  /-- Every request is read when it is sent. -/
  results : (n.sendAll s.address sendings).2 =
    (List.range' n.flights.length sendings.length).flatMap fun i => [.sent (some i), .done]
  length : exchanges.length = sendings.length
  /-- After each request the server has the counter of its exchange. -/
  counter : ∀ (i : Nat) exchange, exchanges[i]? = some exchange →
    (n.sendAll s.address (sendings.take (i + 1))).1.servers[id]? =
      some { s with counter := exchange.counter }
  /-- Each response is the one of its exchange, with one more header field, and takes as long. -/
  flight : ∀ (i : Nat) sending exchange, sendings[i]? = some sending →
    exchanges[i]? = some exchange →
    (n.sendAll s.address sendings).1.flights[n.flights.length + i]? =
      some ⟨id, exchange.response.closing, sending.version,
        n.now + ((sendings.take i).map (·.pause)).sum, exchange.headDelay, exchange.totalDelay,
        .closed, false⟩
  /-- The client has got it when that time is over, and not before. -/
  delivery : ∀ (i : Nat) sending exchange, sendings[i]? = some sending →
    exchanges[i]? = some exchange →
    let m := (n.sendAll s.address sendings).1
    let finish := n.now + ((sendings.take i).map (·.pause)).sum + exchange.totalDelay
    m.delivery? (n.flights.length + i) =
      if m.now < finish then none
      else some ⟨exchange.response.closing.write sending.version, finish⟩

theorem Ready.oneByOne (h : n.Ready settings id s) (sendings : List Sending) :
    n.OneByOne id s sendings
      ((Service.ofSettings settings).bare.answerAll s.counter (sendings.map (·.request))) where
  results := h.sendAll_results sendings
  length := by rw [Service.length_answerAll, List.length_map]
  counter i exchange hi := by
    have hcounter := Service.counterAfter_take _ _ (Service.getElem?_answerAll_ofSettings _ _ hi)
    rw [(h.sendAll_ready (sendings.take (i + 1))).server, List.map_take, hcounter]
    rfl
  flight _ _ _ := h.sendAll_flight
  delivery i sending exchange hsending hi := by
    simp only [delivery?, h.sendAll_flight hsending hi, Option.bind_some]
    simp [Sending.flight, Flight.ofAnswer, Flight.finish, Flight.received, Exchange.closing]

/-- The dispatcher, the router and the server of an application that injects faults agree.

A request whose method is not served is refused by the router, and any other one is answered as its
path is dispatched. In every session, a server that can be reached answers requests that are sent
one by one as its router does, with the same counter after each of them, and closes the connection.
Whether a request is a GET or a POST, its header and its body make no difference, not even to what
follows. -/
theorem levels_agree (settings : Settings) (hmode : settings.mode = .failureInjection) :
    let server := Service.ofSettings settings
    let router := server.bare
    (∀ (c : Counter) (request : Http.Request),
      (request.method.name ≠ "GET" ∧ request.method.name ≠ "POST" →
        (router.answer c request).Refuses request.method c) ∧
      (request.method.name = "GET" ∨ request.method.name = "POST" →
        (router.answer c request).Renders
          (settings.dispatcher.dispatch c request.target.path))) ∧
    (∀ c requests others, List.Forall₂ Http.Request.Interchangeable requests others →
      router.answerAll c requests = router.answerAll c others) ∧
    (∀ c requests,
      server.answerAll c requests = (router.answerAll c requests).map Exchange.closing) ∧
    ∀ taken before id s,
      let n := ((fresh .up taken).run before).1
      n.servers[id]? = some s → s.isListening = true → s.service = server →
      (∀ sendings : List Sending,
        n.OneByOne id s sendings (router.answerAll s.counter (sendings.map (·.request)))) ∧
      ∀ sendings others, List.Forall₂ Sending.Interchangeable sendings others →
        n.sendAll s.address sendings = n.sendAll s.address others := by
  intro server router
  refine ⟨fun c request => ⟨Service.bare_refuses settings c hmode,
    Service.bare_renders settings c hmode⟩, fun c _ _ => router.answerAll_congr c,
    Service.answerAll_ofSettings settings, ?_⟩
  intro taken before id s n hs hlistening hservice
  have hready : n.Ready settings id s :=
    { valid := (fresh_valid .up taken).run before
      link := ((fresh .up taken).run_frame before).1
      quiet := (fresh_quiet .up taken).run before
      server := hs
      isListening := hlistening
      service := hservice }
  exact ⟨hready.oneByOne, fun _ _ => hready.sendAll_congr⟩

/-- A PUT and a POST for the path that hangs. -/
theorem levels_agree_put_post :
    let target : Http.Target := ⟨none, [], "/hang".toList, none⟩
    let put : Sending :=
      { request := ⟨⟨"PUT", by decide⟩, target, [], ""⟩
        version := .http11
        bytes := Http.Request.bytes "PUT" "/hang" "HTTP/1.1" []
        pause := 0
        carries := ⟨.length 0, [], by decide +kernel⟩ }
    let post : Sending :=
      { request := ⟨⟨"POST", by decide⟩, target, [], ""⟩
        version := .http11
        bytes := Http.Request.bytes "POST" "/hang" "HTTP/1.1" []
        pause := 300000
        carries := ⟨.length 0, [], by decide +kernel⟩ }
    let router := (Service.ofSettings .default).bare
    let n := ((fresh .up []).run [.start .default none]).1
    ∃ s, n.servers[0]? = some s ∧ s.isListening = true ∧ s.service = .ofSettings .default ∧
      (router.answerAll s.counter [put.request, post.request]).map
        (fun exchange => (exchange.response.status, exchange.totalDelay)) =
          [(.notImplemented, 0), (.ok, 300000)] ∧
      n.OneByOne 0 s [put, post] (router.answerAll s.counter [put.request, post.request]) := by
  intro target put post router n
  have hserver : (n.servers[0]?).map (fun s => (s.isListening, s.service, s.counter)) =
      some (true, .ofSettings .default, .fresh) := by decide +kernel
  obtain ⟨s, hs, heq⟩ := Option.map_eq_some_iff.1 hserver
  obtain ⟨hlistening, hservice, hcounter⟩ :
      s.isListening = true ∧ s.service = .ofSettings .default ∧ s.counter = .fresh := by
    simpa using heq
  obtain ⟨_, _, _, hagree⟩ := levels_agree .default rfl
  refine ⟨s, hs, hlistening, hservice, ?_, (hagree [] _ 0 s hs hlistening hservice).1 [put, post]⟩
  rw [hcounter]
  decide +kernel

end Network

end FaultyServer
