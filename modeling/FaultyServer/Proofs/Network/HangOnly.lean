import FaultyServer.Proofs.Network.OneRequest

/-!
# Servers that only hang

In hang-only mode a server does not look at what it is asked for. A request that is served gets the
head of its response at once and the end of an empty body when the hang is over; any other one is
refused at once. The answer depends on the method and on nothing else
(`Service.answer_stalling`), and no request moves the counter, so that requests know nothing of each
other: not in a router with any layers around it, and not on a machine, where other requests are in
flight, servers start and stop, and clients give up (`hang_only_uniform`).

* `Service.answerAll_stateless`: a service that leaves the counter alone answers every request as if
  it were the only one;
* `Connection.next_of_read`: a server answers the request at the front of a connection;
* `Still.make`, `Still.run`: on a machine such a server keeps its counter, unless it is moved from
  outside, and answers all that it reads with that counter.
-/

namespace FaultyServer

open Http (Request Response Method Headers Head Incoming)

namespace Service

/-- What a request that is served gets if every body stalls: the head at once, and an empty body
that ends when the hang is over. -/
def stalled (hang : Duration) (layers : List Layer) (c : Counter) : Exchange :=
  ⟨⟨.ok, ("content-type", "text/plain") :: Layer.fields layers, .stalled hang⟩, 0,
    min ((hang.totalNanos + 999999) / 1000000) 946080000000, c, [.bodyStalled hang]⟩

/-- What a request gets that is refused for its method, all of it at once. -/
def refused (layers : List Layer) (method : Method) (c : Counter) : Exchange :=
  ⟨⟨.notImplemented, ("content-type", "text/plain") :: ("content-length", "0") ::
    Layer.fields layers, .whole ""⟩, 0, 0, c, [.methodRejected method.name]⟩

/-- What a request with a method gets if every body stalls. -/
def stalling (hang : Duration) (layers : List Layer) (method : Method) (c : Counter) : Exchange :=
  if method.name = "GET" ∨ method.name = "POST" then stalled hang layers c
  else refused layers method c

variable {settings : Settings} {service : Service} {layers : List Layer} {c : Counter}

/-- In hang-only mode the answer depends on the method and on nothing else. -/
theorem answer_stalling (hmode : settings.mode = .hangOnly) (request : Request) :
    (⟨some (controllerOf settings), layers⟩ : Service).answer c request =
      stalling settings.hang layers request.method c := by
  have hcontroller : controllerOf settings = .stalling settings.hang := by
    rw [controllerOf, hmode]
  have hlayers := Layer.foldr_apply ((controllerOf settings).answer_headers c request) layers
  rw [hcontroller] at hlayers
  rw [answer, hcontroller]
  -- The layers add their fields to whatever the controller answers.
  dsimp only
  rw [hlayers, stalling]
  by_cases hmethod : request.method.name = "GET" ∨ request.method.name = "POST"
  · rw [if_pos hmethod, Controller.answer, Method.isServed_iff.2 hmethod]
    rfl
  · have hserved : request.method.isServed = false := by
      rw [← Bool.not_eq_true, Method.isServed_iff]
      exact hmethod
    rw [if_neg hmethod, Controller.answer, hserved]
    simp only [Bool.not_false, if_true, Controller.refuse, Exchange.immediate,
      Response.ofText_withLength]
    rfl

theorem stalling_counter (hang : Duration) (layers : List Layer) (method : Method) (c : Counter) :
    (stalling hang layers method c).counter = c := by
  rw [stalling]
  split <;> rfl

theorem stalling_headDelay (hang : Duration) (layers : List Layer) (method : Method)
    (c : Counter) : (stalling hang layers method c).headDelay = 0 := by
  rw [stalling]
  split <;> rfl

/-- No request moves the counter of the service from this value. -/
def Stateless (service : Service) (c : Counter) : Prop :=
  ∀ request, (service.answer c request).counter = c

/-- Every request is answered as if it were the only one. -/
theorem answerAll_stateless (h : service.Stateless c) (requests : List Request) :
    service.answerAll c requests = requests.map (service.answer c) := by
  induction requests with
  | nil => rfl
  | cons request rest ih => rw [answerAll, h request, ih, List.map_cons]

theorem counterAfter_stateless (h : service.Stateless c) (requests : List Request) :
    service.counterAfter c requests = c := by
  induction requests with
  | nil => rfl
  | cons request rest ih =>
    rw [counterAfter, List.foldl_cons, h request]
    exact ih

end Service

namespace Connection

variable {connection : Connection} {service : Service} {c : Counter}

/-- The request at the front of an open connection is answered. -/
theorem next_of_read {head : Head} {rest : List UInt8} (hopen : connection.isOpen = true)
    (hread : Incoming.read connection.unread = .complete head rest) :
    connection.next service c = some ⟨service.answer c head.request, head.version,
      after head (service.answer c head.request).response rest⟩ := by
  rw [next, hopen, hread]
  rfl

/-- What is answered is the request at the front of the connection, or bytes that start none. -/
theorem next_cases {answer : Answer} (h : connection.next service c = some answer) :
    (∃ head rest, Incoming.read connection.unread = .complete head rest ∧
      answer = ⟨service.answer c head.request, head.version,
        after head (service.answer c head.request).response rest⟩) ∨
    Incoming.read connection.unread = .malformed ∧
      answer = ⟨.immediate Http.malformedResponse c [], .http11, closed⟩ := by
  rw [next] at h
  split at h
  · cases h
  · split at h
    · cases h
    · next hread => exact .inr ⟨hread, (Option.some.inj h).symm⟩
    · next head rest hread => exact .inl ⟨head, rest, hread, (Option.some.inj h).symm⟩

theorem next_stateless (hstateless : service.Stateless c) {answer : Answer}
    (h : connection.next service c = some answer) : answer.exchange.counter = c := by
  rcases next_cases h with ⟨head, rest, _, rfl⟩ | ⟨_, rfl⟩
  · exact hstateless head.request
  · rfl

end Connection

/-- A request has been read by a server that only hangs: its response is the one of its method, or
the refusal of bytes that are no request. -/
def Flight.IsStalling (f : Flight) (hang : Duration) (layers : List Layer) (c : Counter) : Prop :=
  f.headDelay = 0 ∧
    ((∃ bytes head rest, Incoming.read bytes = .complete head rest ∧ f.version = head.version ∧
      f.response = (Service.stalling hang layers head.request.method c).response ∧
      f.totalDelay = (Service.stalling hang layers head.request.method c).totalDelay) ∨
    f.response = Http.malformedResponse ∧ f.totalDelay = 0)

namespace Network

variable {n m : Network} {id first : Nat} {s : Server} {service : Service} {c : Counter}

/-! ## A server that keeps its counter -/

/-- A server has this service and this counter, and has answered with them all that it has read
since there were `first` requests. -/
structure Still (n : Network) (id : Nat) (service : Service) (c : Counter) (first : Nat) :
    Prop where
  server : ∃ s, n.servers[id]? = some s ∧ s.service = service ∧ s.counter = c
  flights : ∀ (i : Nat) f, first ≤ i → n.flights[i]? = some f → f.server = id →
    ∃ connection answer, Connection.next connection service c = some answer ∧
      f.fixed = (Flight.ofAnswer id f.begun answer).fixed

namespace Still

/-- At first, nothing has been read. -/
theorem start (hs : n.servers[id]? = some s) :
    n.Still id s.service s.counter n.flights.length :=
  ⟨⟨s, hs, rfl, rfl⟩, fun _ _ hi hf _ =>
    absurd (List.getElem?_eq_some_iff.1 hf).1 (Nat.not_lt.2 hi)⟩

/-- What matters of the servers is the service and the counter of this one, and of the requests
what is fixed. -/
theorem mono (h : n.Still id service c first)
    (hservers : ∀ s, n.servers[id]? = some s →
      ∃ s', m.servers[id]? = some s' ∧ s'.service = s.service ∧ s'.counter = s.counter)
    (hflights : m.flights.map Flight.fixed = n.flights.map Flight.fixed) :
    m.Still id service c first := by
  refine ⟨?_, fun i g hi hg hserver => ?_⟩
  · obtain ⟨s, hs, hservice, hcounter⟩ := h.server
    obtain ⟨s', hs', hservice', hcounter'⟩ := hservers s hs
    exact ⟨s', hs', hservice'.trans hservice, hcounter'.trans hcounter⟩
  · have heq := congrArg (·[i]?) hflights
    simp only [List.getElem?_map, hg, Option.map_some] at heq
    obtain ⟨f, hf, hfixed⟩ := Option.map_eq_some_iff.1 heq.symm
    obtain ⟨hserver', _, _, hbegun, _⟩ := Flight.mk.inj hfixed
    obtain ⟨connection, answer, hanswer, hf'⟩ := h.flights i f hi hf (hserver'.trans hserver)
    exact ⟨connection, answer, hanswer, by rw [← hfixed, hf', hbegun]⟩

theorem of_servers (h : n.Still id service c first) (hservers : m.servers = n.servers)
    (hflights : m.flights.map Flight.fixed = n.flights.map Flight.fixed) :
    m.Still id service c first :=
  h.mono (fun s hs => ⟨s, hservers ▸ hs, rfl, rfl⟩) hflights

theorem later (h : n.Still id service c first) (time : Nat) :
    Still { n with now := time } id service c first :=
  h.of_servers rfl rfl

/-- The counter of another server does not matter. -/
theorem modify (h : n.Still id service c first) {other : Nat} (hother : other ≠ id)
    (change : Server → Server) :
    Still { n with servers := n.servers.modify other change } id service c first :=
  h.mono (fun s hs => ⟨s, by rw [List.getElem?_modify_ne _ _ hother, hs], rfl, rfl⟩) rfl

theorem cancel (h : n.Still id service c first) (token : Nat) :
    (n.cancel token).Still id service c first := by
  rw [Network.cancel]
  split
  · exact h
  · refine h.mono (fun s hs => ?_) rfl
    refine ⟨_, (List.getElem?_map ..).trans (congrArg _ hs), ?_⟩
    dsimp only
    split <;> exact ⟨rfl, rfl⟩

theorem stop (h : n.Still id service c first) (other : Nat) :
    (n.stop other).Still id service c first := by
  rw [Network.stop]
  split
  · exact h
  · next s _ =>
    have hcancel := h.cancel s.token
    dsimp only
    split
    · exact hcancel.of_servers rfl rfl
    · exact hcancel

theorem abandon (h : n.Still id service c first) (other : Nat) :
    (n.abandon other).Still id service c first := by
  refine h.of_servers ?_ (n.abandon_fixed other)
  rw [Network.abandon]
  split <;> rfl

/-- If the server itself answers a request, its counter stays what it is. -/
theorem read (h : n.Still id service c first) (hstateless : service.Stateless c) (other : Nat)
    (connection : Connection) : (n.read other connection).Still id service c first := by
  obtain ⟨s, hs, rfl, rfl⟩ := h.server
  rw [Network.read]
  split
  · exact h
  · next t ht =>
    split
    · exact h
    · next answer hanswer =>
      refine ⟨?_, fun i f hi hf hserver => ?_⟩
      · by_cases hother : other = id
        · -- Its service gives the counter back as it was.
          subst hother
          obtain rfl := Option.some.inj (hs.symm.trans ht)
          refine ⟨_, (List.getElem?_modify_eq ..).trans (congrArg _ hs), rfl, ?_⟩
          exact Connection.next_stateless hstateless hanswer
        · exact ⟨s, (List.getElem?_modify_ne _ _ hother).trans hs, rfl, rfl⟩
      · rcases Nat.lt_or_ge i n.flights.length with hlt | hge
        · exact h.flights i f hi ((List.getElem?_append_left hlt).symm.trans hf) hserver
        · -- The new request, which this server has just answered.
          have hnew := (List.getElem?_append_right hge).symm.trans hf
          obtain rfl := List.mem_singleton.1 (List.mem_of_getElem? hnew)
          obtain rfl : other = id := hserver
          obtain rfl := Option.some.inj (hs.symm.trans ht)
          exact ⟨connection, answer, hanswer, rfl⟩

theorem readOn (h : n.Still id service c first) (hstateless : service.Stateless c) (other : Nat)
    (f : Flight) : (n.readOn other f).Still id service c first := by
  -- The old connection is closed first, which is not a part of what is fixed.
  have hclosed : Still { n with
      now := max n.now f.finish
      flights := n.flights.modify other fun f => { f with connection := .closed } }
      id service c first := by
    refine h.of_servers rfl (Flight.map_fixed_modify ?_ n.flights other)
    exact fun _ => rfl
  exact hclosed.read hstateless f.server f.connection

theorem passWith (h : n.Still id service c first) (hstateless : service.Stateless c)
    (stop fuel : Nat) : (n.passWith stop fuel).Still id service c first := by
  induction fuel generalizing n with
  | zero => exact h.later _
  | succ fuel ih =>
    rw [Network.passWith]
    split
    · exact h.later _
    · next other f _ => exact ih (h.readOn hstateless other f)

/-- Every action leaves such a server as it is, unless it moves the counter from outside. -/
theorem make (h : n.Still id service c first) (hstateless : service.Stateless c)
    {action : Action} (haction : ¬ action.Adjusts id) :
    (n.make action).1.Still id service c first := by
  cases action with
  | start settings token =>
    rw [make_start]
    split
    · next hstart =>
      obtain ⟨_, _, _, _, rfl⟩ := start_ok hstart
      -- A new server comes after the others, so that this one keeps its number.
      refine h.mono (fun s hs => ⟨s, ?_, rfl, rfl⟩) rfl
      exact (List.getElem?_append_left (List.getElem?_eq_some_iff.1 hs).1).trans hs
    · exact h
  | stop other => exact h.stop other
  | wait other => exact h
  | cancel token => exact h.cancel token
  | request address bytes =>
    rw [make_request]
    split
    · next other _ => exact h.read hstateless other (.ofBytes bytes)
    · exact h
  | abandon other => exact h.abandon other
  | advance other step =>
    exact h.modify (fun heq => haction (.inr ⟨step, heq ▸ rfl⟩)) _
  | reset other => exact h.modify (fun heq => haction (.inl (heq ▸ rfl))) _
  | pass ms => exact h.passWith hstateless _ _

theorem run (h : n.Still id service c first) (hstateless : service.Stateless c)
    {actions : List Action} (hactions : ∀ action ∈ actions, ¬ action.Adjusts id) :
    (n.run actions).1.Still id service c first := by
  induction actions generalizing n with
  | nil => exact h
  | cons action rest ih =>
    rw [run_cons]
    exact ih (h.make hstateless (hactions action List.mem_cons_self))
      fun other hother => hactions other (List.mem_cons_of_mem _ hother)

end Still

/-! ## Servers in hang-only mode -/

/-- What clients get from a server that only hangs. -/
structure Hangs (n : Network) (id : Nat) (hang : Duration) (layers : List Layer) (c : Counter) :
    Prop where
  /-- The request at the front of a connection is read, and its response is that of its method. -/
  read : ∀ connection head rest, connection.isOpen = true →
    Incoming.read connection.unread = .complete head rest →
    let e := Service.stalling hang layers head.request.method c
    (n.read id connection).flights = n.flights ++
      [⟨id, e.response, head.version, n.now, 0, e.totalDelay, .after head e.response rest, false⟩]
  /-- The request of a client that can connect is read when it is sent. -/
  request : ∀ address bytes head rest, n.connect address = .ok id →
    Incoming.read bytes = .complete head rest →
    n.make (.request address bytes) =
      (n.read id (.ofBytes bytes), .sent (some n.flights.length))
  /-- The client has the response when its delay is over, counted from that instant, and not before,
  whatever other requests there are. -/
  delivery : ∀ connection head rest actions, connection.isOpen = true →
    Incoming.read connection.unread = .complete head rest →
    .abandon n.flights.length ∉ actions →
    let e := Service.stalling hang layers head.request.method c
    let m := ((n.read id connection).run actions).1
    m.delivery? n.flights.length =
      if m.now < n.now + e.totalDelay then none
      else some ⟨e.response.write head.version, n.now + e.totalDelay⟩

theorem hangs_of_answer {hang : Duration} {layers : List Layer} (hs : n.servers[id]? = some s)
    (hanswer : ∀ request, s.service.answer s.counter request =
      Service.stalling hang layers request.method s.counter) :
    n.Hangs id hang layers s.counter := by
  have hread : ∀ connection head rest, connection.isOpen = true →
      Incoming.read connection.unread = .complete head rest →
      let e := Service.stalling hang layers head.request.method s.counter
      (n.read id connection).flights = n.flights ++
        [⟨id, e.response, head.version, n.now, 0, e.totalDelay, .after head e.response rest,
          false⟩] := by
    intro connection head rest hopen hcomplete e
    rw [read_flights hs, Connection.next_of_read hopen hcomplete, hanswer]
    rw [Option.map_some, Flight.ofAnswer, Service.stalling_headDelay]
    rfl
  refine ⟨hread, fun address bytes head rest hconnect hcomplete => ?_,
    fun connection head rest actions hopen hcomplete habandon => ?_⟩
  · rw [make_request, hconnect]
    dsimp only
    rw [hread _ head rest rfl hcomplete, List.length_append, List.length_singleton,
      if_pos (Nat.lt_succ_self _)]
  · have hflight := congrArg (·[n.flights.length]?) (hread connection head rest hopen hcomplete)
    rw [List.getElem?_concat_length] at hflight
    exact delivery?_of_kept hflight rfl actions habandon

/-- Whatever such a server has read has got the response of its method. -/
theorem Still.isStalling {hang : Duration} {layers : List Layer} (h : n.Still id service c first)
    (hanswer : ∀ request, service.answer c request =
      Service.stalling hang layers request.method c)
    {i : Nat} {f : Flight} (hi : first ≤ i) (hf : n.flights[i]? = some f)
    (hserver : f.server = id) : f.IsStalling hang layers c := by
  obtain ⟨connection, answer, hnext, hfixed⟩ := h.flights i f hi hf hserver
  obtain ⟨_, hresponse, hversion, _, hhead, htotal, _⟩ := Flight.mk.inj hfixed
  rw [Flight.IsStalling, hresponse, hversion, hhead, htotal]
  rcases Connection.next_cases hnext with ⟨head, rest, hread, rfl⟩ | ⟨_, rfl⟩
  · dsimp only [Flight.ofAnswer]
    rw [hanswer]
    exact ⟨Service.stalling_headDelay ..,
      .inl ⟨connection.unread, head, rest, hread, rfl, rfl, rfl⟩⟩
  · exact ⟨rfl, .inr ⟨rfl, rfl⟩⟩

/-- Hang-only mode is uniform and stateless, whatever the duration and whatever layers there are.

A GET or a POST gets status 200 and an empty body that ends when the hang is over, any other request
is refused at once, and nothing else about a request matters. A router answers requests that come
one after another as if each of them were the only one. A server on a machine reads each request
when it is sent and gives it this answer, counted from that instant, whatever else is in flight;
and in no session do requests move its counter. -/
theorem hang_only_uniform (settings : Settings) (hmode : settings.mode = .hangOnly)
    (layers : List Layer) :
    let service : Service := ⟨some (Service.controllerOf settings), layers⟩
    (∀ c request, service.answer c request =
      Service.stalling settings.hang layers request.method c) ∧
    (∀ c requests, service.answerAll c requests =
        requests.map (fun request => Service.stalling settings.hang layers request.method c) ∧
      service.counterAfter c requests = c) ∧
    ∀ (n : Network) id s, n.servers[id]? = some s → s.service = service →
      n.Hangs id settings.hang layers s.counter ∧
      ∀ actions, (∀ action ∈ actions, ¬ action.Adjusts id) →
        let m := (n.run actions).1
        (∃ s', m.servers[id]? = some s' ∧ s'.service = service ∧ s'.counter = s.counter) ∧
        ∀ (i : Nat) f, n.flights.length ≤ i → m.flights[i]? = some f → f.server = id →
          f.IsStalling settings.hang layers s.counter ∧
          m.delivery? i =
            if f.isAbandoned || m.now < f.begun + f.totalDelay then none
            else some ⟨f.response.write f.version, f.begun + f.totalDelay⟩ := by
  intro service
  have hanswer : ∀ c request, service.answer c request =
      Service.stalling settings.hang layers request.method c :=
    fun _ => Service.answer_stalling hmode
  have hstateless : ∀ c, service.Stateless c := fun c request => by
    rw [hanswer, Service.stalling_counter]
  refine ⟨hanswer, fun c requests => ⟨?_, Service.counterAfter_stateless (hstateless c) requests⟩,
    fun n id s hs hservice => ⟨?_, fun actions hactions => ?_⟩⟩
  · rw [Service.answerAll_stateless (hstateless c)]
    exact List.map_congr_left fun request _ => hanswer c request
  · exact hangs_of_answer hs fun request => hservice ▸ hanswer s.counter request
  · have hstill := (Still.start hs).run (hservice ▸ hstateless s.counter) hactions
    rw [hservice] at hstill
    refine ⟨hstill.server, fun i f hi hf hserver =>
      ⟨hstill.isStalling (hanswer s.counter) hi hf hserver, ?_⟩⟩
    rw [delivery?, hf]
    rfl

/-- A GET and a POST that would move the counter in the other mode, a second apart, on a server that
does not close its connections. -/
theorem hang_only_uniform_overlap :
    let settings := { Settings.default with mode := .hangOnly }
    let service : Service := ⟨some (Service.controllerOf settings), [.trace]⟩
    let address : Address.Socket := ⟨.localhost, 12345⟩
    let n := (fresh .up []).listen "server" service none address 0
    let actions : List Action :=
      [.request address (Http.Request.bytes "GET" "/eachThirdReturns200Others503" "HTTP/1.1" []),
        .pass 1000,
        .request address (Http.Request.bytes "POST" "/resetCounter" "HTTP/1.1" []),
        .pass 299000]
    let m := (n.run actions).1
    ∃ s f g, n.servers[0]? = some s ∧ s.service = service ∧
      (∀ action ∈ actions, ¬ action.Adjusts 0) ∧
      (∃ s', m.servers[0]? = some s' ∧ s'.service = service ∧ s'.counter = s.counter) ∧
      m.flights = [f, g] ∧ f.server = 0 ∧ g.server = 0 ∧
      f.IsStalling settings.hang [.trace] s.counter ∧
      g.IsStalling settings.hang [.trace] s.counter ∧
      m.delivery? 0 = some ⟨f.response.write .http11, 300000⟩ ∧ m.delivery? 1 = none := by
  intro settings service address n actions m
  obtain ⟨_, _, hmachine⟩ := hang_only_uniform settings rfl [.trace]
  have hs : n.servers[0]? = some ⟨"server", service, none, address, 0, .fresh, true⟩ := rfl
  have hadjusts : ∀ action ∈ actions, ¬ action.Adjusts 0 := by simp [actions, Action.Adjusts]
  obtain ⟨hcounter, hflights⟩ := (hmachine n 0 _ hs rfl).2 actions hadjusts
  have htimes : m.flights.map (fun f =>
      (f.server, f.version, f.begun + f.totalDelay, f.isAbandoned)) =
        [(0, .http11, 300000, false), (0, .http11, 301000, false)] := by decide +kernel
  have hnow : m.now = 300000 := by decide +kernel
  obtain ⟨f, rest, hm, hf, hrest⟩ := List.map_eq_cons_iff.1 htimes
  obtain ⟨g, rfl, hg⟩ := List.map_eq_singleton_iff.1 hrest
  obtain ⟨hfserver, hfversion, hffinish, hfabandoned⟩ : f.server = 0 ∧ f.version = .http11 ∧
      f.begun + f.totalDelay = 300000 ∧ f.isAbandoned = false := by simpa using hf
  obtain ⟨hgserver, -, hgfinish, hgabandoned⟩ : g.server = 0 ∧ g.version = .http11 ∧
      g.begun + g.totalDelay = 301000 ∧ g.isAbandoned = false := by simpa using hg
  obtain ⟨hfstalls, hfdelivery⟩ := hflights 0 f (Nat.le_refl 0) (congrArg (·[0]?) hm) hfserver
  obtain ⟨hgstalls, hgdelivery⟩ := hflights 1 g (Nat.zero_le 1) (congrArg (·[1]?) hm) hgserver
  refine ⟨_, f, g, hs, rfl, hadjusts, hcounter, hm, hfserver, hgserver, hfstalls, hgstalls,
    ?_, ?_⟩
  · rw [hfdelivery, hfabandoned, hffinish, hfversion, hnow]
    rfl
  · rw [hgdelivery, hgabandoned, hgfinish, hnow]
    rfl

end Network

end FaultyServer
