import FaultyServer.Proofs.Network.Servers

/-!
# The life cycle of servers

What holds of the servers in every state of every session (`Network.LifeCycle`, `life_cycle`): which
servers are alive and which action ends them, who accepts a connection, and when an address can be
bound. The loopback interface is up, and other programs may listen on addresses of their own.

* `Valid.make_servers`: what an action does to a server;
* `Valid.connect_eq_ok`: the one listening server of an address accepts its connections;
* `Valid.start_inUse`: no server starts where another one listens;
* `starts_of_bind`: every other start succeeds, and adds one server.
-/

namespace FaultyServer

open Address (Socket)

namespace Network

variable {n m : Network} {id : Nat} {s s' : Server} {address : Socket}

/-! ## Tokens -/

theorem lt_freshToken {token : Nat}
    (h : token ∈ n.servers.map (·.token) ∨ token ∈ n.cancelled) : token < n.freshToken := by
  have hmem : token + 1 ∈ (n.servers.map (·.token) ++ n.cancelled).map (· + 1) :=
    List.mem_map_of_mem (List.mem_append.2 h)
  rw [freshToken, List.foldl_max]
  exact Nat.lt_of_lt_of_le (List.le_max?_getD_of_mem hmem) (Nat.le_max_right _ _)

/-- A new token is nobody's, and has not been cancelled. -/
theorem freshToken_new (n : Network) :
    n.isCancelled n.freshToken = false ∧ ∀ s ∈ n.servers, s.token ≠ n.freshToken := by
  constructor
  · by_contra h
    have hmem : n.freshToken ∈ n.cancelled := by simpa [isCancelled] using h
    exact Nat.lt_irrefl _ (lt_freshToken (.inr hmem))
  · intro s hs heq
    exact Nat.lt_irrefl _ (heq ▸ lt_freshToken (.inl (List.mem_map_of_mem hs)))

/-! ## What an action does to a server -/

/-- An action leaves every server where it is, and ends those whose token it cancels. -/
theorem Valid.make_servers (hn : n.Valid) (action : Action) (hs : n.servers[id]? = some s) :
    ∃ s', (n.make action).1.servers[id]? = some s' ∧ s'.address = s.address ∧
      s'.token = s.token ∧ s'.service = s.service ∧
      (s'.isListening = true ↔ s.isListening = true ∧ n.cancels? action ≠ some s.token) := by
  have halike : ∀ {k s₀}, Alike k (n.make action).1 → k.servers[id]? = some s₀ →
      ∃ s', (n.make action).1.servers[id]? = some s' ∧ s'.address = s₀.address ∧
        s'.token = s₀.token ∧ s'.service = s₀.service ∧ s'.isListening = s₀.isListening := by
    intro k s₀ h hs₀
    obtain ⟨s', hs', hfixed⟩ := h.getElem? hs₀
    obtain ⟨_, hservice, _, haddress, htoken, _, hlistening⟩ := Server.mk.inj hfixed
    exact ⟨s', hs', haddress, htoken, hservice, hlistening⟩
  rcases n.make_cases action with ⟨hnone, h⟩ | ⟨hnone, _, _, _, _, _, _, h⟩ | ⟨token, hsome, h⟩
  · obtain ⟨s', hs', haddress, htoken, hservice, hlistening⟩ := halike h hs
    exact ⟨s', hs', haddress, htoken, hservice, by simp [hlistening, hnone]⟩
  · -- A new server comes after the others, so that they keep their numbers.
    have hlt : id < n.servers.length := (List.getElem?_eq_some_iff.1 hs).1
    obtain ⟨s', hs', haddress, htoken, hservice, hlistening⟩ :=
      halike h ((List.getElem?_append_left hlt).trans hs)
    exact ⟨s', hs', haddress, htoken, hservice, by simp [hlistening, hnone]⟩
  · -- The cancellation ends the server or leaves it alone, as its token says.
    have hcancel : (n.cancel token).servers[id]? = some (s.afterCancel token) := by
      rw [hn.cancel_servers, List.getElem?_map, hs]
      rfl
    obtain ⟨s', hs', haddress, htoken, hservice, hlistening⟩ := halike h hcancel
    refine ⟨s', hs', ?_⟩
    rw [haddress, htoken, hservice, hlistening, hsome]
    rw [Server.afterCancel]
    split
    · next heq => simp [beq_iff_eq.1 heq]
    · next hne =>
      have : token ≠ s.token := fun heq => hne (beq_iff_eq.2 heq.symm)
      simp [this]

/-! ## Who listens -/

/-- Two servers that listen on one address are the same. -/
theorem Valid.eq_of_address (hn : n.Valid) {i j : Nat} (hi : n.servers[i]? = some s)
    (hj : n.servers[j]? = some s') (hs : s.isListening = true) (hs' : s'.isListening = true)
    (heq : s.address = s'.address) : i = j := by
  have hpair : n.servers.Pairwise fun s s' => s.isListening = true → s'.isListening = true →
      s.address ≠ s'.address := List.pairwise_filter.1 (List.pairwise_map.1 hn.nodup)
  rw [List.pairwise_iff_getElem] at hpair
  obtain ⟨hilt, rfl⟩ := List.getElem?_eq_some_iff.1 hi
  obtain ⟨hjlt, rfl⟩ := List.getElem?_eq_some_iff.1 hj
  rcases Nat.lt_trichotomy i j with hlt | rfl | hlt
  · exact absurd heq (hpair i j hilt hjlt hlt hs hs')
  · rfl
  · exact absurd heq.symm (hpair j i hjlt hilt hlt hs' hs)

/-- The one listening server of an address accepts its connections. -/
theorem Valid.connect_eq_ok (hn : n.Valid) (hlink : n.link = .up) :
    n.connect address = .ok id ↔
      ∃ s, n.servers[id]? = some s ∧ s.isListening = true ∧ s.address = address := by
  rw [connect]
  rw [hlink]
  dsimp only
  constructor
  · intro h
    split at h
    · next found hfound =>
      obtain rfl := Except.ok.inj h
      obtain ⟨hlt, hserver, _⟩ := List.findIdx?_eq_some_iff_getElem.1 hfound
      simp only [Bool.and_eq_true, beq_iff_eq] at hserver
      exact ⟨_, List.getElem?_eq_getElem hlt, hserver.1, hserver.2⟩
    · cases h
  · rintro ⟨s, hs, hlistening, haddress⟩
    rcases hfound : n.listener? address with _ | found
    · have hnone := List.findIdx?_eq_none_iff.1 hfound s (List.mem_of_getElem? hs)
      simp [hlistening, haddress] at hnone
    · -- The server that is found listens on the address, too, so it is this one.
      obtain ⟨hlt, hserver, _⟩ := List.findIdx?_eq_some_iff_getElem.1 hfound
      simp only [Bool.and_eq_true, beq_iff_eq] at hserver
      rw [hn.eq_of_address (List.getElem?_eq_getElem hlt) hs hserver.1 hlistening
        (hserver.2.trans haddress.symm)]

/-- Without a listening server, a connection is refused. -/
theorem connect_eq_refused (hlink : n.link = .up) (h : address ∉ n.listening) :
    n.connect address = .error .refused := by
  rw [connect]
  rw [hlink]
  have hnone : n.listener? address = none := by
    refine List.findIdx?_eq_none_iff.2 fun s hs => ?_
    by_contra hne
    simp only [Bool.not_eq_false, Bool.and_eq_true, beq_iff_eq] at hne
    exact h (mem_listening.2 ⟨s, hs, hne⟩)
  rw [hnone]

/-! ## Who can start -/

/-- An address on which a server listens cannot be bound. -/
theorem Valid.start_inUse {settings : Settings} (hn : n.Valid) (hlink : n.link = .up)
    (hs : s ∈ n.servers) (hlistening : s.isListening = true)
    (haddress : settings.listenAddress = .ok s.address) (token : Nat) :
    n.start settings token = .error (.bind s.address .inUse) := by
  have htaken : n.isTaken s.address = true := by
    by_contra hne
    exact (isTaken_eq_false.1 (Bool.not_eq_true _ ▸ hne)).2
      (mem_listening.2 ⟨s, hs, hlistening, rfl⟩)
  rw [start_eq, haddress, Except.mapError, Except.bind, bind_eq hlink (hn.port s hs), htaken]
  rfl

/-- An address on which no server listens, and no other program, can be bound. -/
theorem bind_free (hlink : n.link = .up) (hport : address.port ≠ 0) (htaken : address ∉ n.taken)
    (hfree : ∀ s ∈ n.servers, s.isListening = true → s.address ≠ address) :
    n.bind address = .ok address := by
  have hnot : address ∉ n.listening := fun hmem => by
    obtain ⟨s, hs, hlistening, haddress⟩ := mem_listening.1 hmem
    exact hfree s hs hlistening haddress
  rw [bind_eq hlink hport, isTaken_eq_false.2 ⟨htaken, hnot⟩]
  rfl

/-- A start succeeds on an address and adds one server, which is alive unless it has been given a
token that has been cancelled already. All other servers and the requests are as they were. -/
def Starts (n : Network) (settings : Settings) (token : Option Nat) (bound : Socket) : Prop :=
  ∃ m server, n.make (.start settings token) = (m, .started n.servers.length) ∧
    m.servers = n.servers ++ [server] ∧ server.address = bound ∧
    server.token = token.getD n.freshToken ∧ server.service = .ofSettings settings ∧
    server.counter = .fresh ∧
    server.isListening = !n.isCancelled server.token ∧
    (token = none → server.isListening = true) ∧
    m.cancelled = n.cancelled ∧ m.now = n.now ∧ m.flights = n.flights

/-- A start succeeds if its address can be bound. -/
theorem starts_of_bind {settings : Settings} {bound : Socket}
    (haddress : settings.listenAddress = .ok address) (hbind : n.bind address = .ok bound)
    (token : Option Nat) : n.Starts settings token bound := by
  have hmake : n.make (.start settings token) =
      ((n.log [.appStarted bound settings.mode]).listen settings.listen.name
        (.ofSettings settings) (some settings.mode) bound (token.getD n.freshToken),
        .started n.servers.length) := by
    rw [make_start, start_eq, haddress, Except.mapError, Except.bind, hbind]
    rfl
  refine ⟨_, _, hmake, rfl, rfl, rfl, rfl, rfl, rfl, ?_, rfl, rfl, rfl⟩
  -- The token that a server gets of its own has not been cancelled.
  rintro rfl
  exact congrArg (!·) n.freshToken_new.1

/-! ## Every state -/

/-- The life cycle of the servers of a machine. -/
structure LifeCycle (n : Network) : Prop where
  /-- A server is alive exactly until its token has been cancelled. -/
  alive : ∀ s ∈ n.servers, s.isListening = !n.isCancelled s.token
  /-- An action ends exactly the servers that share the token it cancels. -/
  ends : ∀ (action : Action) (id : Nat) (s : Server), n.servers[id]? = some s →
    ∃ s' : Server, (n.make action).1.servers[id]? = some s' ∧ s'.address = s.address ∧
      s'.token = s.token ∧ s'.service = s.service ∧
      (s'.isListening = true ↔ s.isListening = true ∧ n.cancels? action ≠ some s.token)
  /-- A token that is not given is new. -/
  ownToken : n.isCancelled n.freshToken = false ∧ ∀ s ∈ n.servers, s.token ≠ n.freshToken
  /-- Waiting for a server is over exactly when its token has been cancelled. -/
  waits : ∀ (id : Nat) (s : Server), n.servers[id]? = some s →
    n.make (.wait id) = (n, if n.isCancelled s.token then .done else .waiting)
  /-- No two servers that are alive are bound to one address. -/
  distinct : ∀ (i j : Nat) (s s' : Server), n.servers[i]? = some s → n.servers[j]? = some s' →
    s.isListening = true → s'.isListening = true → s.address = s'.address → i = j
  /-- A server that is alive accepts every connection to its address, and answers it itself. -/
  accepts : ∀ (id : Nat) (s : Server) bytes, n.servers[id]? = some s → s.isListening = true →
    ∃ sent, n.make (.request s.address bytes) = (n.read id (.ofBytes bytes), .sent sent) ∧
      (n.read id (.ofBytes bytes)).flights = n.flights ++
        (((Connection.ofBytes bytes).next s.service s.counter).map (.ofAnswer id n.now)).toList
  /-- Any other connection is refused, unless another program listens there. -/
  refuses : ∀ address bytes, address ∉ n.taken →
    (∀ s ∈ n.servers, s.isListening = true → s.address ≠ address) →
    n.make (.request address bytes) = (n, .connectFailed .refused)
  /-- No server starts on the address of one that is alive. -/
  inUse : ∀ s ∈ n.servers, s.isListening = true → ∀ settings token,
    settings.listenAddress = .ok s.address →
    n.make (.start settings token) = (n, .startFailed (.bind s.address .inUse))
  /-- A server starts on any other address that no program has. -/
  starts : ∀ settings token address, settings.listenAddress = .ok address → address.port ≠ 0 →
    address ∉ n.taken → (∀ s ∈ n.servers, s.isListening = true → s.address ≠ address) →
    n.Starts settings token address
  /-- With port zero, a server starts on an unused port that the system chooses, as long as there is
  one. -/
  startsAnywhere : ∀ settings token address, settings.listenAddress = .ok address →
    address.port = 0 → (∃ port ∈ ephemeralPorts, n.IsUnused port) →
    ∃ port ∈ ephemeralPorts, n.IsUnused port ∧
      n.Starts settings token { address with port := port }
  /-- Any other address that a server has had can be had again at once, whatever still hangs. -/
  restarts : ∀ s ∈ n.servers, (∀ s' ∈ n.servers, s'.isListening = true → s'.address ≠ s.address) →
    ∀ settings token, settings.listenAddress = .ok s.address →
    ∃ m server, n.make (.start settings token) = (m, .started n.servers.length) ∧
      m.servers = n.servers ++ [server] ∧ server.address = s.address ∧
      server.token = token.getD n.freshToken ∧
      server.isListening = !n.isCancelled server.token ∧ m.now = n.now ∧ m.flights = n.flights

/-- What a server reads from a connection. -/
theorem read_flights (hs : n.servers[id]? = some s) (connection : Connection) :
    (n.read id connection).flights = n.flights ++
      ((connection.next s.service s.counter).map (Flight.ofAnswer id n.now)).toList := by
  rw [read]
  rw [hs]
  dsimp only
  rcases connection.next s.service s.counter with _ | answer
  · simp
  · rfl

theorem Valid.lifeCycle (hn : n.Valid) (hlink : n.link = .up) : n.LifeCycle where
  alive := hn.alive
  ends action _ _ hs := hn.make_servers action hs
  ownToken := n.freshToken_new
  waits id s hs := by
    have halive := hn.alive s (List.mem_of_getElem? hs)
    show (n, _) = _
    rw [hs, Option.any_some, halive]
    cases n.isCancelled s.token <;> rfl
  distinct _ _ _ _ hi hj := hn.eq_of_address hi hj
  accepts id s bytes hs hlistening := by
    have hconnect := (hn.connect_eq_ok hlink).2 ⟨s, hs, hlistening, rfl⟩
    rw [make_request, hconnect]
    exact ⟨_, rfl, read_flights hs _⟩
  refuses address bytes _ hfree := by
    have hnot : address ∉ n.listening := fun hmem => by
      obtain ⟨s, hs, hlistening, haddress⟩ := mem_listening.1 hmem
      exact hfree s hs hlistening haddress
    rw [make_request, connect_eq_refused hlink hnot]
  inUse s hs hlistening settings token haddress := by
    rw [make_start, hn.start_inUse hlink hs hlistening haddress]
  starts _ token _ haddress hport htaken hfree :=
    starts_of_bind haddress (bind_free hlink hport htaken hfree) token
  startsAnywhere _ token _ haddress hport := by
    rintro ⟨port, hmem, hunused⟩
    obtain ⟨chosen, hbind, hchosen⟩ := exists_bind hlink hport hmem hunused
    exact ⟨chosen, hchosen.1, hchosen.2, starts_of_bind haddress hbind token⟩
  restarts s hs hfree settings token haddress := by
    have hbind := bind_free hlink (hn.port s hs) (hn.taken s hs) hfree
    obtain ⟨m, server, hmake, hservers, hserver, htoken, _, _, hlistening, _, _, hnow, hflights⟩ :=
      starts_of_bind haddress hbind token
    exact ⟨m, server, hmake, hservers, hserver, htoken, hlistening, hnow, hflights⟩

/-- In every session, with whatever addresses other programs have, the servers follow their life
cycle in every state. -/
theorem life_cycle (taken : List Socket) (actions : List Action) :
    ((fresh .up taken).run actions).1.taken = taken ∧
      ((fresh .up taken).run actions).1.LifeCycle := by
  obtain ⟨hlink, htaken⟩ := (fresh .up taken).run_frame actions
  exact ⟨htaken, ((fresh_valid .up taken).run actions).lifeCycle hlink⟩

/-- A server starts on its port, a second one cannot have it, and a third one gets another port. -/
example :
    ((fresh .up []).run [.start .default none, .start .default none,
      .start (Settings.default.withPort 0) none]).2 =
        [.started 0, .startFailed (.bind ⟨.localhost, 12345⟩ .inUse), .started 1] := by
  decide +kernel

end Network

end FaultyServer
