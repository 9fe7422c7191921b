import FaultyServer.Network
import Mathlib.Data.List.Nodup

/-!
# The servers of a machine

Most actions leave the servers alone but for their counters (`Network.Alike`). The others are the
start of a server and the cancellation of a token, and both keep the invariant `Network.Valid`: a
server listens exactly until its token has been cancelled, and no two servers listen on one address.

* `Network.bind_cases`, `Network.bind_ok`: what binding gives, and that nobody listens there;
* `Network.make_cases`: all that an action can do to the servers;
* `Network.make_forall`, `Network.run_forall`: what holds of every server that can start, holds of
  every server;
* `Network.Valid.make`, `Network.Valid.run`: every action, and so every session, keeps the
  invariant.
-/

namespace FaultyServer

open Address (Socket)

/-- A server apart from its counter. -/
def Server.fixed (s : Server) : Server := { s with counter := .fresh }

namespace Network

variable {n m : Network}

/-- Two machines have the same servers, apart from the servers' counters. -/
structure Alike (n m : Network) : Prop where
  link : m.link = n.link
  taken : m.taken = n.taken
  cancelled : m.cancelled = n.cancelled
  servers : m.servers.map Server.fixed = n.servers.map Server.fixed

namespace Alike

theorem refl (n : Network) : Alike n n := ⟨rfl, rfl, rfl, rfl⟩

theorem trans {k : Network} (h₁ : Alike n m) (h₂ : Alike m k) : Alike n k :=
  ⟨h₂.link.trans h₁.link, h₂.taken.trans h₁.taken, h₂.cancelled.trans h₁.cancelled,
    h₂.servers.trans h₁.servers⟩

/-- Every server of the one machine is also there on the other. -/
theorem getElem? (h : Alike n m) {id : Nat} {s : Server} (hs : n.servers[id]? = some s) :
    ∃ s', m.servers[id]? = some s' ∧ s'.fixed = s.fixed := by
  have heq := congrArg (·[id]?) h.servers
  simp only [List.getElem?_map, hs, Option.map_some] at heq
  exact Option.map_eq_some_iff.1 heq

end Alike

/-! ## Actions that leave the servers alone -/

theorem modifyCounter_alike (n : Network) (id : Nat) (change : Counter → Counter) :
    Alike n { n with servers := n.servers.modify id fun s =>
      { s with counter := change s.counter } } := by
  refine ⟨rfl, rfl, rfl, List.ext_getElem? fun i => ?_⟩
  simp only [List.getElem?_map, List.getElem?_modify]
  split
  · rcases n.servers[i]? with _ | s <;> rfl
  · simp

theorem read_alike (n : Network) (id : Nat) (connection : Connection) :
    Alike n (n.read id connection) := by
  rw [read]
  split
  · exact .refl n
  · split
    · exact .refl n
    · next t _ =>
      obtain ⟨hlink, htaken, hcancelled, hservers⟩ :=
        n.modifyCounter_alike id fun _ => t.exchange.counter
      exact ⟨hlink, htaken, hcancelled, hservers⟩

theorem readOn_alike (n : Network) (id : Nat) (f : Flight) : Alike n (n.readOn id f) := by
  obtain ⟨hlink, htaken, hcancelled, hservers⟩ := read_alike
    { n with
      now := max n.now f.finish
      flights := n.flights.modify id fun f => { f with connection := .closed } }
    f.server f.connection
  exact ⟨hlink, htaken, hcancelled, hservers⟩

theorem passWith_alike (stop fuel : Nat) (n : Network) : Alike n (n.passWith stop fuel) := by
  induction fuel generalizing n with
  | zero => exact ⟨rfl, rfl, rfl, rfl⟩
  | succ fuel ih =>
    rw [passWith]
    split
    · exact ⟨rfl, rfl, rfl, rfl⟩
    · next id f _ => exact .trans (n.readOn_alike id f) (ih _)

theorem abandon_alike (n : Network) (id : Nat) : Alike n (n.abandon id) := by
  rw [abandon]
  split <;> exact ⟨rfl, rfl, rfl, rfl⟩

/-! ## The invariant -/

/-- The addresses on which servers listen. -/
def listening (n : Network) : List Socket := (n.servers.filter (·.isListening)).map (·.address)

/-- A server listens exactly until its token has been cancelled, on a proper port that no other
program has, and no two servers listen on one address. -/
structure Valid (n : Network) : Prop where
  alive : ∀ s ∈ n.servers, s.isListening = !n.isCancelled s.token
  port : ∀ s ∈ n.servers, s.address.port ≠ 0
  taken : ∀ s ∈ n.servers, s.address ∉ n.taken
  nodup : n.listening.Nodup

theorem fresh_valid (link : Link) (taken : List Socket) : (fresh link taken).Valid := by
  constructor <;> simp [fresh, listening]

theorem Alike.listening (h : Alike n m) : m.listening = n.listening := by
  have hfixed : ∀ l : List Server, (l.filter (·.isListening)).map (·.address) =
      ((l.map Server.fixed).filter (·.isListening)).map (·.address) := by
    intro l
    rw [List.filter_map, List.map_map]
    rfl
  unfold Network.listening
  rw [hfixed, hfixed n.servers, h.servers]

/-- What holds of every server by its fixed part holds on both machines. -/
theorem Alike.forall {p : Server → Prop} (h : Alike n m) (hp : ∀ s, p s.fixed ↔ p s)
    (hall : ∀ s ∈ n.servers, p s) : ∀ s ∈ m.servers, p s := by
  intro s hs
  have hmem : s.fixed ∈ n.servers.map Server.fixed := h.servers ▸ List.mem_map_of_mem hs
  obtain ⟨s', hs', heq⟩ := List.mem_map.1 hmem
  exact (hp s).1 (heq ▸ (hp s').2 (hall s' hs'))

theorem Alike.valid (h : Alike n m) (hn : n.Valid) : m.Valid := by
  have hcancelled : ∀ token, m.isCancelled token = n.isCancelled token := fun token => by
    rw [isCancelled, h.cancelled]
    rfl
  refine ⟨h.forall (fun _ => Iff.rfl) fun s hs => ?_, h.forall (fun _ => Iff.rfl) hn.port,
    h.forall (fun _ => Iff.rfl) fun s hs => ?_, h.listening ▸ hn.nodup⟩
  · rw [hcancelled]
    exact hn.alive s hs
  · rw [h.taken]
    exact hn.taken s hs

/-! ## Binding -/

theorem mem_listening {address : Socket} :
    address ∈ n.listening ↔ ∃ s ∈ n.servers, s.isListening = true ∧ s.address = address := by
  simp [listening, and_assoc]

theorem isTaken_eq_false {address : Socket} :
    n.isTaken address = false ↔ address ∉ n.taken ∧ address ∉ n.listening := by
  simp [isTaken, mem_listening]

theorem ephemeralPorts_ne_zero {port : UInt16} (hp : port ∈ ephemeralPorts) : port ≠ 0 := by
  obtain ⟨p, hrange, rfl⟩ := List.mem_map.1 hp
  obtain ⟨hle, hlt⟩ := List.mem_range'_1.1 hrange
  intro h0
  have := congrArg UInt16.toNat h0
  simp at this
  omega

/-- No server has ever had a port, and no other program has it. -/
def IsUnused (n : Network) (port : UInt16) : Prop :=
  (∀ s ∈ n.servers, s.address.port ≠ port) ∧ ∀ address ∈ n.taken, address.port ≠ port

/-- The system chooses an unused port. -/
theorem isUnused_of_freePort? {port : UInt16} (h : n.freePort? = some port) :
    port ∈ ephemeralPorts ∧ n.IsUnused port := by
  have hunused := List.find?_some h
  simp only [Bool.not_eq_true', Bool.or_eq_false_iff, List.any_eq_false, beq_iff_eq] at hunused
  exact ⟨List.mem_of_find?_eq_some h, hunused⟩

/-- The system finds an unused port if there is one. -/
theorem exists_freePort? {port : UInt16} (hmem : port ∈ ephemeralPorts) (h : n.IsUnused port) :
    ∃ chosen, n.freePort? = some chosen := by
  refine Option.isSome_iff_exists.1 (List.find?_isSome.2 ⟨port, hmem, ?_⟩)
  simp only [Bool.not_eq_true', Bool.or_eq_false_iff, List.any_eq_false, beq_iff_eq]
  exact h

theorem IsUnused.isTaken {address : Socket} (h : n.IsUnused address.port) :
    n.isTaken address = false := by
  refine isTaken_eq_false.2 ⟨fun hmem => h.2 _ hmem rfl, fun hmem => ?_⟩
  obtain ⟨s, hs, _, heq⟩ := mem_listening.1 hmem
  exact h.1 s hs (congrArg (·.port) heq)

/-- Binding gives the address itself, if it has a port and nobody listens there, or the same with an
unused port that the system chooses. -/
theorem bind_cases {address bound : Socket} (h : n.bind address = .ok bound) :
    (address.port = 0 ∧ ∃ port ∈ ephemeralPorts, n.IsUnused port ∧
      bound = { address with port := port }) ∨
    (address.port ≠ 0 ∧ n.isTaken address = false ∧ bound = address) := by
  rw [bind] at h
  split at h
  · cases h
  · split at h
    · next hport =>
      split at h
      · next port hfree =>
        obtain ⟨hmem, hunused⟩ := isUnused_of_freePort? hfree
        exact .inl ⟨hport, port, hmem, hunused, (Except.ok.inj h).symm⟩
      · cases h
    · next hport =>
      split at h
      · cases h
      · next htaken =>
        exact .inr ⟨hport, Bool.not_eq_true _ ▸ htaken, (Except.ok.inj h).symm⟩

/-- Binding gives an address with a port, on which nobody listens. -/
theorem bind_ok {address bound : Socket} (h : n.bind address = .ok bound) :
    bound.port ≠ 0 ∧ n.isTaken bound = false := by
  rcases bind_cases h with ⟨_, port, hmem, hunused, rfl⟩ | ⟨hport, htaken, rfl⟩
  · exact ⟨ephemeralPorts_ne_zero hmem, IsUnused.isTaken hunused⟩
  · exact ⟨hport, htaken⟩

/-- With the loopback interface up, every address can be bound that nobody has. -/
theorem bind_up (hlink : n.link = .up) (address : Socket) :
    n.bind address =
      if address.port = 0 then
        match n.freePort? with
        | some port => .ok { address with port := port }
        | none => .error .inUse
      else if n.isTaken address then .error .inUse
      else .ok address := by
  rw [bind, hlink]
  cases address.ip <;> rfl

/-- With the loopback interface up, an address with a port can be bound if nobody listens there. -/
theorem bind_eq {address : Socket} (hlink : n.link = .up) (hport : address.port ≠ 0) :
    n.bind address = if n.isTaken address then .error .inUse else .ok address := by
  rw [bind_up hlink, if_neg hport]

/-- With the loopback interface up, port zero can be bound if some port is unused. -/
theorem exists_bind {address : Socket} {port : UInt16} (hlink : n.link = .up)
    (hport : address.port = 0) (hmem : port ∈ ephemeralPorts) (hunused : n.IsUnused port) :
    ∃ chosen, n.bind address = .ok { address with port := chosen } ∧ chosen ∈ ephemeralPorts ∧
      n.IsUnused chosen := by
  obtain ⟨chosen, hchosen⟩ := exists_freePort? hmem hunused
  refine ⟨chosen, ?_, isUnused_of_freePort? hchosen⟩
  rw [bind_up hlink, if_pos hport, hchosen]

/-! ## Starting and cancelling -/

/-- A new server keeps the invariant if nobody listens on its address. -/
theorem Valid.listen (hn : n.Valid) (name : String) (service : Service) (mode : Option Mode)
    {address : Socket} (token : Nat) (hport : address.port ≠ 0)
    (haddress : n.isTaken address = false) : (n.listen name service mode address token).Valid := by
  obtain ⟨htaken, hlistening⟩ := isTaken_eq_false.1 haddress
  constructor
  case alive =>
    intro s hs
    rcases List.mem_append.1 hs with hs | hs
    · exact hn.alive s hs
    · obtain rfl := List.mem_singleton.1 hs
      rfl
  case port =>
    intro s hs
    rcases List.mem_append.1 hs with hs | hs
    · exact hn.port s hs
    · obtain rfl := List.mem_singleton.1 hs
      exact hport
  case taken =>
    intro s hs
    rcases List.mem_append.1 hs with hs | hs
    · exact hn.taken s hs
    · obtain rfl := List.mem_singleton.1 hs
      exact htaken
  case nodup =>
    have heq : (n.listen name service mode address token).listening =
        n.listening ++ if n.isCancelled token then [] else [address] := by
      simp only [Network.listen, Network.listening, log, List.filter_append, List.map_append]
      cases n.isCancelled token <;> rfl
    rw [heq]
    split
    · -- Its token has been cancelled already, so it never listens.
      rw [List.append_nil]
      exact hn.nodup
    · exact hn.nodup.append (List.nodup_singleton _) (by simpa using hlistening)

theorem start_eq (n : Network) (settings : Settings) (token : Nat) :
    n.start settings token =
      (settings.listenAddress.mapError StartFault.host).bind fun address =>
        ((n.bind address).mapError (StartFault.bind address)).bind fun bound =>
          .ok ((n.log [.appStarted bound settings.mode]).listen settings.listen.name
            (.ofSettings settings) (some settings.mode) bound token) := rfl

/-- What a server that has started listens on, and what the machine is then. -/
theorem start_ok {settings : Settings} {token : Nat} (h : n.start settings token = .ok m) :
    ∃ address bound, settings.listenAddress = .ok address ∧ n.bind address = .ok bound ∧
      m = (n.log [.appStarted bound settings.mode]).listen settings.listen.name
        (.ofSettings settings) (some settings.mode) bound token := by
  rw [start_eq] at h
  -- The host may be unknown and the address taken; what is left is a start.
  rcases haddress : settings.listenAddress with fault | address
  · rw [haddress] at h
    cases h
  · rcases hbound : n.bind address with fault | bound
    · rw [haddress, Except.mapError, Except.bind, hbound] at h
      cases h
    · rw [haddress, Except.mapError, Except.bind, hbound] at h
      obtain rfl := Except.ok.inj h
      exact ⟨address, bound, rfl, hbound, rfl⟩

end Network

/-- A server after the cancellation of a token. -/
def Server.afterCancel (token : Nat) (s : Server) : Server :=
  if s.token == token then { s with isListening := false } else s

namespace Network

variable {n m : Network}

/-- The cancellation of a token ends its servers. -/
theorem Valid.cancel_servers (hn : n.Valid) (token : Nat) :
    (n.cancel token).servers = n.servers.map (Server.afterCancel token) := by
  rw [cancel]
  split
  · next hcancelled =>
    -- The servers of a token that has been cancelled do not listen anyway.
    refine (List.map_congr_left fun s hs => ?_).trans (List.map_id _) |>.symm
    rw [Server.afterCancel]
    split
    · next htoken =>
      have halive := hn.alive s hs
      rw [beq_iff_eq.1 htoken, hcancelled] at halive
      cases s
      simp_all
    · rfl
  · rfl

theorem isCancelled_cancel (n : Network) (token other : Nat) :
    (n.cancel token).isCancelled other = (other == token || n.isCancelled other) := by
  rw [cancel]
  split
  · next hcancelled =>
    by_cases heq : other = token
    · simp [heq, hcancelled]
    · simp [heq]
  · rfl

theorem cancel_frame (n : Network) (token : Nat) :
    (n.cancel token).link = n.link ∧ (n.cancel token).taken = n.taken := by
  rw [cancel]
  split <;> exact ⟨rfl, rfl⟩

/-- The cancellation of a token keeps the invariant. -/
theorem Valid.cancel (hn : n.Valid) (token : Nat) : (n.cancel token).Valid := by
  have hfields : ∀ s : Server, (s.afterCancel token).address = s.address ∧
      (s.afterCancel token).token = s.token ∧
      (s.afterCancel token).isListening = (!(s.token == token) && s.isListening) := by
    intro s
    rw [Server.afterCancel]
    split <;> simp_all
  have hall : ∀ s' ∈ (n.cancel token).servers, ∃ s ∈ n.servers, s.afterCancel token = s' := by
    rw [hn.cancel_servers token]
    exact fun _ => List.mem_map.1
  constructor
  case alive =>
    intro s' hs'
    obtain ⟨s, hs, rfl⟩ := hall s' hs'
    obtain ⟨_, htoken, hlistening⟩ := hfields s
    rw [hlistening, htoken, isCancelled_cancel, hn.alive s hs, Bool.not_or]
  case port =>
    intro s' hs'
    obtain ⟨s, hs, rfl⟩ := hall s' hs'
    rw [(hfields s).1]
    exact hn.port s hs
  case taken =>
    intro s' hs'
    obtain ⟨s, hs, rfl⟩ := hall s' hs'
    rw [(hfields s).1, (n.cancel_frame token).2]
    exact hn.taken s hs
  case nodup =>
    -- The addresses that are left were there before.
    have hsub : (n.cancel token).listening.Sublist n.listening := by
      have hcomp : ((·.isListening) ∘ Server.afterCancel token) =
          fun s : Server => !(s.token == token) && s.isListening :=
        funext fun s => (hfields s).2.2
      have haddress : ((·.address) ∘ Server.afterCancel token) = fun s : Server => s.address :=
        funext fun s => (hfields s).1
      rw [listening, hn.cancel_servers token, List.filter_map, List.map_map, hcomp, haddress,
        ← List.filter_filter]
      exact List.filter_sublist.map _
    exact hn.nodup.sublist hsub

/-! ## Sessions -/

theorem make_start (n : Network) (settings : Settings) (token : Option Nat) :
    n.make (.start settings token) =
      match n.start settings (token.getD n.freshToken) with
      | .ok after => (after, .started n.servers.length)
      | .error fault => (n, .startFailed fault) := rfl

/-- A request is read by the server that the client has connected to. -/
theorem make_request (n : Network) (address : Socket) (bytes : List UInt8) :
    n.make (.request address bytes) =
      match n.connect address with
      | .ok id => (n.read id (.ofBytes bytes), .sent
          (if n.flights.length < (n.read id (.ofBytes bytes)).flights.length then
            some n.flights.length else none))
      | .error fault => (n, .connectFailed fault) := by
  have heq : n.request address bytes =
      (n.connect address).bind fun id => .ok (n.read id (.ofBytes bytes)) := rfl
  rcases hconnect : n.connect address with fault | id <;>
    rw [hconnect, Except.bind] at heq <;> simp only [Network.make, heq]

/-- The token that an action cancels. -/
def cancels? (n : Network) : Action → Option Nat
  | .stop id => (n.servers[id]?).map (·.token)
  | .cancel token => some token
  | _ => none

theorem stop_alike {id : Nat} {s : Server} (hs : n.servers[id]? = some s) :
    Alike (n.cancel s.token) (n.stop id) := by
  rw [stop]
  rw [hs]
  dsimp only
  split
  · exact ⟨rfl, rfl, rfl, rfl⟩
  · exact .refl _

/-- All that an action can do: it leaves the servers alone, starts one on an address that can be
bound, or cancels a token. -/
theorem make_cases (n : Network) (action : Action) :
    (n.cancels? action = none ∧ Alike n (n.make action).1) ∨
    (n.cancels? action = none ∧ ∃ settings address bound token,
      settings.listenAddress = .ok address ∧ n.bind address = .ok bound ∧
      Alike (n.listen settings.listen.name (.ofSettings settings) (some settings.mode) bound token)
        (n.make action).1) ∨
    ∃ token, n.cancels? action = some token ∧ Alike (n.cancel token) (n.make action).1 := by
  cases action with
  | start settings token =>
    rw [make_start]
    split
    · next h =>
      obtain ⟨address, bound, haddress, hbound, rfl⟩ := start_ok h
      exact .inr (.inl ⟨rfl, settings, address, bound, _, haddress, hbound,
        ⟨rfl, rfl, rfl, rfl⟩⟩)
    · exact .inl ⟨rfl, .refl n⟩
  | stop id =>
    rcases hs : n.servers[id]? with _ | s
    · refine .inl ⟨by rw [cancels?, hs]; rfl, ?_⟩
      rw [show (n.make (.stop id)).1 = n.stop id from rfl, stop, hs]
      exact .refl n
    · exact .inr (.inr ⟨s.token, by rw [cancels?, hs]; rfl, stop_alike hs⟩)
  | wait id => exact .inl ⟨rfl, .refl n⟩
  | cancel token => exact .inr (.inr ⟨token, rfl, .refl _⟩)
  | request address bytes =>
    refine .inl ⟨rfl, ?_⟩
    rw [make_request]
    split
    · next id _ => exact n.read_alike id (.ofBytes bytes)
    · exact .refl n
  | abandon id => exact .inl ⟨rfl, n.abandon_alike id⟩
  | advance id step => exact .inl ⟨rfl, n.modifyCounter_alike id (·.advance step)⟩
  | reset id => exact .inl ⟨rfl, n.modifyCounter_alike id fun _ => .fresh⟩
  | pass ms => exact .inl ⟨rfl, passWith_alike _ _ n⟩

/-- Every action keeps the invariant. -/
theorem Valid.make (hn : n.Valid) (action : Action) : (n.make action).1.Valid := by
  rcases n.make_cases action with ⟨_, h⟩ | ⟨_, _, _, _, token, _, hbound, h⟩ | ⟨token, _, h⟩
  · exact h.valid hn
  · obtain ⟨hport, htaken⟩ := bind_ok hbound
    exact h.valid (hn.listen _ _ _ token hport htaken)
  · exact h.valid (hn.cancel token)

theorem mem_cancel_servers {token : Nat} {s : Server} (hs : s ∈ (n.cancel token).servers) :
    ∃ s' ∈ n.servers, s'.service = s.service ∧ s'.address = s.address := by
  rw [cancel] at hs
  split at hs
  · exact ⟨s, hs, rfl, rfl⟩
  · obtain ⟨s', hs', rfl⟩ := List.mem_map.1 hs
    refine ⟨s', hs', ?_⟩
    split <;> exact ⟨rfl, rfl⟩

/-- What holds of the service and the address of every server still does after an action if it does
for every server that an application can start. -/
theorem make_forall {p : Service → Socket → Prop}
    (hstart : ∀ settings address bound, settings.listenAddress = .ok address →
      n.bind address = .ok bound → p (.ofSettings settings) bound)
    (h : ∀ s ∈ n.servers, p s.service s.address) (action : Action) :
    ∀ s ∈ (n.make action).1.servers, p s.service s.address := by
  rcases n.make_cases action with ⟨_, hm⟩ | ⟨_, settings, address, bound, _, haddress, hbound, hm⟩ |
    ⟨token, _, hm⟩
  · exact hm.forall (fun _ => Iff.rfl) h
  · refine hm.forall (fun _ => Iff.rfl) fun s hs => ?_
    rcases List.mem_append.1 hs with hs | hs
    · exact h s hs
    · obtain rfl := List.mem_singleton.1 hs
      exact hstart settings address bound haddress hbound
  · refine hm.forall (fun _ => Iff.rfl) fun s hs => ?_
    obtain ⟨s', hs', hservice, haddress⟩ := mem_cancel_servers hs
    exact hservice ▸ haddress ▸ h s' hs'

/-- No action changes the interface or the addresses of other programs. -/
theorem make_frame (n : Network) (action : Action) :
    (n.make action).1.link = n.link ∧ (n.make action).1.taken = n.taken := by
  rcases n.make_cases action with ⟨_, h⟩ | ⟨_, _, _, _, _, _, _, h⟩ | ⟨token, _, h⟩
  · exact ⟨h.link, h.taken⟩
  · exact ⟨h.link, h.taken⟩
  · exact ⟨h.link.trans (n.cancel_frame token).1, h.taken.trans (n.cancel_frame token).2⟩

theorem run_cons_eq (n : Network) (action : Action) (rest : List Action) :
    n.run (action :: rest) =
      (((n.make action).1.run rest).1, (n.make action).2 :: ((n.make action).1.run rest).2) := rfl

theorem run_cons (n : Network) (action : Action) (rest : List Action) :
    (n.run (action :: rest)).1 = ((n.make action).1.run rest).1 := rfl

theorem run_append (n : Network) (first rest : List Action) :
    (n.run (first ++ rest)).1 = ((n.run first).1.run rest).1 := by
  induction first generalizing n with
  | nil => rfl
  | cons action first ih =>
    rw [List.cons_append, run_cons, run_cons]
    exact ih _

/-- Every session keeps the invariant. -/
theorem Valid.run (hn : n.Valid) (actions : List Action) : (n.run actions).1.Valid := by
  induction actions generalizing n with
  | nil => exact hn
  | cons action rest ih =>
    rw [run_cons]
    exact ih (hn.make action)

/-- What holds of the service and the address of every server still does after a session if it does
for every server that an application can start. -/
theorem run_forall {p : Service → Socket → Prop}
    (hstart : ∀ (n : Network) settings address bound, settings.listenAddress = .ok address →
      n.bind address = .ok bound → p (.ofSettings settings) bound)
    (h : ∀ s ∈ n.servers, p s.service s.address) (actions : List Action) :
    ∀ s ∈ (n.run actions).1.servers, p s.service s.address := by
  induction actions generalizing n with
  | nil => exact h
  | cons action rest ih =>
    rw [run_cons]
    exact ih (make_forall (hstart n) h action)

theorem run_frame (n : Network) (actions : List Action) :
    (n.run actions).1.link = n.link ∧ (n.run actions).1.taken = n.taken := by
  induction actions generalizing n with
  | nil => exact ⟨rfl, rfl⟩
  | cons action rest ih =>
    obtain ⟨hlink, htaken⟩ := n.make_frame action
    rw [run_cons, (ih _).1, (ih _).2]
    exact ⟨hlink, htaken⟩

end Network

end FaultyServer
