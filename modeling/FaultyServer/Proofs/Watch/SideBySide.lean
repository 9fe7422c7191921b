import FaultyServer.Proofs.Program.Outcome
import FaultyServer.Proofs.Watch.View

/-!
# Servers side by side

Applications start servers on one machine, each with a token of its own by which they name it, and
on an address of its own (`Watch.Orderly`). A move names one server; time passes for all of them.

* `Orderly.hosts_started`, `Orderly.hosts_cancel`, `Orderly.hosts_stop`, `Orderly.hosts_perform`:
  what a move does to the server that it names;
* `Orderly.move_other`: what it does to another server, which is nothing.
-/

namespace FaultyServer

open Address (Socket)

/-- What a server is called, and where it listens. -/
structure Label where
  name : String
  mode : Option Mode
  address : Socket

/-- The label of a server. -/
def Server.label (s : Server) : Label := ⟨s.name, s.mode, s.address⟩

namespace Network

variable {n m : Network} {token : Nat}

/-- The tokens and the addresses of the servers, by their numbers. -/
def places (n : Network) : List (Nat × Socket) := n.servers.map fun s => (s.token, s.address)

theorem Alike.places (h : Alike n m) : m.places = n.places := by
  have hservers := congrArg (List.map fun s : Server => (s.token, s.address)) h.servers
  rw [List.map_map, List.map_map] at hservers
  exact hservers

theorem Alike.labels (h : Alike n m) : m.servers.map Server.label = n.servers.map Server.label := by
  have hservers := congrArg (List.map Server.label) h.servers
  rw [List.map_map, List.map_map] at hservers
  exact hservers

theorem cancel_places (n : Network) (token : Nat) : (n.cancel token).places = n.places := by
  rw [cancel]
  split
  · rfl
  · simp only [places, log, List.map_map]
    refine List.map_congr_left fun s _ => ?_
    simp only [Function.comp_apply]
    split <;> rfl

theorem stop_eq {id : Nat} {s : Server} (hs : n.servers[id]? = some s) :
    n.stop id = (n.cancel s.token).log (if s.mode.isSome then [.appStopped] else []) := by
  rw [stop]
  rw [hs]
  dsimp only
  split
  · rfl
  · simp [log]

theorem stop_places (n : Network) (id : Nat) : (n.stop id).places = n.places := by
  cases hs : n.servers[id]? with
  | none => rw [stop, hs]
  | some s =>
    rw [stop_eq hs]
    exact n.cancel_places s.token

/-- The cancellation of a token is logged for each server that it ends. -/
theorem Valid.cancel_events (hn : n.Valid) (token : Nat) :
    (n.cancel token).events = n.events ++
      (n.servers.filter fun s => s.isListening && s.token == token).map
        fun s => .serverStopped s.name s.address := by
  rw [Network.cancel]
  split
  · next hcancelled =>
    -- No server of a token that has been cancelled listens.
    have hnone : (n.servers.filter fun s => s.isListening && s.token == token) = [] := by
      refine List.filter_eq_nil_iff.2 fun s hs => ?_
      rw [hn.alive s hs]
      intro hboth
      obtain ⟨halive, htoken⟩ := Bool.and_eq_true_iff.1 hboth
      rw [beq_iff_eq.1 htoken, hcancelled] at halive
      cases halive
    rw [hnone, List.map_nil, List.append_nil]
  · rfl

end Network

namespace Watch

open Network (Action Result)

/-- What can happen to the server with a token. -/
inductive Move
  /-- An application starts it. -/
  | start (settings : Settings)
  | stop
  | cancel
  | step (step : Step)

/-- The number of the server with a token. -/
def number? (w : Watch) (token : Nat) : Option Nat :=
  w.network.servers.findIdx? (·.token == token)

/-- What can be seen of the server with a token. -/
def viewOf (w : Watch) (token : Nat) : Option View := (w.number? token).bind w.view?

/-- Makes a move of the server with a token. Without one, time passes at most. -/
def move (w : Watch) (token : Nat) : Move → Watch × Result
  | .start settings =>
    let (after, result) := w.make (.start settings (some token))
    match result with
    | .started _ => (after, .started 0)
    | _ => (after, result)
  | .stop =>
    match w.number? token with
    | some id => w.make (.stop id)
    | none => (w, .done)
  | .cancel => w.make (.cancel token)
  | .step step =>
    match w.number? token with
    | some id => w.perform id step
    | none => w.make (.pass step.duration)

/-- No two servers have the same token, or the same address. -/
structure Orderly (w : Watch) : Prop where
  sound : w.Sound
  tokens : (w.network.places.map Prod.fst).Nodup
  addresses : (w.network.places.map Prod.snd).Nodup
  sent : ∀ e ∈ w.sent, e.server < w.network.servers.length

/-- A server with a token: its number, its label and its view. -/
structure Hosts (w : Watch) (token id : Nat) (l : Label) (v : View) : Prop where
  number : w.number? token = some id
  label : (w.network.servers[id]?).map Server.label = some l
  view : w.view? id = some v

variable {w : Watch} {token other id : Nat} {s : Server} {v : View} {l : Label}
  {settings : Settings} {action : Action}

theorem number?_eq_none : w.number? token = none ↔ ∀ s ∈ w.network.servers, s.token ≠ token := by
  simp [number?, List.findIdx?_eq_none_iff]

theorem number?_congr {w' : Watch} (h : w'.network.places = w.network.places) :
    w'.number? token = w.number? token := by
  have hplaces : ∀ w : Watch,
      w.number? token = w.network.places.findIdx? (·.1 == token) := fun w => by
    rw [Network.places, List.findIdx?_map]
    rfl
  rw [hplaces, hplaces w, h]

theorem hosts_or_absent (w : Watch) (token : Nat) :
    w.number? token = none ∨ ∃ id l v, w.Hosts token id l v := by
  cases hnumber : w.number? token with
  | none => exact .inl rfl
  | some id =>
    obtain ⟨hlt, htoken, _⟩ := List.findIdx?_eq_some_iff_getElem.1 hnumber
    have hs := List.getElem?_eq_getElem hlt
    obtain ⟨v, hv⟩ : ∃ v, w.view? id = some v := by
      rw [view?, hs]
      exact ⟨_, rfl⟩
    exact .inr ⟨id, _, v, hnumber, congrArg (Option.map Server.label) hs, hv⟩

/-- The server that is hosted. -/
theorem Hosts.server (h : w.Hosts token id l v) :
    ∃ s, w.network.servers[id]? = some s ∧ s.label = l ∧ s.token = token ∧
      v = ⟨s.service, s.counter, s.isListening, w.network.now - w.start, w.requests id⟩ := by
  obtain ⟨s, hs, hlabel⟩ := Option.map_eq_some_iff.1 h.label
  obtain ⟨hlt, htoken, _⟩ := List.findIdx?_eq_some_iff_getElem.1 h.number
  have hview := h.view
  rw [view?, hs] at hview
  refine ⟨s, hs, hlabel, ?_, (Option.some.inj hview).symm⟩
  obtain ⟨_, rfl⟩ := List.getElem?_eq_some_iff.1 hs
  exact beq_iff_eq.1 htoken

theorem Hosts.lt_length (h : w.Hosts token id l v) : id < w.network.servers.length := by
  obtain ⟨s, hs, _⟩ := h.server
  exact (List.getElem?_eq_some_iff.1 hs).1

/-! ## Actions that touch no requests -/

section Still

variable (hflights : (w.network.make action).1.flights = w.network.flights)
  (hnow : (w.network.make action).1.now = w.network.now)

include hflights hnow

theorem Sound.make (h : w.Sound) : (w.make action).1.Sound where
  valid := h.valid.make action
  link := (w.network.make_frame action).1.trans h.link
  quiet := h.quiet.make action
  start_le := Nat.le_trans h.start_le (Nat.le_of_eq hnow.symm)
  sent e he := by
    obtain ⟨f, hf, hbegun⟩ := h.sent e he
    exact ⟨f, hflights ▸ hf, hbegun⟩
  nodup := h.nodup

theorem view?_make (id : Nat) :
    (w.make action).1.view? id = ((w.network.make action).1.servers[id]?).map fun s =>
      ⟨s.service, s.counter, s.isListening, w.network.now - w.start, w.requests id⟩ := by
  have hrequests : (w.make action).1.requests id = w.requests id := by
    simp only [requests, Watch.make, hflights]
  rw [view?, hrequests]
  show ((w.network.make action).1.servers[id]?).map (fun s => View.mk s.service s.counter
    s.isListening ((w.network.make action).1.now - w.start) (w.requests id)) = _
  rw [hnow]

end Still

/-- To stop a server is to cancel its token, and to log more. -/
theorem make_stop (hs : w.network.servers[id]? = some s) :
    w.make (.stop id) = ({ (w.make (.cancel s.token)).1 with
      network := ((w.make (.cancel s.token)).1.network).log
        (if s.mode.isSome then [.appStopped] else []) }, .done) :=
  congrArg (fun network => (({ w with network := network } : Watch), Result.done))
    (Network.stop_eq hs)

namespace Orderly

theorem of_fresh (taken : List Socket) : (Watch.of (.fresh .up taken)).Orderly where
  sound := .of (Network.fresh_valid .up taken) rfl (Network.fresh_quiet .up taken)
  tokens := List.nodup_nil
  addresses := List.nodup_nil
  sent := nofun

theorem alone (h : w.Orderly) (id : Nat) : w.Alone id := by
  intro i s s' hs hs' _ haddress
  have haddresses : ∀ (i : Nat) (s : Server), w.network.servers[i]? = some s →
      (w.network.places.map Prod.snd)[i]? = some s.address := fun i s hs => by
    simp only [Network.places, List.getElem?_map, hs, Option.map_some]
  have hi := haddresses i s' hs'
  have hid := haddresses id s hs
  rw [haddress, ← hid] at hi
  exact (List.getElem?_inj (List.getElem?_eq_some_iff.1 (hi.trans hid)).1 h.addresses).1 hi

/-- The server with a token is the only one that has it. -/
theorem filter_token (h : w.Orderly) (hs : w.network.servers[id]? = some s) :
    (w.network.servers.filter fun t => t.isListening && t.token == s.token) =
      if s.isListening then [s] else [] := by
  obtain ⟨before, after, hsplit⟩ := List.append_of_mem (List.mem_of_getElem? hs)
  have htokens : (w.network.servers.map (·.token)).Nodup := by
    have hnodup := h.tokens
    rw [Network.places, List.map_map] at hnodup
    exact hnodup
  rw [hsplit, List.map_append, List.map_cons, List.nodup_middle, List.nodup_cons] at htokens
  -- The servers before it and after it have other tokens.
  have hnil : ∀ servers : List Server, (∀ t ∈ servers, t ∈ before ++ after) →
      (servers.filter fun t => t.isListening && t.token == s.token) = [] := by
    intro servers hmem
    refine List.filter_eq_nil_iff.2 fun t ht hboth => htokens.1 ?_
    rw [← List.map_append, ← beq_iff_eq.1 (Bool.and_eq_true_iff.1 hboth).2]
    exact List.mem_map_of_mem (hmem t ht)
  rw [hsplit, List.filter_append, List.filter_cons,
    hnil before fun t ht => List.mem_append_left _ ht,
    hnil after fun t ht => List.mem_append_right _ ht]
  simp

/-! ### Moves of the server -/

theorem make (h : w.Orderly) (hflights : (w.network.make action).1.flights = w.network.flights)
    (hnow : (w.network.make action).1.now = w.network.now)
    (hplaces : (w.network.make action).1.places = w.network.places) :
    (w.make action).1.Orderly where
  sound := Sound.make hflights hnow h.sound
  tokens := hplaces ▸ h.tokens
  addresses := hplaces ▸ h.addresses
  sent e he := by
    have hlength := congrArg List.length hplaces
    simp only [Network.places, List.length_map] at hlength
    exact Nat.lt_of_lt_of_eq (h.sent e he) hlength.symm

theorem cancel (h : w.Orderly) (token : Nat) : (w.make (.cancel token)).1.Orderly :=
  h.make (w.network.cancel_flights token).1 (w.network.cancel_flights token).2
    (w.network.cancel_places token)

theorem stop (h : w.Orderly) (id : Nat) : (w.make (.stop id)).1.Orderly :=
  h.make (w.network.stop_flights id).1 (w.network.stop_flights id).2 (w.network.stop_places id)

/-- The cancellation of its token ends a server, which is logged unless it has been before. -/
theorem hosts_cancel (h : w.Orderly) (hhosts : w.Hosts token id l v) :
    (w.make (.cancel token)).1.Hosts token id l { v with isListening := false } ∧
      (w.make (.cancel token)).1.network.events = w.network.events ++
        if v.isListening then [.serverStopped l.name l.address] else [] := by
  obtain ⟨s, hs, rfl, rfl, rfl⟩ := hhosts.server
  have hserver : (w.network.cancel s.token).servers[id]? =
      some { s with isListening := false } := by
    rw [h.sound.valid.cancel_servers, List.getElem?_map, hs]
    simp [Server.afterCancel]
  refine ⟨⟨?_, congrArg (Option.map Server.label) hserver, ?_⟩, ?_⟩
  · exact (number?_congr (w.network.cancel_places s.token)).trans hhosts.number
  · have hframe : (w.network.make (.cancel s.token)).1.flights = w.network.flights ∧
        (w.network.make (.cancel s.token)).1.now = w.network.now :=
      w.network.cancel_flights s.token
    rw [view?_make hframe.1 hframe.2]
    exact congrArg (Option.map _) hserver
  · show (w.network.cancel s.token).events = _
    rw [h.sound.valid.cancel_events, h.filter_token hs]
    split <;> rfl

/-- An application that stops its server logs so. -/
theorem hosts_stop (h : w.Orderly) (hhosts : w.Hosts token id l v) :
    (w.make (.stop id)).1.Hosts token id l { v with isListening := false } ∧
      (w.make (.stop id)).1.network.events = w.network.events ++
        ((if v.isListening then [.serverStopped l.name l.address] else []) ++
          if l.mode.isSome then [.appStopped] else []) := by
  obtain ⟨hcancelled, hevents⟩ := h.hosts_cancel hhosts
  obtain ⟨s, hs, rfl, rfl, _⟩ := hhosts.server
  rw [make_stop hs]
  refine ⟨⟨hcancelled.number, hcancelled.label, hcancelled.view⟩, ?_⟩
  rw [← List.append_assoc, ← hevents]
  rfl

/-- A step leaves the servers apart. -/
theorem perform (h : w.Orderly) (hid : id < w.network.servers.length) (step : Step) :
    (w.perform id step).1.Orderly := by
  have halike := h.sound.alike_perform (h.alone id) step
  have hlength : (w.perform id step).1.network.servers.length = w.network.servers.length := by
    have heq := congrArg List.length halike.servers
    simpa only [List.length_map] using heq
  refine ⟨h.sound.perform (h.alone id) step, halike.places ▸ h.tokens,
    halike.places ▸ h.addresses, fun e he => ?_⟩
  rw [hlength]
  rcases h.sound.perform_cases (h.alone id) step with ⟨change, heq⟩ |
    ⟨client, bytes, answer, _, heq⟩ | ⟨client, rfl⟩
  · rw [heq] at he
    exact h.sent e he
  · rw [heq] at he
    rcases List.mem_append.1 he with he | he
    · exact h.sent e he
    · obtain rfl := List.mem_singleton.1 he
      exact hid
  · exact h.sent e he

/-- To cancel the token of no server does nothing that can be seen. -/
theorem absent_cancel (h : w.Orderly) (hnone : w.number? token = none) :
    (w.make (.cancel token)).1.number? token = none ∧
      (w.make (.cancel token)).1.network.events = w.network.events := by
  refine ⟨(number?_congr (w.network.cancel_places token)).trans hnone, ?_⟩
  have hnobody : (w.network.servers.filter fun s => s.isListening && s.token == token) = [] :=
    List.filter_eq_nil_iff.2 fun s hs hboth =>
      number?_eq_none.1 hnone s hs (beq_iff_eq.1 (Bool.and_eq_true_iff.1 hboth).2)
  show (w.network.cancel token).events = _
  rw [h.sound.valid.cancel_events, hnobody, List.map_nil, List.append_nil]

theorem hosts_perform (h : w.Orderly) (hhosts : w.Hosts token id l v) (step : Step) :
    (w.perform id step).1.Hosts token id l (v.perform step).1 ∧
      (w.perform id step).2 = (v.perform step).2.1 ∧
      (w.perform id step).1.network.events = w.network.events ++ (v.perform step).2.2 := by
  have halike := h.sound.alike_perform (h.alone id) step
  obtain ⟨hview, hrest⟩ := h.sound.view?_perform (h.alone id) hhosts.view step
  refine ⟨⟨(number?_congr halike.places).trans hhosts.number, ?_, hview⟩, hrest⟩
  rw [← List.getElem?_map, halike.labels, List.getElem?_map]
  exact hhosts.label

/-! ### Starts -/

end Orderly

/-- A server that starts gets a token and an address of its own. -/
def Apart (w : Watch) (token : Nat) : Move → Prop
  | .start settings =>
    (∀ s ∈ w.network.servers, s.token ≠ token) ∧
      ∀ address, settings.listenAddress = .ok address →
        if address.port = 0 then w.network.freePort? ≠ none
        else ∀ s ∈ w.network.servers, s.address ≠ address
  | _ => True

theorem Apart.bound (h : w.Apart token (.start settings)) {address bound : Socket}
    (haddress : settings.listenAddress = .ok address)
    (hbound : w.network.bind address = .ok bound) : ∀ s ∈ w.network.servers, s.address ≠ bound := by
  have hasked := h.2 address haddress
  rcases Network.bind_cases hbound with ⟨_, port, _, hunused, rfl⟩ | ⟨hport, _, rfl⟩
  · -- The system chooses a port that no server has had.
    exact fun s hs heq => hunused.1 s hs (congrArg (·.port) heq)
  · rwa [if_neg hport] at hasked

/-- A machine on which an application has started a server. -/
def started (w : Watch) (settings : Settings) (token : Nat) (bound : Socket) : Watch :=
  { w with
    network := (w.network.log [.appStarted bound settings.mode]).listen settings.listen.name
      (.ofSettings settings) (some settings.mode) bound token }

variable {address bound : Socket}

theorem make_start (haddress : settings.listenAddress = .ok address)
    (hbound : w.network.bind address = .ok bound) :
    w.make (.start settings (some token)) =
      (w.started settings token bound, .started w.network.servers.length) := by
  have hstart : w.network.start settings token =
      .ok (w.started settings token bound).network := by
    rw [Network.start_eq, haddress, Except.mapError, Except.bind, hbound]
    rfl
  rw [make, Network.make_start, Option.getD_some, hstart]
  rfl

theorem servers_started : (w.started settings token bound).network.servers = w.network.servers ++
    [⟨settings.listen.name, .ofSettings settings, some settings.mode, bound, token, .fresh,
      !w.network.isCancelled token⟩] := rfl

theorem events_started : (w.started settings token bound).network.events =
    w.network.events ++ (.appStarted bound settings.mode ::
      .serverStarted settings.listen.name bound ::
        if !w.network.isCancelled token then []
        else [.serverStopped settings.listen.name bound]) := by
  rw [started, Network.listen]
  dsimp only [Network.log]
  rw [List.append_assoc]
  rfl

theorem number?_started :
    (w.started settings token bound).number? other =
      (w.number? other).or (if token = other then some w.network.servers.length else none) := by
  rw [number?, servers_started, List.findIdx?_append, number?]
  by_cases hother : token = other
  · simp [hother]
  · simp [hother]

theorem view?_started :
    (w.started settings token bound).view? id =
      ((w.started settings token bound).network.servers[id]?).map fun s =>
        ⟨s.service, s.counter, s.isListening, w.network.now - w.start, w.requests id⟩ := rfl

/-- The other servers are as they were. -/
theorem Hosts.started (h : w.Hosts other id l v) :
    (w.started settings token bound).Hosts other id l v := by
  have hsame : (w.started settings token bound).network.servers[id]? = w.network.servers[id]? := by
    rw [servers_started, List.getElem?_append_left h.lt_length]
  refine ⟨?_, ?_, ?_⟩
  · rw [number?_started, h.number, Option.some_or]
  · rw [hsame]
    exact h.label
  · rw [view?_started, hsame]
    exact h.view

namespace Orderly

/-- The new server is there. -/
theorem hosts_started (h : w.Orderly) (htoken : w.number? token = none) :
    (w.started settings token bound).Hosts token w.network.servers.length
      ⟨settings.listen.name, some settings.mode, bound⟩
      ⟨.ofSettings settings, .fresh, !w.network.isCancelled token, w.network.now - w.start, []⟩ := by
  have hrequests : w.requests w.network.servers.length = [] := by
    have hnone : w.sent.filter (·.server == w.network.servers.length) = [] :=
      List.filter_eq_nil_iff.2 fun e he heq =>
        Nat.lt_irrefl _ (beq_iff_eq.1 heq ▸ h.sent e he)
    rw [requests, hnone, List.filterMap_nil]
  refine ⟨?_, ?_, ?_⟩
  · rw [number?_started, htoken, if_pos rfl, Option.none_or]
  · rw [servers_started, List.getElem?_concat_length]
    rfl
  · rw [view?_started, servers_started, List.getElem?_concat_length, hrequests]
    rfl

theorem started (h : w.Orderly) (htoken : ∀ s ∈ w.network.servers, s.token ≠ token)
    (hown : ∀ s ∈ w.network.servers, s.address ≠ bound)
    (haddress : settings.listenAddress = .ok address)
    (hbound : w.network.bind address = .ok bound) :
    (w.started settings token bound).Orderly := by
  have hmake : w.make (.start settings (some token)) =
      (w.started settings token bound, .started w.network.servers.length) :=
    make_start haddress hbound
  have hsound : (w.make (.start settings (some token))).1.Sound :=
    Sound.make (congrArg (·.1.network.flights) hmake) (congrArg (·.1.network.now) hmake) h.sound
  have hplaces : (w.started settings token bound).network.places =
      w.network.places ++ [(token, bound)] := by
    rw [Network.places, servers_started, List.map_append]
    rfl
  have hnew : ∀ place ∈ w.network.places, place.1 ≠ token ∧ place.2 ≠ bound := by
    intro place hplace
    obtain ⟨s, hs, rfl⟩ := List.mem_map.1 hplace
    exact ⟨htoken s hs, hown s hs⟩
  refine ⟨?_, ?_, ?_, fun e he => ?_⟩
  · rw [hmake] at hsound
    exact hsound
  · rw [hplaces, List.map_append]
    refine h.tokens.append (List.nodup_singleton _) fun t ht ht' => ?_
    obtain ⟨place, hplace, rfl⟩ := List.mem_map.1 ht
    exact (hnew place hplace).1 (List.mem_singleton.1 ht')
  · rw [hplaces, List.map_append]
    refine h.addresses.append (List.nodup_singleton _) fun t ht ht' => ?_
    obtain ⟨place, hplace, rfl⟩ := List.mem_map.1 ht
    exact (hnew place hplace).2 (List.mem_singleton.1 ht')
  · rw [servers_started, List.length_append]
    exact Nat.lt_of_lt_of_le (h.sent e he) (Nat.le_add_right _ _)

end Orderly

/-- A start fails for the host of its settings or for its address, and then nothing happens. -/
theorem move_start_error {fault : StartFault}
    (h : settings.listenAddress.mapError StartFault.host = .error fault ∨
      ∃ address bindFault, settings.listenAddress = .ok address ∧
        w.network.bind address = .error bindFault ∧ fault = .bind address bindFault) :
    w.move token (.start settings) = (w, .startFailed fault) := by
  have hstart : w.network.start settings token = .error fault := by
    rw [Network.start_eq]
    rcases h with hhost | ⟨address, bindFault, haddress, hbind, rfl⟩
    · rw [hhost]
      rfl
    · rw [haddress, Except.mapError, Except.bind, hbind]
      rfl
  simp only [move, make, Network.make_start, Option.getD_some, hstart]

theorem move_start (haddress : settings.listenAddress = .ok address)
    (hbound : w.network.bind address = .ok bound) :
    w.move token (.start settings) = (w.started settings token bound, .started 0) := by
  simp only [move, make_start haddress hbound]

/-! ## Moves of other servers -/

/-- How many milliseconds a move takes. -/
def Move.duration : Move → Nat
  | .step s => s.duration
  | _ => 0

/-- So much time has passed. -/
structure Elapses (ms : Nat) (w w' : Watch) : Prop where
  taken : w'.network.taken = w.network.taken
  start : w'.start = w.start
  now : w'.network.now = w.network.now + ms

/-- For the server with a token, time has passed, and nothing else has happened. -/
structure Spares (token ms : Nat) (w w' : Watch) : Prop extends Elapses ms w w' where
  hosts : ∀ id l v, w.Hosts token id l v →
    w'.Hosts token id l { v with elapsed := v.elapsed + ms }
  absent : w.number? token = none → w'.number? token = none
  isCancelled : w'.network.isCancelled token = w.network.isCancelled token

theorem Elapses.refl (w : Watch) : Elapses 0 w w := ⟨rfl, rfl, rfl⟩

theorem Spares.refl (token : Nat) (w : Watch) : Spares token 0 w w :=
  ⟨.refl w, fun _ _ _ h => h, fun h => h, rfl⟩

theorem Elapses.make (h : (w.network.make action).1.now = w.network.now) :
    Elapses 0 w (w.make action).1 :=
  ⟨(w.network.make_frame action).2, rfl, h⟩

theorem Sound.elapses_perform (h : w.Sound) (halone : w.Alone id) (step : Step) :
    Elapses step.duration w (w.perform id step).1 :=
  ⟨(h.alike_perform halone step).taken, (h.perform_clock halone step).1,
    (h.perform_clock halone step).2⟩

/-- Time that passes is the same for all. -/
theorem Sound.pass_eq (h : w.Sound) (ms : Nat) :
    w.make (.pass ms) =
      ({ w with network := { w.network with now := w.network.now + ms } }, .done) :=
  h.perform_pass 0 ms

namespace Orderly

theorem spares_pass (h : w.Orderly) (token ms : Nat) :
    (w.make (.pass ms)).1.Orderly ∧ Spares token ms w (w.make (.pass ms)).1 := by
  have hsound : (w.make (.pass ms)).1.Sound := h.sound.perform (h.alone 0) (.pass ms)
  rw [h.sound.pass_eq] at hsound ⊢
  refine ⟨⟨hsound, h.tokens, h.addresses, h.sent⟩, ⟨rfl, rfl, rfl⟩, fun id l v hhosts => ?_,
    fun hnone => hnone, rfl⟩
  obtain ⟨s, hs, _, _, rfl⟩ := hhosts.server
  refine ⟨hhosts.number, hhosts.label, ?_⟩
  rw [view?, Nat.sub_add_comm h.sound.start_le]
  exact congrArg (Option.map _) hs

theorem spares_cancel (h : w.Orderly) (hother : other ≠ token) :
    Spares token 0 w (w.make (.cancel other)).1 where
  toElapses := .make (w.network.cancel_flights other).2
  hosts id l v hhosts := by
    obtain ⟨s, hs, _, htoken, rfl⟩ := hhosts.server
    have hserver : (w.network.cancel other).servers[id]? = some s := by
      have hne : (s.token == other) = false := beq_eq_false_iff_ne.2 (htoken ▸ Ne.symm hother)
      rw [h.sound.valid.cancel_servers, List.getElem?_map, hs, Option.map_some,
        Server.afterCancel, hne]
      rfl
    have hframe : (w.network.make (.cancel other)).1.flights = w.network.flights ∧
        (w.network.make (.cancel other)).1.now = w.network.now :=
      w.network.cancel_flights other
    refine ⟨(number?_congr (w.network.cancel_places other)).trans hhosts.number, ?_, ?_⟩
    · rw [← hhosts.label, hs]
      exact congrArg (Option.map Server.label) hserver
    · rw [view?_make hframe.1 hframe.2]
      exact congrArg (Option.map _) hserver
  absent hnone := (number?_congr (w.network.cancel_places other)).trans hnone
  isCancelled := by
    have heq : (token == other) = false := beq_eq_false_iff_ne.2 (Ne.symm hother)
    have hcancel := w.network.isCancelled_cancel other token
    rwa [heq, Bool.false_or] at hcancel

theorem spares_stop (h : w.Orderly) (hother : other ≠ token) (hhosts : w.Hosts other id l v) :
    Spares token 0 w (w.make (.stop id)).1 := by
  obtain ⟨s, hs, _, rfl, _⟩ := hhosts.server
  have hcancel := h.spares_cancel hother
  rw [make_stop hs]
  exact ⟨⟨hcancel.taken, hcancel.start, hcancel.now⟩,
    fun id l v hhosts =>
      ⟨(hcancel.hosts id l v hhosts).number, (hcancel.hosts id l v hhosts).label,
        (hcancel.hosts id l v hhosts).view⟩,
    hcancel.absent, hcancel.isCancelled⟩

theorem spares_perform (h : w.Orderly) (hother : other ≠ token) (hhosts : w.Hosts other id l v)
    (step : Step) : Spares token step.duration w (w.perform id step).1 where
  toElapses := h.sound.elapses_perform (h.alone id) step
  hosts id' l' v' hhosts' := by
    have hne : id' ≠ id := by
      rintro rfl
      obtain ⟨s, hs, _, htoken, _⟩ := hhosts.server
      obtain ⟨s', hs', _, htoken', _⟩ := hhosts'.server
      obtain rfl := Option.some.inj (hs.symm.trans hs')
      exact hother (htoken.symm.trans htoken')
    have halike := h.sound.alike_perform (h.alone id) step
    refine ⟨(number?_congr halike.places).trans hhosts'.number, ?_, ?_⟩
    · rw [← List.getElem?_map, halike.labels, List.getElem?_map]
      exact hhosts'.label
    · rw [h.sound.view?_perform_other (h.alone id) hne, hhosts'.view]
      rfl
  absent hnone := (number?_congr (h.sound.alike_perform (h.alone id) step).places).trans hnone
  isCancelled := congrArg (List.contains · token) (h.sound.alike_perform (h.alone id) step).cancelled

/-- A move of one server is nothing to another one, except that time passes. -/
theorem move_other (h : w.Orderly) (hother : other ≠ token) {move : Move}
    (hapart : w.Apart other move) :
    (w.move other move).1.Orderly ∧ Spares token move.duration w (w.move other move).1 := by
  cases move with
  | start settings =>
    cases haddress : settings.listenAddress with
    | error fault =>
      rw [move_start_error (.inl (by rw [haddress]; rfl))]
      exact ⟨h, .refl token w⟩
    | ok address =>
      cases hbound : w.network.bind address with
      | error fault =>
        rw [move_start_error (.inr ⟨address, fault, haddress, hbound, rfl⟩)]
        exact ⟨h, .refl token w⟩
      | ok bound =>
        rw [move_start haddress hbound]
        have hown := hapart.bound haddress hbound
        refine ⟨h.started hapart.1 hown haddress hbound, ⟨rfl, rfl, rfl⟩,
          fun _ _ _ hhosts => hhosts.started, fun hnone => ?_, rfl⟩
        rw [number?_started, hnone, if_neg hother]
        rfl
  | stop =>
    rw [Watch.move]
    rcases w.hosts_or_absent other with hnone | ⟨id, l, v, hhosts⟩
    · rw [hnone]
      exact ⟨h, .refl token w⟩
    · rw [hhosts.number]
      exact ⟨h.stop id, h.spares_stop hother hhosts⟩
  | cancel => exact ⟨h.cancel other, h.spares_cancel hother⟩
  | step step =>
    rw [Watch.move]
    rcases w.hosts_or_absent other with hnone | ⟨id, l, v, hhosts⟩
    · rw [hnone]
      exact h.spares_pass token step.duration
    · rw [hhosts.number]
      exact ⟨h.perform hhosts.lt_length step, h.spares_perform hother hhosts step⟩

end Orderly

end Watch

end FaultyServer
