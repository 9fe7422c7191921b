import FaultyServer.Proofs.Watch.Basic

/-!
# The view of a server

A view is all that the next step on a server depends on. It does not matter which number or address
the server has, what the time is, what else is on the machine, and which requests hang there that
have been sent before.

* `Sound.perform_cases`: all that a step can do;
* `Sound.perform`, `Sound.view?_perform`: a step leaves the machine in order, and does to a server
  what it does to the view of it;
* `Sound.view?_perform_other`: a step on one server does not concern another one;
* `Shows.sights`: what is seen of a server in many steps is determined by its view.
-/

namespace FaultyServer

open Address (Socket)

namespace Watch

open Network (Action Result)

/-! ## What a step does -/

/-- The machine is in order, and all that has been sent since it is watched is there. -/
structure Sound (w : Watch) : Prop where
  valid : w.network.Valid
  link : w.network.link = .up
  quiet : w.network.Quiet
  start_le : w.start ≤ w.network.now
  sent : ∀ e ∈ w.sent, ∃ f, w.network.flights[e.flight]? = some f ∧ w.start ≤ f.begun
  nodup : (w.sent.map (·.flight)).Nodup

/-- If anybody listens on the address of a server, it is this server. -/
def Alone (w : Watch) (id : Nat) : Prop :=
  ∀ i (s s' : Server), w.network.servers[id]? = some s → w.network.servers[i]? = some s' →
    s'.isListening = true → s'.address = s.address → i = id

variable {w : Watch} {id other : Nat} {v : View} {s : Server}

/-- No step changes what a server does, or stops it. -/
theorem View.perform_service (v : View) (step : Step) : (v.perform step).1.service = v.service := by
  cases step with
  | request client bytes =>
    rw [View.perform]
    split
    · split <;> rfl
    · rfl
  | _ => rfl

theorem View.perform_isListening (v : View) (step : Step) :
    (v.perform step).1.isListening = v.isListening := by
  cases step with
  | request client bytes =>
    rw [View.perform]
    split
    · split <;> rfl
    · rfl
  | _ => rfl

/-- A client gives up: the requests that it has sent to the server are not waited for any more. -/
theorem perform_abandon (w : Watch) (id client : Nat) :
    w.perform id (.abandon client) =
      ({ w with network := { w.network with
        flights := w.network.flights.mapIdx fun i f =>
          if i ∈ w.numbers id client then f.givenUp w.network.now else f } }, .done) := by
  rw [perform, Network.run_abandon]

/-- A step is made of actions. -/
theorem perform_run (w : Watch) (id : Nat) (step : Step) :
    ∃ actions, (w.perform id step).1.network = (w.network.run actions).1 := by
  have hmake : ∀ action, (w.make action).1.network = (w.network.run [action]).1 := fun _ => rfl
  cases step with
  | wait => exact ⟨_, hmake (.wait id)⟩
  | advance step => exact ⟨_, hmake (.advance id step)⟩
  | reset => exact ⟨_, hmake (.reset id)⟩
  | request client bytes =>
    rw [perform]
    split
    · exact ⟨[], rfl⟩
    · next s _ =>
      dsimp only
      split <;> exact ⟨_, hmake (.request s.address bytes)⟩
  | abandon client => exact ⟨_, rfl⟩
  | pass ms => exact ⟨_, hmake (.pass ms)⟩

namespace Sound

theorem of {n : Network} (hn : n.Valid) (hlink : n.link = .up) (hquiet : n.Quiet) :
    (Watch.of n).Sound where
  valid := hn
  link := hlink
  quiet := hquiet
  start_le := Nat.le_refl _
  sent _ he := absurd he List.not_mem_nil
  nodup := List.nodup_nil

/-- A client reaches the server as long as it listens. -/
theorem connect (h : w.Sound) (halone : w.Alone id) (hs : w.network.servers[id]? = some s) :
    w.network.connect s.address = if s.isListening then .ok id else .error .refused := by
  split
  · next hlistening => exact (h.valid.connect_eq_ok h.link).2 ⟨s, hs, hlistening, rfl⟩
  · next hsilent =>
    refine Network.connect_eq_refused h.link fun hmem => hsilent ?_
    obtain ⟨s', hs', hlistening, haddress⟩ := Network.mem_listening.1 hmem
    obtain ⟨i, hi⟩ := List.getElem?_of_mem hs'
    -- Whoever listens there is the server itself.
    obtain rfl := halone i s s' hs hi hlistening haddress
    rw [hs] at hi
    exact Option.some.inj hi ▸ hlistening

/-- A request is read by the server, if it listens and the bytes hold one. -/
theorem perform_request (h : w.Sound) (halone : w.Alone id)
    (hs : w.network.servers[id]? = some s) (client : Nat) (bytes : List UInt8) :
    w.perform id (.request client bytes) =
      if s.isListening then
        match (Connection.ofBytes bytes).next s.service s.counter with
        | none => (w, .sent none)
        | some answer =>
          ({ w with
            network := w.network.afterAnswer id answer
            sent := w.sent ++ [⟨id, client, w.network.flights.length⟩] }, .sent (some 0))
      else (w, .connectFailed .refused) := by
  have hconnect := h.connect halone hs
  rw [perform, hs]
  dsimp only [make]
  by_cases hlistening : s.isListening = true
  · rw [if_pos hlistening] at hconnect
    rw [if_pos hlistening, Network.make_request_of_connect hconnect hs]
    cases (Connection.ofBytes bytes).next s.service s.counter <;> rfl
  · rw [if_neg hlistening] at hconnect
    rw [if_neg hlistening, Network.make_request, hconnect]

theorem perform_pass (h : w.Sound) (id ms : Nat) :
    w.perform id (.pass ms) =
      ({ w with network := { w.network with now := w.network.now + ms } }, .done) := by
  rw [perform, make]
  show (({ w with network := w.network.pass ms } : Watch), Result.done) = _
  rw [h.quiet.pass]

/-! ### Requests -/

/-- No two clients have sent one request. -/
theorem mem_numbers (h : w.Sound) {e : Sent} (he : e ∈ w.sent) {client : Nat} :
    e.flight ∈ w.numbers id client ↔ e.server = id ∧ e.client = client := by
  simp only [numbers, List.mem_map, List.mem_filter, Bool.and_eq_true, beq_iff_eq]
  constructor
  · rintro ⟨e', ⟨he', hserver, hclient⟩, hflight⟩
    rw [← List.inj_on_of_nodup_map h.nodup he' he hflight]
    exact ⟨hserver, hclient⟩
  · rintro ⟨hserver, hclient⟩
    exact ⟨e, ⟨he, hserver, hclient⟩, rfl⟩

/-- A request that has been answered comes after the others. -/
theorem requests_answer (h : w.Sound) (answer : Connection.Answer) (client : Nat) :
    ({ w with
      network := w.network.afterAnswer id answer
      sent := w.sent ++ [⟨id, client, w.network.flights.length⟩] } : Watch).requests other =
      w.requests other ++
        if other = id then [(client, .ofAnswer 0 (w.network.now - w.start) answer)] else [] := by
  have hold : ∀ e ∈ w.sent.filter (·.server == other),
      ((w.network.afterAnswer id answer).flights[e.flight]?).map
        (fun f => (e.client, f.since w.start)) =
      (w.network.flights[e.flight]?).map fun f => (e.client, f.since w.start) := by
    intro e he
    obtain ⟨f, hf, _⟩ := h.sent e (List.mem_of_mem_filter he)
    rw [Network.afterAnswer, List.getElem?_append_left (List.getElem?_eq_some_iff.1 hf).1]
  have hnew : (w.network.afterAnswer id answer).flights[w.network.flights.length]? =
      some (.ofAnswer id w.network.now answer) := by
    rw [Network.afterAnswer, List.getElem?_append_right (Nat.le_refl _), Nat.sub_self]
    rfl
  simp only [requests, List.filter_append, List.filterMap_append]
  rw [List.filterMap_congr hold]
  congr 1
  by_cases hid : other = id
  · subst hid
    simp only [List.filter_cons, beq_self_eq_true, if_true, List.filter_nil, List.filterMap_cons,
      hnew, Option.map_some, List.filterMap_nil]
    rfl
  · have hne : (id == other) = false := beq_eq_false_iff_ne.2 (Ne.symm hid)
    simp [hid, hne]

/-- When a client gives up, its own requests are those that change. -/
theorem requests_abandon (h : w.Sound) (id other client : Nat) :
    (w.perform id (.abandon client)).1.requests other =
      (w.requests other).map fun (c, f) =>
        (c, if other = id ∧ c = client then f.givenUp (w.network.now - w.start) else f) := by
  rw [perform_abandon, requests, requests, List.map_filterMap]
  refine List.filterMap_congr fun e he => ?_
  obtain ⟨hsent, hserver⟩ := List.mem_filter.1 he
  obtain rfl := beq_iff_eq.1 hserver
  obtain ⟨f, hf, hbegun⟩ := h.sent e hsent
  simp only [List.getElem?_mapIdx, hf, Option.map_some, h.mem_numbers hsent]
  split
  · rw [Flight.givenUp_since hbegun h.start_le]
  · rfl

/-! ### Steps -/

/-- All that a step can do: it moves the clock or the counter of the server, the server answers a
request, or a client gives up. -/
theorem perform_cases (h : w.Sound) (halone : w.Alone id) (step : Step) :
    (∃ change : Counter → Counter, (w.perform id step).1 = { w with network := { w.network with
        now := w.network.now + step.duration
        servers := w.network.servers.modify id fun s =>
          { s with counter := change s.counter } } }) ∨
    (∃ client bytes answer, step = .request client bytes ∧ (w.perform id step).1 = { w with
      network := w.network.afterAnswer id answer
      sent := w.sent ++ [⟨id, client, w.network.flights.length⟩] }) ∨
    ∃ client, step = .abandon client := by
  have hsame : w.network.servers.modify id (fun s => { s with counter := s.counter }) =
      w.network.servers := by
    refine List.ext_getElem? fun i => ?_
    simp [List.getElem?_modify]
  have hstay : w = { w with network := { w.network with
      now := w.network.now + 0
      servers := w.network.servers.modify id fun s => { s with counter := s.counter } } } := by
    rw [hsame]
    rfl
  cases step with
  | wait => exact .inl ⟨fun c => c, hstay⟩
  | advance step => exact .inl ⟨(·.advance step), rfl⟩
  | reset => exact .inl ⟨fun _ => .fresh, rfl⟩
  | request client bytes =>
    cases hs : w.network.servers[id]? with
    | none =>
      have hperform : w.perform id (.request client bytes) = (w, .done) := by rw [perform, hs]
      rw [hperform]
      exact .inl ⟨fun c => c, hstay⟩
    | some s =>
      rw [h.perform_request halone hs]
      split
      · cases hnext : (Connection.ofBytes bytes).next s.service s.counter with
        | none => exact .inl ⟨fun c => c, hstay⟩
        | some answer => exact .inr (.inl ⟨client, bytes, answer, rfl, rfl⟩)
      · exact .inl ⟨fun c => c, hstay⟩
  | abandon client => exact .inr (.inr ⟨client, rfl⟩)
  | pass ms =>
    rw [h.perform_pass]
    refine .inl ⟨fun c => c, ?_⟩
    rw [hsame]
    rfl

/-- A step takes its time, and a machine is watched from where it has been. -/
theorem perform_clock (h : w.Sound) (halone : w.Alone id) (step : Step) :
    (w.perform id step).1.start = w.start ∧
      (w.perform id step).1.network.now = w.network.now + step.duration := by
  rcases h.perform_cases halone step with ⟨change, heq⟩ |
    ⟨client, bytes, answer, rfl, heq⟩ | ⟨client, rfl⟩
  · rw [heq]
    exact ⟨rfl, rfl⟩
  · rw [heq]
    exact ⟨rfl, rfl⟩
  · rw [perform_abandon]
    exact ⟨rfl, rfl⟩

/-- What has been sent stays there, and what is sent comes to it. -/
theorem sent_perform (h : w.Sound) (halone : w.Alone id) (step : Step) :
    ∀ e ∈ (w.perform id step).1.sent,
      ∃ f, (w.perform id step).1.network.flights[e.flight]? = some f ∧ w.start ≤ f.begun := by
  rcases h.perform_cases halone step with ⟨change, heq⟩ |
    ⟨client, bytes, answer, _, heq⟩ | ⟨client, rfl⟩
  · rw [heq]
    exact h.sent
  · rw [heq]
    intro e he
    rcases List.mem_append.1 he with he | he
    · obtain ⟨f, hf, hbegun⟩ := h.sent e he
      exact ⟨f, (List.getElem?_append_left (List.getElem?_eq_some_iff.1 hf).1).trans hf, hbegun⟩
    · obtain rfl := List.mem_singleton.1 he
      exact ⟨.ofAnswer id w.network.now answer, List.getElem?_concat_length, h.start_le⟩
  · rw [perform_abandon]
    intro e he
    obtain ⟨f, hf, hbegun⟩ := h.sent e he
    simp only [List.getElem?_mapIdx, hf, Option.map_some]
    refine ⟨_, rfl, ?_⟩
    -- Nobody who gives up on a request changes when it has begun.
    split
    · rw [Flight.givenUp_begun]
      exact hbegun
    · exact hbegun

theorem nodup_perform (h : w.Sound) (halone : w.Alone id) (step : Step) :
    ((w.perform id step).1.sent.map (·.flight)).Nodup := by
  rcases h.perform_cases halone step with ⟨change, heq⟩ |
    ⟨client, bytes, answer, _, heq⟩ | ⟨client, rfl⟩
  · rw [heq]
    exact h.nodup
  · rw [heq, List.map_append]
    refine h.nodup.append (List.nodup_singleton _) fun number hold hnew => ?_
    obtain ⟨e, he, rfl⟩ := List.mem_map.1 hold
    obtain ⟨f, hf, _⟩ := h.sent e he
    have hlt := (List.getElem?_eq_some_iff.1 hf).1
    exact absurd (List.mem_singleton.1 hnew) (Nat.ne_of_lt hlt)
  · exact h.nodup

/-- Every step leaves the machine in order. -/
theorem perform (h : w.Sound) (halone : w.Alone id) (step : Step) :
    (w.perform id step).1.Sound := by
  obtain ⟨actions, hrun⟩ := perform_run w id step
  obtain ⟨hstart, hnow⟩ := h.perform_clock halone step
  exact
    { valid := hrun ▸ h.valid.run actions
      link := hrun ▸ (w.network.run_frame actions).1.trans h.link
      quiet := hrun ▸ h.quiet.run actions
      start_le := by
        rw [hstart, hnow]
        exact Nat.le_trans h.start_le (Nat.le_add_right _ _)
      sent := by
        rw [hstart]
        exact h.sent_perform halone step
      nodup := h.nodup_perform halone step }

/-- A step leaves all servers alone but for a counter. -/
theorem alike_perform (h : w.Sound) (halone : w.Alone id) (step : Step) :
    Network.Alike w.network (w.perform id step).1.network := by
  rcases h.perform_cases halone step with ⟨change, heq⟩ |
    ⟨client, bytes, answer, _, heq⟩ | ⟨client, rfl⟩
  · rw [heq]
    obtain ⟨hlink, htaken, hcancelled, hservers⟩ := w.network.modifyCounter_alike id change
    exact ⟨hlink, htaken, hcancelled, hservers⟩
  · rw [heq]
    obtain ⟨hlink, htaken, hcancelled, hservers⟩ :=
      w.network.modifyCounter_alike id fun _ => answer.exchange.counter
    exact ⟨hlink, htaken, hcancelled, hservers⟩
  · rw [perform_abandon]
    exact ⟨rfl, rfl, rfl, rfl⟩

end Sound

theorem Alone.alike {w' : Watch} (h : w.Alone id) (halike : Network.Alike w.network w'.network) :
    w'.Alone id := by
  have hback : Network.Alike w'.network w.network :=
    ⟨halike.link.symm, halike.taken.symm, halike.cancelled.symm, halike.servers.symm⟩
  intro i s s' hs hs' hlistening haddress
  obtain ⟨t, ht, hfixed⟩ := hback.getElem? hs
  obtain ⟨t', ht', hfixed'⟩ := hback.getElem? hs'
  obtain ⟨_, _, _, haddress₀, _⟩ := Server.mk.inj hfixed
  obtain ⟨_, _, _, haddress', _, _, hlistening'⟩ := Server.mk.inj hfixed'
  exact h i t t' ht ht' (hlistening'.trans hlistening)
    (haddress'.trans (haddress.trans haddress₀.symm))

namespace Sound

/-- What a step does to a server is what it does to the view of it. -/
theorem view?_perform (h : w.Sound) (halone : w.Alone id) (hview : w.view? id = some v)
    (step : Step) :
    (w.perform id step).1.view? id = some (v.perform step).1 ∧
      (w.perform id step).2 = (v.perform step).2.1 ∧
      (w.perform id step).1.network.events = w.network.events ++ (v.perform step).2.2 := by
  obtain ⟨s, hs, rfl⟩ := Option.map_eq_some_iff.1 hview
  have hmodify : ∀ change : Counter → Counter,
      (w.network.servers.modify id fun s => { s with counter := change s.counter })[id]? =
        some { s with counter := change s.counter } := fun change => by
    rw [List.getElem?_modify_eq, hs]
    rfl
  cases step with
  | wait =>
    refine ⟨hview, ?_, (List.append_nil _).symm⟩
    show (if (w.network.servers[id]?).any (·.isListening) then Result.waiting else .done) = _
    rw [hs]
    rfl
  | advance step =>
    refine ⟨?_, rfl, (List.append_nil _).symm⟩
    exact congrArg (Option.map _) (hmodify (·.advance step))
  | reset =>
    refine ⟨?_, rfl, (List.append_nil _).symm⟩
    exact congrArg (Option.map _) (hmodify fun _ => .fresh)
  | request client bytes =>
    rw [h.perform_request halone hs, View.perform]
    dsimp only
    split
    · cases (Connection.ofBytes bytes).next s.service s.counter with
      | none => exact ⟨hview, rfl, (List.append_nil _).symm⟩
      | some answer =>
        refine ⟨?_, rfl, rfl⟩
        rw [view?, h.requests_answer answer client, if_pos rfl]
        exact congrArg (Option.map _) (hmodify fun _ => answer.exchange.counter)
    · exact ⟨hview, rfl, (List.append_nil _).symm⟩
  | abandon client =>
    have hrequests := h.requests_abandon id id client
    simp only [true_and] at hrequests
    rw [view?, hrequests, perform_abandon]
    refine ⟨?_, rfl, (List.append_nil _).symm⟩
    exact congrArg (Option.map _) hs
  | pass ms =>
    rw [h.perform_pass]
    refine ⟨?_, rfl, (List.append_nil _).symm⟩
    rw [view?, Nat.sub_add_comm h.start_le]
    exact congrArg (Option.map _) hs

/-- A step on one server does not concern another one, except that time passes. -/
theorem view?_perform_other (h : w.Sound) (halone : w.Alone id) (hother : other ≠ id)
    (step : Step) :
    (w.perform id step).1.view? other =
      (w.view? other).map fun v => { v with elapsed := v.elapsed + step.duration } := by
  have hservers : ∀ change : Server → Server,
      (w.network.servers.modify id change)[other]? = w.network.servers[other]? := fun _ =>
    List.getElem?_modify_ne _ _ (Ne.symm hother)
  rcases h.perform_cases halone step with ⟨change, heq⟩ | ⟨client, bytes, answer, rfl, heq⟩ |
    ⟨client, rfl⟩
  · rw [heq, view?, view?, Option.map_map]
    dsimp only
    rw [hservers, Nat.sub_add_comm h.start_le]
    rfl
  · rw [heq, view?, view?, Option.map_map, h.requests_answer answer client, if_neg hother,
      List.append_nil]
    exact congrArg (Option.map _) (hservers _)
  · have hrequests := h.requests_abandon id other client
    simp only [hother, false_and, if_false] at hrequests
    rw [view?, hrequests, perform_abandon, List.map_id', view?, Option.map_map]
    rfl

end Sound

/-! ## Steps in their order -/

/-- A machine that is in order shows this view of a server, whose address is its own. -/
structure Shows (w : Watch) (id : Nat) (v : View) : Prop where
  sound : w.Sound
  alone : w.Alone id
  view : w.view? id = some v

namespace Shows

theorem of_listening {n : Network} (hn : n.Valid) (hlink : n.link = .up) (hquiet : n.Quiet)
    (hview : (Watch.of n).view? id = some v) (hlistening : v.isListening = true) :
    (Watch.of n).Shows id v := by
  refine ⟨.of hn hlink hquiet, fun i s s' hs hs' hlistening' haddress => ?_, hview⟩
  have heq : v.isListening = s.isListening := by
    rw [view?, show (Watch.of n).network.servers[id]? = some s from hs] at hview
    exact congrArg View.isListening (Option.some.inj hview).symm
  exact hn.eq_of_address hs' hs hlistening' (heq ▸ hlistening) haddress

theorem perform (h : w.Shows id v) (step : Step) :
    (w.perform id step).1.Shows id (v.perform step).1 where
  sound := h.sound.perform h.alone step
  alone := h.alone.alike (h.sound.alike_perform h.alone step)
  view := (h.sound.view?_perform h.alone h.view step).1

theorem see (h : w.Shows id v) (step : Step) : w.see id step = v.see step := by
  obtain ⟨hafter, hresult, hevents⟩ := h.sound.view?_perform h.alone h.view step
  rw [Watch.see, View.see]
  dsimp only
  rw [hafter, hresult, hevents, List.drop_left]

/-- What is seen of a server is determined by its view. -/
theorem sights (h : w.Shows id v) (steps : List Step) : w.sights id steps = v.sights steps := by
  induction steps generalizing w v with
  | nil => rfl
  | cons step rest ih => rw [Watch.sights, View.sights, h.see, ih (h.perform step)]

theorem after (h : w.Shows id v) (steps : List Step) :
    (w.after id steps).Shows id (v.after steps) := by
  induction steps generalizing w v with
  | nil => exact h
  | cons step rest ih => exact ih (h.perform step)

end Shows

/-! ## Where a server listens -/

/-- A session at the end of which a server with these settings listens. -/
structure History (settings : Settings) where
  taken : List Socket
  actions : List Action
  id : Nat
  server : Server
  found : ((Network.fresh .up taken).run actions).1.servers[id]? = some server
  isListening : server.isListening = true
  service : server.service = .ofSettings settings

namespace History

variable {settings : Settings} (h : History settings)

/-- The machine at the end. -/
def network : Network := ((Network.fresh .up h.taken).run h.actions).1

theorem ready : h.network.Ready settings h.id h.server where
  valid := (Network.fresh_valid .up h.taken).run h.actions
  link := ((Network.fresh .up h.taken).run_frame h.actions).1
  quiet := (Network.fresh_quiet .up h.taken).run h.actions
  server := h.found
  isListening := h.isListening
  service := h.service

/-- Whoever starts to watch the server sees its counter, and no requests. -/
theorem shows : (Watch.of h.network).Shows h.id
    ⟨.ofSettings settings, h.server.counter, true, 0, []⟩ := by
  refine .of_listening h.ready.valid h.ready.link h.ready.quiet ?_ rfl
  rw [view?, show (Watch.of h.network).network.servers[h.id]? = some h.server from h.found,
    ← h.service, ← h.isListening]
  exact congrArg some (congrArg (View.mk _ _ _ · []) (Nat.sub_self _))

end History

end Watch

end FaultyServer
