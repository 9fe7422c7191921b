import FaultyServer.Proofs.Dispatch.Turn
import FaultyServer.Proofs.Watch.View

/-!
# A reset forgets the past

After a request for the route that resets the counter, a server looks as if it had just started
(`View.fresh`), whatever has happened before. So from then on nobody can tell the one from the other
(`reset_forgets`). Requests that hang at the reset are no exception: they have moved the counter
when they were read, and nothing of them is left but their responses, which come as they would have.

A server that only hangs answers to no path, and so it resets nothing; but no request moves its
counter either (`Quiet.make_unmoved`), so that it never leaves its start unless the counter is
advanced from outside. Even then nothing but the counter itself is different
(`View.sights_uncounted`).

* `History.view?_request`: the view of a server that has been reset;
* `view?_start`: the view of a server that has started;
* `Shows.after_unsent`: the requests of the past are left alone.
-/

namespace FaultyServer

open Address (Socket)
open Http (Incoming)

/-- In hang-only mode no request moves the counter, and the answer does not depend on it. -/
theorem Service.answer_hangOnly {settings : Settings} (hmode : settings.mode = .hangOnly)
    (c c' : Counter) (request : Http.Request) :
    (ofSettings settings).answer c request =
      { (ofSettings settings).answer c' request with counter := c } := by
  simp only [answer, ofSettings, controllerOf, hmode, Controller.answer]
  split <;> rfl

theorem Connection.next_hangOnly {settings : Settings} (hmode : settings.mode = .hangOnly)
    (connection : Connection) (c c' : Counter) :
    connection.next (.ofSettings settings) c =
      (connection.next (.ofSettings settings) c').map fun answer =>
        { answer with exchange := { answer.exchange with counter := c } } :=
  next_frame fun head _ _ => Service.answer_hangOnly hmode c c' head.request

namespace Network

variable {n : Network} {id : Nat}

/-- If a server only hangs, its counter is as it was at its start. -/
def Unmoved (n : Network) (id : Nat) : Prop :=
  ∀ s settings, n.servers[id]? = some s → s.service = .ofSettings settings →
    settings.mode = .hangOnly → s.counter = .fresh

theorem Quiet.make_unmoved (h : n.Quiet) (hn : n.Valid) (hid : n.Unmoved id) {action : Action}
    (haction : ∀ step, action ≠ .advance id step) : (n.make action).1.Unmoved id := by
  intro s' settings hs' hservice hmode
  have hafter : (n.make action).1.counters[id]? = some s'.counter := by
    rw [counters, List.getElem?_map, hs']
    rfl
  -- If the server was there before, its counter was fresh.
  have hbefore : ∀ s, n.servers[id]? = some s →
      s.service = .ofSettings settings ∧ s.counter = .fresh := by
    intro s hs
    obtain ⟨s'', hs'', _, _, heq, _⟩ := hn.make_servers action hs
    rw [hs'] at hs''
    obtain rfl := Option.some.inj hs''
    exact ⟨heq ▸ hservice, hid s settings hs (heq ▸ hservice) hmode⟩
  have hfresh : ∀ c, n.counters[id]? = some c → c = .fresh := by
    intro c hc
    rw [counters, List.getElem?_map] at hc
    obtain ⟨s, hs, rfl⟩ := Option.map_eq_some_iff.1 hc
    exact (hbefore s hs).2
  rcases h.make_cases action with ⟨_, new, hcounters, hnew⟩ |
    ⟨other, s, answer, bytes, hs, _, hanswer, heq⟩ | ⟨other, change, hchange, _, hcounters⟩
  · rw [hcounters] at hafter
    rcases Nat.lt_or_ge id n.counters.length with hlt | hge
    · exact hfresh _ (List.getElem?_append_left hlt ▸ hafter)
    · exact hnew _ (List.mem_of_getElem? (List.getElem?_append_right hge ▸ hafter))
  · rw [heq, afterAnswer_counters] at hafter
    by_cases hother : other = id
    · subst hother
      obtain ⟨hservice', hcounter⟩ := hbefore s hs
      rw [hservice'] at hanswer
      have hstay : answer.exchange.counter = s.counter := Connection.counter_of_frame
        (Connection.next_hangOnly hmode (.ofBytes bytes) s.counter s.counter) hanswer
      rw [hstay, List.getElem?_modify_eq] at hafter
      obtain ⟨_, _, heq'⟩ := Option.map_eq_some_iff.1 hafter
      exact heq'.symm.trans hcounter
    · exact hfresh _ (List.getElem?_modify_ne _ _ hother ▸ hafter)
  · rw [hcounters] at hafter
    by_cases hother : other = id
    · subst hother
      rcases hchange with ⟨_, rfl⟩ | ⟨step, heq, _⟩
      · rw [List.getElem?_modify_eq] at hafter
        obtain ⟨_, _, hs⟩ := Option.map_eq_some_iff.1 hafter
        exact hs.symm
      · exact absurd heq (haction step)
    · exact hfresh _ (List.getElem?_modify_ne _ _ hother ▸ hafter)

/-- A server that only hangs never leaves its start, unless its counter is advanced from outside. -/
theorem Quiet.run_unmoved (h : n.Quiet) (hn : n.Valid) (hid : n.Unmoved id)
    {actions : List Action} (hactions : ∀ step, .advance id step ∉ actions) :
    (n.run actions).1.Unmoved id := by
  induction actions generalizing n with
  | nil => exact hid
  | cons action rest ih =>
    rw [run_cons]
    exact ih (h.make action) (hn.make action)
      (h.make_unmoved hn hid fun step heq => hactions step (heq ▸ List.mem_cons_self))
      fun step hmem => hactions step (List.mem_cons_of_mem _ hmem)

end Network

namespace Watch

open Network (Action)

variable {settings : Settings} {n : Network} {w : Watch} {id : Nat} {v : View}

/-! ## Servers as new -/

/-- What can be seen of a server with these settings that has just started. -/
def View.fresh (settings : Settings) : View := ⟨.ofSettings settings, .fresh, true, 0, []⟩

/-- A view without the counter. -/
def View.uncounted (v : View) : View := { v with counter := .fresh }

/-- What is seen of a step but the counter. -/
def Sight.uncounted (sight : Sight) : Sight :=
  { sight with view := sight.view.map View.uncounted }

/-- What a server that only hangs does with a step does not depend on its counter. -/
theorem View.perform_uncounted (hmode : settings.mode = .hangOnly)
    (hservice : v.service = .ofSettings settings) (step : Step) :
    (v.perform step).1.uncounted = (v.uncounted.perform step).1.uncounted ∧
      (v.perform step).2 = (v.uncounted.perform step).2 := by
  cases step with
  | request client bytes =>
    obtain ⟨service, counter, isListening, elapsed, requests⟩ := v
    obtain rfl : service = .ofSettings settings := hservice
    cases isListening with
    | false => exact ⟨rfl, rfl⟩
    | true =>
      simp only [perform, uncounted, if_true,
        Connection.next_hangOnly hmode (.ofBytes bytes) counter .fresh]
      cases (Connection.ofBytes bytes).next (.ofSettings settings) .fresh <;> exact ⟨rfl, rfl⟩
  | _ => exact ⟨rfl, rfl⟩

theorem View.sights_uncounted (hmode : settings.mode = .hangOnly) (steps : List Step) {v' : View}
    (hservice : v.service = .ofSettings settings) (hv : v.uncounted = v'.uncounted) :
    (v.sights steps).map Sight.uncounted = (v'.sights steps).map Sight.uncounted := by
  induction steps generalizing v v' with
  | nil => rfl
  | cons step rest ih =>
    have hservice' : v'.service = .ofSettings settings :=
      (congrArg View.service hv).symm.trans hservice
    obtain ⟨hview, hrest⟩ := perform_uncounted hmode hservice step
    obtain ⟨hview', hrest'⟩ := perform_uncounted hmode hservice' step
    have hafter : (v.perform step).1.uncounted = (v'.perform step).1.uncounted :=
      hview.trans (hv ▸ hview'.symm)
    have hsee : (v.see step).uncounted = (v'.see step).uncounted := by
      simp only [see, Sight.uncounted, Option.map_some, hafter, hrest, hrest', hv]
    rw [sights, sights, List.map_cons, List.map_cons, hsee,
      ih ((v.perform_service step).trans hservice) hafter]

/-- Bytes that ask for the route that resets the counter. -/
def AsksReset (bytes : List UInt8) : Prop :=
  ∃ head rest, Incoming.read bytes = .complete head rest ∧
    head.request.method.isServed = true ∧
    Route.resolve head.request.target.path = .resetCounter

namespace History

variable (h : History settings)

/-- The machine when a client has then sent bytes to the server. -/
def request (bytes : List UInt8) : Network :=
  (h.network.make (.request h.server.address bytes)).1

/-- A request can undo what has been done to the counter. In failure-injection mode it always can.

A server that only hangs has no route: a request for the path that resets the counter hangs there as
any other one does, and is no reset. No request moves the counter, either, so that there is nothing
to undo, unless the counter has been advanced from outside. Then its value stays, although nothing
that the server does depends on it: this is the one case that is left out here, and in it everything
but the value is the same as well (`View.sights_uncounted`). -/
def Resettable : Prop := settings.mode = .hangOnly → ∀ step, .advance h.id step ∉ h.actions

/-- The request leaves the counter as it was when the server started. -/
theorem counter_answer (hreset : h.Resettable) {head : Http.Head}
    (hserved : head.request.method.isServed = true)
    (hroute : Route.resolve head.request.target.path = .resetCounter) :
    ((Service.ofSettings settings).answer h.server.counter head.request).counter = .fresh := by
  cases hmode : settings.mode with
  | failureInjection =>
    have hrenders := Service.bare_renders settings h.server.counter hmode
      (Http.Method.isServed_iff.1 hserved)
    rw [Service.answer_ofSettings]
    exact hrenders.counter.trans (settings.dispatcher.dispatch_reset h.server.counter hroute)
  | hangOnly =>
    have hunmoved : h.network.Unmoved h.id :=
      (Network.fresh_quiet .up h.taken).run_unmoved (Network.fresh_valid .up h.taken)
        (fun _ _ hs => nomatch hs) (hreset hmode)
    rw [Service.answer_hangOnly hmode _ h.server.counter]
    exact hunmoved h.server settings h.found h.service hmode

/-- The server answers the request, and its counter is fresh. -/
theorem request_eq {bytes : List UInt8} (hbytes : AsksReset bytes) :
    ∃ answer, h.request bytes = h.network.afterAnswer h.id answer ∧
      (h.Resettable → answer.exchange.counter = .fresh) := by
  obtain ⟨head, rest, hread, hserved, hroute⟩ := hbytes
  have hanswer : (Connection.ofBytes bytes).next h.server.service h.server.counter =
      some ⟨(Service.ofSettings settings).answer h.server.counter head.request, head.version,
        .closed⟩ := by
    rw [h.service, Connection.next_of_complete hread]
  refine ⟨⟨(Service.ofSettings settings).answer h.server.counter head.request, head.version,
    .closed⟩, ?_, fun hreset => h.counter_answer hreset hserved hroute⟩
  rw [request, Network.make_request_of_connect h.ready.connect h.found, hanswer]

/-- Whatever the past, the server looks as if it had just started. -/
theorem view?_request {bytes : List UInt8} (hbytes : AsksReset bytes) :
    ∃ v, (Watch.of (h.request bytes)).view? h.id = some v ∧
      v.uncounted = .fresh settings ∧ (h.Resettable → v = .fresh settings) := by
  obtain ⟨answer, heq, hcounter⟩ := h.request_eq hbytes
  have hview : (Watch.of (h.request bytes)).view? h.id =
      some { View.fresh settings with counter := answer.exchange.counter } := by
    rw [heq]
    dsimp only [Watch.of, view?, Network.afterAnswer]
    rw [List.getElem?_modify_eq, show h.network.servers[h.id]? = some h.server from h.found,
      Nat.sub_self]
    show some (View.mk h.server.service _ h.server.isListening 0 []) = _
    rw [h.service, h.isListening]
    rfl
  refine ⟨_, hview, rfl, fun hreset => ?_⟩
  rw [hcounter hreset]
  rfl

end History

/-- A server that has started looks as new. -/
theorem view?_start {token : Option Nat} {m : Network}
    (hstart : n.make (.start settings token) = (m, .started id))
    (htoken : ∀ t, token = some t → n.isCancelled t = false) :
    (Watch.of m).view? id = some (.fresh settings) := by
  have hlistening : n.isCancelled (token.getD n.freshToken) = false := by
    cases token with
    | none => exact n.freshToken_new.1
    | some t => exact htoken t rfl
  rw [Network.make_start] at hstart
  split at hstart
  · next hok =>
    obtain ⟨address, bound, _, _, rfl⟩ := Network.start_ok hok
    obtain ⟨rfl, hid⟩ := Prod.mk.inj hstart
    obtain rfl := Network.Result.started.inj hid
    have hview : ∀ isListening : Bool, isListening = true →
        some (View.mk (.ofSettings settings) .fresh isListening 0 []) = some (.fresh settings) := by
      rintro _ rfl
      rfl
    dsimp only [view?, Watch.of, Network.listen, Network.log]
    rw [List.getElem?_concat_length, Nat.sub_self]
    exact hview (!n.isCancelled (token.getD n.freshToken)) (by rw [hlistening]; rfl)
  · cases hstart

/-! ## The requests of the past -/

/-- A step leaves every request alone that has been sent before the server is watched. -/
theorem Shows.perform_unsent (h : w.Shows id v) {k : Nat} {f : Flight}
    (hf : w.network.flights[k]? = some f) (hk : ∀ e ∈ w.sent, e.flight ≠ k) (step : Step) :
    (w.perform id step).1.network.flights[k]? = some f ∧
      ∀ e ∈ (w.perform id step).1.sent, e.flight ≠ k := by
  have hlt : k < w.network.flights.length := (List.getElem?_eq_some_iff.1 hf).1
  rcases h.sound.perform_cases h.alone step with ⟨change, heq⟩ |
    ⟨client, bytes, answer, rfl, heq⟩ | ⟨client, rfl⟩
  · rw [heq]
    exact ⟨hf, hk⟩
  · rw [heq]
    refine ⟨(List.getElem?_append_left hlt).trans hf, fun e he => ?_⟩
    rcases List.mem_append.1 he with he | he
    · exact hk e he
    · obtain rfl := List.mem_singleton.1 he
      exact Nat.ne_of_gt hlt
  · have hnot : k ∉ w.numbers id client := by
      intro hmem
      obtain ⟨e, he, heq⟩ := List.mem_map.1 hmem
      exact hk e (List.mem_of_mem_filter he) heq
    rw [perform_abandon]
    refine ⟨?_, hk⟩
    simp only [List.getElem?_mapIdx, hf, Option.map_some, hnot, if_false]

theorem Shows.after_unsent (h : w.Shows id v) {k : Nat} {f : Flight}
    (hf : w.network.flights[k]? = some f) (hk : ∀ e ∈ w.sent, e.flight ≠ k) (steps : List Step) :
    (w.after id steps).network.flights[k]? = some f := by
  induction steps generalizing w v with
  | nil => exact hf
  | cons step rest ih =>
    obtain ⟨hf', hk'⟩ := h.perform_unsent hf hk step
    exact ih (h.perform step) hf' hk'

theorem Shows.after_now (h : w.Shows id v) (steps : List Step) :
    (w.after id steps).network.now = w.network.now + (steps.map Step.duration).sum := by
  induction steps generalizing w v with
  | nil => rfl
  | cons step rest ih =>
    have hrest := ih (h.perform step)
    rw [(h.sound.perform_clock h.alone step).2, Nat.add_assoc] at hrest
    rw [List.map_cons, List.sum_cons]
    exact hrest

/-! ## Continuations -/

/-- Whoever starts to watch a listening server sees it. -/
theorem shows_of_run (taken : List Socket) (actions : List Action) {m : Network}
    (hm : m = ((Network.fresh .up taken).run actions).1)
    (hview : (Watch.of m).view? id = some v) (hlistening : v.isListening = true) :
    (Watch.of m).Shows id v :=
  .of_listening (hm ▸ (Network.fresh_valid .up taken).run actions)
    (hm ▸ ((Network.fresh .up taken).run_frame actions).1)
    (hm ▸ (Network.fresh_quiet .up taken).run actions) hview hlistening

/-- After a reset, what is seen of the server is what would be seen of a new one. -/
theorem History.shows_request (h : History settings) {bytes : List UInt8}
    (hbytes : AsksReset bytes) :
    ∃ v, (Watch.of (h.request bytes)).Shows h.id v ∧ (h.Resettable → v = .fresh settings) ∧
      ∀ steps, (v.sights steps).map Sight.uncounted =
        ((View.fresh settings).sights steps).map Sight.uncounted := by
  have hrequest : h.request bytes =
      ((Network.fresh .up h.taken).run (h.actions ++ [.request h.server.address bytes])).1 := by
    rw [Network.run_append]
    rfl
  obtain ⟨v, hview, huncounted, hreset⟩ := h.view?_request hbytes
  have hservice : v.service = .ofSettings settings := congrArg View.service huncounted
  have hlistening : v.isListening = true := congrArg View.isListening huncounted
  refine ⟨v, shows_of_run _ _ hrequest hview hlistening, hreset, fun steps => ?_⟩
  cases hmode : settings.mode with
  | failureInjection => rw [hreset fun hhang => nomatch hmode.symm.trans hhang]
  | hangOnly => exact View.sights_uncounted hmode steps hservice huncounted

/-- The requests of the past get what they would have got without the reset and what follows it. -/
theorem History.undisturbed (h : History settings) {bytes : List UInt8} (hbytes : AsksReset bytes)
    (steps : List Step) {k : Nat} {f : Flight} (hf : h.network.flights[k]? = some f) :
    let n := ((Watch.of (h.request bytes)).after h.id steps).network
    n.flights[k]? = some f ∧
      n.delivery? k = (h.network.pass (steps.map Step.duration).sum).delivery? k := by
  intro n
  obtain ⟨answer, heq, _⟩ := h.request_eq hbytes
  obtain ⟨v, hshows, _, _⟩ := h.shows_request hbytes
  have hlt : k < h.network.flights.length := (List.getElem?_eq_some_iff.1 hf).1
  have hbegin : (Watch.of (h.request bytes)).network.flights[k]? = some f ∧
      (Watch.of (h.request bytes)).network.now = h.network.now := by
    show (h.request bytes).flights[k]? = _ ∧ (h.request bytes).now = _
    rw [heq]
    exact ⟨(List.getElem?_append_left hlt).trans hf, rfl⟩
  have hflight : n.flights[k]? = some f := hshows.after_unsent hbegin.1 nofun steps
  have hnow : n.now = h.network.now + (steps.map Step.duration).sum :=
    (hshows.after_now steps).trans (by rw [hbegin.2])
  refine ⟨hflight, ?_⟩
  rw [h.ready.quiet.pass, Network.delivery?, Network.delivery?, hflight, hf, hnow]

/-- On a server that only hangs, a counter that has been advanced from outside is not reset. -/
example :
    let reset := Http.Request.bytes "GET" "/resetCounter" "HTTP/1.1" []
    (((Network.fresh .up []).run [.start (Settings.default.withMode .hangOnly) none, .advance 0 5,
      .request ⟨.localhost, 12345⟩ reset]).1.servers.map (·.counter)) = [⟨5⟩] := by
  decide +kernel

end Watch

end FaultyServer
