import FaultyServer.Proofs.Dispatch.Turn
import FaultyServer.Proofs.Watch.View

/-!
# Requests that do not count

A request *counts* if it resets or advances the counter of a server that injects faults: a GET or a
POST for one of three routes. Any other request gets the same answer whatever the counter is, and
leaves it alone (`Connection.next_harmless`). So nobody who watches the server can tell from what the
others get whether such requests have been sent in between, whatever hangs and overlaps
(`erase_harmless`), and each gets the same whenever it is sent.

* `View.perform_kept`, `View.perform_erased`: a step with and without the requests of some clients;
* `View.sights_without`: many steps.
-/

namespace FaultyServer

open Http (Incoming)

/-- A request that a server takes as a move of its counter. -/
def Http.Request.Counts (r : Request) : Prop :=
  (r.method.name = "GET" ∨ r.method.name = "POST") ∧
    Route.resolve r.target.path ∈
      [.resetCounter, .eachThirdOthersUnavailable, .eachThirdOthersHang]

instance (r : Http.Request) : Decidable r.Counts := inferInstanceAs (Decidable (_ ∧ _))

/-- What a dispatch gives for any other path is the same whatever the counter is. -/
theorem Dispatcher.dispatch_frame_eq (d : Dispatcher) (c c' : Counter) {path : List Char}
    (h : Route.resolve path ∉
      [.resetCounter, .eachThirdOthersUnavailable, .eachThirdOthersHang]) :
    d.dispatch c path = { d.dispatch c' path with counter := c } := by
  cases hb : Route.resolve path <;> simp_all [dispatch, perform]

namespace Service

variable {settings : Settings}

/-- A request that does not count gets the same answer whatever the counter is. -/
theorem answer_harmless (hmode : settings.mode = .failureInjection) {r : Http.Request}
    (h : ¬ r.Counts) (c c' : Counter) :
    (ofSettings settings).answer c r =
      { (ofSettings settings).answer c' r with counter := c } := by
  have hcontroller : (Controller.injecting settings.dispatcher).answer c r =
      { (Controller.injecting settings.dispatcher).answer c' r with counter := c } := by
    by_cases hserved : r.method.isServed = true
    · have hpath := fun hroute => h ⟨Http.Method.isServed_iff.1 hserved, hroute⟩
      simp only [Controller.answer, hserved, Bool.not_true, Bool.false_eq_true, if_false,
        settings.dispatcher.dispatch_frame_eq c c' hpath]
    · simp only [Controller.answer, hserved, Bool.not_false, if_true]
      rfl
  simp only [answer, ofSettings, controllerOf, hmode, hcontroller]

end Service

/-- Bytes that hold no request that counts. -/
def Harmless (bytes : List UInt8) : Prop :=
  ∀ head rest, Incoming.read bytes = .complete head rest → ¬ head.request.Counts

theorem Connection.next_harmless {settings : Settings} (hmode : settings.mode = .failureInjection)
    {bytes : List UInt8} (h : Harmless bytes) (c c' : Counter) :
    (ofBytes bytes).next (.ofSettings settings) c =
      ((ofBytes bytes).next (.ofSettings settings) c').map fun answer =>
        { answer with exchange := { answer.exchange with counter := c } } :=
  next_frame fun head rest hread => Service.answer_harmless hmode (h head rest hread) c c'

namespace Watch

variable {settings : Settings} {erased : Nat → Bool} {v : View} {step : Step}

/-! ## Leaving clients out -/

/-- Whether a step is none of a client that is left out. -/
def Step.isKept (erased : Nat → Bool) : Step → Bool
  | request client _ => !erased client
  | abandon client => !erased client
  | _ => true

namespace View

/-- A view without the requests of some clients. -/
def without (erased : Nat → Bool) (v : View) : View :=
  { v with requests := v.requests.filter fun (client, _) => !erased client }

end View

/-- What is seen of a step but the requests of some clients. -/
def Sight.without (erased : Nat → Bool) (sight : Sight) : Sight :=
  { sight with view := sight.view.map (View.without erased) }

namespace View

/-- A step of the others is the same without the requests that are left out. -/
theorem perform_kept (h : step.isKept erased = true) :
    (v.without erased).perform step =
      ((v.perform step).1.without erased, (v.perform step).2) := by
  cases step with
  | request client bytes =>
    have hkept : (!erased client) = true := h
    obtain ⟨service, counter, isListening, elapsed, requests⟩ := v
    cases isListening with
    | false => rfl
    | true =>
      simp only [perform, without, if_true]
      cases (Connection.ofBytes bytes).next service counter with
      | none => rfl
      | some answer => simp [hkept]
  | abandon client =>
    simp only [perform, without, List.filter_map]
    rfl
  | _ => rfl

/-- A step that is left out changes nothing for the others. -/
theorem perform_erased (hmode : settings.mode = .failureInjection)
    (hservice : v.service = .ofSettings settings) (h : step.isKept erased = false)
    (hharmless : ∀ client bytes, step = .request client bytes → Harmless bytes) :
    (v.perform step).1.without erased = v.without erased := by
  cases step with
  | request client bytes =>
    have herased : (!erased client) = false := h
    rw [perform]
    split
    · split
      · rfl
      · next answer hanswer =>
        rw [hservice] at hanswer
        have hcounter : answer.exchange.counter = v.counter := Connection.counter_of_frame
          (Connection.next_harmless hmode (hharmless client bytes rfl) v.counter v.counter) hanswer
        simp [without, hcounter, herased]
    · rfl
  | abandon client =>
    have herased : (!erased client) = false := h
    have hstay : ∀ request ∈ v.requests.filter fun (c, _) => !erased c,
        (fun ((c, f) : Nat × Flight) => (c, if c = client then f.givenUp v.elapsed else f))
          request = request := by
      rintro ⟨c, f⟩ hmem
      have hne : c ≠ client := by
        rintro rfl
        have hkept : (!erased c) = true := (List.mem_filter.1 hmem).2
        rw [herased] at hkept
        cases hkept
      simp only [hne, if_false]
    simp only [perform, without, List.filter_map]
    exact congrArg (fun requests => { v with requests := requests })
      ((List.map_congr_left hstay).trans (List.map_id _))
  | _ => cases h

/-- What the others see is the same without the steps that are left out. -/
theorem sights_without (hmode : settings.mode = .failureInjection)
    (hservice : v.service = .ofSettings settings) {steps : List Step}
    (hharmless : ∀ client bytes, .request client bytes ∈ steps → erased client = true →
      Harmless bytes) :
    ((steps.zip (v.sights steps)).filter (·.1.isKept erased)).map (·.2.without erased) =
      (v.without erased).sights (steps.filter (Step.isKept erased)) := by
  induction steps generalizing v with
  | nil => rfl
  | cons step rest ih =>
    have hrest := ih ((v.perform_service step).trans hservice) fun client bytes hmem =>
      hharmless client bytes (List.mem_cons_of_mem _ hmem)
    by_cases hkept : step.isKept erased = true
    · simp only [sights, List.zip_cons_cons, List.filter_cons, hkept, if_true, List.map_cons,
        hrest, see, perform_kept hkept]
      rfl
    · have herased : step.isKept erased = false := Bool.eq_false_of_not_eq_true hkept
      have hsame : (v.perform step).1.without erased = v.without erased := by
        refine perform_erased hmode hservice herased fun client bytes heq => ?_
        subst heq
        exact hharmless client bytes List.mem_cons_self (by simpa [Step.isKept] using herased)
      simp only [sights, List.zip_cons_cons, List.filter_cons, herased, Bool.false_eq_true,
        if_false, hrest, hsame]

/-! ## The same answer everywhere -/

theorem after_frame (v : View) (steps : List Step) :
    (v.after steps).service = v.service ∧ (v.after steps).isListening = v.isListening := by
  induction steps generalizing v with
  | nil => exact ⟨rfl, rfl⟩
  | cons step rest ih =>
    obtain ⟨hservice, hlistening⟩ := ih (v.perform step).1
    exact ⟨hservice.trans (v.perform_service step), hlistening.trans (v.perform_isListening step)⟩

/-- A request that does not count gets what it would get from a fresh counter. -/
theorem see_harmless (hmode : settings.mode = .failureInjection)
    (hservice : v.service = .ofSettings settings) (hlistening : v.isListening = true)
    {bytes : List UInt8} (hharmless : Harmless bytes) (client : Nat) :
    v.see (.request client bytes) =
      match (Connection.ofBytes bytes).next (.ofSettings settings) .fresh with
      | none => ⟨.sent none, [], some v⟩
      | some answer => ⟨.sent (some 0), answer.exchange.events,
          some { v with requests := v.requests ++ [(client, .ofAnswer 0 v.elapsed answer)] }⟩ := by
  rw [see, perform, if_pos hlistening, hservice,
    Connection.next_harmless hmode hharmless v.counter .fresh]
  cases (Connection.ofBytes bytes).next (.ofSettings settings) .fresh with
  | none => rfl
  | some answer =>
    simp only [Option.map_some, ← hservice]
    rfl

end View

/-- In failure-injection mode requests that do not count can be left out of any run. Whatever else
happens at the same time, the others see the same of every step: what comes of it, what it logs, the
counter after it, and all that their requests get and when. Each request that does not count gets
the same response after the same delay, logs the same and leaves the rest alone, wherever in a run
it is sent. -/
theorem erase_harmless {settings : Settings} (hmode : settings.mode = .failureInjection)
    (h : History settings) (erased : Nat → Bool) {steps : List Step}
    (hharmless : ∀ client bytes, .request client bytes ∈ steps → erased client = true →
      Harmless bytes) :
    let w := Watch.of h.network
    ((steps.zip (w.sights h.id steps)).filter (·.1.isKept erased)).map (·.2.without erased) =
      w.sights h.id (steps.filter (Step.isKept erased)) ∧
    ∀ bytes, Harmless bytes → ∃ answer? : Option Connection.Answer,
      ∀ (before : List Step) (client : Nat),
        let n := w.after h.id before
        ∃ v, n.view? h.id = some v ∧ n.see h.id (.request client bytes) =
          match answer? with
          | none => ⟨.sent none, [], some v⟩
          | some answer => ⟨.sent (some 0), answer.exchange.events,
              some { v with
                requests := v.requests ++ [(client, .ofAnswer 0 v.elapsed answer)] }⟩ := by
  intro w
  refine ⟨?_, fun bytes hbytes =>
    ⟨(Connection.ofBytes bytes).next (.ofSettings settings) .fresh, fun before client => ?_⟩⟩
  · rw [h.shows.sights, h.shows.sights]
    exact View.sights_without hmode rfl hharmless
  · have hafter := h.shows.after before
    obtain ⟨hservice, hlistening⟩ := View.after_frame
      ⟨.ofSettings settings, h.server.counter, true, 0, []⟩ before
    refine ⟨_, hafter.view, ?_⟩
    rw [hafter.see]
    exact View.see_harmless hmode hservice hlistening hbytes client

/-- Two turns with a hang and a PUT for the route that resets the counter between them. -/
theorem erase_harmless_put :
    let bytes (method path : String) := Http.Request.bytes method path "HTTP/1.1" []
    let turn := bytes "GET" "/eachThirdReturns200OthersHang"
    let steps : List Step := [.request 0 turn, .request 1 (bytes "GET" "/hang"), .pass 1000,
      .request 1 (bytes "PUT" "/resetCounter"), .request 0 turn]
    let erased : Nat → Bool := (· == 1)
    ∃ h : History .default, Settings.default.mode = .failureInjection ∧
      (∀ client bytes, .request client bytes ∈ steps → erased client = true → Harmless bytes) ∧
      steps.filter (Step.isKept erased) = [.request 0 turn, .pass 1000, .request 0 turn] ∧
      (((steps.zip ((Watch.of h.network).sights h.id steps)).filter (·.1.isKept erased)).map
        (·.2.without erased)) =
          (Watch.of h.network).sights h.id [.request 0 turn, .pass 1000, .request 0 turn] := by
  intro bytes turn steps erased
  have hfound : ((((Network.fresh .up []).run [.start .default none]).1.servers[0]?).map fun s =>
      (s.isListening, s.service)) = some (true, .ofSettings .default) := by decide +kernel
  obtain ⟨s, hs, heq⟩ := Option.map_eq_some_iff.1 hfound
  obtain ⟨hlistening, hservice⟩ := Prod.mk.inj heq
  let h : History .default := ⟨[], [.start .default none], 0, s, hs, hlistening, hservice⟩
  have hhang : Harmless (bytes "GET" "/hang") := by
    have hread : Incoming.read (bytes "GET" "/hang") = .complete
        ⟨⟨⟨"GET", by decide⟩, ⟨none, [], "/hang".toList, none⟩, [], ""⟩, .http11, .length 0⟩ [] := by
      decide +kernel
    intro head rest hhead
    rw [hread] at hhead
    cases hhead
    decide
  have hput : Harmless (bytes "PUT" "/resetCounter") := by
    have hread : Incoming.read (bytes "PUT" "/resetCounter") = .complete
        ⟨⟨⟨"PUT", by decide⟩, ⟨none, [], "/resetCounter".toList, none⟩, [], ""⟩, .http11,
          .length 0⟩ [] := by
      decide +kernel
    intro head rest hhead
    rw [hread] at hhead
    cases hhead
    decide
  have hharmless : ∀ client bytes, .request client bytes ∈ steps → erased client = true →
      Harmless bytes := by
    intro client bytes hmem herased
    obtain rfl : client = 1 := by simpa [erased] using herased
    simp only [steps, List.mem_cons, List.not_mem_nil, Step.request.injEq, reduceCtorEq, or_false,
      false_or] at hmem
    rcases hmem with ⟨hclient, _⟩ | ⟨_, rfl⟩ | ⟨_, rfl⟩ | ⟨hclient, _⟩
    · cases hclient
    · exact hhang
    · exact hput
    · cases hclient
  exact ⟨h, rfl, hharmless, rfl, (erase_harmless rfl h erased hharmless).1⟩

end Watch

end FaultyServer
