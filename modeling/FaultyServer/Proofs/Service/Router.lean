import FaultyServer.Service
import Mathlib.Data.List.Forall2

/-!
# Routers

A router is a service without its layers (`Service.bare`). What it makes of a request depends on the
counter, on the path, and on whether the method is served: a served request is answered as its path
is dispatched (`Exchange.Renders`), any other one is refused at once (`Exchange.Refuses`). The
layers of an application's server add one header field to the response, and nothing else.

* `Service.bare_refuses`, `Service.bare_renders`: all that a router which injects faults does;
* `Service.answerAll`: the answers to requests that come one after another;
* `Service.answerAll_ofSettings`: an application's server answers as its router does, and closes the
  connection;
* `Service.answerAll_congr`: requests for the same paths get the same answers.
-/

namespace FaultyServer

namespace Http

theorem Method.isServed_iff {m : Method} :
    m.isServed = true ↔ m.name = "GET" ∨ m.name = "POST" := by
  simp [Method.isServed]

namespace Headers

theorem values_put (headers : Headers) (name value : String) :
    (headers.put name value).values name = [value] := by
  simp [put, values, List.filter_append, List.filter_filter]

/-- A name that is not there yet comes last. -/
theorem put_eq_append {headers : Headers} {name : String}
    (h : ∀ field ∈ headers, field.1 ≠ name) (value : String) :
    headers.put name value = headers ++ [(name, value)] := by
  rw [put, List.filter_eq_self.2 fun field hfield => bne_iff_ne.2 (h field hfield)]

end Headers

namespace Response

/-- The response with one more header field, which says that the connection is closed. -/
def closing (r : Response) : Response :=
  { r with headers := r.headers ++ [("connection", "close")] }

/-- A text is sent with its type and its length. -/
theorem ofText_withLength (status : StatusCode) (contentType text : String) :
    (ofText status contentType text).withLength =
      ⟨status, [("content-type", contentType),
        ("content-length", String.ofList (Text.decimal text.utf8ByteSize))], .whole text⟩ := by
  simp [withLength, ofText, Headers.put]

end Response

/-- Two requests that no service can tell apart: they have the same path, and the same method or
methods that are both served. -/
structure Request.Interchangeable (r r' : Request) : Prop where
  path : r.target.path = r'.target.path
  method : r.method = r'.method ∨ r.method.isServed = true ∧ r'.method.isServed = true

end Http

open Http (Headers Method Request Response)

namespace Exchange

/-- The exchange when the connection is closed after it. -/
def closing (e : Exchange) : Exchange := { e with response := e.response.closing }

/-- What has been dispatched is what the client gets: the status, the type and the body of the
reply, all of it when the delay is over. -/
structure Renders (e : Exchange) (done : Dispatched) : Prop where
  status : e.response.status = done.commitment.reply.statusCode
  contentType : e.response.headers.values "content-type" = [done.commitment.reply.contentType]
  body : e.response.body = .whole done.commitment.reply.body
  headDelay : e.headDelay = done.commitment.delay
  totalDelay : e.totalDelay = done.commitment.delay
  counter : e.counter = done.counter
  events : e.events = done.events

/-- A request is refused for its method, at once and with an empty body. The counter stays. -/
structure Refuses (e : Exchange) (method : Method) (c : Counter) : Prop where
  status : e.response.status = .notImplemented
  contentType : e.response.headers.values "content-type" = [Reply.textPlain]
  body : e.response.body = .whole ""
  headDelay : e.headDelay = 0
  totalDelay : e.totalDelay = 0
  counter : e.counter = c
  events : e.events = [.methodRejected method.name]

end Exchange

/-- A controller says nothing about the connection. -/
theorem Controller.answer_headers (controller : Controller) (c : Counter) (request : Request) :
    ∀ field ∈ (controller.answer c request).response.withLength.headers,
      field.1 ≠ "connection" := by
  have htext : ∀ status contentType text,
      ∀ field ∈ (Response.ofText status contentType text).withLength.headers,
        field.1 ≠ "connection" := by
    intro status contentType text
    rw [Response.ofText_withLength]
    simp
  cases controller <;> unfold answer <;> split
  · exact htext _ _ _
  · exact htext _ _ _
  · exact htext _ _ _
  · simp [Response.withLength]

theorem Controller.answer_congr {r r' : Request} (h : r.Interchangeable r')
    (controller : Controller) (c : Counter) : controller.answer c r = controller.answer c r' := by
  rcases h.method with hmethod | ⟨hserved, hserved'⟩
  · simp only [answer, hmethod, h.path]
  · simp only [answer, hserved, hserved', h.path, Bool.not_true, Bool.false_eq_true, if_false]

namespace Layer

/-- The header fields that layers add to a response. -/
def fields (layers : List Layer) : Headers :=
  if .close ∈ layers then [("connection", "close")] else []

/-- However many layers close the connection, and wherever they stand, the response says so once. -/
theorem foldr_apply {r : Response} (h : ∀ field ∈ r.headers, field.1 ≠ "connection")
    (layers : List Layer) :
    layers.foldr Layer.apply r = { r with headers := r.headers ++ fields layers } := by
  induction layers with
  | nil => exact congrArg (fun headers => { r with headers }) (List.append_nil _).symm
  | cons layer rest ih =>
    rw [List.foldr_cons, ih]
    cases layer with
    | trace => simp [apply, fields]
    | close =>
      -- What the layers further inside have said about the connection is said anew.
      have hfilter : (r.headers ++ fields rest).filter (·.1 != "connection") = r.headers := by
        rw [List.filter_append,
          List.filter_eq_self.2 fun field hfield => bne_iff_ne.2 (h field hfield), fields]
        split <;> simp
      have hput : Headers.put (r.headers ++ fields rest) "connection" "close" =
          r.headers ++ [("connection", "close")] := congrArg (· ++ _) hfilter
      rw [apply, hput]
      simp [fields]

end Layer

namespace Service

variable (service : Service) (settings : Settings) (c : Counter)

/-- The service without its layers. -/
def bare : Service := { service with layers := [] }

/-- The layers see only the response. -/
theorem answer_eq (request : Request) :
    service.answer c request =
      { service.bare.answer c request with
        response := service.layers.foldr Layer.apply (service.bare.answer c request).response } :=
  rfl

theorem answer_congr {r r' : Request} (h : r.Interchangeable r') :
    service.answer c r = service.answer c r' := by
  rcases service with ⟨_ | controller, layers⟩
  · rfl
  · simp only [answer, controller.answer_congr h]

/-- The server of an application answers as its router does, and closes the connection. -/
theorem answer_ofSettings (request : Request) :
    (ofSettings settings).answer c request =
      ((ofSettings settings).bare.answer c request).closing := by
  have hput := Headers.put_eq_append
    ((controllerOf settings).answer_headers c request) "close"
  rw [answer_eq, Exchange.closing, Response.closing]
  exact congrArg
    (fun headers : Headers =>
      let e := (ofSettings settings).bare.answer c request
      { e with response := { e.response with headers := headers } }) hput

/-! ## A router that injects faults -/

/-- A method that is neither GET nor POST is refused, whatever else the request says and whatever
the counter is. -/
theorem bare_refuses (h : settings.mode = .failureInjection) {request : Request}
    (hmethod : request.method.name ≠ "GET" ∧ request.method.name ≠ "POST") :
    ((ofSettings settings).bare.answer c request).Refuses request.method c := by
  have hserved : request.method.isServed = false := by
    rw [← Bool.not_eq_true, Method.isServed_iff, not_or]
    exact hmethod
  have heq : (ofSettings settings).bare.answer c request =
      .immediate (Response.ofText .notImplemented Reply.textPlain "").withLength c
        [.methodRejected request.method.name] := by
    simp only [ofSettings, bare, answer, controllerOf, h, Controller.answer, hserved]
    rfl
  rw [heq, Response.ofText_withLength]
  exact ⟨rfl, rfl, rfl, rfl, rfl, rfl, rfl⟩

/-- A GET or a POST is answered as its path is dispatched. -/
theorem bare_renders (h : settings.mode = .failureInjection) {request : Request}
    (hmethod : request.method.name = "GET" ∨ request.method.name = "POST") :
    ((ofSettings settings).bare.answer c request).Renders
      (settings.dispatcher.dispatch c request.target.path) := by
  have hserved := Method.isServed_iff.2 hmethod
  have heq : (ofSettings settings).bare.answer c request =
      let done := settings.dispatcher.dispatch c request.target.path
      ⟨(Response.ofReply done.commitment.reply).withLength, done.commitment.delay,
        done.commitment.delay, done.counter, done.events⟩ := by
    simp only [ofSettings, bare, answer, controllerOf, h, Controller.answer, hserved]
    rfl
  rw [heq]
  simp only [Response.ofReply, Response.ofText_withLength]
  exact ⟨rfl, rfl, rfl, rfl, rfl, rfl, rfl⟩

/-! ## One request after another -/

/-- The answers to requests in their order, each with the counter that the one before has left. -/
def answerAll : Counter → List Request → List Exchange
  | _, [] => []
  | c, request :: rest =>
    service.answer c request :: answerAll (service.answer c request).counter rest

/-- The counter after requests in their order. -/
def counterAfter (requests : List Request) : Counter :=
  requests.foldl (fun c request => (service.answer c request).counter) c

/-- The answer to a request comes after those before it, with the counter that they have left. -/
theorem getElem?_answerAll (requests : List Request) (i : Nat) :
    (service.answerAll c requests)[i]? =
      (requests[i]?).map (service.answer (service.counterAfter c (requests.take i))) := by
  induction requests generalizing c i with
  | nil => rfl
  | cons request rest ih =>
    cases i with
    | zero => rfl
    | succ i => exact ih _ i

@[simp]
theorem length_answerAll (requests : List Request) :
    (service.answerAll c requests).length = requests.length := by
  induction requests generalizing c with
  | nil => rfl
  | cons request rest ih => simp only [answerAll, List.length_cons, ih]

/-- An answer leaves the counter that its request and those before it leave. -/
theorem counterAfter_take {requests : List Request} {i : Nat} {e : Exchange}
    (h : (service.answerAll c requests)[i]? = some e) :
    service.counterAfter c (requests.take (i + 1)) = e.counter := by
  rw [getElem?_answerAll] at h
  obtain ⟨request, hrequest, rfl⟩ := Option.map_eq_some_iff.1 h
  rw [List.take_add_one, hrequest, counterAfter, List.foldl_append]
  rfl

/-- The server of an application answers all requests as its router does, and closes every
connection. -/
theorem answerAll_ofSettings (requests : List Request) :
    (ofSettings settings).answerAll c requests =
      ((ofSettings settings).bare.answerAll c requests).map Exchange.closing := by
  induction requests generalizing c with
  | nil => rfl
  | cons request rest ih =>
    simp only [answerAll, List.map_cons, answer_ofSettings, ih]
    rfl

theorem getElem?_answerAll_ofSettings {requests : List Request} {i : Nat} {e : Exchange}
    (h : ((ofSettings settings).bare.answerAll c requests)[i]? = some e) :
    ((ofSettings settings).answerAll c requests)[i]? = some e.closing := by
  rw [answerAll_ofSettings, List.getElem?_map, h]
  rfl

/-- Requests that cannot be told apart get the same answers, over a whole run. -/
theorem answerAll_congr {requests others : List Request}
    (h : List.Forall₂ Request.Interchangeable requests others) :
    service.answerAll c requests = service.answerAll c others := by
  induction h generalizing c with
  | nil => rfl
  | cons hfirst _ ih => simp only [answerAll, service.answer_congr c hfirst, ih]

end Service

end FaultyServer
