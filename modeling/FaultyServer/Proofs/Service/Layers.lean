import FaultyServer.Proofs.Service.Router

/-!
# Layers and header fields

The layers around a controller see nothing but its response, and all that a stack of them can do to
it is to say once that the connection is closed (`Exchange.through`): it does so if one of them
closes connections, wherever that one stands and however many there are. A controller gives every
response one content type, which tells whether the response is the XML document.

* `Dispatcher.contentType_dispatch`: which dispatched paths get the XML document;
* `Controller.values_contentType`: the one content type of what a controller answers;
* `Service.answer_through`: a service answers as its router does, seen through its layers;
* `Service.answerAll_through`: so it does over whole runs.
-/

namespace FaultyServer

open Http (Headers Method Request Response)

namespace Http.Headers

variable {headers : Headers} {name : String}

theorem values_append (headers more : Headers) (name : String) :
    (headers ++ more).values name = headers.values name ++ more.values name := by
  simp [values]

/-- A name without a field has no value. -/
theorem values_eq_nil (h : ∀ field ∈ headers, field.1 ≠ name) : headers.values name = [] := by
  rw [values, List.filter_eq_nil_iff.2 fun field hfield => by simpa using h field hfield,
    List.map_nil]

end Http.Headers

/-! ## The content type -/

/-- Only the XML document is of another type than plain text. -/
theorem Dispatcher.contentType_dispatch (d : Dispatcher) (c : Counter) (path : List Char) :
    (d.dispatch c path).commitment.reply.contentType =
      if Route.resolve path = .xml then Reply.applicationXml else Reply.textPlain := by
  have hperform : ∀ behavior : Behavior, (d.perform c behavior).commitment.reply.contentType =
      if behavior = .xml then Reply.applicationXml else Reply.textPlain := by
    intro behavior
    cases behavior with
    | eachThirdOthersUnavailable =>
      -- The turn decides between success and a status; both are plain text.
      simp only [perform, reply]
      split <;> rfl
    | eachThirdOthersHang =>
      simp only [perform]
      split <;> rfl
    | _ => rfl
  exact hperform (Route.resolve path)

namespace Controller

/-- The type of what a controller answers: that of the XML document where it is asked for by its
path with a method that is served, and plain text everywhere else. -/
def contentType (controller : Controller) (request : Request) : String :=
  match controller with
  | injecting _ =>
    if request.method.isServed = true ∧ Route.resolve request.target.path = .xml then
      Reply.applicationXml
    else Reply.textPlain
  | stalling _ => Reply.textPlain

theorem refuse_contentType (method : Method) (c : Counter) :
    (refuse method c).response.withLength.headers.values "content-type" = [Reply.textPlain] := by
  rw [refuse, Exchange.immediate, Response.ofText_withLength]
  rfl

/-- Whatever a controller answers has one content type. -/
theorem values_contentType (controller : Controller) (c : Counter) (request : Request) :
    (controller.answer c request).response.withLength.headers.values "content-type" =
      [controller.contentType request] := by
  cases hserved : request.method.isServed with
  | false =>
    have hrefuse : controller.answer c request = refuse request.method c := by
      simp only [answer, hserved, Bool.not_false, if_true]
    have htype : controller.contentType request = Reply.textPlain := by
      cases controller <;> simp [contentType, hserved]
    rw [hrefuse, htype, refuse_contentType]
  | true =>
    cases controller with
    | injecting d =>
      simp only [answer, contentType, hserved, Bool.not_true, Bool.false_eq_true, if_false,
        true_and, Response.ofReply, Response.ofText_withLength, d.contentType_dispatch]
      rfl
    | stalling hang =>
      simp only [answer, hserved, Bool.not_true, Bool.false_eq_true, if_false]
      rfl

end Controller

/-! ## Stacks of layers -/

/-- Layers say nothing but that the connection is closed, and that at most once. -/
theorem Layer.values_fields (layers : List Layer) (name : String) :
    (fields layers).values name =
      if name = "connection" ∧ .close ∈ layers then ["close"] else [] := by
  by_cases hclose : Layer.close ∈ layers
  · by_cases hname : name = "connection"
    · simp [fields, hclose, hname, Headers.values]
    · simp [fields, hclose, hname, Ne.symm hname, Headers.values]
  · simp [fields, hclose, Headers.values]

/-- An exchange as it comes out of layers, with what they say about the connection. -/
def Exchange.through (e : Exchange) (layers : List Layer) : Exchange :=
  { e with response :=
    { e.response with headers := e.response.headers ++ Layer.fields layers } }

namespace Service

variable (controller : Option Controller) (layers : List Layer) (c : Counter)

/-- Without layers, nothing is said about the connection. -/
theorem answer_unlayered_headers (request : Request) :
    ∀ field ∈ ((⟨controller, []⟩ : Service).answer c request).response.headers,
      field.1 ≠ "connection" := by
  cases controller with
  | some controller => exact controller.answer_headers c request
  | none =>
    have hlength : ((⟨none, []⟩ : Service).answer c request).response.headers =
        [("content-length", String.ofList (Text.decimal 0))] := rfl
    rw [hlength]
    simp

/-- A service answers as its router does, seen through its layers. -/
theorem answer_through (request : Request) :
    (⟨controller, layers⟩ : Service).answer c request =
      ((⟨controller, []⟩ : Service).answer c request).through layers := by
  have hlayers := Layer.foldr_apply (answer_unlayered_headers controller c request) layers
  exact congrArg
    (fun response => { (⟨controller, []⟩ : Service).answer c request with response := response })
    hlayers

/-- A service answers a whole run of requests as its router does, seen through its layers, and
leaves the same counter. -/
theorem answerAll_through (requests : List Request) :
    (⟨controller, layers⟩ : Service).answerAll c requests =
        ((⟨controller, []⟩ : Service).answerAll c requests).map (·.through layers) ∧
      (⟨controller, layers⟩ : Service).counterAfter c requests =
        (⟨controller, []⟩ : Service).counterAfter c requests := by
  induction requests generalizing c with
  | nil => exact ⟨rfl, rfl⟩
  | cons request rest ih =>
    have hanswer := answer_through controller layers c request
    obtain ⟨hanswers, hafter⟩ := ih ((⟨controller, []⟩ : Service).answer c request).counter
    constructor
    · rw [answerAll, answerAll, hanswer, List.map_cons, ← hanswers]
      rfl
    · rw [counterAfter, counterAfter, List.foldl_cons, List.foldl_cons, hanswer]
      exact hafter

/-- Layers do nothing but close the connection, and every response has one content type.

With any layers around it, a service answers every request as without them: status and body of the
response, its delays, what becomes of the counter and what is logged are the same. Its header has
one more field exactly if one of the layers closes connections, and that one is the only field about
the connection, whatever the header of the request says about it. So it is over whole runs. What a
controller answers has the type of the XML document if the path of a GET or a POST asks for it, and
is plain text in every other case. -/
theorem layers_only_close :
    let router : Service := ⟨controller, []⟩
    let layered : Service := ⟨controller, layers⟩
    (∀ c request,
      let plain := router.answer c request
      let answer := layered.answer c request
      answer.response.status = plain.response.status ∧
      answer.response.body = plain.response.body ∧
      answer.headDelay = plain.headDelay ∧ answer.totalDelay = plain.totalDelay ∧
      answer.counter = plain.counter ∧ answer.events = plain.events ∧
      answer.response.headers = plain.response.headers ++
        (if .close ∈ layers then [("connection", "close")] else []) ∧
      plain.response.headers.values "connection" = [] ∧
      answer.response.headers.values "connection" = (if .close ∈ layers then ["close"] else []) ∧
      (∀ headers, layered.answer c { request with headers } = answer) ∧
      ∀ k, controller = some k →
        answer.response.headers.values "content-type" = [k.contentType request]) ∧
    ∀ c requests,
      layered.answerAll c requests = (router.answerAll c requests).map (·.through layers) ∧
      layered.counterAfter c requests = router.counterAfter c requests := by
  intro router layered
  refine ⟨fun c request => ?_, answerAll_through controller layers⟩
  intro plain answer
  have hanswer : answer = plain.through layers := answer_through controller layers c request
  have hvalues : ∀ name, answer.response.headers.values name =
      plain.response.headers.values name ++ (Layer.fields layers).values name := fun name => by
    rw [hanswer, ← Headers.values_append]
    rfl
  have hnone : plain.response.headers.values "connection" = [] :=
    Headers.values_eq_nil (answer_unlayered_headers controller c request)
  refine ⟨congrArg (·.response.status) hanswer, congrArg (·.response.body) hanswer,
    congrArg (·.headDelay) hanswer, congrArg (·.totalDelay) hanswer, congrArg (·.counter) hanswer,
    congrArg (·.events) hanswer, congrArg (·.response.headers) hanswer, hnone, ?_,
    fun headers => ?_, ?_⟩
  · rw [hvalues, hnone, Layer.values_fields, List.nil_append]
    simp only [true_and]
  · -- No service looks at the header.
    exact answer_congr layered c ⟨rfl, .inl rfl⟩
  · rintro k rfl
    rw [hvalues, Layer.values_fields, if_neg (by simp), List.append_nil]
    exact k.values_contentType c request

end Service

end FaultyServer
