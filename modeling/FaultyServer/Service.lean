import FaultyServer.Dispatch.Basic
import FaultyServer.Http.Message

/-!
# Services

What a server does with a request. A controller turns the request into a response: the injecting one
by dispatching the path, the stalling one by holding back the end of an empty body. Only GET and
POST reach it; any other method is refused at once and changes nothing. Layers around the controller
then see the response; the one that closes connections gives every response the header that says so.
-/

namespace FaultyServer

open Http (Request Response Method)

/-- What answers the requests of a server. -/
inductive Controller
  /-- Faults by path. -/
  | injecting (dispatcher : Dispatcher)
  /-- Every body stalls for a duration. -/
  | stalling (hang : Duration)
  deriving DecidableEq

/-- What a server does around its controller. -/
inductive Layer
  /-- Traces requests, which no one outside can see. -/
  | trace
  /-- Closes the connection after each response. -/
  | close
  deriving DecidableEq

/-- The controller of a server, if it has one, and its layers. -/
structure Service where
  controller : Option Controller
  layers : List Layer
  deriving DecidableEq

/-- The outcome of a request: the response, how many milliseconds its head and the whole of it take,
the counter afterwards, and what is logged. -/
structure Exchange where
  response : Response
  headDelay : Nat
  totalDelay : Nat
  counter : Counter
  events : List Event
  deriving DecidableEq

namespace Exchange

/-- A response at once that changes nothing. -/
def immediate (response : Response) (counter : Counter) (events : List Event) : Exchange :=
  ⟨response, 0, 0, counter, events⟩

end Exchange

namespace Controller

/-- Refuses a request for its method. -/
def refuse (method : Method) (c : Counter) : Exchange :=
  .immediate (.ofText .notImplemented Reply.textPlain "") c [.methodRejected method.name]

/-- Answers a request. -/
def answer (controller : Controller) (c : Counter) (request : Request) : Exchange :=
  if !request.method.isServed then refuse request.method c
  else
    match controller with
    | injecting dispatcher =>
      let done := dispatcher.dispatch c request.target.path
      ⟨.ofReply done.commitment.reply, done.commitment.delay, done.commitment.delay, done.counter,
        done.events⟩
    | stalling hang =>
      ⟨⟨.ok, [("content-type", Reply.textPlain)], .stalled hang⟩, 0, hang.delay, c,
        [.bodyStalled hang]⟩

end Controller

namespace Layer

/-- What a layer does to a response. -/
def apply : Layer → Response → Response
  | trace, response => response
  | close, response => { response with headers := response.headers.put "connection" "close" }

end Layer

namespace Service

/-- The controller of a mode. -/
def controllerOf (s : Settings) : Controller :=
  match s.mode with
  | .failureInjection => .injecting s.dispatcher
  | .hangOnly => .stalling s.hang

/-- The layers of an application's server. -/
def appLayers : List Layer := [.trace, .close]

/-- The service of an application with these settings. -/
def ofSettings (s : Settings) : Service := ⟨some (controllerOf s), appLayers⟩

/-- Answers a request. Without a controller nothing is found. -/
def answer (service : Service) (c : Counter) (request : Request) : Exchange :=
  let exchange :=
    match service.controller with
    | some controller => controller.answer c request
    | none => .immediate (.bare .notFound) c []
  { exchange with
    response := service.layers.foldr Layer.apply exchange.response.withLength }

end Service

end FaultyServer
