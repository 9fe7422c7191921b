/-!
# Routes

A request's path decides how the server misbehaves. The table lists the paths that are special; a
route takes every path that starts with its own, and the first route that does wins. Every other
path is answered with success.
-/

namespace FaultyServer

/-- What the server does with a request. -/
inductive Behavior
  /-- Success at once. -/
  | ok
  /-- Status 403. -/
  | forbidden
  /-- Status 404. -/
  | notFound
  /-- Success after the configured delay. -/
  | hang
  /-- Status 503. -/
  | unavailable
  /-- A short XML document. -/
  | xml
  /-- Sets the alternating counter back to zero. -/
  | resetCounter
  /-- Success on every third turn, status 503 on the others. -/
  | eachThirdOthersUnavailable
  /-- Success at once on every third turn, after the delay on the others. -/
  | eachThirdOthersHang
  deriving DecidableEq, Repr

namespace Behavior

/-- Every behavior. -/
def all : List Behavior :=
  [ok, forbidden, notFound, hang, unavailable, xml, resetCounter, eachThirdOthersUnavailable,
    eachThirdOthersHang]

/-- The name of a behavior in the log. -/
def logName : Behavior → String
  | ok => "ok"
  | forbidden => "forbidden"
  | notFound => "not_found"
  | hang => "hang"
  | unavailable => "unavailable"
  | xml => "xml"
  | resetCounter => "reset_counter"
  | eachThirdOthersUnavailable => "each_third_others_503"
  | eachThirdOthersHang => "each_third_others_hang"

end Behavior

/-- A row of the routing table: the paths that start with `start` get this behavior. -/
structure Route where
  start : String
  behavior : Behavior
  deriving DecidableEq

namespace Route

/-- The routing table. -/
def table : List Route := [
  ⟨"/403", .forbidden⟩,
  ⟨"/404", .notFound⟩,
  ⟨"/hang", .hang⟩,
  ⟨"/503", .unavailable⟩,
  ⟨"/xml", .xml⟩,
  ⟨"/resetCounter", .resetCounter⟩,
  ⟨"/eachThirdReturns200Others503", .eachThirdOthersUnavailable⟩,
  ⟨"/eachThirdReturns200OthersHang", .eachThirdOthersHang⟩]

/-- Whether a path belongs to a route. Letters of different case differ. -/
def takes (route : Route) (path : List Char) : Bool := route.start.toList.isPrefixOf path

/-- The behavior for a path by a routing table: the first route that takes it, else success. -/
def resolveIn (routes : List Route) (path : List Char) : Behavior :=
  match routes.find? (·.takes path) with
  | some route => route.behavior
  | none => .ok

/-- The behavior for a path. -/
def resolve (path : List Char) : Behavior := resolveIn table path

end Route

end FaultyServer
