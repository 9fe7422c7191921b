import FaultyServer.Program
import Std.Async.Signal
import Std.Async.TCP
import Std.Async.Timer

/-!
# The executable

Runs the program on the sockets, files and signals of the system. Nothing is decided here: what to
serve comes from `Program.prepare`, what to answer from `Connection.next`, and what to log and how
to end from `Program.serve` and `Program.shutDown`.
-/

namespace FaultyServer.Main

open Std.Async

/-- The digits of a port. -/
def digits (port : UInt16) : List Char := Text.decimal port.toNat

/-- The system's number for an error, which sockets give negated. -/
def errorNumber? : IO.Error → Option UInt32
  | .alreadyExists _ n _ | .otherError n _ | .resourceBusy n _ | .resourceVanished n _
  | .unsupportedOperation n _ | .hardwareFault n _ | .unsatisfiedConstraints n _
  | .illegalOperation n _ | .protocolError n _ | .timeExpired n _ | .interrupted _ n _
  | .noFileOrDirectory _ n _ | .invalidArgument _ n _ | .permissionDenied _ n _
  | .resourceExhausted _ n _ | .inappropriateType _ n _ | .noSuchThing _ n _ => some (min n (0 - n))
  | _ => none

/-- Runs an action on a file. Errors that no configuration file can have are passed on. -/
def withFile {α : Type} (action : IO α) : IO (Except FileFault α) := do
  match ← action.toBaseIO with
  | .ok a => pure (.ok a)
  | .error e =>
    match errorNumber? e with
    | some 2 => pure (.error .notFound)
    | some 20 => pure (.error .notADirectory)
    | some 21 => pure (.error .isADirectory)
    | some 36 => pure (.error .nameTooLong)
    | some 40 => pure (.error .tooManyLinks)
    | _ => throw e

/-- Loads the configuration file of a path. -/
def loadFile (path : String) : IO (Except LoadFault Settings) := do
  match ← withFile (IO.FS.realPath path) with
  | .error fault => pure (.error (.resolving path fault))
  | .ok absolute =>
    match ← withFile (IO.FS.readBinFile absolute) with
    | .error fault => pure (.error (.reading absolute.toString fault))
    | .ok bytes =>
      match String.fromUTF8? bytes with
      | none => pure (.error (.reading absolute.toString .notText))
      | some text => pure ((Settings.ofYaml text).mapError (.decoding absolute.toString))

/-- Prepares the program. A file is only read for a proper command line that names it. -/
def prepare (words : List String) : IO (Except Halt Prepared) := do
  let loaded ← match CommandLine.read words with
    | .ok ⟨_, some path, _⟩ => loadFile path
    | _ => pure (.ok .default)
  pure (Program.prepare words (fun _ => loaded) (← IO.getEnv "RUST_LOG"))

/-- The system's form of an address. -/
def socketAddress (a : Address.Socket) : Std.Net.SocketAddress :=
  match a.ip with
  | .v4 ip => .v4 ⟨.ofParts ip.first ip.second ip.third ip.fourth, a.port⟩
  | .v6 ip =>
    let group := fun i => ip.groups.getD i 0
    .v6 ⟨.ofParts (group 0) (group 1) (group 2) (group 3) (group 4) (group 5) (group 6) (group 7),
      a.port⟩

/-- Listens at an address, and gives the port as well. -/
def listen (address : Address.Socket) :
    IO (Except StartFault (TCP.Socket.Server × UInt16)) := do
  let open? : IO (TCP.Socket.Server × UInt16) := do
    let listener ← TCP.Socket.Server.mk
    listener.bind (socketAddress address)
    listener.listen 1024
    pure (listener, (← listener.getSockName).port)
  match ← open?.toBaseIO with
  | .ok bound => pure (.ok bound)
  | .error e =>
    match errorNumber? e with
    | some 98 => pure (.error (.bind address .inUse))
    | some 99 => pure (.error (.bind address .unavailable))
    | _ => throw e

/-- What all connections of the server share. -/
structure Site where
  prepared : Prepared
  service : Service
  counter : IO.Ref Counter

/-- Prints lines at once. -/
def printLines (lines : List String) : IO Unit := do
  IO.print (unlines lines)
  (← IO.getStdout).flush

/-- Writes events to the log. -/
def log (prepared : Prepared) (events : List Event) : IO Unit :=
  printLines (prepared.logLines digits events)

/-- Lets milliseconds pass. -/
def pause (ms : Nat) : Async Unit := if ms = 0 then pure () else Std.Async.sleep (.ofNat ms)

/-- Serves a connection until one side closes it. -/
partial def serve (site : Site) (client : TCP.Socket.Client) (connection : Connection) :
    Async Unit := do
  let answer ← site.counter.modifyGet fun c =>
    match connection.next site.service c with
    | some answer => (some answer, answer.exchange.counter)
    | none => (none, c)
  match answer with
  | some ⟨exchange, version, connection⟩ =>
    log site.prepared exchange.events
    let received := exchange.response.write version
    pause exchange.headDelay
    client.send (ByteArray.mk received.headBytes.toArray)
    pause (exchange.totalDelay - exchange.headDelay)
    client.send received.body.toUTF8
    serve site client connection
  | none =>
    if connection.isOpen then
      match ← client.recv? 65536 with
      | some bytes =>
        serve site client { connection with unread := connection.unread ++ bytes.toList }
      | none => pure ()
    else client.shutdown

/-- Accepts connections for ever. -/
partial def acceptAll (site : Site) (listener : TCP.Socket.Server) : Async Unit := do
  let client ← listener.accept
  let _ ← async (t := AsyncTask) (serve site client (.ofBytes []))
  acceptAll site listener

/-- Waits for a signal that ends the program. -/
def awaitSignal : Async FaultyServer.Signal := do
  let interrupt ← Signal.Waiter.mk .sigint false
  let terminate ← Signal.Waiter.mk .sigterm false
  Selectable.one #[
    .case interrupt.selector fun _ => pure .interrupt,
    .case terminate.selector fun _ => pure .terminate]

/-- Prints what the program says at its end, and gives its exit code. -/
def finish (ending : Ending) : IO UInt32 := do
  IO.print ending.output
  IO.eprint ending.errors
  pure (UInt32.ofNat ending.exitCode)

/-- Serves on a listening socket until a signal comes. -/
def run (prepared : Prepared) (listener : TCP.Socket.Server) (port : UInt16) : IO UInt32 := do
  let bound := { prepared with settings := prepared.settings.withPort port }
  match Program.serve bound (.fresh .up []) with
  | .error halt => finish (halt.ending digits)
  | .ok program =>
    IO.eprint (unlines prepared.warnings)
    printLines [program.banner digits]
    log prepared program.network.events
    let site : Site := ⟨prepared, .ofSettings prepared.settings, ← IO.mkRef .fresh⟩
    let _ ← (async (t := AsyncTask) (acceptAll site listener)).block
    let signal ← awaitSignal.block
    match program.shutDown signal with
    | none => pure 1
    | some (outcome, events) =>
      log prepared (events.drop program.network.events.length)
      let ending := { program with warnings := [] }.endingAfter digits outcome
      finish { ending with output := "" }

end FaultyServer.Main

open FaultyServer in
/-- Runs the program. -/
def main (words : List String) : IO UInt32 := do
  match ← Main.prepare words with
  | .error halt => Main.finish (halt.ending Main.digits)
  | .ok prepared =>
    match prepared.settings.listenAddress with
    | .error fault =>
      Main.finish ((Halt.failed prepared.warnings (.server (.host fault))).ending Main.digits)
    | .ok address =>
      match ← Main.listen address with
      | .error fault =>
        Main.finish ((Halt.failed prepared.warnings (.server fault)).ending Main.digits)
      | .ok (listener, port) => Main.run prepared listener port
