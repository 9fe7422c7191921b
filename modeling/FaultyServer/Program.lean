import FaultyServer.CommandLine
import FaultyServer.Log.Filter
import FaultyServer.Log.Line
import FaultyServer.Network
import FaultyServer.Settings.Load
import FaultyServer.Shutdown.Session

/-!
# The program

The program starts one server and serves until a signal comes. First everything is prepared that
needs no socket (`Program.prepare`), then the server starts (`Program.launch`):

* an improper command line, or one that asks for help or the version, halts the program before it
  has looked at any file;
* a fault in the configuration file, or one of the server's start, halts it with an error, and the
  fault in the file comes first;
* otherwise the program serves and says on which port.

A signal then starts a shutdown, for which the program tracks one task: the server, which ends as
soon as it is cancelled (`Program.shutDown`). Requests that hang are not tracked.
-/

namespace FaultyServer

/-- Why a proper command line leads to no server. -/
inductive LaunchFault
  /-- The configuration file of this path gives no settings. -/
  | file (path : String) (fault : LoadFault)
  | server (fault : StartFault)
  deriving DecidableEq

namespace LaunchFault

/-- The messages for a fault, the most general first, with ports written as `portText` says. -/
def messages (portText : UInt16 → List Char) : LaunchFault → List String
  | file path fault =>
    ("failed to load custom config from " ++ Text.quoted path) :: fault.messages
  | server fault => fault.messages portText

/-- Whether a fault is no error but a crash. -/
def isCrash : LaunchFault → Bool
  | file _ (.decoding _ .carry) => true
  | _ => false

end LaunchFault

/-- The report of an error. -/
def errorReport (messages : List String) : String := "Error: " ++ ": ".intercalate messages

/-- Lines of text. -/
def unlines (lines : List String) : String := String.join (lines.map (· ++ "\n"))

/-- Why the program does not serve. -/
inductive Halt
  | refused (refusal : Refusal)
  /-- The command line is proper, and there have been warnings before the fault. -/
  | failed (warnings : List String) (fault : LaunchFault)
  deriving DecidableEq

/-- How the program ends: its exit code, and what it has printed besides its log. -/
structure Ending where
  exitCode : Nat
  output : String
  errors : String
  deriving DecidableEq

/-- How the program ends when it halts. -/
def Halt.ending (portText : UInt16 → List Char) : Halt → Ending
  | refused refusal => ⟨refusal.exitCode, refusal.text, ""⟩
  | failed warnings fault =>
    if fault.isCrash then ⟨101, "", unlines (warnings ++ SettingsFault.carry.messages)⟩
    else ⟨1, "", unlines (warnings ++ [errorReport (fault.messages portText)])⟩

/-- The settings for a command line: those of its file, which `load` reads, or else the default
ones, with its port, and with its mode if it has one. -/
def Arguments.settings (a : Arguments) (load : String → Except LoadFault Settings) :
    Except LaunchFault Settings := do
  let base ← match a.file with
    | some path => (load path).mapError (LaunchFault.file path)
    | none => .ok Settings.default
  let s := base.withPort a.port
  let s := match a.mode with
    | some mode => s.withMode mode
    | none => s
  match s.listenAddress with
  | .ok _ => .ok s
  | .error fault => .error (.server (.host fault))

/-- The machine on which the program starts. -/
structure Machine where
  files : FileTree
  /-- The log filter that the environment asks for. -/
  filter : Option String
  network : Network

/-- What the program knows before its server starts: its settings, what it logs, and the warnings
that it has already given. -/
structure Prepared where
  settings : Settings
  filter : Log.Filter
  warnings : List String

/-- The program while it serves: the machine's network, the number of the server and its token on
it, and the shutdown that is to come. -/
structure Program extends Prepared where
  network : Network
  server : Nat
  token : Nat
  shutdown : Shutdown.Session

namespace Program

/-- The level that is logged without any filter. -/
def usualFilter : String := "info"

/-- The filter of the log, and the warnings about it. The filter of the environment goes before that
of the settings if all of it can be read. -/
def filterFor (environment : Option String) (s : Settings) : Log.Filter × List String :=
  match environment.bind Log.Filter.ofText? with
  | some filter => (filter, [])
  | none => Log.Filter.ofTextWithWarnings ((s.logs.bind (·.level)).getD usualFilter)

/-- How long the shutdown waits for the server, in milliseconds. -/
def shutdownTimeout : Nat := 5000

/-- The task that the shutdown waits for: the server, which ends when it is cancelled. -/
def serverTask : Shutdown.Plan := ⟨"server", true, some 0, true⟩

/-- A shutdown that tracks the server. -/
def trackServer : Shutdown.Session :=
  let s := Shutdown.Session.fresh shutdownTimeout
  { s with tasks := s.tasks.spawn serverTask }.settle

/-- Prepares the program for its command line. -/
def prepare (words : List String) (load : String → Except LoadFault Settings)
    (environment : Option String) : Except Halt Prepared := do
  let arguments ← (CommandLine.read words).mapError Halt.refused
  let settings ← (arguments.settings load).mapError (Halt.failed [])
  let (filter, warnings) := filterFor environment settings
  pure ⟨settings, filter, warnings⟩

/-- Starts the server of a program that is prepared. -/
def serve (p : Prepared) (network : Network) : Except Halt Program := do
  let token := network.freshToken
  let started ← (network.start p.settings token).mapError fun fault =>
    Halt.failed p.warnings (.server fault)
  pure ⟨p, started, network.servers.length, token, trackServer⟩

/-- Starts the program. -/
def launch (words : List String) (machine : Machine) : Except Halt Program := do
  let load := fun path => Settings.load machine.files path path
  serve (← prepare words load machine.filter) machine.network

/-- The address of the server. -/
def address? (p : Program) : Option Address.Socket := (p.network.servers[p.server]?).map (·.address)

/-- What the program prints when it starts to serve. -/
def banner (portText : UInt16 → List Char) (p : Program) : String :=
  let port := (p.address?.map fun a => portText a.port).getD []
  "HTTP Server Running on PORT " ++ String.ofList port ++ ".........."

/-- A signal comes: the shutdown starts, the server no longer listens, and the shutdown waits for
it. The result is the outcome and everything that the program has logged. -/
def shutDown (p : Program) (signal : Signal) : Option (Shutdown.Outcome × List Event) := do
  let triggered ← p.shutdown.trigger (some signal)
  let network := p.network.cancel p.token
  let stopped := network.events.drop p.network.events.length
  let (outcome, ended) :=
    { triggered with events := p.network.events ++ triggered.events ++ stopped }.awaitTasks
  match outcome with
  | .completed => pure (outcome, ended.events ++ [.exited])
  | .timedOut => pure (outcome, ended.events ++ [.shutdownFailed Shutdown.timeoutMessage])

/-- How a program ends whose shutdown has this outcome. -/
def endingAfter (portText : UInt16 → List Char) (p : Program) (outcome : Shutdown.Outcome) :
    Ending :=
  let output := unlines [p.banner portText]
  match outcome with
  | .completed => ⟨0, output, unlines p.warnings⟩
  | .timedOut => ⟨1, output, unlines (p.warnings ++ [errorReport [Shutdown.timeoutMessage]])⟩

end Program

namespace Prepared

/-- The line of a record: JSON in production, and otherwise a readable one. -/
def logLine (p : Prepared) (record : Record) : String :=
  if p.settings.isProduction then record.json else record.readable

/-- The log lines of events: those that the filter allows. -/
def logLines (portText : UInt16 → List Char) (p : Prepared) (events : List Event) : List String :=
  ((events.map (·.toRecord portText)).filter p.filter.allows).map p.logLine

end Prepared

end FaultyServer
