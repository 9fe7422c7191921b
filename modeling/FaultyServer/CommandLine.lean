import FaultyServer.Mode
import FaultyServer.Text.Number

/-!
# The command line

The program takes one port and two options, a configuration file and a mode. Arguments are read from
left to right. A word with a dash in front is an option, unless a double dash has come before; an
option's value is the rest of its word or the next word. The value of an option or of the port is
checked as soon as the next word shows that it is complete, so a bad value in front of a request for
help wins over it, and a bad word after it does not.

Anything else than a proper command line or a request for help or the version ends with the usage.
-/

namespace FaultyServer

/-- A proper command line. -/
structure Arguments where
  port : UInt16
  file : Option String
  mode : Option Mode
  deriving DecidableEq

/-- A command line that starts no server. -/
inductive Refusal
  /-- Help was asked for, the short one or the long one. -/
  | help (isLong : Bool)
  | version
  /-- The arguments are none that the program takes. -/
  | usage
  deriving DecidableEq

namespace CommandLine

/-- The arguments that take a value. -/
inductive Slot
  | port
  | file
  | mode
  deriving DecidableEq

/-- The port of a text: a decimal number, which may have a plus sign and leading zeros. -/
def port? (text : String) : Option UInt16 :=
  let digits := match text.toList with
    | '+' :: r => r
    | r => r
  (Text.natural? 10 digits).bind fun n => if n < 65536 then some (UInt16.ofNat n) else none

/-- What has been read of a command line. -/
structure Partial where
  port : Option UInt16
  file : Option String
  mode : Option Mode

/-- Puts a value into its place. A value that is wrong or comes twice is refused. -/
def Partial.put (p : Partial) (slot : Slot) (text : String) : Except Refusal Partial :=
  match slot with
  | .port =>
    match p.port, port? text with
    | none, some port => .ok { p with port := some port }
    | _, _ => .error .usage
  | .file =>
    if p.file.isSome || text.isEmpty then .error .usage
    else .ok { p with file := some text }
  | .mode =>
    match p.mode, Mode.ofArgument? text false with
    | none, some mode => .ok { p with mode := some mode }
    | _, _ => .error .usage

/-- The option of a long name. -/
def longSlot? (name : List Char) : Option Slot :=
  if name = ['c', 'f', 'g'] then some .file
  else if name = ['m', 'o', 'd', 'e'] then some .mode
  else none

/-- What a word means to a reader that is not after a double dash. -/
inductive Word
  /-- A value for the port. -/
  | value (text : String)
  /-- The double dash. -/
  | separator
  /-- An option whose value is in the same word. -/
  | filled (slot : Slot) (text : String)
  /-- An option whose value is the next word. -/
  | open (slot : Slot)
  /-- A request for help or the version, or something unknown. -/
  | refused (refusal : Refusal)

/-- Reads a word of short options after its dash. -/
def shortWord : List Char → Word
  | [] => .value "-"
  | 'h' :: _ => .refused (.help false)
  | 'V' :: _ => .refused .version
  | ['c'] => .open .file
  | 'c' :: '=' :: text => .filled .file (String.ofList text)
  | 'c' :: text => .filled .file (String.ofList text)
  | _ => .refused .usage

/-- Reads a long option after its dashes. -/
def longWord (cs : List Char) : Word :=
  let name := cs.takeWhile (· != '=')
  match cs.dropWhile (· != '=') with
  | [] =>
    if name = "help".toList then .refused (.help true)
    else if name = "version".toList then .refused .version
    else match longSlot? name with
      | some slot => .open slot
      | none => .refused .usage
  | _ :: text =>
    match longSlot? name with
    | some slot => .filled slot (String.ofList text)
    | none => .refused .usage

/-- What a word means. -/
def Word.of (s : String) : Word :=
  match s.toList with
  | ['-', '-'] => .separator
  | '-' :: '-' :: cs => longWord cs
  | '-' :: cs => shortWord cs
  | _ => .value s

/-- Whether a word may be the value of the option before it. -/
def mayBeValue (s : String) : Bool :=
  match s.toList with
  | '-' :: _ :: _ => false
  | _ => true

/-- A value that is complete but not yet checked. -/
abbrev Pending := Option (Slot × String)

/-- Checks a value that is complete. -/
def settle (p : Partial) : Pending → Except Refusal Partial
  | none => .ok p
  | some (slot, text) => p.put slot text

/-- Reads words, given what has been read, the value before them that is not yet checked, and
whether a double dash has come. -/
def readWords (p : Partial) (pending : Pending) (afterSeparator : Bool) :
    List String → Except Refusal Partial
  | [] => settle p pending
  | s :: rest => do
    if afterSeparator then
      readWords (← settle p pending) (some (.port, s)) true rest
    else
      match Word.of s with
      | .value text => readWords (← settle p pending) (some (.port, text)) false rest
      | .separator => readWords p pending true rest
      | .filled slot text => readWords (← settle p pending) (some (slot, text)) false rest
      | .refused refusal => do
        let _ ← settle p pending
        .error refusal
      | .open slot =>
        let p ← settle p pending
        match rest with
        | value :: rest =>
          if mayBeValue value then readWords p (some (slot, value)) false rest
          else .error .usage
        | [] => .error .usage

/-- The arguments of a command line. -/
def read (words : List String) : Except Refusal Arguments := do
  let p ← readWords ⟨none, none, none⟩ none false words
  match p.port with
  | some port => pure ⟨port, p.file, p.mode⟩
  | none => .error .usage

/-! ### Texts -/

/-- The name of the program. -/
def programName : String := "hang-webserver"

/-- The version of the program. -/
def programVersion : String := "0.1.0"

/-- What the program is for. -/
def summary : String :=
  "Failure-injecting HTTP server simulating slow, failing and flaky upstreams"

/-- The usage. -/
def usage : String := "Usage: " ++ programName ++ " [OPTIONS] <PORT>"

/-- The short help. -/
def shortHelp : String :=
  summary ++ "\n\n" ++ usage ++ "\n\n" ++
  "Arguments:\n" ++
  "  <PORT>  TCP port to listen on (loopback only)\n\n" ++
  "Options:\n" ++
  "  -c, --cfg <FILE>   Custom config file path\n" ++
  "      --mode <MODE>  Request dispatcher to run (overrides the config file) " ++
  "[possible values: failure-injection, hang-only]\n" ++
  "  -h, --help         Print help (see more with '--help')\n" ++
  "  -V, --version      Print version\n"

/-- The long help. -/
def longHelp : String :=
  summary ++ "\n\n" ++ usage ++ "\n\n" ++
  "Arguments:\n" ++
  "  <PORT>\n" ++
  "          TCP port to listen on (loopback only)\n\n" ++
  "Options:\n" ++
  "  -c, --cfg <FILE>\n" ++
  "          Custom config file path\n\n" ++
  "      --mode <MODE>\n" ++
  "          Request dispatcher to run (overrides the config file)\n\n" ++
  "          Possible values:\n" ++
  "          - failure-injection: Full path-prefix table of simulated faults\n" ++
  "          - hang-only:         Legacy variant: every request gets 200 headers " ++
  "and a stalled body\n\n" ++
  "  -h, --help\n" ++
  "          Print help (see a summary with '-h')\n\n" ++
  "  -V, --version\n" ++
  "          Print version\n"

end CommandLine

/-- What is printed instead of starting a server. -/
def Refusal.text : Refusal → String
  | .help false => CommandLine.shortHelp
  | .help true => CommandLine.longHelp
  | .version => CommandLine.programName ++ " " ++ CommandLine.programVersion ++ "\n"
  | .usage => CommandLine.usage ++ "\n"

/-- The exit code of a command line that starts no server. -/
def Refusal.exitCode : Refusal → Nat
  | .usage => 2
  | _ => 0

end FaultyServer
