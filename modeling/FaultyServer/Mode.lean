/-!
# Modes

The server either injects failures by path or lets every request hang. Each mode has one spelling on
the command line and one in a configuration file.
-/

namespace FaultyServer

/-- What the server does as a whole. -/
inductive Mode
  /-- Failures by path. -/
  | failureInjection
  /-- Every response stalls. -/
  | hangOnly
  deriving DecidableEq, Repr

namespace Mode

/-- Both modes. -/
def all : List Mode := [failureInjection, hangOnly]

/-- The name of a mode in the log. -/
def name : Mode → String
  | failureInjection => "FailureInjection"
  | hangOnly => "HangOnly"

/-- The spelling on the command line. -/
def argument : Mode → String
  | failureInjection => "failure-injection"
  | hangOnly => "hang-only"

/-- The spelling in a configuration file. -/
def keyword : Mode → String
  | failureInjection => "failure_injection"
  | hangOnly => "hang_only"

/-- The mode of a spelling on the command line. Letters of the basic alphabet may be taken without
regard to case. -/
def ofArgument? (text : String) (ignoreCase : Bool) : Option Mode :=
  all.find? fun m =>
    if ignoreCase then m.argument.toList.map Char.toLower == text.toList.map Char.toLower
    else m.argument == text

/-- The message for an unknown spelling on the command line. -/
def unknownMessage (text : String) : String := "invalid variant: " ++ text

/-- The mode of a spelling in a configuration file. -/
def ofKeyword? (text : String) : Option Mode := all.find? (·.keyword == text)

end Mode

end FaultyServer
