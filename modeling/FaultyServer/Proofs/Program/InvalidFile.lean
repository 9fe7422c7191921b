import FaultyServer.Proofs.Program.Outcome
import FaultyServer.Proofs.Settings.Load

/-!
# Invalid configuration files

A file that can be read but gives no settings is reported, from the command line down to the cause,
and ends the program with exit code 1. This holds for whatever text the file has, but for one kind:
a text whose duration overflows crashes the program (`invalid_reported_unless_carry`).
-/

namespace FaultyServer

open Yaml (Document)

variable {files : FileTree} {path spelling text : String} {canonical : CanonicalPath}
  {fault : SettingsFault} {words : List String} {arguments : Arguments}

namespace Program

theorem launch_invalid (hwords : CommandLine.read words = .ok arguments)
    (hfile : arguments.file = some path) (hresolve : files.resolve path = .ok canonical)
    (hread : files.readText canonical = .ok text) (hfault : Settings.ofYaml text = .error fault)
    (environment : Option String) (network : Network) :
    launch words ⟨files, environment, network⟩ =
      .error (.failed [] (.file path (.decoding (files.absolute canonical) fault))) := by
  refine launch_unloaded hwords ?_
  simp only [Arguments.base, hfile, Settings.load_of_read hresolve hread, hfault,
    Except.mapError_error]

/-- How the program ends on an invalid file: it reports every message there is, unless there is a
carry. -/
def invalidEnding (path absolute : String) (fault : SettingsFault) : Ending :=
  if fault = .carry then ⟨101, "", unlines SettingsFault.carry.messages⟩
  else ⟨1, "", unlines ["Error: " ++ ": ".intercalate
    (("failed to load custom config from " ++ Text.quoted path) ::
      ("load config from " ++ Text.quoted absolute) :: fault.messages)]⟩

theorem ending_invalid (path absolute : String) (fault : SettingsFault)
    (portText : UInt16 → List Char) :
    (Halt.failed [] (.file path (.decoding absolute fault))).ending portText =
      invalidEnding path absolute fault := by
  cases fault <;> rfl

end Program

/-- A configuration with this text of a duration. -/
def hangingFor (duration : String) : String :=
  "server:\n  hang:\n    duration: " ++ duration ++ "\n"

/-- A directory with one file. -/
def directoryOf (text : String) : FileTree := ⟨"/d", [(["a.yaml"], .file text.toUTF8.toList)]⟩

end FaultyServer
