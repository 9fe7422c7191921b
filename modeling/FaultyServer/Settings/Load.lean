import FaultyServer.FileTree
import FaultyServer.Settings.Decode

/-!
# Loading a configuration file

A configuration file is loaded in three stages: its path is resolved, its bytes are read as text,
and the text is decoded. A fault is reported by the stage in which it occurs. Only the first stage
knows the path as it was given; the others name the file by its canonical path.
-/

namespace FaultyServer

/-- Why a configuration file gives no settings. -/
inductive LoadFault
  /-- The path, given as `path`, leads nowhere. -/
  | resolving (path : String) (fault : FileFault)
  /-- The file cannot be read. -/
  | reading (path : String) (fault : FileFault)
  /-- The text of the file gives no settings. -/
  | decoding (path : String) (fault : SettingsFault)
  deriving DecidableEq

namespace LoadFault

/-- The messages for a fault, the most general first. A carry ends the program before anyone could
say at what it was. -/
def messages : LoadFault → List String
  | resolving path fault =>
    ["failed to resolve absolute config filepath: " ++ Text.quoted path, fault.message]
  | reading path fault => ["read config yaml file " ++ Text.quoted path, fault.message]
  | decoding _ .carry => SettingsFault.carry.messages
  | decoding path fault => ("load config from " ++ Text.quoted path) :: fault.messages

end LoadFault

/-- The settings in the file at `path` of a tree, a path that messages spell as `spelling`. -/
def Settings.load (tree : FileTree) (spelling path : String) : Except LoadFault Settings := do
  let canonical ← (tree.resolve path).mapError (LoadFault.resolving spelling)
  let absolute := tree.absolute canonical
  let text ← (tree.readText canonical).mapError (LoadFault.reading absolute)
  (Settings.ofYaml text).mapError (LoadFault.decoding absolute)

end FaultyServer
