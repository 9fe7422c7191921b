import FaultyServer.Text.Pieces

/-!
# File trees

A directory with the files, directories and symbolic links below it, and its place in the file
system, of which nothing else is known but the directories that lead there. A path is resolved name
by name, from the root of the file system if it is absolute and otherwise from the directory. A link
is replaced by its target, which starts at the root again or at the directory of the link, and at
most forty links may be followed. What a path resolves to is named by its canonical path, the names
from the root down without any link among them.
-/

namespace FaultyServer

/-- Why a file cannot be found or read. -/
inductive FileFault
  | notFound
  | notADirectory
  | isADirectory
  | tooManyLinks
  | nameTooLong
  /-- The path holds a NUL character. -/
  | invalidPath
  /-- The bytes of the file are no text. -/
  | notText
  deriving DecidableEq, Repr

namespace FileFault

/-- The message for a fault. -/
def message : FileFault → String
  | notFound => "No such file or directory (os error 2)"
  | notADirectory => "Not a directory (os error 20)"
  | isADirectory => "Is a directory (os error 21)"
  | tooManyLinks => "Too many levels of symbolic links (os error 40)"
  | nameTooLong => "File name too long (os error 36)"
  | invalidPath => "file name contained an unexpected NUL byte"
  | notText => "stream did not contain valid UTF-8"

end FileFault

/-- The names that lead down from the root of the file system. -/
abbrev CanonicalPath := List String

/-- What a name in a directory stands for. -/
inductive Entry
  | file (bytes : List UInt8)
  | directory
  | link (target : String)
  deriving DecidableEq

/-- A directory, by its absolute path, with everything below it by the names that lead there from
the directory. -/
structure FileTree where
  location : String
  entries : List (CanonicalPath × Entry)

namespace FileTree

/-- An empty directory. -/
def empty (location : String) : FileTree := ⟨location, []⟩

/-- The names in a path. Between two slashes, and after one at the end, is an empty name. -/
def names (path : String) : List String := Text.split '/' path

/-- Whether a path starts at the root of the file system instead of in the directory. -/
def isAbsolute (path : String) : Bool := path.toList.head? == some '/'

/-- The canonical path of the directory. -/
def home (t : FileTree) : CanonicalPath := (names t.location).filter (· != "")

/-- What stands at a canonical path. -/
def entry? (t : FileTree) (path : CanonicalPath) : Option Entry :=
  if path <+: t.home then some .directory
  else if t.home <+: path then t.entries.lookup (path.drop t.home.length)
  else none

/-- The absolute text of a canonical path. -/
def absolute (_ : FileTree) (path : CanonicalPath) : String := "/" ++ "/".intercalate path

/-- The directories above a path, the highest first. -/
def parents : CanonicalPath → List CanonicalPath
  | [] => []
  | [_] => []
  | name :: rest => [name] :: (parents rest).map (name :: ·)

/-- Makes a directory below the directory of the tree, unless there already is something. -/
def ensureDirectory (t : FileTree) (path : List String) : FileTree :=
  if (t.entries.lookup path).isSome then t
  else { t with entries := (path, .directory) :: t.entries }

/-- Puts an entry below the directory of the tree, and makes the directories above it. -/
def insert (t : FileTree) (path : List String) (entry : Entry) : FileTree :=
  let t := (parents path).foldl ensureDirectory t
  { t with entries := (path, entry) :: t.entries.filter (·.1 != path) }

/-! ### Paths -/

/-- The longest name, in bytes. -/
def maxNameBytes : Nat := 255

/-- The longest text by which something can be looked up, in bytes. -/
def maxPathBytes : Nat := 4095

/-- How many links may be followed on the way to one file. -/
def maxLinks : Nat := 40

/-- Whether a name is too long to be looked up in a directory. -/
def isTooLong (t : FileTree) (directory : CanonicalPath) (name : String) : Bool :=
  decide (maxNameBytes < name.utf8ByteSize) ||
    decide (maxPathBytes < (t.absolute (directory ++ [name])).utf8ByteSize)

/-- Where a path starts that is not absolute if it starts at `directory`. -/
def origin (directory : CanonicalPath) (path : String) : CanonicalPath :=
  if isAbsolute path then [] else directory

/-- How far a path could be followed without a link. -/
inductive Walk
  /-- To the end of the path. -/
  | finished (path : CanonicalPath)
  /-- To a link in a directory, with the names after it. -/
  | link (directory : CanonicalPath) (target : String) (rest : List String)

/-- Follows names down from a canonical path up to the first link. Above the root is the root
itself. -/
def walk (t : FileTree) (path : CanonicalPath) : List String → Except FileFault Walk
  | [] => .ok (.finished path)
  | name :: rest =>
    if t.entry? path != some .directory then .error .notADirectory
    else if name = "" ∨ name = "." then walk t path rest
    else if name = ".." then walk t path.dropLast rest
    else if t.isTooLong path name then .error .nameTooLong
    else
      match t.entry? (path ++ [name]) with
      | none => .error .notFound
      | some (.link target) => .ok (.link path target rest)
      | some _ => walk t (path ++ [name]) rest

/-- Follows names down from a canonical path, through at most `links` links. -/
def follow (t : FileTree) : Nat → CanonicalPath → List String → Except FileFault CanonicalPath
  | links, path, rest => do
    match ← t.walk path rest with
    | .finished path => .ok path
    | .link directory target rest =>
      match links with
      | 0 => .error .tooManyLinks
      | links + 1 => follow t links (origin directory target) (names target ++ rest)

/-- The canonical path of a path. -/
def resolve (t : FileTree) (path : String) : Except FileFault CanonicalPath :=
  if path.toList.contains '\x00' then .error .invalidPath
  else if path = "" then .error .notFound
  else t.follow maxLinks (origin t.home path) (names path)

/-- The text of a file. -/
def readText (t : FileTree) (path : CanonicalPath) : Except FileFault String :=
  match t.entry? path with
  | some (.file bytes) =>
    match String.fromUTF8? (ByteArray.mk bytes.toArray) with
    | some text => .ok text
    | none => .error .notText
  | some _ => .error .isADirectory
  | none => .error .notFound

end FileTree

end FaultyServer
