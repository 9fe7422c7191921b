import FaultyServer.Text.Number

/-!
# Request targets

The target of a request in one of its four forms: a path, a whole address with scheme and authority,
an authority alone, or an asterisk. A target is split and checked but never decoded or normalised,
so its path is the text that was sent. A query and a fragment are no part of the path.
-/

namespace FaultyServer.Http

/-- Why a text is no request target. -/
inductive TargetFault
  | tooLong
  | empty
  | invalidCharacter
  | invalidAuthority
  | invalidFormat
  | schemeTooLong
  deriving DecidableEq

/-- The message for a fault. -/
def TargetFault.message : TargetFault → String
  | tooLong => "uri too long"
  | empty => "empty string"
  | invalidCharacter => "invalid uri character"
  | invalidAuthority => "invalid authority"
  | invalidFormat => "invalid format"
  | schemeTooLong => "scheme too long"

/-- A request target. -/
structure Target where
  scheme : Option (List Char)
  authority : List Char
  path : List Char
  query : Option (List Char)
  deriving DecidableEq

namespace Target

/-- The longest target, in bytes. -/
def maxBytes : Nat := 65534

/-- The longest scheme. -/
def maxScheme : Nat := 64

/-- A character of a path. Beyond those that a path may hold by the standard, some are taken
because they occur. -/
def isPathChar (c : Char) : Bool :=
  let n := c.toNat
  n == 0x21 || n == 0x22 || (0x24 ≤ n && n ≤ 0x3B) || n == 0x3D || (0x40 ≤ n && n ≤ 0x5F) ||
    (0x61 ≤ n && n ≤ 0x7E) || 0x80 ≤ n

/-- A character of a query. -/
def isQueryChar (c : Char) : Bool :=
  let n := c.toNat
  n == 0x21 || (0x24 ≤ n && n ≤ 0x3B) || n == 0x3D || (0x3F ≤ n && n ≤ 0x7E) || 0x80 ≤ n

/-- Reads a query up to the fragment. -/
def readQuery : List Char → Except TargetFault (List Char)
  | [] => .ok []
  | c :: r =>
    if c = '#' then .ok []
    else if isQueryChar c then (c :: ·) <$> readQuery r
    else .error .invalidCharacter

/-- Reads a path and a query up to the fragment. -/
def readPath : List Char → Except TargetFault (List Char × Option (List Char))
  | [] => .ok ([], none)
  | c :: r =>
    if c = '#' then .ok ([], none)
    else if c = '?' then (fun q => ([], some q)) <$> readQuery r
    else if isPathChar c then (fun (path, query) => (c :: path, query)) <$> readPath r
    else .error .invalidCharacter

/-- A character of a scheme. -/
def isSchemeChar (c : Char) : Bool :=
  Text.isLetter c || Text.isDigit c || ['+', '-', '.', '~'].contains c

/-- Splits off a scheme, if the text starts with one. The two common schemes are known in any
case. -/
def splitScheme (cs : List Char) : Except TargetFault (Option (List Char) × List Char) :=
  let scheme := cs.takeWhile isSchemeChar
  match cs.dropWhile isSchemeChar with
  | ':' :: '/' :: '/' :: rest =>
    if maxScheme < scheme.length then .error .schemeTooLong
    else if cs.length ≤ 3 then .ok (none, cs)
    else .ok (some scheme, rest)
  | _ => .ok (none, cs)

/-- A character of an authority, beside the percent sign. -/
def isAuthorityChar (c : Char) : Bool :=
  Text.isLetter c || Text.isDigit c ||
    ['!', '$', '&', '\'', '(', ')', '*', '+', ',', '-', '.', ':', ';', '=', '@', '[', ']', '_',
      '~'].contains c

/-- What is known of an authority while it is read. What comes before an at sign is forgotten. -/
structure AuthorityState where
  colons : Nat
  hasPercent : Bool
  opened : Bool
  closed : Bool
  /-- Whether the last character was an at sign. -/
  afterAt : Bool

/-- Whether an authority may end. -/
def AuthorityState.check (s : AuthorityState) : Except TargetFault Unit :=
  if s.opened != s.closed || decide (1 < s.colons) || s.afterAt || s.hasPercent then
    .error .invalidAuthority
  else .ok ()

/-- The authority at the front of a text, and the rest. -/
def readAuthority (s : AuthorityState) : List Char → Except TargetFault (List Char × List Char)
  | [] => do s.check; pure ([], [])
  | c :: r =>
    if c = '/' ∨ c = '?' ∨ c = '#' then do s.check; pure ([], c :: r)
    else do
      let s := { s with afterAt := false }
      let s ←
        if c = '%' then pure { s with hasPercent := true }
        else if !isAuthorityChar c then .error .invalidCharacter
        else if c = ':' then
          if 8 ≤ s.colons then .error .invalidAuthority
          else pure { s with colons := s.colons + 1 }
        else if c = '[' then
          if s.hasPercent || s.opened then .error .invalidAuthority
          else pure { s with opened := true }
        else if c = ']' then
          if !s.opened || s.closed then .error .invalidAuthority
          else pure { s with closed := true, colons := 0, hasPercent := false }
        else if c = '@' then pure { s with afterAt := true, colons := 0, hasPercent := false }
        else pure s
      let (authority, rest) ← readAuthority s r
      pure (c :: authority, rest)

/-- The authority at the front of a text, and the rest. -/
def splitAuthority (cs : List Char) : Except TargetFault (List Char × List Char) :=
  readAuthority ⟨0, false, false, false, false⟩ cs

/-- The target of a text that is no path and not a single character. -/
def ofFull (cs : List Char) : Except TargetFault Target := do
  let (scheme, rest) ← splitScheme cs
  let (authority, rest) ← splitAuthority rest
  match scheme with
  | none =>
    if rest.isEmpty then pure ⟨none, authority, [], none⟩ else .error .invalidFormat
  | some scheme =>
    if authority.isEmpty then .error .invalidFormat
    else
      let (path, query) ← readPath rest
      pure ⟨some scheme, authority, if path.isEmpty then ['/'] else path, query⟩

/-- The target of a text. -/
def ofChars (cs : List Char) : Except TargetFault Target :=
  match cs with
  | [] => .error .empty
  | ['*'] => .ok ⟨none, [], ['*'], none⟩
  | '/' :: _ => do
    let (path, query) ← readPath cs
    pure ⟨none, [], path, query⟩
  | [_] => do
    let (authority, rest) ← splitAuthority cs
    if rest.isEmpty then pure ⟨none, authority, [], none⟩ else .error .invalidCharacter
  | cs => ofFull cs

/-- The target of a text, unless it is too long. -/
def ofString (s : String) : Except TargetFault Target :=
  if maxBytes < s.utf8ByteSize then .error .tooLong else ofChars s.toList

end Target

end FaultyServer.Http
