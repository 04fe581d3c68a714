/-!
# PushRelay.Uri

Which addresses can be turned into a request.

An address has a scheme and `://`, an authority, and a path with a query;
or it is an authority alone.  A fragment is dropped unread.  Nothing is
asked of the scheme but its characters; what is asked for is a host.

1. The scheme has at most 64 characters.
2. The authority ends at the first `/`, `?` or `#`.  Its brackets pair up,
   once; outside them and behind the last `@` it has at most one colon and
   no percent sign; something follows the last `@`.
3. Path and query take every character beyond ASCII, and of ASCII those
   that need no encoding and some that should have one, but no control
   characters.
-/

namespace PushRelay

namespace Uri

/-- Why an address is refused. -/
inductive Fault where
  | tooLong
  | empty
  | invalidCharacter
  | invalidAuthority
  | invalidFormat
  | schemeTooLong
  | noHost
deriving DecidableEq, Repr

def Fault.message : Fault → String
  | .tooLong => "HTTP format error: uri too long"
  | .empty => "HTTP format error: empty string"
  | .invalidCharacter => "HTTP format error: invalid uri character"
  | .invalidAuthority => "HTTP format error: invalid authority"
  | .invalidFormat => "HTTP format error: invalid format"
  | .schemeTooLong => "HTTP format error: scheme too long"
  | .noHost => "URL error: No host name in the URL"

/-- The longest address, in bytes. -/
def maxLength : Nat := 65534

/-- The longest scheme. -/
def maxSchemeLength : Nat := 64

/-! ## Scheme -/

/-- Characters of a scheme. -/
def isSchemeChar (c : Char) : Bool :=
  c.isAlphanum || c = '+' || c = '-' || c = '.' || c = '~'

/-- The text behind the scheme and `://`, if the address begins with them
and has more than `://` alone. -/
def dropScheme (cs : List Char) : Except Fault (Option (List Char)) :=
  if cs.length ≤ 3 then .ok none
  else match cs.dropWhile isSchemeChar with
  | ':' :: '/' :: '/' :: rest =>
    if maxSchemeLength < (cs.takeWhile isSchemeChar).length then .error .schemeTooLong
    else .ok (some rest)
  | _ => .ok none

/-! ## Authority -/

/-- What has been seen of an authority. -/
structure Authority where
  colons : Nat := 0
  opened : Bool := false
  closed : Bool := false
  percent : Bool := false

/-- Characters of an authority without a role of their own. -/
def isPlainChar (c : Char) : Bool :=
  c.isAlphanum || "!$&'()*+,-.;=_~".toList.contains c

/-- Takes one more character into an authority. -/
def Authority.push (a : Authority) (c : Char) : Except Fault Authority :=
  if c = ':' then
    if 8 ≤ a.colons then .error .invalidAuthority else .ok { a with colons := a.colons + 1 }
  else if c = '[' then
    if a.percent || a.opened then .error .invalidAuthority else .ok { a with opened := true }
  else if c = ']' then
    if !a.opened || a.closed then .error .invalidAuthority
    else .ok { a with closed := true, colons := 0, percent := false }
  else if c = '@' then .ok { a with colons := 0, percent := false }
  else if c = '%' then .ok { a with percent := true }
  else if isPlainChar c then .ok a
  else .error .invalidCharacter

/-- Whether what has been seen is a complete authority. -/
def Authority.isSound (a : Authority) : Bool :=
  a.opened = a.closed && a.colons ≤ 1 && !a.percent

/-- Characters that end an authority. -/
def endsAuthority (c : Char) : Bool := c = '/' || c = '?' || c = '#'

/-- Reads an authority, and returns it with the rest of the address.  There
must be something to read. -/
def readAuthority (cs : List Char) : Except Fault (List Char × List Char) :=
  let text := cs.takeWhile fun c => !endsAuthority c
  if cs = [] then .error .empty
  else match text.foldlM Authority.push {} with
  | .error e => .error e
  | .ok a =>
    if a.isSound && text.getLast? ≠ some '@' then
      .ok (text, cs.dropWhile fun c => !endsAuthority c)
    else .error .invalidAuthority

/-! ## Path and query -/

def isPathChar (c : Char) : Bool :=
  let n := c.toNat
  n = 0x21 || (0x24 ≤ n && n ≤ 0x3B) || n = 0x3D || (0x40 ≤ n && n ≤ 0x5F) ||
    (0x61 ≤ n && n ≤ 0x7A) || n = 0x7C || n = 0x7E || 0x80 ≤ n || n = 0x22 || n = 0x7B || n = 0x7D

def isQueryChar (c : Char) : Bool :=
  let n := c.toNat
  n = 0x21 || (0x24 ≤ n && n ≤ 0x3B) || n = 0x3D || (0x3F ≤ n && n ≠ 0x7F)

/-- Whether a path with its query is sound; what follows a `#` is not
looked at. -/
def isPath (cs : List Char) : Bool :=
  match cs.dropWhile isPathChar with
  | [] => true
  | '#' :: _ => true
  | '?' :: query =>
    match query.dropWhile isQueryChar with
    | [] => true
    | c :: _ => c = '#'
  | _ => false

/-! ## Addresses -/

/-- The authority of an address that has one. -/
def authority (address : String) : Except Fault (List Char) :=
  if maxLength < address.utf8ByteSize then .error .tooLong
  else match address.toList with
    | [] => .error .empty
    | '/' :: path => if isPath ('/' :: path) then .error .noHost else .error .invalidCharacter
    | ['*'] => .error .noHost
    | cs =>
      match dropScheme cs with
      | .error e => .error e
      | .ok (some rest) =>
        match readAuthority rest with
        | .error e => .error e
        | .ok (text, path) =>
          if text = [] then .error .invalidFormat
          else if isPath path then .ok text
          else .error .invalidCharacter
      | .ok none =>
        match readAuthority cs with
        | .error e => .error e
        | .ok (text, []) => .ok text
        | .ok (_, _ :: _) =>
          if cs.length = 1 then .error .invalidCharacter else .error .invalidFormat

end Uri

end PushRelay
