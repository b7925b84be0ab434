/-!
Addresses of services: a path, an authority, or a scheme with an authority and a resource. The
reader reports the first character or part that cannot belong to an address; a fragment is
dropped.
-/
namespace DatasetQuery

/-- Why a text is no address, or an address cannot be completed. -/
inductive UriError where
  | tooLong | empty | invalidCharacter | invalidAuthority | invalidFormat | schemeTooLong
  | pathMissing
  deriving DecidableEq

namespace UriError

def message : UriError → String
  | tooLong => "uri too long"
  | empty => "empty string"
  | invalidCharacter => "invalid uri character"
  | invalidAuthority => "invalid authority"
  | invalidFormat => "invalid format"
  | schemeTooLong => "scheme too long"
  | pathMissing => "path missing"

end UriError

inductive Scheme where
  | http | https | other (name : String)
  deriving DecidableEq

namespace Scheme

def text : Scheme → String
  | http => "http"
  | https => "https"
  | other name => name

end Scheme

/-- What is asked of a service: a path, and what follows the question mark after it. -/
structure Resource where
  path : String
  query : Option String
  deriving DecidableEq

namespace Resource

def text (r : Resource) : String :=
  match r.query with
  | some query => r.path ++ "?" ++ query
  | none => r.path

end Resource

inductive Uri where
  | resource (r : Resource)
  | authority (text : String)
  | absolute (scheme : Scheme) (authority : String) (r : Resource)
  deriving DecidableEq

namespace Uri

def text : Uri → String
  | resource r => r.text
  | authority a => a
  | absolute scheme a r => scheme.text ++ "://" ++ a ++ r.text

/-- Letters and digits of the ASCII alphabet, and some marks, can stand in an authority;
brackets, the colon, the percent sign and the at sign have a meaning there. -/
def isAuthorityMark (c : Char) : Bool := c.isAlphanum || "!$&\x27()*+,-.;=_~".toList.contains c

/-- The characters that end an authority. -/
def isDelimiter (c : Char) : Bool := c = '/' ∨ c = '?' ∨ c = '#'

/-- What has been seen of an authority. Colons and percent signs before an at sign belong to
the user, those before a closing bracket to a numeric host; neither is counted any longer. -/
structure AuthorityScan where
  colons : Nat
  opened : Bool
  closed : Bool
  percent : Bool

namespace AuthorityScan

def start : AuthorityScan := ⟨0, false, false, false⟩

def step (s : AuthorityScan) (c : Char) : Except UriError AuthorityScan :=
  if c = ':' then
    if 8 ≤ s.colons then .error .invalidAuthority else .ok { s with colons := s.colons + 1 }
  else if c = '[' then
    if s.percent || s.opened then .error .invalidAuthority else .ok { s with opened := true }
  else if c = ']' then
    if !s.opened || s.closed then .error .invalidAuthority
    else .ok { s with closed := true, colons := 0, percent := false }
  else if c = '@' then .ok { s with colons := 0, percent := false }
  else if c = '%' then .ok { s with percent := true }
  else if isAuthorityMark c then .ok s
  else .error .invalidCharacter

/-- Brackets come in pairs, at most one colon is left after the host, and a host has no percent
signs. -/
def isComplete (s : AuthorityScan) : Bool :=
  s.opened == s.closed && s.colons ≤ 1 && !s.percent

end AuthorityScan

/-- An authority must not end with the sign that announces its host. -/
def checkAuthority (cs : List Char) : Except UriError Unit := do
  let s ← cs.foldlM AuthorityScan.step .start
  if s.isComplete && cs.getLast? ≠ some '@' then return () else throw .invalidAuthority

/-- Blanks and controls, the deletion mark among them. Nothing behind the ASCII alphabet is
hidden. -/
def isHidden (c : Char) : Bool := c.toNat ≤ 0x20 ∨ c.toNat = 0x7f

/-- The characters of paths: nothing hidden, no angle brackets, no grave accent. -/
def isPathChar (c : Char) : Bool := !isHidden c ∧ ¬ (c = '<' ∨ c = '>' ∨ c = '\x60')

/-- The characters of queries: nothing hidden, no angle brackets, no quotes. -/
def isQueryChar (c : Char) : Bool := !isHidden c ∧ ¬ (c = '<' ∨ c = '>' ∨ c = '"')

/-- A query up to its fragment. -/
def readQuery (cs : List Char) : Except UriError (List Char) :=
  let query := cs.takeWhile (· ≠ '#')
  if query.all isQueryChar then .ok query else .error .invalidCharacter

/-- A path, with a query if a question mark comes before any fragment. An empty path stands
for the root. -/
def readResource (cs : List Char) : Except UriError Resource :=
  let path := cs.takeWhile fun c => c ≠ '?' && c ≠ '#'
  let shown := if path.isEmpty then "/" else String.ofList path
  if path.all isPathChar then
    match cs.drop path.length with
    | '?' :: rest => do
      let query ← readQuery rest
      return ⟨shown, some (String.ofList query)⟩
    | _ => .ok ⟨shown, none⟩
  else .error .invalidCharacter

def isSchemeChar (c : Char) : Bool := c.isAlphanum || "+-.~".toList.contains c

def longestScheme : Nat := 64

/-- The two common schemes are known in any case; any other name is kept as it is written. -/
def schemeOf (name : List Char) : Scheme :=
  if name.map Char.toLower = "http".toList then .http
  else if name.map Char.toLower = "https".toList then .https
  else .other (String.ofList name)

/-- The scheme in front of `://`, and what follows. The mark alone has no scheme. -/
def readScheme (cs : List Char) : Except UriError (Option Scheme × List Char) :=
  let name := cs.takeWhile isSchemeChar
  match cs.drop name.length with
  | ':' :: '/' :: '/' :: rest =>
    if name.isEmpty && rest.isEmpty then .ok (none, cs)
    else if longestScheme < name.length then .error .schemeTooLong
    else .ok (some (schemeOf name), rest)
  | _ => .ok (none, cs)

/-- Without a scheme nothing may follow the authority; with one, the authority is required. -/
def readHierarchy (cs : List Char) : Except UriError Uri := do
  let (scheme?, rest) ← readScheme cs
  if rest.isEmpty then throw .empty
  let a := rest.takeWhile fun c => !isDelimiter c
  checkAuthority a
  let tail := rest.drop a.length
  match scheme? with
  | none => if tail.isEmpty then return authority (String.ofList a) else throw .invalidFormat
  | some scheme =>
    if a.isEmpty then throw .invalidFormat
    else
      let r ← readResource tail
      return absolute scheme (String.ofList a) r

/-- The most bytes an address can have. -/
def longest : Nat := 65534

/-- A star stands for the service as a whole. -/
def read (text : String) : Except UriError Uri :=
  if longest < text.utf8ByteSize then .error .tooLong
  else
    match text.toList with
    | [] => .error .empty
    | ['*'] => .ok (resource ⟨"*", none⟩)
    | ['?'] | ['#'] => .error .invalidCharacter
    | '/' :: rest => (readResource ('/' :: rest)).map resource
    | cs => readHierarchy cs

/-- Ports fit in 16 bits. -/
def greatestPort : Nat := 0xffff

/-- The number behind a host: digits, perhaps after a plus sign. -/
def readPort (cs : List Char) : Option Nat :=
  let digits := match cs with
    | '+' :: rest => rest
    | _ => cs
  if digits.isEmpty || !digits.all Char.isDigit then none
  else
    let n := digits.foldl (fun n c => n * 10 + (c.toNat - '0'.toNat)) 0
    if n ≤ greatestPort then some n else none

/-- What follows the last occurrence of a mark, if it occurs. -/
def afterLast? (mark : Char) (cs : List Char) : Option (List Char) :=
  if cs.contains mark then some (cs.reverse.takeWhile (· ≠ mark)).reverse else none

/-- The authority, where there is one. -/
def authority? : Uri → Option String
  | resource _ => none
  | authority a => some a
  | absolute _ a _ => some a

def scheme? : Uri → Option Scheme
  | absolute scheme _ _ => some scheme
  | resource _ | authority _ => none

def resource? : Uri → Option Resource
  | resource r => some r
  | absolute _ _ r => some r
  | authority _ => none

def portOf (authority : String) : Option Nat := (afterLast? ':' authority.toList).bind readPort

/-- The number that stands after the last colon of the authority. -/
def portNumber? (u : Uri) : Option Nat := u.authority?.bind portOf

/-- The host stands between the user and the colon; a numeric host is taken out of its
brackets. -/
def hostOf (authority : String) : String :=
  let cs := authority.toList
  let hostAndPort := (afterLast? '@' cs).getD cs
  match hostAndPort with
  | '[' :: rest => String.ofList (rest.takeWhile (· ≠ ']'))
  | _ => String.ofList (hostAndPort.takeWhile (· ≠ ':'))

def host? (u : Uri) : Option String := u.authority?.map hostOf

end Uri

end DatasetQuery
