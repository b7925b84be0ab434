import DatasetQuery.Json.Number
/-!
A strict reader of JSON text. It takes no comments, no trailing commas, no other blanks than the
four of the format, no control characters and no lone surrogates, and containers nest at most
127 deep.
-/
namespace DatasetQuery.Json

def isBlank (c : Char) : Bool := c = ' ' ∨ c = '\n' ∨ c = '\t' ∨ c = '\r'

def skipBlanks (cs : List Char) : List Char := cs.dropWhile isBlank

def hexDigit? (c : Char) : Option Nat :=
  if '0' ≤ c ∧ c ≤ '9' then some (c.toNat - '0'.toNat)
  else if 'a' ≤ c ∧ c ≤ 'f' then some (c.toNat - 'a'.toNat + 10)
  else if 'A' ≤ c ∧ c ≤ 'F' then some (c.toNat - 'A'.toNat + 10)
  else none

/-- The value of four hexadecimal digits. -/
def hex? (a b c d : Char) : Option Nat := do
  let a ← hexDigit? a
  let b ← hexDigit? b
  let c ← hexDigit? c
  let d ← hexDigit? d
  return ((a * 16 + b) * 16 + c) * 16 + d

def isHighSurrogate (n : Nat) : Bool := 0xD800 ≤ n ∧ n < 0xDC00

def isLowSurrogate (n : Nat) : Bool := 0xDC00 ≤ n ∧ n < 0xE000

/-- The character that a single letter stands for behind a backslash. -/
def escape? : Char → Option Char
  | '"' => some '"'
  | '\\' => some '\\'
  | '/' => some '/'
  | 'b' => some '\x08'
  | 'f' => some '\x0c'
  | 'n' => some '\n'
  | 'r' => some '\r'
  | 't' => some '\t'
  | _ => none

/-- The characters of a string up to its closing quote, and what follows it. -/
def characters? : List Char → Option (List Char × List Char)
  | [] => none
  | '"' :: rest => some ([], rest)
  | '\\' :: 'u' :: a :: b :: c :: d :: rest =>
    match hex? a b c d with
    | none => none
    | some high =>
      if isHighSurrogate high then
        match rest with
        | '\\' :: 'u' :: a :: b :: c :: d :: rest =>
          match hex? a b c d with
          | none => none
          | some low =>
            if isLowSurrogate low then
              let n := 0x10000 + (high - 0xD800) * 0x400 + (low - 0xDC00)
              (characters? rest).map fun r => (Char.ofNat n :: r.1, r.2)
            else none
        | _ => none
      else if isLowSurrogate high then none
      else (characters? rest).map fun r => (Char.ofNat high :: r.1, r.2)
  | '\\' :: e :: rest =>
    match escape? e with
    | some c => (characters? rest).map fun r => (c :: r.1, r.2)
    | none => none
  | c :: rest =>
    if c.toNat < 32 ∨ c = '\\' then none
    else (characters? rest).map fun r => (c :: r.1, r.2)

def string? : List Char → Option (String × List Char)
  | '"' :: rest => (characters? rest).map fun r => (String.ofList r.1, r.2)
  | _ => none

/-- One or more items with commas between them, up to the closing character. -/
def separated? {α : Type} (item : List Char → Option (α × List Char)) (close : Char)
    (cs : List Char) : Option (List α × List Char) :=
  match item cs with
  | none => none
  | some (a, rest) =>
    match skipBlanks rest with
    | [] => none
    | c :: rest =>
      if c = close then some ([a], rest)
      else if c = ',' then
        if _shorter : rest.length < cs.length then
          (separated? item close rest).map fun r => (a :: r.1, r.2)
        else none
      else none
termination_by cs.length

/-- The content of a container whose opening character has been read. -/
def container? {α : Type} (item : List Char → Option (α × List Char)) (close : Char)
    (cs : List Char) : Option (List α × List Char) :=
  match skipBlanks cs with
  | [] => none
  | c :: rest => if c = close then some ([], rest) else separated? item close (c :: rest)

/-- A key, a colon and a value. -/
def member? (value : List Char → Option (Value × List Char)) (cs : List Char) :
    Option ((String × Value) × List Char) :=
  match string? (skipBlanks cs) with
  | none => none
  | some (key, rest) =>
    match skipBlanks rest with
    | ':' :: rest => (value rest).map fun r => ((key, r.1), r.2)
    | _ => none

/-- Words and numbers. -/
def atom? : List Char → Option (Value × List Char)
  | 'n' :: 'u' :: 'l' :: 'l' :: rest => some (.null, rest)
  | 't' :: 'r' :: 'u' :: 'e' :: rest => some (.boolean true, rest)
  | 'f' :: 'a' :: 'l' :: 's' :: 'e' :: rest => some (.boolean false, rest)
  | cs => number? cs

/-- A value that may hold containers `levels` deep. -/
def value? : (levels : Nat) → List Char → Option (Value × List Char)
  | levels, cs =>
    match levels, skipBlanks cs with
    | 0, '[' :: _ => none
    | 0, '\x7b' :: _ => none
    | levels + 1, '[' :: rest => (container? (value? levels) ']' rest).map fun r => (.array r.1, r.2)
    | levels + 1, '\x7b' :: rest =>
      (container? (member? (value? levels)) '\x7d' rest).map fun r =>
        (.object (Row.ofMembers r.1), r.2)
    | _, '"' :: rest => (string? ('"' :: rest)).map fun r => (.string r.1, r.2)
    | _, cs => atom? cs

/-- The value of a whole text. -/
def parse? (text : String) : Option Value :=
  match value? 127 text.toList with
  | some (value, rest) => if (skipBlanks rest).isEmpty then some value else none
  | none => none

/-- The rows of a result: an array of objects. -/
def rows? (text : String) : Option (List Row) :=
  match parse? text with
  | some (.array items) => items.mapM fun item =>
    match item with
    | .object members => some members
    | _ => none
  | _ => none

end DatasetQuery.Json
