/-!
Names under which a server can prove who it is: names of the domain system, and numeric addresses
of four octets or of eight groups.
-/
namespace DatasetQuery.ServerName

def isLabelChar (c : Char) : Bool := c.isAlphanum || c = '_' || c = '-'

def longestLabel : Nat := 63

/-- A label neither starts nor ends with a hyphen. -/
def isLabel (label : String) : Bool :=
  let cs := label.toList
  cs.all isLabelChar && cs ≠ [] && cs.length ≤ longestLabel
    && cs.head? ≠ some '-' && cs.getLast? ≠ some '-'

/-- The labels of a name, without the empty one that a final point leaves. -/
def labels (name : String) : List String :=
  let parts := name.splitOn "."
  if 1 < parts.length && parts.getLast? = some "" then parts.dropLast else parts

def longestName : Nat := 253

/-- The last label of a domain name is no number. -/
def isDomain (name : String) : Bool :=
  name.utf8ByteSize ≤ longestName && (labels name).all isLabel
    && !(((labels name).getLastD "").toList.all Char.isDigit)

/-- A number up to 255 without leading zeros. -/
def isOctet (text : String) : Bool :=
  let cs := text.toList
  cs.all Char.isDigit && cs ≠ [] && cs.length ≤ 3 && (cs.length = 1 || cs.head? ≠ some '0')
    && cs.foldl (fun n c => n * 10 + (c.toNat - '0'.toNat)) 0 ≤ 255

/-- An address of four octets. -/
def isQuad (name : String) : Bool :=
  let parts := name.splitOn "."
  parts.length = 4 && parts.all isOctet

def isHexDigit (c : Char) : Bool := c.isDigit || ('a' ≤ c && c ≤ 'f') || ('A' ≤ c && c ≤ 'F')

/-- A group of sixteen bits. -/
def isGroup (text : String) : Bool :=
  let cs := text.toList
  cs.all isHexDigit && cs ≠ [] && cs.length ≤ 4

/-- How many groups the parts between colons make. Four octets may end them, for two groups. -/
def groupCount? : List String → Option Nat
  | [] => some 0
  | [part] => if isGroup part then some 1 else if isQuad part then some 2 else none
  | part :: rest => if isGroup part then (groupCount? rest).map (· + 1) else none

def groups (text : String) : List String := if text = "" then [] else text.splitOn ":"

/-- Eight groups, or fewer with a double colon in the place of one or more that are zero. No
octets stand before a double colon. -/
def isGrouped (name : String) : Bool :=
  match name.splitOn "::" with
  | [whole] => groupCount? (groups whole) = some 8
  | [front, back] =>
    (groups front).all isGroup
      && (groupCount? (groups back)).any fun count => (groups front).length + count ≤ 7
  | _ => false

def isValid (name : String) : Bool := isDomain name || isQuad name || isGrouped name

end DatasetQuery.ServerName
