import DatasetQuery.Wire.Field
import DatasetQuery.Wire.Message
/-!
The fields of every message, in the order of their numbers. A plain part with its default value
is left out; a chosen member, and a part whose absence counts, is written whenever it is there.
-/
namespace DatasetQuery.Wire

/-- Signed numbers travel in two's complement over 64 bits. -/
def signed (n : Int) : Nat := (n % 0x10000000000000000).toNat

def textBytes (s : String) : Bytes := s.toUTF8.toList

namespace Field

def ofText (number : Nat) (s : String) : Field := ⟨number, .bytes (textBytes s)⟩

def ofInt32 (number : Nat) (n : Int32) : Field := ⟨number, .varint (signed n.toInt)⟩

def ofInt64 (number : Nat) (n : Int64) : Field := ⟨number, .varint (signed n.toInt)⟩

def ofBool (number : Nat) (b : Bool) : Field := ⟨number, .varint b.toNat⟩

/-- A message inside another, by its own fields. -/
def ofMessage (number : Nat) (fields : List Field) : Field := ⟨number, .bytes (encodeAll fields)⟩

end Field

/-- A plain text; the empty one is left out. -/
def plainText (number : Nat) (s : String) : List Field :=
  if s = "" then [] else [.ofText number s]

/-- A plain code; zero is left out. -/
def plainCode (number : Nat) (code : Int32) : List Field :=
  if code = 0 then [] else [.ofInt32 number code]

/-- A part whose absence counts. -/
def optionalPart {α : Type} (field : α → Field) (part : Option α) : List Field :=
  (part.map field).toList

/-- The fields of a column reference. -/
def columnFields (name : String) : List Field := plainText 1 name

mutual

def Literal.fields : Literal → List Field
  | .unset => []
  | .string value => [.ofText 1 value]
  | .boolean value => [.ofBool 2 value]
  | .i32 value => [.ofInt32 3 value]
  | .u64 value => [⟨4, .varint value.toNat⟩]
  | .u32 value => [⟨5, .varint value.toNat⟩]
  | .i64 value => [.ofInt64 6 value]
  | .f32 value => [⟨7, .fixed32 value.bits.toNat⟩]
  | .f64 value => [⟨8, .fixed64 value.bits.toNat⟩]
  | .timestamp micros => [.ofInt64 9 micros]
  | .list values => [.ofMessage 10 (Literal.listFields values)]

def Literal.listFields : List Literal → List Field
  | [] => []
  | value :: rest => .ofMessage 1 value.fields :: Literal.listFields rest

end

mutual

def Expression.fields : Expression → List Field
  | .unset => []
  | .column name => [.ofMessage 1 (columnFields name)]
  | .literal l => [.ofMessage 2 l.fields]
  | .derived argument op =>
    [.ofMessage 3 (Expression.argumentFields argument ++ plainCode 2 op)]
  | .aggregate argument op =>
    [.ofMessage 4 (Expression.argumentFields argument ++ plainCode 2 op)]
  | .condition op arguments =>
    [.ofMessage 5 (plainCode 1 op ++ Expression.argumentsFields arguments)]

/-- The argument of an operator on one. -/
def Expression.argumentFields : Option Expression → List Field
  | none => []
  | some e => [.ofMessage 1 e.fields]

/-- The arguments of a condition. -/
def Expression.argumentsFields : List Expression → List Field
  | [] => []
  | e :: rest => .ofMessage 2 e.fields :: Expression.argumentsFields rest

end

def Application.fields (a : Application) : List Field :=
  Expression.argumentFields a.argument ++ plainCode 2 a.op

def Condition.fields (c : Condition) : List Field :=
  plainCode 1 c.op ++ Expression.argumentsFields c.arguments

def Address.fields : Address → List Field
  | .unset => []
  | .package id => [.ofText 1 id]
  | .source id => [.ofText 2 id]

def Selection.fields (s : Selection) : List Field :=
  Expression.argumentFields s.argument ++ optionalPart (Field.ofText 2) s.alias?

def Grouping.fields : Grouping → List Field
  | .unset => []
  | .column name => [.ofMessage 1 (columnFields name)]
  | .derived content => [.ofMessage 2 content.fields]

def SortKey.fields (k : SortKey) : List Field :=
  Expression.argumentFields k.argument ++ optionalPart (Field.ofInt32 2) k.direction

def ClientVersion.fields (v : ClientVersion) : List Field :=
  plainCode 1 v.client ++ plainText 2 v.codeVersion ++ plainText 3 v.datasetVersion

def Query.fields (q : Query) : List Field :=
  optionalPart (fun a => .ofMessage 1 a.fields) q.address
    ++ plainText 2 q.selectFrom
    ++ q.select.map (fun s => .ofMessage 3 s.fields)
    ++ optionalPart (fun c => .ofMessage 4 c.fields) q.filter
    ++ q.groupBy.map (fun g => .ofMessage 5 g.fields)
    ++ q.orderBy.map (fun k => .ofMessage 6 k.fields)
    ++ optionalPart (fun n => ⟨7, .varint n.toNat⟩) q.limit
    ++ optionalPart (fun v => .ofMessage 8 v.fields) q.clientVersion
    ++ optionalPart (Field.ofBool 9) q.dryRun

def QueryResult.fields (r : QueryResult) : List Field :=
  plainText 1 r.queryString ++ plainText 2 r.jsonData

def Query.encode (q : Query) : Bytes := Field.encodeAll q.fields

def QueryResult.encode (r : QueryResult) : Bytes := Field.encodeAll r.fields

end DatasetQuery.Wire
