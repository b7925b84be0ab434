import DatasetQuery.Wire.Encode
/-!
Reading messages from bytes. Fields are taken in the order in which they come: a later plain
value replaces an earlier one, repeated parts are collected, and a message that comes again is
merged into the one that is there, also inside a choice if its member stays the same. Unknown
fields are dropped. Every message inside another, and every unknown field, needs a level below
the message that holds it; the outermost has a hundred.
-/
namespace DatasetQuery.Wire

def text? (bytes : Bytes) : Option String := String.fromUTF8? ⟨bytes.toArray⟩

/-- The low 32 bits of a number, as a signed value. -/
def int32Of (n : Nat) : Int32 := Int32.ofInt (Int.ofNat n)

/-- A number of 64 bits as a signed value. -/
def int64Of (n : Nat) : Int64 := Int64.ofInt (Int.ofNat n)

/-- Merges all fields of a message with `levels` levels below it, one after the other. -/
def mergeFields {α : Type} (levels : Nat) (step : Field → α → Option α) (start : α)
    (bytes : Bytes) : Option α :=
  match Field.readAll levels bytes with
  | none => none
  | some fields => fields.foldlM (fun message field => step field message) start

/-- How the messages that lie one level deeper are merged into what is there already. -/
structure Readers where
  column : String → Bytes → Option String
  literal : Literal → Bytes → Option Literal
  literals : List Literal → Bytes → Option (List Literal)
  expression : Expression → Bytes → Option Expression
  application : Application → Bytes → Option Application
  condition : Condition → Bytes → Option Condition

/-- A message inside another can be read if there is a level for it. -/
def nested {α : Type} (below : Option Readers) (read : Readers → Option α) : Option α :=
  below.bind read

/-- An unknown field changes nothing, and takes a level too. -/
def unknown {α : Type} (below : Option Readers) (message : α) : Option α :=
  below.map fun _ => message

/-- The argument that is there, or an unset one to merge into. -/
def start (argument : Option Expression) : Expression := argument.getD .unset

def columnStep (below : Option Readers) (field : Field) (name : String) : Option String :=
  match field with
  | ⟨1, .bytes b⟩ => text? b
  | ⟨1, _⟩ => none
  | _ => unknown below name

def Literal.step (below : Option Readers) (field : Field) (l : Literal) : Option Literal :=
  match field with
  | ⟨1, .bytes b⟩ => (text? b).map .string
  | ⟨2, .varint n⟩ => some (.boolean (n ≠ 0))
  | ⟨3, .varint n⟩ => some (.i32 (int32Of n))
  | ⟨4, .varint n⟩ => some (.u64 (UInt64.ofNat n))
  | ⟨5, .varint n⟩ => some (.u32 (UInt32.ofNat n))
  | ⟨6, .varint n⟩ => some (.i64 (int64Of n))
  | ⟨7, .fixed32 n⟩ => some (.f32 ⟨UInt32.ofNat n⟩)
  | ⟨8, .fixed64 n⟩ => some (.f64 ⟨UInt64.ofNat n⟩)
  | ⟨9, .varint n⟩ => some (.timestamp (int64Of n))
  | ⟨10, .bytes b⟩ =>
    let present := match l with
      | .list values => values
      | _ => []
    nested below fun r => (r.literals present b).map .list
  | ⟨number, _⟩ => if number ≤ 10 then none else unknown below l

def literalsStep (below : Option Readers) (field : Field) (values : List Literal) :
    Option (List Literal) :=
  match field with
  | ⟨1, .bytes b⟩ => nested below fun r => (r.literal .unset b).map fun l => values ++ [l]
  | ⟨1, _⟩ => none
  | _ => unknown below values

def Expression.step (below : Option Readers) (field : Field) (e : Expression) :
    Option Expression :=
  match field with
  | ⟨1, .bytes b⟩ =>
    let present := match e with
      | .column name => name
      | _ => ""
    nested below fun r => (r.column present b).map .column
  | ⟨2, .bytes b⟩ =>
    let present := match e with
      | .literal l => l
      | _ => .unset
    nested below fun r => (r.literal present b).map .literal
  | ⟨3, .bytes b⟩ =>
    let present := match e with
      | .derived argument op => ⟨argument, op⟩
      | _ => Application.empty
    nested below fun r => (r.application present b).map .ofDerived
  | ⟨4, .bytes b⟩ =>
    let present := match e with
      | .aggregate argument op => ⟨argument, op⟩
      | _ => Application.empty
    nested below fun r => (r.application present b).map .ofAggregate
  | ⟨5, .bytes b⟩ =>
    let present := match e with
      | .condition op arguments => ⟨op, arguments⟩
      | _ => Condition.empty
    nested below fun r => (r.condition present b).map .ofCondition
  | ⟨number, _⟩ => if number ≤ 5 then none else unknown below e

def Application.step (below : Option Readers) (field : Field) (a : Application) :
    Option Application :=
  match field with
  | ⟨1, .bytes b⟩ =>
    nested below fun r =>
      (r.expression (start a.argument) b).map fun e => { a with argument := some e }
  | ⟨2, .varint n⟩ => some { a with op := int32Of n }
  | ⟨number, _⟩ => if number ≤ 2 then none else unknown below a

def Condition.step (below : Option Readers) (field : Field) (c : Condition) :
    Option Condition :=
  match field with
  | ⟨1, .varint n⟩ => some { c with op := int32Of n }
  | ⟨2, .bytes b⟩ =>
    nested below fun r =>
      (r.expression .unset b).map fun e => { c with arguments := c.arguments ++ [e] }
  | ⟨number, _⟩ => if number ≤ 2 then none else unknown below c

namespace Readers

/-- Readers of messages that have `levels` levels below them, read by `below`. -/
def above (levels : Nat) (below : Option Readers) : Readers where
  column := mergeFields levels (columnStep below)
  literal := mergeFields levels (Literal.step below)
  literals := mergeFields levels (literalsStep below)
  expression := mergeFields levels (Expression.step below)
  application := mergeFields levels (Application.step below)
  condition := mergeFields levels (Condition.step below)

/-- Readers of messages that have `levels` levels below them. -/
def withLevels : (levels : Nat) → Readers
  | 0 => above 0 none
  | levels + 1 => above (levels + 1) (some (withLevels levels))

end Readers

/-- The levels below the outermost message. -/
def rootLevels : Nat := 100

/-- Readers of the messages inside the outermost one. -/
def firstLevel : Readers := Readers.withLevels 99

/-- Readers of the messages inside those. -/
def secondLevel : Readers := Readers.withLevels 98

def Address.step (field : Field) (a : Address) : Option Address :=
  match field with
  | ⟨1, .bytes b⟩ => (text? b).map .package
  | ⟨2, .bytes b⟩ => (text? b).map .source
  | ⟨number, _⟩ => if number ≤ 2 then none else some a

def Selection.step (field : Field) (s : Selection) : Option Selection :=
  match field with
  | ⟨1, .bytes b⟩ =>
    (secondLevel.expression (start s.argument) b).map fun e => { s with argument := some e }
  | ⟨2, .bytes b⟩ => (text? b).map fun a => { s with alias? := some a }
  | ⟨number, _⟩ => if number ≤ 2 then none else some s

def Grouping.step (field : Field) (g : Grouping) : Option Grouping :=
  match field with
  | ⟨1, .bytes b⟩ =>
    let present := match g with
      | .column name => name
      | _ => ""
    (secondLevel.column present b).map .column
  | ⟨2, .bytes b⟩ =>
    let present := match g with
      | .derived content => content
      | _ => Application.empty
    (secondLevel.application present b).map .derived
  | ⟨number, _⟩ => if number ≤ 2 then none else some g

def SortKey.step (field : Field) (k : SortKey) : Option SortKey :=
  match field with
  | ⟨1, .bytes b⟩ =>
    (secondLevel.expression (start k.argument) b).map fun e => { k with argument := some e }
  | ⟨2, .varint n⟩ => some { k with direction := some (int32Of n) }
  | ⟨number, _⟩ => if number ≤ 2 then none else some k

def ClientVersion.step (field : Field) (v : ClientVersion) : Option ClientVersion :=
  match field with
  | ⟨1, .varint n⟩ => some { v with client := int32Of n }
  | ⟨2, .bytes b⟩ => (text? b).map fun s => { v with codeVersion := s }
  | ⟨3, .bytes b⟩ => (text? b).map fun s => { v with datasetVersion := s }
  | ⟨number, _⟩ => if number ≤ 3 then none else some v

def Query.step (field : Field) (q : Query) : Option Query :=
  match field with
  | ⟨1, .bytes b⟩ =>
    (mergeFields 99 Address.step (q.address.getD .unset) b).map fun a =>
      { q with address := some a }
  | ⟨2, .bytes b⟩ => (text? b).map fun s => { q with selectFrom := s }
  | ⟨3, .bytes b⟩ =>
    (mergeFields 99 Selection.step Selection.empty b).map fun s =>
      { q with select := q.select ++ [s] }
  | ⟨4, .bytes b⟩ =>
    (firstLevel.condition (q.filter.getD Condition.empty) b).map fun c =>
      { q with filter := some c }
  | ⟨5, .bytes b⟩ =>
    (mergeFields 99 Grouping.step .unset b).map fun g => { q with groupBy := q.groupBy ++ [g] }
  | ⟨6, .bytes b⟩ =>
    (mergeFields 99 SortKey.step SortKey.empty b).map fun k =>
      { q with orderBy := q.orderBy ++ [k] }
  | ⟨7, .varint n⟩ => some { q with limit := some (UInt64.ofNat n) }
  | ⟨8, .bytes b⟩ =>
    (mergeFields 99 ClientVersion.step (q.clientVersion.getD ClientVersion.empty) b).map fun v =>
      { q with clientVersion := some v }
  | ⟨9, .varint n⟩ => some { q with dryRun := some (n ≠ 0) }
  | ⟨number, _⟩ => if number ≤ 9 then none else some q

def QueryResult.step (field : Field) (r : QueryResult) : Option QueryResult :=
  match field with
  | ⟨1, .bytes b⟩ => (text? b).map fun s => { r with queryString := s }
  | ⟨2, .bytes b⟩ => (text? b).map fun s => { r with jsonData := s }
  | ⟨number, _⟩ => if number ≤ 2 then none else some r

def Query.decode (bytes : Bytes) : Option Query :=
  mergeFields rootLevels Query.step Query.empty bytes

def QueryResult.decode (bytes : Bytes) : Option QueryResult :=
  mergeFields rootLevels QueryResult.step QueryResult.empty bytes

end DatasetQuery.Wire
