import DatasetQuery.Binary
/-!
The messages that travel to the agent and back. An unset choice and an absent part are values of
their own, and codes are kept as numbers, so that every message that can be received has a
value.
-/
namespace DatasetQuery.Wire

inductive Literal where
  | unset
  | string (value : String)
  | boolean (value : Bool)
  | i32 (value : Int32)
  | u64 (value : UInt64)
  | u32 (value : UInt32)
  | i64 (value : Int64)
  | f32 (value : Binary32)
  | f64 (value : Binary64)
  | timestamp (micros : Int64)
  | list (values : List Literal)

inductive Expression where
  | unset
  | column (name : String)
  | literal (l : Literal)
  | derived (argument : Option Expression) (op : Int32)
  | aggregate (argument : Option Expression) (op : Int32)
  | condition (op : Int32) (arguments : List Expression)

/-- An operator on one argument: the content of projections and of aggregates. -/
structure Application where
  argument : Option Expression
  op : Int32

/-- An operator on any number of arguments: the content of conditions. -/
structure Condition where
  op : Int32
  arguments : List Expression

/-- Which dataset a query is addressed to. -/
inductive Address where
  | unset
  | package (id : String)
  | source (id : String)

structure Selection where
  argument : Option Expression
  alias? : Option String

inductive Grouping where
  | unset
  | column (name : String)
  | derived (content : Application)

structure SortKey where
  argument : Option Expression
  direction : Option Int32

structure ClientVersion where
  client : Int32
  codeVersion : String
  datasetVersion : String

structure Query where
  address : Option Address
  selectFrom : String
  select : List Selection
  filter : Option Condition
  groupBy : List Grouping
  orderBy : List SortKey
  limit : Option UInt64
  clientVersion : Option ClientVersion
  dryRun : Option Bool

structure QueryResult where
  queryString : String
  jsonData : String

def Expression.ofDerived (a : Application) : Expression := .derived a.argument a.op

def Expression.ofAggregate (a : Application) : Expression := .aggregate a.argument a.op

def Expression.ofCondition (c : Condition) : Expression := .condition c.op c.arguments

namespace Application

def empty : Application := ⟨none, 0⟩

end Application

namespace Condition

def empty : Condition := ⟨0, []⟩

end Condition

namespace Selection

def empty : Selection := ⟨none, none⟩

end Selection

namespace SortKey

def empty : SortKey := ⟨none, none⟩

end SortKey

namespace ClientVersion

def empty : ClientVersion := ⟨0, "", ""⟩

end ClientVersion

namespace Query

def empty : Query := ⟨none, "", [], none, [], [], none, none, none⟩

end Query

namespace QueryResult

def empty : QueryResult := ⟨"", ""⟩

end QueryResult

end DatasetQuery.Wire
