import DatasetQuery.Vocabulary
/-!
The operators of expressions: four vocabularies, and the tag that every node reports about
itself.
-/
namespace DatasetQuery

/-- Binary predicates. `and` and `or` join predicates; the others compare operands. -/
inductive BooleanOperator where
  | eq | neq | gt | gte | lt | lte | and | or | like | between | isIn | hasAny | hasAll
  deriving DecidableEq

namespace BooleanOperator

def all : List BooleanOperator :=
  [eq, neq, gt, gte, lt, lte, and, or, like, between, isIn, hasAny, hasAll]

def text : BooleanOperator → String
  | eq => "eq"
  | neq => "neq"
  | gt => "gt"
  | gte => "gte"
  | lt => "lt"
  | lte => "lte"
  | and => "and"
  | or => "or"
  | like => "like"
  | between => "between"
  | isIn => "in"
  | hasAny => "hasAny"
  | hasAll => "hasAll"

def label : BooleanOperator → String
  | eq => "Eq"
  | neq => "Neq"
  | gt => "Gt"
  | gte => "Gte"
  | lt => "Lt"
  | lte => "Lte"
  | and => "And"
  | or => "Or"
  | like => "Like"
  | between => "Between"
  | isIn => "In"
  | hasAny => "HasAny"
  | hasAll => "HasAll"

instance : Vocabulary BooleanOperator := ⟨all, text, label⟩

def isJunction : BooleanOperator → Bool
  | and | or => true
  | _ => false

end BooleanOperator

/-- Null checks. -/
inductive UnaryOperator where
  | isNull | isNotNull
  deriving DecidableEq

namespace UnaryOperator

def all : List UnaryOperator := [isNull, isNotNull]

def text : UnaryOperator → String
  | isNull => "isNull"
  | isNotNull => "isNotNull"

def label : UnaryOperator → String
  | isNull => "IsNull"
  | isNotNull => "IsNotNull"

instance : Vocabulary UnaryOperator := ⟨all, text, label⟩

end UnaryOperator

inductive AggregateOperator where
  | min | max | sum | count | countDistinct | avg | avgDistinct
  deriving DecidableEq

namespace AggregateOperator

def all : List AggregateOperator := [min, max, sum, count, countDistinct, avg, avgDistinct]

def text : AggregateOperator → String
  | min => "min"
  | max => "max"
  | sum => "sum"
  | count => "count"
  | countDistinct => "countDistinct"
  | avg => "avg"
  | avgDistinct => "avgDistinct"

def label : AggregateOperator → String
  | min => "Min"
  | max => "Max"
  | sum => "Sum"
  | count => "Count"
  | countDistinct => "CountDistinct"
  | avg => "Avg"
  | avgDistinct => "AvgDistinct"

instance : Vocabulary AggregateOperator := ⟨all, text, label⟩

end AggregateOperator

/-- Projections to one component of the calendar or of the clock. -/
inductive ProjectionOperator where
  | year | month | day | hour | minute | second | millisecond
  deriving DecidableEq

namespace ProjectionOperator

def all : List ProjectionOperator := [year, month, day, hour, minute, second, millisecond]

def text : ProjectionOperator → String
  | year => "year"
  | month => "month"
  | day => "day"
  | hour => "hour"
  | minute => "minute"
  | second => "second"
  | millisecond => "millisecond"

def label : ProjectionOperator → String
  | year => "Year"
  | month => "Month"
  | day => "Day"
  | hour => "Hour"
  | minute => "Minute"
  | second => "Second"
  | millisecond => "Millisecond"

instance : Vocabulary ProjectionOperator := ⟨all, text, label⟩

end ProjectionOperator

/-- The tag of a node. References and constants are `ident`. -/
inductive Operator where
  | ident
  | boolean (op : BooleanOperator)
  | unary (op : UnaryOperator)
  | aggregate (op : AggregateOperator)
  | projection (op : ProjectionOperator)
  deriving DecidableEq

namespace Operator

def text : Operator → String
  | ident => "ident"
  | boolean op => op.text
  | unary op => op.text
  | aggregate op => op.text
  | projection op => op.text

/-- The tag with this exact spelling; no two vocabularies share one. -/
def find? (spelling : String) : Option Operator :=
  if spelling = "ident" then some ident
  else
    (Vocabulary.find? BooleanOperator spelling).map boolean
      <|> (Vocabulary.find? UnaryOperator spelling).map unary
      <|> (Vocabulary.find? AggregateOperator spelling).map aggregate
      <|> (Vocabulary.find? ProjectionOperator spelling).map projection

def read (spelling : String) : Except Error Operator :=
  match find? spelling with
  | some op => .ok op
  | none => .error (.unknownOperator spelling)

end Operator

end DatasetQuery
