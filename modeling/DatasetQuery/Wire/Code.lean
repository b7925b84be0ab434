import DatasetQuery.Operator
import DatasetQuery.Table.Basic
/-!
The codes of operators and directions on the wire, and the names of all codes of the schema. The
schema knows more codes than there are operators: `MEDIAN`, `DATE` and `TIME` are never written.
-/
namespace DatasetQuery

def BooleanOperator.code : BooleanOperator → Int32
  | and => 0
  | or => 1
  | eq => 3
  | neq => 4
  | lt => 5
  | lte => 6
  | gt => 7
  | gte => 8
  | like => 9
  | between => 10
  | isIn => 11
  | hasAny => 14
  | hasAll => 15

/-- Null checks share their codes with the other predicates. -/
def UnaryOperator.code : UnaryOperator → Int32
  | isNull => 12
  | isNotNull => 13

def AggregateOperator.code : AggregateOperator → Int32
  | min => 0
  | max => 1
  | avg => 2
  | count => 4
  | countDistinct => 5
  | sum => 6
  | avgDistinct => 7

def ProjectionOperator.code : ProjectionOperator → Int32
  | year => 0
  | month => 1
  | day => 2
  | hour => 3
  | minute => 4
  | second => 5
  | millisecond => 6

def Direction.code : Direction → Int32
  | ascending => 0
  | descending => 1

namespace Wire

/-- The name of a code, by a table in the order of the codes; numbers without a name have
none. -/
def codeName? (names : List (Int32 × String)) (code : Int32) : Option String :=
  names.lookup code

def predicateNames : List (Int32 × String) :=
  [(0, "AND"), (1, "OR"), (3, "EQ"), (4, "NEQ"), (5, "LT"), (6, "LTE"), (7, "GT"), (8, "GTE"),
    (9, "LIKE"), (10, "BETWEEN"), (11, "IN"), (12, "IS_NULL"), (13, "IS_NOT_NULL"),
    (14, "HAS_ANY"), (15, "HAS_ALL")]

def aggregateNames : List (Int32 × String) :=
  [(0, "MIN"), (1, "MAX"), (2, "MEAN"), (3, "MEDIAN"), (4, "COUNT"), (5, "COUNT_DISTINCT"),
    (6, "SUM"), (7, "MEAN_DISTINCT")]

def projectionNames : List (Int32 × String) :=
  [(0, "YEAR"), (1, "MONTH"), (2, "DAY"), (3, "HOUR"), (4, "MINUTE"), (5, "SECOND"),
    (6, "MILLISECOND"), (7, "DATE"), (8, "TIME")]

def directionNames : List (Int32 × String) := [(0, "ASC"), (1, "DESC")]

def clientNames : List (Int32 × String) :=
  [(0, "PYTHON"), (1, "NODE_JS"), (2, "CSHARP"), (3, "GOLANG"), (4, "RUST")]

/-- The client as which queries are sent. -/
def clientCode : Int32 := 4

/-- The version that is reported to the agent with every query. -/
def codeVersion : String := "0.1.0"

end Wire

end DatasetQuery
