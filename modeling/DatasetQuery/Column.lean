/-!
References to the columns of a dataset. The name is the identity of a column: alias and kind do
not change which column is meant.
-/
namespace DatasetQuery

/-- What a column holds. -/
inductive ColumnKind where
  | generic | string | date | time | datetime | array
  deriving DecidableEq

namespace ColumnKind

def all : List ColumnKind := [generic, string, date, time, datetime, array]

def text : ColumnKind → String
  | generic => "generic"
  | string => "string"
  | date => "date"
  | time => "time"
  | datetime => "datetime"
  | array => "array"

def label : ColumnKind → String
  | generic => "Generic"
  | string => "String"
  | date => "Date"
  | time => "Time"
  | datetime => "DateTime"
  | array => "Array"

/-- A column of undeclared kind is generic. -/
def default : ColumnKind := generic

end ColumnKind

structure Column where
  name : String
  alias? : Option String
  kind : ColumnKind
  deriving DecidableEq

namespace Column

def of (kind : ColumnKind) (name : String) : Column := ⟨name, none, kind⟩

def withAlias (c : Column) (newAlias : String) : Column := { c with alias? := some newAlias }

def withoutAlias (c : Column) : Column := { c with alias? := none }

/-- Two references are equal when they name the same column. -/
def sameColumn (a b : Column) : Bool := a.name == b.name

end Column

end DatasetQuery
