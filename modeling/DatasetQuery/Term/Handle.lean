import DatasetQuery.Expr.Basic
/-!
Handles: the ways in which a caller holds an expression, and the methods that each of them
offers. A column held by its declared kind offers what that kind supports; an expression held as
such offers only the checked operations.
-/
namespace DatasetQuery

inductive Handle where
  | column (kind : ColumnKind)
  | reference
  | literal
  | derived
  | aggregate
  | binary
  | unary
  | predicate
  | expr
  deriving DecidableEq

/-- Methods that are offered together. -/
inductive Family where
  | renaming | nullChecks | aggregation | comparison | temporal (kind : ColumnKind)
  | patterns | membership | calendarParts | clockParts | junctions
  deriving DecidableEq

namespace Handle

def name : Handle → String
  | column .generic => "Field"
  | column .string => "StringField"
  | column .date => "DateField"
  | column .time => "TimeField"
  | column .datetime => "DateTimeField"
  | column .array => "ArrayField"
  | reference => "FieldExpr"
  | literal => "LiteralField"
  | derived => "DerivedField"
  | aggregate => "AggregateFieldExpr"
  | binary => "BooleanFieldExpr"
  | unary => "UnaryBooleanFieldExpr"
  | predicate => "BooleanExpr"
  | expr => "Expr"

/-- What a column of some kind supports. -/
def columnOffers (kind : ColumnKind) : Family → Bool
  | .renaming | .nullChecks => true
  | .aggregation => kind ≠ .array
  | .comparison => kind = .generic ∨ kind = .string
  | .temporal scale => kind = scale
  | .patterns => kind = .string
  | .membership => kind = .array
  | .calendarParts => kind = .date ∨ kind = .datetime
  | .clockParts => kind = .time ∨ kind = .datetime
  | .junctions => false

def offers : Handle → Family → Bool
  | column kind, family => columnOffers kind family
  | reference, family => family = .renaming
  | derived, family =>
    family = .renaming ∨ family = .nullChecks ∨ family = .aggregation ∨ family = .comparison
  | aggregate, family => family = .renaming
  | binary, family => family = .junctions
  | unary, family => family = .junctions
  | predicate, family => family = .junctions
  | literal, _ => false
  | expr, _ => false

/-- Held as a reference to a column, typed or not. -/
def isReference : Handle → Bool
  | column _ | reference => true
  | _ => false

def isPredicate : Handle → Bool
  | binary | unary | predicate => true
  | _ => false

end Handle

/-- An expression together with the way it is held. -/
structure Term where
  handle : Handle
  expr : Expr

namespace Term

/-- A column held by its declared kind. -/
def typed (c : Column) : Term := ⟨.column c.kind, .column c⟩

def reference (c : Column) : Term := ⟨.reference, .column c⟩

def literal (l : Literal) : Term := ⟨.literal, .literal l⟩

def dynamic (e : Expr) : Term := ⟨.expr, e⟩

/-- The column, where a reference to one is asked for. -/
def column? (t : Term) : Option Column :=
  match t.handle.isReference, t.expr with
  | true, .column c => some c
  | _, _ => none

/-- The predicate, where one is asked for. -/
def predicate? (t : Term) : Option Predicate :=
  if t.handle.isPredicate then Predicate.of? t.expr else none

end Term

end DatasetQuery
