import DatasetQuery.Column
import DatasetQuery.Operator
import DatasetQuery.Scalar
/-!
Expressions over the columns of a dataset: references, constants, projections, aggregates and
predicates. Every node reports its operator, its operands and its name; predicates are the
binary and unary nodes.
-/
namespace DatasetQuery

/-- A constant operand: one scalar, or the list that membership tests take. -/
inductive Literal where
  | scalar (value : Scalar)
  | list (values : List Scalar)

namespace Literal

def text : Literal → String
  | scalar value => value.text
  | list values => "[" ++ String.intercalate ", " (values.map Scalar.text) ++ "]"

def name (l : Literal) : String := "lit(" ++ l.text ++ ")"

def beq : Literal → Literal → Bool
  | scalar a, scalar b => a == b
  | list a, list b => a == b
  | _, _ => false

instance : BEq Literal := ⟨beq⟩

end Literal

/-- A projection of a column, such as the year of a date. -/
structure Derived where
  base : Column
  op : ProjectionOperator
  alias? : Option String
  deriving DecidableEq

namespace Derived

def of (base : Column) (op : ProjectionOperator) : Derived := ⟨base, op, none⟩

def name (d : Derived) : String := "(" ++ d.op.text ++ "(" ++ d.base.name ++ "))"

/-- The base counts by its name, the alias counts too. -/
def sameValue (a b : Derived) : Bool :=
  a.base.sameColumn b.base && a.op == b.op && a.alias? == b.alias?

end Derived

inductive Expr where
  | column (c : Column)
  | literal (l : Literal)
  | derived (d : Derived)
  | aggregate (base : Expr) (op : AggregateOperator) (alias? : Option String)
  | binary (left : Expr) (op : BooleanOperator) (right : Expr)
  | unary (operand : Expr) (op : UnaryOperator)

namespace Expr

def scalar (value : Scalar) : Expr := literal (.scalar value)

def list (values : List Scalar) : Expr := literal (.list values)

def operator : Expr → Operator
  | column _ | literal _ => .ident
  | derived d => .projection d.op
  | aggregate _ op _ => .aggregate op
  | binary _ op _ => .boolean op
  | unary _ op => .unary op

/-- The direct children. A column is its own operand, without its alias, and so is a scalar; a
list has one scalar for each element. -/
def operands : Expr → List Expr
  | column c => [column c.withoutAlias]
  | literal (.scalar value) => [scalar value]
  | literal (.list values) => values.map scalar
  | derived d => [column d.base]
  | aggregate base _ _ => [base]
  | binary left _ right => [left, right]
  | unary operand _ => [operand]

def name : Expr → String
  | column c => c.name
  | literal l => l.name
  | derived d => d.name
  | aggregate base op _ => "(" ++ op.text ++ "(" ++ base.name ++ "))"
  | binary left op right => "(" ++ left.name ++ " " ++ op.text ++ " " ++ right.name ++ ")"
  | unary operand op => "(" ++ op.text ++ "(" ++ operand.name ++ "))"

/-- Constants and predicates have no alias. -/
def alias? : Expr → Option String
  | column c => c.alias?
  | derived d => d.alias?
  | aggregate _ _ a => a
  | literal _ | binary _ _ _ | unary _ _ => none

def isAggregate : Expr → Bool
  | aggregate _ _ _ => true
  | _ => false

def isPredicate : Expr → Bool
  | binary _ _ _ | unary _ _ => true
  | _ => false

/-- The name of the kind in messages. -/
def kindName : Expr → String
  | column c => c.kind.text
  | literal _ => "literal"
  | derived _ => "derived"
  | aggregate _ _ _ => "aggregate"
  | binary _ _ _ | unary _ _ => "boolean"

/-- Equality of trees, where columns count by their names and constants as numbers do. -/
def beq : Expr → Expr → Bool
  | column a, column b => a.sameColumn b
  | literal a, literal b => a == b
  | derived a, derived b => a.sameValue b
  | aggregate b op a, aggregate b' op' a' => beq b b' && op == op' && a == a'
  | binary l op r, binary l' op' r' => beq l l' && op == op' && beq r r'
  | unary e op, unary e' op' => beq e e' && op == op'
  | _, _ => false

instance : BEq Expr := ⟨beq⟩

end Expr

/-- Anything that can stand as a filter. -/
structure Predicate where
  expr : Expr
  isPredicate : expr.isPredicate = true

namespace Predicate

def of? (e : Expr) : Option Predicate :=
  if h : e.isPredicate = true then some ⟨e, h⟩ else none

end Predicate

end DatasetQuery
