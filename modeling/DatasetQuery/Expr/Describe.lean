import DatasetQuery.Expr.Basic
import DatasetQuery.Text.Record
/-!
Structural descriptions of expressions: every node with all its parts, also those that its name
leaves out.
-/
namespace DatasetQuery

open Text (quoted record tagged optional list)

def Scalar.description : Scalar → String
  | string value => tagged "String" (quoted value)
  | boolean value => tagged "Boolean" (if value then "true" else "false")
  | i32 value => tagged "I32" (toString value.toInt)
  | i64 value => tagged "I64" (toString value.toInt)
  | u32 value => tagged "U32" (toString value.toNat)
  | u64 value => tagged "U64" (toString value.toNat)
  | f32 value => tagged "F32" (Decimal.Layout.described.render value.value)
  | f64 value => tagged "F64" (Decimal.Layout.described.render value.value)
  | timestamp micros => tagged "Timestamp" (toString micros.toInt)
  | null => "Null"

def Literal.description : Literal → String
  | scalar value => record "LiteralField" [("value", tagged "Scalar" value.description)]
  | list values =>
    record "LiteralField" [("value", tagged "List" (Text.list Scalar.description values))]

def Column.description (c : Column) : String :=
  record "FieldExpr"
    [("name", quoted c.name), ("alias", optional quoted c.alias?), ("kind", c.kind.label)]

def Derived.description (d : Derived) : String :=
  record "DerivedField"
    [("base", d.base.description), ("op", d.op.label), ("alias", optional quoted d.alias?)]

namespace Expr

/-- A binary predicate with the descriptions of its sides. -/
def describeBinary (left : String) (op : BooleanOperator) (right : String) : String :=
  tagged "Binary"
    (record "BooleanFieldExpr" [("field", left), ("op", op.label), ("other", right)])

/-- A null check with the description of its operand. -/
def describeUnary (operand : String) (op : UnaryOperator) : String :=
  tagged "Unary" (record "UnaryBooleanFieldExpr" [("field", operand), ("op", op.label)])

def description : Expr → String
  | column c => tagged "Field" c.description
  | literal l => tagged "Literal" l.description
  | derived d => tagged "Derived" d.description
  | aggregate base op a =>
    tagged "Aggregate"
      (record "AggregateFieldExpr"
        [("base", base.description), ("op", op.label), ("alias", optional quoted a)])
  | binary left op right =>
    tagged "Boolean" (describeBinary left.description op right.description)
  | unary operand op => tagged "Boolean" (describeUnary operand.description op)

end Expr

/-- A predicate on its own is not wrapped as an expression. -/
def Predicate.description (p : Predicate) : String :=
  match p.expr with
  | .binary left op right => Expr.describeBinary left.description op right.description
  | .unary operand op => Expr.describeUnary operand.description op
  | e => e.description

end DatasetQuery
