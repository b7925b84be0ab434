import DatasetQuery.Wire.Code
import DatasetQuery.Wire.Message
/-!
The query that a table stands for. Selections that are no aggregates are grouped on, in their
order. Constants without a wire form, junctions of anything but predicates, and selections that
cannot be grouped on are errors; the first one found is reported.
-/
namespace DatasetQuery

def Scalar.toWire : Scalar → Except Error Wire.Literal
  | string value => .ok (.string value)
  | boolean value => .ok (.boolean value)
  | i32 value => .ok (.i32 value)
  | i64 value => .ok (.i64 value)
  | u32 value => .ok (.u32 value)
  | u64 value => .ok (.u64 value)
  | f32 value => .ok (.f32 value)
  | f64 value => .ok (.f64 value)
  | timestamp micros => .ok (.timestamp micros)
  | null => .error (.unsupportedLiteral null.kind)

def Literal.toWire : Literal → Except Error Wire.Literal
  | scalar value => value.toWire
  | list values => do
    let literals ← values.mapM Scalar.toWire
    return .list literals

namespace Derived

def toWire (d : Derived) : Wire.Application := ⟨some (.column d.base.name), d.op.code⟩

end Derived

namespace Expr

/-- A junction takes predicates only. -/
def toWire : Expr → Except Error Wire.Expression
  | column c => .ok (.column c.name)
  | literal l => do
    let l ← l.toWire
    return .literal l
  | derived d => .ok (.ofDerived d.toWire)
  | aggregate base op _ => do
    let argument ← base.toWire
    return .aggregate (some argument) op.code
  | binary left op right => do
    if op.isJunction && !left.isPredicate then throw (.expectedBoolean op.text)
    let l ← left.toWire
    if op.isJunction && !right.isPredicate then throw (.expectedBoolean op.text)
    let r ← right.toWire
    return .condition op.code [l, r]
  | unary operand op => do
    let e ← operand.toWire
    return .condition op.code [e]

def toSelection (e : Expr) : Except Error Wire.Selection := do
  let argument ← e.toWire
  return ⟨some argument, e.alias?⟩

/-- What a selection is grouped on: nothing for an aggregate. -/
def toGrouping? : Expr → Except Error (Option Wire.Grouping)
  | aggregate _ _ _ => .ok none
  | column c => .ok (some (.column c.name))
  | derived d => .ok (some (.derived d.toWire))
  | e => .error (.unsupportedOperation "groupBy" e.kindName)

end Expr

/-- The operator and the arguments of a condition. -/
def Wire.Expression.content : Wire.Expression → Wire.Condition
  | .condition op arguments => ⟨op, arguments⟩
  | _ => .empty

namespace Predicate

/-- The wire form of a predicate is a condition. -/
def toWire (p : Predicate) : Except Error Wire.Condition := do
  let e ← p.expr.toWire
  return e.content

end Predicate

def SortKey.toWire (k : SortKey) : Except Error Wire.SortKey := do
  let argument ← k.expr.toWire
  return ⟨some argument, some k.direction.code⟩

namespace Table

/-- A table bound to a source is addressed by it, any other by its package. -/
def address (t : Table) : Wire.Address :=
  match t.source with
  | some source => .source source
  | none => .package t.packageId

def toQuery (t : Table) : Except Error Wire.Query := do
  let select ← t.selection.mapM Expr.toSelection
  let filter ← t.filter.mapM Predicate.toWire
  let groupBy ← t.selection.mapM Expr.toGrouping?
  let orderBy ← t.ordering.mapM SortKey.toWire
  return {
    address := some t.address
    selectFrom := t.name
    select
    filter
    groupBy := groupBy.filterMap id
    orderBy
    limit := if t.limit = 0 then none else some t.limit
    clientVersion := some ⟨Wire.clientCode, Wire.codeVersion, t.datasetVersion⟩
    dryRun := none }

end Table

end DatasetQuery
