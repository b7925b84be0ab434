import DatasetQuery.Expr.Temporal
import DatasetQuery.Term.Handle
/-!
Constructions: expressions as they are written down, before it is known which of the methods
called are offered. Building one gives a term, or the first fault in the order of evaluation:
the receiver, whether it offers the method, the other operands, and last the operators given by
their spelling.
-/
namespace DatasetQuery

/-- Comparisons of any two operands. -/
inductive Comparison where
  | equals | notEquals | greaterThan | greaterThanOrEqual | lessThan | lessThanOrEqual
  deriving DecidableEq

namespace Comparison

def all : List Comparison :=
  [equals, notEquals, greaterThan, greaterThanOrEqual, lessThan, lessThanOrEqual]

def name : Comparison → String
  | equals => "equals"
  | notEquals => "not_equals"
  | greaterThan => "greater_than"
  | greaterThanOrEqual => "greater_than_or_equal"
  | lessThan => "less_than"
  | lessThanOrEqual => "less_than_or_equal"

def op : Comparison → BooleanOperator
  | equals => .eq
  | notEquals => .neq
  | greaterThan => .gt
  | greaterThanOrEqual => .gte
  | lessThan => .lt
  | lessThanOrEqual => .lte

end Comparison

/-- Comparisons with a value on a time scale. -/
inductive TemporalComparison where
  | before | after | lessThan | greaterThan | lessThanOrEqual | greaterThanOrEqual | equal
  | notEquals
  deriving DecidableEq

namespace TemporalComparison

def all : List TemporalComparison :=
  [before, after, lessThan, greaterThan, lessThanOrEqual, greaterThanOrEqual, equal, notEquals]

def name : TemporalComparison → String
  | before => "before"
  | after => "after"
  | lessThan => "less_than"
  | greaterThan => "greater_than"
  | lessThanOrEqual => "less_than_or_equal"
  | greaterThanOrEqual => "greater_than_or_equal"
  | equal => "equal"
  | notEquals => "not_equals"

def op : TemporalComparison → BooleanOperator
  | before => .lt
  | after => .gt
  | lessThan => .lt
  | greaterThan => .gt
  | lessThanOrEqual => .lte
  | greaterThanOrEqual => .gte
  | equal => .eq
  | notEquals => .neq

end TemporalComparison

inductive Junction where
  | and | or
  deriving DecidableEq

namespace Junction

def all : List Junction := [and, or]

def name : Junction → String
  | and => "and"
  | or => "or"

def join (j : Junction) (left right : Expr) : Expr :=
  match j with
  | and => left.and right
  | or => left.or right

end Junction

/-- The method that aggregates by an operator. -/
def AggregateOperator.methodName : AggregateOperator → String
  | min => "min"
  | max => "max"
  | sum => "sum"
  | count => "count"
  | countDistinct => "count_distinct"
  | avg => "avg"
  | avgDistinct => "avg_distinct"

def UnaryOperator.methodName : UnaryOperator → String
  | isNull => "is_null"
  | isNotNull => "is_not_null"

def ProjectionOperator.family : ProjectionOperator → Family
  | year | month | day => .calendarParts
  | hour | minute | second | millisecond => .clockParts

/-- A call whose arguments are plain values. -/
inductive Call where
  | withAlias (newAlias : String)
  | nullCheck (op : UnaryOperator)
  | aggregate (op : AggregateOperator)
  | aggregateBy (spelling : String)
  | isIn (values : List Scalar)
  | like (pattern : String)
  | hasAny (values : List Scalar)
  | hasAll (values : List Scalar)
  | part (op : ProjectionOperator)
  | temporal (comparison : TemporalComparison) (value : Moment)
  | temporalBy (spelling : String) (value : Moment)
  | inPastAt (window : PastWindow)
  | operand (index : Nat)

namespace Call

def name : Call → String
  | withAlias _ => "with_alias"
  | nullCheck op => op.methodName
  | aggregate op => op.methodName
  | aggregateBy _ => "aggregate"
  | isIn _ => "is_in"
  | like _ => "like"
  | hasAny _ => "has_any"
  | hasAll _ => "has_all"
  | part op => op.text
  | temporal comparison _ => comparison.name
  | temporalBy _ _ => "compare_value"
  | inPastAt _ => "in_past_at"
  | operand _ => "operand"

/-- The family that is asked of a receiver before anything else. Operands can be asked of
everything, and a comparison by its spelling is looked up first. -/
def family? : Call → Option Family
  | withAlias _ => some .renaming
  | nullCheck _ => some .nullChecks
  | aggregate _ | aggregateBy _ => some .aggregation
  | isIn _ => some .comparison
  | like _ => some .patterns
  | hasAny _ | hasAll _ => some .membership
  | part op => some op.family
  | temporal _ value => some (.temporal value.kind)
  | inPastAt window => some (.temporal window.kind)
  | temporalBy _ _ | operand _ => none

end Call

/-- Why a construction has no term: the receiver does not offer what is asked of it, or the
operation failed. -/
inductive Fault where
  | unavailable (method : String) (receiver : Handle)
  | failed (error : Error)

namespace Fault

def message : Fault → String
  | unavailable method receiver => method ++ " on " ++ receiver.name
  | failed error => error.message

end Fault

/-- Steps that may stop at a fault, with the log of what was done until then. -/
abbrev Building := ExceptT Fault Traced

namespace Building

def ofExcept {α : Type} : Except Error α → Building α
  | .ok value => pure value
  | .error error => throw (.failed error)

def operator (α : Type) [Vocabulary α] (spelling : String) : Building α :=
  ofExcept (Vocabulary.read α spelling)

end Building

namespace Term

/-- Nothing happens unless the receiver offers the family. -/
def require (t : Term) (family : Family) (method : String) : Building Unit :=
  if t.handle.offers family then pure () else throw (.unavailable method t.handle)

def asColumn (t : Term) : Building Column :=
  match t.column? with
  | some c => pure c
  | none => throw (.unavailable "field_expr" t.handle)

def asPredicate (t : Term) : Building Predicate :=
  match t.predicate? with
  | some p => pure p
  | none => throw (.unavailable "boolean" t.handle)

/-- Projects a reference to a column. -/
def project (t : Term) (op : ProjectionOperator) : Building Term := do
  let base ← t.asColumn
  return ⟨.derived, .derived (Derived.of base op)⟩

/-- Compares with a value on a time scale. The operator is looked up before the receiver is
looked at. -/
def compareBy (t : Term) (spelling : String) (value : Moment) : Building Term := do
  let op ← Building.operator BooleanOperator spelling
  t.require (.temporal value.kind) "compare_value"
  return ⟨.binary, value.compare t.expr op⟩

/-- A call on a receiver that offers it. -/
def apply (t : Term) : Call → Building Term
  | .withAlias a => return ⟨t.handle, t.expr.withAlias a⟩
  | .nullCheck op => return ⟨.unary, .unary t.expr op⟩
  | .aggregate op => return ⟨.aggregate, t.expr.aggregated op⟩
  | .aggregateBy spelling => do
    let op ← Building.operator AggregateOperator spelling
    return ⟨.aggregate, t.expr.aggregated op⟩
  | .isIn values => return ⟨.binary, t.expr.isIn values⟩
  | .like pattern => return ⟨.binary, t.expr.like pattern⟩
  | .hasAny values => return ⟨.binary, t.expr.hasAny values⟩
  | .hasAll values => return ⟨.binary, t.expr.hasAll values⟩
  | .part op => t.project op
  | .temporal comparison value => return ⟨.binary, value.compare t.expr comparison.op⟩
  | .temporalBy spelling value => t.compareBy spelling value
  | .inPastAt window => do
    let e ← ExceptT.lift (window.test t.expr)
    return ⟨.binary, e⟩
  | .operand index =>
    match t.expr.operands[index]? with
    | some e => return dynamic e
    | none => throw (.unavailable "operand" t.handle)

/-- Expressions held as such are aggregated by the checked operation. -/
def call (t : Term) (c : Call) : Building Term :=
  match t.handle, c with
  | .expr, .aggregateBy spelling => do
    let op ← Building.operator AggregateOperator spelling
    let e ← Building.ofExcept (t.expr.checkedAggregate op)
    return ⟨.aggregate, e⟩
  | _, c => do
    match c.family? with
    | some family => t.require family c.name
    | none => pure ()
    t.apply c

/-- Joins two predicates. The left side is looked at first. -/
def join (left : Term) (j : Junction) (right : Term) : Building Term := do
  left.require .junctions j.name
  let q ← right.asPredicate
  return ⟨.binary, j.join left.expr q.expr⟩

/-- Joins terms from left to right; one term is left as it is. -/
def joinLeft (j : Junction) (first : Term) (rest : List Term) : Building Term :=
  rest.foldlM (fun left right => left.join j right) first

/-- Joins terms from right to left; one term is left as it is. -/
def joinRight (j : Junction) (first : Term) (rest : List Term) : Building Term :=
  match rest with
  | [] => pure first
  | next :: rest => do
    let right ← joinRight j next rest
    first.join j right

end Term

/-- An expression as it is written down. -/
inductive Construction where
  | column (c : Column)
  | reference (c : Column)
  | literal (l : Literal)
  /-- held as an expression of any shape -/
  | dynamic (inner : Construction)
  /-- held as a predicate -/
  | predicate (inner : Construction)
  | derived (base : Construction) (spelling : String)
  | binary (left : Construction) (spelling : String) (right : Construction)
  | unary (operand : Construction) (spelling : String)
  | call (receiver : Construction) (c : Call)
  /-- a method that nothing offers -/
  | unoffered (receiver : Construction) (method : String)
  | comparison (receiver : Construction) (c : Comparison) (other : Construction)
  | compare (receiver : Construction) (spelling : String) (other : Construction)
  | between (receiver low high : Construction)
  | join (left : Construction) (j : Junction) (right : Construction)
  /-- the items, `repetitions` times over, joined from the left or from the right -/
  | joined (j : Junction) (items : List Construction) (repetitions : Nat) (fromRight : Bool)

namespace Construction

mutual

/-- The term of a construction. -/
def build : Construction → Building Term
  | column c => return .typed c
  | reference c => return .reference c
  | literal l => return .literal l
  | dynamic inner => do
    let t ← inner.build
    return .dynamic t.expr
  | predicate inner => do
    let t ← inner.build
    let p ← t.asPredicate
    return ⟨.predicate, p.expr⟩
  | derived base spelling => do
    let t ← base.build
    let c ← t.asColumn
    let op ← Building.operator ProjectionOperator spelling
    return ⟨.derived, .derived (Derived.of c op)⟩
  | binary left spelling right => do
    let l ← left.build
    let r ← right.build
    let op ← Building.operator BooleanOperator spelling
    return ⟨.binary, .binary l.expr op r.expr⟩
  | unary operand spelling => do
    let t ← operand.build
    let op ← Building.operator UnaryOperator spelling
    return ⟨.unary, .unary t.expr op⟩
  | call receiver c => do
    let t ← receiver.build
    t.call c
  | unoffered receiver method => do
    let t ← receiver.build
    throw (.unavailable method t.handle)
  | comparison receiver c other => do
    let t ← receiver.build
    t.require .comparison c.name
    let o ← other.build
    return ⟨.binary, t.expr.compared c.op o.expr⟩
  | compare receiver spelling other => do
    let t ← receiver.build
    if t.handle = .expr then
      let op ← Building.operator BooleanOperator spelling
      let o ← other.build
      let e ← Building.ofExcept (t.expr.checkedCompare op o.expr)
      return ⟨.binary, e⟩
    else
      t.require .comparison "compare"
      let o ← other.build
      let op ← Building.operator BooleanOperator spelling
      return ⟨.binary, t.expr.compared op o.expr⟩
  | between receiver low high => do
    let t ← receiver.build
    t.require .comparison "between"
    let l ← low.build
    let h ← high.build
    return ⟨.binary, t.expr.between l.expr h.expr⟩
  | join left j right => do
    let l ← left.build
    let r ← right.build
    l.join j r
  | joined j items repetitions fromRight => do
    let terms ← buildAll items
    match (List.replicate repetitions terms).flatten with
    | [] => throw (.unavailable j.name .predicate)
    | first :: rest =>
      if fromRight then Term.joinRight j first rest else Term.joinLeft j first rest

/-- The terms of a list of constructions, in order. -/
def buildAll : List Construction → Building (List Term)
  | [] => return []
  | c :: rest => do
    let t ← c.build
    let ts ← buildAll rest
    return t :: ts

end

end Construction

end DatasetQuery
