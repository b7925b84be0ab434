import DatasetQuery.Expr.Basic
/-!
How expressions are built from others. The functions in the first part do not look at their
subject; who may call them is laid down with the handles. `checkedAggregate` and
`checkedCompare` serve subjects of any shape and refuse those that cannot be aggregated or
compared.
-/
namespace DatasetQuery.Expr

def isNull (e : Expr) : Expr := unary e .isNull

def isNotNull (e : Expr) : Expr := unary e .isNotNull

def aggregated (e : Expr) (op : AggregateOperator) : Expr := aggregate e op none

def compared (e : Expr) (op : BooleanOperator) (other : Expr) : Expr := binary e op other

def isIn (e : Expr) (values : List Scalar) : Expr := binary e .isIn (list values)

def hasAny (e : Expr) (values : List Scalar) : Expr := binary e .hasAny (list values)

def hasAll (e : Expr) (values : List Scalar) : Expr := binary e .hasAll (list values)

def like (e : Expr) (pattern : String) : Expr := binary e .like (scalar (.string pattern))

def and (e other : Expr) : Expr := binary e .and other

def or (e other : Expr) : Expr := binary e .or other

/-- Both ends belong to the range. -/
def between (e low high : Expr) : Expr := (e.compared .gte low).and (e.compared .lte high)

/-- Renames what is shown. Constants and predicates have no alias and stay as they are. -/
def withAlias (e : Expr) (newAlias : String) : Expr :=
  match e with
  | column c => column (c.withAlias newAlias)
  | derived d => derived { d with alias? := some newAlias }
  | aggregate base op _ => aggregate base op (some newAlias)
  | literal _ | binary _ _ _ | unary _ _ => e

/-- Columns other than arrays, and projections, can be aggregated. -/
def isAggregatable : Expr → Bool
  | column c => c.kind ≠ .array
  | derived _ => true
  | _ => false

def checkedAggregate (e : Expr) (op : AggregateOperator) : Except Error Expr :=
  if e.isAggregatable then .ok (e.aggregated op)
  else .error (.unsupportedOperation op.text e.kindName)

/-- Whether an operator other than a junction can compare the subject: an array is only tested
for membership, and a predicate is not compared. -/
def admits (e : Expr) (op : BooleanOperator) : Bool :=
  match e with
  | column c => c.kind ≠ .array ∨ op = .hasAny ∨ op = .hasAll
  | binary _ _ _ | unary _ _ => false
  | _ => true

/-- A junction joins two predicates. -/
def checkedCompare (e : Expr) (op : BooleanOperator) (other : Expr) : Except Error Expr :=
  if op.isJunction then
    if e.isPredicate && other.isPredicate then .ok (e.compared op other)
    else .error (.expectedBoolean op.text)
  else if e.admits op then .ok (e.compared op other)
  else .error (.unsupportedOperation op.text e.kindName)

end DatasetQuery.Expr
