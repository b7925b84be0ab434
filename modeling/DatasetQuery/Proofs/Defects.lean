import DatasetQuery.Table.Query
/-!
What keeps a table from being a query. Every translation is a total function to messages together
with a list of defects in the order in which they are met: it succeeds with the message when the
list is empty, and otherwise fails with the first defect.
-/
namespace DatasetQuery

variable {α β : Type}

/-- The value, unless a defect was met: then the first one is the error. -/
def judged (defects : List Error) (value : α) : Except Error α :=
  match defects with
  | [] => .ok value
  | first :: _ => .error first

@[simp]
theorem judged_nil (value : α) : judged [] value = .ok value := rfl

@[simp]
theorem judged_cons (first : Error) (rest : List Error) (value : α) :
    judged (first :: rest) value = .error first := rfl

theorem judged_eq_ok_iff {defects : List Error} {value result : α} :
    judged defects value = .ok result ↔ defects = [] ∧ value = result := by
  cases defects <;> simp

theorem judged_eq_error_iff {defects : List Error} {value : α} {error : Error} :
    judged defects value = .error error ↔ defects.head? = some error := by
  cases defects <;> simp

/-- Later defects only count when there are no earlier ones. -/
theorem judged_bind {first second : List Error} {value : α} {result : β} {next : α → Except Error β}
    (step : next value = judged second result) :
    (judged first value >>= next) = judged (first ++ second) result := by
  cases first with
  | nil => exact step
  | cons error rest => rfl

theorem judged_bind_pure (defects : List Error) (value : α) (f : α → β) :
    (judged defects value >>= fun x => pure (f x)) = judged defects (f value) := by
  cases defects <;> rfl

theorem mapM_judged {f : α → Except Error β} {defects : α → List Error} {image : α → β}
    (each : ∀ x, f x = judged (defects x) (image x)) (xs : List α) :
    xs.mapM f = judged (xs.flatMap defects) (xs.map image) := by
  induction xs with
  | nil => rfl
  | cons x xs ih =>
    rw [List.mapM_cons, each x, ih]
    apply judged_bind
    exact judged_bind_pure _ _ _

namespace Scalar

/-- Only the absent constant has no form on the wire. -/
def defects : Scalar → List Error
  | null => [.unsupportedLiteral "null"]
  | _ => []

def image : Scalar → Wire.Literal
  | string value => .string value
  | boolean value => .boolean value
  | i32 value => .i32 value
  | i64 value => .i64 value
  | u32 value => .u32 value
  | u64 value => .u64 value
  | f32 value => .f32 value
  | f64 value => .f64 value
  | timestamp micros => .timestamp micros
  | null => .unset

theorem toWire_eq (s : Scalar) : s.toWire = judged s.defects s.image := by
  cases s <;> rfl

end Scalar

namespace Literal

def defects : Literal → List Error
  | scalar value => value.defects
  | list values => values.flatMap Scalar.defects

def image : Literal → Wire.Literal
  | scalar value => value.image
  | list values => .list (values.map Scalar.image)

theorem toWire_eq (l : Literal) : l.toWire = judged l.defects l.image := by
  cases l with
  | scalar value => exact value.toWire_eq
  | list values =>
    rw [toWire, mapM_judged Scalar.toWire_eq]
    exact judged_bind_pure _ _ _

end Literal

/-- An operand of a junction that is no predicate is a defect, and is not looked into. -/
def BooleanOperator.operandDefects (op : BooleanOperator) (isPredicate : Bool)
    (own : List Error) : List Error :=
  if op.isJunction && !isPredicate then [.expectedBoolean op.text] else own

theorem BooleanOperator.operandDefects_eq_nil_iff {op : BooleanOperator} {isPredicate : Bool}
    {own : List Error} : op.operandDefects isPredicate own = [] ↔
      (op.isJunction = true → isPredicate = true) ∧ own = [] := by
  unfold operandDefects
  cases op.isJunction <;> cases isPredicate <;> simp

namespace Expr

/-- The defects of a tree from left to right. -/
def defects : Expr → List Error
  | column _ | derived _ => []
  | literal l => l.defects
  | aggregate base _ _ => base.defects
  | binary left op right =>
    op.operandDefects left.isPredicate left.defects
      ++ op.operandDefects right.isPredicate right.defects
  | unary operand _ => operand.defects

/-- The message of a tree, where constants without a form are left unset. -/
def image : Expr → Wire.Expression
  | column c => .column c.name
  | literal l => .literal l.image
  | derived d => .ofDerived d.toWire
  | aggregate base op _ => .aggregate (some base.image) op.code
  | binary left op right => .condition op.code [left.image, right.image]
  | unary operand op => .condition op.code [operand.image]

/-- The test in front of an operand adds its defect and hides those of the operand. -/
theorem operand_judged (op : BooleanOperator) (isPredicate : Bool) {own second : List Error}
    {value : α} {result : β} {next : α → Except Error β}
    (step : next value = judged second result) :
    (if (op.isJunction && !isPredicate) = true then .error (.expectedBoolean op.text)
      else judged own value >>= next) =
      judged (op.operandDefects isPredicate own ++ second) result := by
  unfold BooleanOperator.operandDefects
  split
  · rfl
  · exact judged_bind step

theorem toWire_eq (e : Expr) : e.toWire = judged e.defects e.image := by
  induction e with
  | column c => rfl
  | literal l =>
    rw [toWire, l.toWire_eq]
    exact judged_bind_pure _ _ _
  | derived d => rfl
  | aggregate base op a ih =>
    rw [toWire, ih]
    exact judged_bind_pure _ _ _
  | binary left op right ihLeft ihRight =>
    rw [toWire, ihLeft, ihRight]
    -- the right operand comes with nothing after it, so its rest is the empty list
    apply operand_judged
    rw [← List.append_nil (op.operandDefects right.isPredicate right.defects)]
    exact operand_judged op right.isPredicate rfl
  | unary operand op ih =>
    rw [toWire, ih]
    exact judged_bind_pure _ _ _

theorem toSelection_eq (e : Expr) : e.toSelection = judged e.defects ⟨some e.image, e.alias?⟩ := by
  rw [toSelection, e.toWire_eq]
  exact judged_bind_pure _ _ _

/-- Constants and predicates cannot be grouped on. -/
def groupingDefects : Expr → List Error
  | column _ | derived _ | aggregate _ _ _ => []
  | literal _ => [.unsupportedOperation "groupBy" "literal"]
  | binary _ _ _ | unary _ _ => [.unsupportedOperation "groupBy" "boolean"]

def grouping? : Expr → Option Wire.Grouping
  | column c => some (.column c.name)
  | derived d => some (.derived d.toWire)
  | literal _ | aggregate _ _ _ | binary _ _ _ | unary _ _ => none

theorem toGrouping?_eq (e : Expr) : e.toGrouping? = judged e.groupingDefects e.grouping? := by
  cases e <;> rfl

end Expr

namespace Predicate

def defects (p : Predicate) : List Error := p.expr.defects

def image (p : Predicate) : Wire.Condition := p.expr.image.content

theorem toWire_eq (p : Predicate) : p.toWire = judged p.defects p.image := by
  rw [toWire, p.expr.toWire_eq]
  exact judged_bind_pure _ _ _

end Predicate

namespace SortKey

def defects (k : SortKey) : List Error := k.expr.defects

def image (k : SortKey) : Wire.SortKey := ⟨some k.expr.image, some k.direction.code⟩

theorem toWire_eq (k : SortKey) : k.toWire = judged k.defects k.image := by
  rw [toWire, k.expr.toWire_eq]
  exact judged_bind_pure _ _ _

end SortKey

namespace Table

/-- The defects of a table: those of its selections, of its filter, then the selections that
cannot be grouped on, then those of its ordering. -/
def defects (t : Table) : List Error :=
  t.selection.flatMap Expr.defects ++ (t.filter.toList.flatMap Predicate.defects
    ++ (t.selection.flatMap Expr.groupingDefects ++ t.ordering.flatMap SortKey.defects))

/-- The query of a table, whatever is wrong with it. -/
def image (t : Table) : Wire.Query where
  address := some t.address
  selectFrom := t.name
  select := t.selection.map fun e => ⟨some e.image, e.alias?⟩
  filter := t.filter.map Predicate.image
  groupBy := t.selection.filterMap Expr.grouping?
  orderBy := t.ordering.map SortKey.image
  limit := if t.limit = 0 then none else some t.limit
  clientVersion := some ⟨Wire.clientCode, Wire.codeVersion, t.datasetVersion⟩
  dryRun := none

theorem filter_judged (filter : Option Predicate) :
    filter.mapM Predicate.toWire =
      judged (filter.toList.flatMap Predicate.defects) (filter.map Predicate.image) := by
  cases filter with
  | none => rfl
  | some p =>
    have whole : (some p).mapM Predicate.toWire = p.toWire >>= fun c => pure (some c) := rfl
    rw [whole, p.toWire_eq, Option.toList_some, List.flatMap_singleton]
    exact judged_bind_pure _ _ _

theorem toQuery_eq (t : Table) : t.toQuery = judged t.defects t.image := by
  rw [toQuery, mapM_judged Expr.toSelection_eq, filter_judged, mapM_judged Expr.toGrouping?_eq,
    mapM_judged SortKey.toWire_eq]
  apply judged_bind
  apply judged_bind
  apply judged_bind
  rw [judged_bind_pure, List.filterMap_map]
  rfl

theorem toQuery_eq_ok_iff {t : Table} {q : Wire.Query} :
    t.toQuery = .ok q ↔ t.defects = [] ∧ t.image = q := by
  rw [toQuery_eq, judged_eq_ok_iff]

/-- A table is a query exactly if it has no defect, and otherwise its first defect is the
error. -/
theorem toQuery_reports_first_defect (t : Table) :
    ((∃ q, t.toQuery = .ok q) ↔ t.defects = []) ∧
      ∀ error, t.toQuery = .error error ↔ t.defects.head? = some error := by
  constructor
  · simp only [toQuery_eq_ok_iff, exists_and_left, exists_eq', and_true]
  · intro error
    rw [toQuery_eq, judged_eq_error_iff]

end Table

end DatasetQuery
