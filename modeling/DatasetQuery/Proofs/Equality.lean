import DatasetQuery.Proofs.Defects
import Mathlib.Data.List.Forall2
/-!
Equality of expressions. Columns count by their names and floating point by its numbers, so that
equal trees need not be the same, and a tree that holds a value that is no number differs from
itself. Equality is a partial equivalence all the same, and nothing that a tree is asked for tells
equal ones apart: they have the same operator, equal operands and equal messages.
-/
namespace DatasetQuery

/-- Lists are equal when they are so place by place. -/
theorem list_beq_iff {α : Type} [BEq α] {as bs : List α} :
    (as == bs) = true ↔ List.Forall₂ (fun a b => (a == b) = true) as bs := by
  induction as generalizing bs with
  | nil => cases bs <;> simp
  | cons a as ih => cases bs <;> simp [ih]

instance partialEquivBEq_list {α : Type} [BEq α] [PartialEquivBEq α] : PartialEquivBEq (List α) where
  symm h := list_beq_iff.2 (.flip ((list_beq_iff.1 h).imp fun _ _ => BEq.symm))
  trans h h' := by
    obtain ⟨length, same⟩ := List.forall₂_iff_get.1 (list_beq_iff.1 h)
    obtain ⟨length', same'⟩ := List.forall₂_iff_get.1 (list_beq_iff.1 h')
    refine list_beq_iff.2 (List.forall₂_iff_get.2 ⟨length.trans length', fun i first last => ?_⟩)
    exact BEq.trans (same i first (length ▸ first)) (same' i (length ▸ first) last)

/-- Either both succeed with equal results, or both fail with the same error. -/
inductive SameOutcome {α : Type} [BEq α] : Except Error α → Except Error α → Prop where
  | ok {x y : α} (same : (x == y) = true) : SameOutcome (.ok x) (.ok y)
  | error (e : Error) : SameOutcome (.error e) (.error e)

theorem SameOutcome.judged {α : Type} [BEq α] (defects : List Error) {x y : α}
    (same : (x == y) = true) : SameOutcome (judged defects x) (judged defects y) := by
  cases defects with
  | nil => exact .ok same
  | cons first rest => exact .error first

namespace BinaryFormat

variable {f : BinaryFormat} {x y z : Nat}

theorem sameNumber_iff : f.sameNumber x y = true ↔
    f.isNaN x = false ∧ f.isNaN y = false ∧ (x = y ∨ (f.isZero x = true ∧ f.isZero y = true)) := by
  simp [sameNumber, and_assoc]

theorem sameNumber_symm (h : f.sameNumber x y = true) : f.sameNumber y x = true := by
  obtain ⟨first, second, same⟩ := sameNumber_iff.1 h
  exact sameNumber_iff.2 ⟨second, first, same.imp Eq.symm And.symm⟩

theorem sameNumber_trans (h : f.sameNumber x y = true) (h' : f.sameNumber y z = true) :
    f.sameNumber x z = true := by
  obtain ⟨first, -, same⟩ := sameNumber_iff.1 h
  obtain ⟨-, last, same'⟩ := sameNumber_iff.1 h'
  refine sameNumber_iff.2 ⟨first, last, ?_⟩
  rcases same with rfl | zeros
  · exact same'
  · rcases same' with rfl | zeros'
    · exact .inr zeros
    · exact .inr ⟨zeros.1, zeros'.2⟩

theorem sameNumber_self : f.sameNumber x x = !f.isNaN x := by
  simp [sameNumber]

end BinaryFormat

namespace Scalar

/-- Floating point that is no number, of either format. -/
def isNaN : Scalar → Bool
  | f32 value => value.isNaN
  | f64 value => value.isNaN
  | _ => false

/-- Equal constants are the same, or the same number in one of the two formats. -/
inductive Alike : Scalar → Scalar → Prop where
  | same {s : Scalar} (number : s.isNaN = false) : Alike s s
  | f32 {x y : Binary32} (same : x.sameNumber y = true) : Alike (.f32 x) (.f32 y)
  | f64 {x y : Binary64} (same : x.sameNumber y = true) : Alike (.f64 x) (.f64 y)

theorem beq_self (s : Scalar) : (s == s) = !s.isNaN := by
  change s.beq s = !s.isNaN
  cases s with
  | f32 value => exact BinaryFormat.sameNumber_self
  | f64 value => exact BinaryFormat.sameNumber_self
  | _ => simp [beq, isNaN]

theorem beq_iff {a b : Scalar} : (a == b) = true ↔ Alike a b := by
  constructor
  · intro h
    change a.beq b = true at h
    unfold beq at h
    split at h
    -- but for floating point, constants of one kind are equal as values
    case h_7 => exact .f32 h
    case h_8 => exact .f64 h
    case h_10 => exact .same rfl
    case h_11 => cases h
    all_goals
      obtain rfl := eq_of_beq h
      exact .same rfl
  · rintro (number | same | same)
    · rw [beq_self, number]
      rfl
    · exact same
    · exact same

theorem Alike.symm {a b : Scalar} (h : Alike a b) : Alike b a := by
  cases h with
  | same number => exact .same number
  | f32 same => exact .f32 (BinaryFormat.sameNumber_symm same)
  | f64 same => exact .f64 (BinaryFormat.sameNumber_symm same)

theorem Alike.trans {a b c : Scalar} (h : Alike a b) (h' : Alike b c) : Alike a c := by
  cases h with
  | same number => exact h'
  | f32 same =>
    cases h' with
    | same number => exact .f32 same
    | f32 same' => exact .f32 (BinaryFormat.sameNumber_trans same same')
  | f64 same =>
    cases h' with
    | same number => exact .f64 same
    | f64 same' => exact .f64 (BinaryFormat.sameNumber_trans same same')

instance : PartialEquivBEq Scalar where
  symm h := beq_iff.2 (beq_iff.1 h).symm
  trans h h' := beq_iff.2 ((beq_iff.1 h).trans (beq_iff.1 h'))

end Scalar

namespace Literal

/-- The constants of a literal. -/
def constants : Literal → List Scalar
  | scalar value => [value]
  | list values => values

theorem scalar_beq_scalar {a b : Scalar} : (scalar a == scalar b) = (a == b) := rfl

theorem list_beq_list {as bs : List Scalar} : (list as == list bs) = (as == bs) := rfl

/-- Literals are only equal to those of their own kind. -/
inductive Alike : Literal → Literal → Prop where
  | scalar {a b : Scalar} (same : (a == b) = true) : Alike (.scalar a) (.scalar b)
  | list {as bs : List Scalar} (same : (as == bs) = true) : Alike (.list as) (.list bs)

theorem beq_iff {a b : Literal} : (a == b) = true ↔ Alike a b := by
  constructor
  · intro h
    cases a <;> cases b
    case scalar.scalar => exact .scalar h
    case list.list => exact .list h
    all_goals cases h
  · rintro (same | same)
    · exact same
    · exact same

instance : PartialEquivBEq Literal where
  symm h := by
    rcases beq_iff.1 h with same | same
    · exact beq_iff.2 (.scalar (BEq.symm same))
    · exact beq_iff.2 (.list (BEq.symm same))
  trans h h' := by
    rcases beq_iff.1 h with same | same <;> rcases beq_iff.1 h' with same' | same'
    · exact beq_iff.2 (.scalar (BEq.trans same same'))
    · exact beq_iff.2 (.list (BEq.trans same same'))

theorem beq_self_iff (l : Literal) : (l == l) = true ↔ ∀ s ∈ l.constants, s.isNaN = false := by
  cases l with
  | scalar value => simp [scalar_beq_scalar, constants, Scalar.beq_self]
  | list values =>
    rw [list_beq_list, list_beq_iff, List.forall₂_same]
    simp [constants, Scalar.beq_self]

end Literal

namespace Wire

/-! Messages are compared part by part, floating point by its numbers. -/

mutual

def Literal.beq : Literal → Literal → Bool
  | .unset, .unset => true
  | .string a, .string b => a == b
  | .boolean a, .boolean b => a == b
  | .i32 a, .i32 b => a == b
  | .u64 a, .u64 b => a == b
  | .u32 a, .u32 b => a == b
  | .i64 a, .i64 b => a == b
  | .f32 a, .f32 b => a.sameNumber b
  | .f64 a, .f64 b => a.sameNumber b
  | .timestamp a, .timestamp b => a == b
  | .list as, .list bs => Literal.beqList as bs
  | _, _ => false

def Literal.beqList : List Literal → List Literal → Bool
  | [], [] => true
  | a :: as, b :: bs => a.beq b && Literal.beqList as bs
  | _, _ => false

end

instance : BEq Literal := ⟨Literal.beq⟩

mutual

def Expression.beq : Expression → Expression → Bool
  | .unset, .unset => true
  | .column a, .column b => a == b
  | .literal a, .literal b => a == b
  | .derived a op, .derived b op' => Expression.beqArgument a b && op == op'
  | .aggregate a op, .aggregate b op' => Expression.beqArgument a b && op == op'
  | .condition op as, .condition op' bs => op == op' && Expression.beqArguments as bs
  | _, _ => false

def Expression.beqArgument : Option Expression → Option Expression → Bool
  | none, none => true
  | some a, some b => a.beq b
  | _, _ => false

def Expression.beqArguments : List Expression → List Expression → Bool
  | [], [] => true
  | a :: as, b :: bs => a.beq b && Expression.beqArguments as bs
  | _, _ => false

end

instance : BEq Expression := ⟨Expression.beq⟩

theorem Literal.beqList_map {α : Type} {f : α → Literal} {as bs : List α}
    (h : List.Forall₂ (fun a b => (f a == f b) = true) as bs) :
    Literal.beqList (as.map f) (bs.map f) = true := by
  induction h with
  | nil => rfl
  | cons same _ ih => exact Bool.and_eq_true_iff.2 ⟨same, ih⟩

end Wire

namespace Scalar

theorem Alike.image {a b : Scalar} (h : Alike a b) : (a.image == b.image) = true := by
  change a.image.beq b.image = true
  cases h with
  | same number =>
    cases a with
    | f32 value => exact BinaryFormat.sameNumber_self.trans (congrArg _ number)
    | f64 value => exact BinaryFormat.sameNumber_self.trans (congrArg _ number)
    | _ => simp [Scalar.image, Wire.Literal.beq]
  | f32 same => exact same
  | f64 same => exact same

theorem Alike.defects {a b : Scalar} (h : Alike a b) : a.defects = b.defects := by
  cases h <;> rfl

end Scalar

namespace Literal

theorem Alike.image {a b : Literal} (h : Alike a b) : (a.image == b.image) = true := by
  cases h with
  | scalar same => exact (Scalar.beq_iff.1 same).image
  | list same =>
    exact Wire.Literal.beqList_map
      ((list_beq_iff.1 same).imp fun _ _ each => (Scalar.beq_iff.1 each).image)

theorem Alike.defects {a b : Literal} (h : Alike a b) : a.defects = b.defects := by
  cases h with
  | scalar same => exact (Scalar.beq_iff.1 same).defects
  | @list as bs same =>
    have each := (list_beq_iff.1 same).imp fun _ _ each => (Scalar.beq_iff.1 each).defects
    have whole : as.map Scalar.defects = bs.map Scalar.defects := by
      rw [← List.forall₂_eq_eq_eq, List.forall₂_map_left_iff, List.forall₂_map_right_iff]
      exact each
    simp only [Literal.defects, List.flatMap_def, whole]

end Literal

namespace Expr

/-- The constants in a tree. -/
def constants : Expr → List Scalar
  | column _ | derived _ => []
  | literal l => l.constants
  | aggregate base _ _ => base.constants
  | binary left _ right => left.constants ++ right.constants
  | unary operand _ => operand.constants

/-- Equal trees have one shape; below it columns may differ in alias and kind, and literals as equal
ones do. -/
inductive Alike : Expr → Expr → Prop where
  | column {a b : Column} (name : a.name = b.name) : Alike (.column a) (.column b)
  | literal {a b : Literal} (same : (a == b) = true) : Alike (.literal a) (.literal b)
  | derived {a b : Derived} (base : a.base.name = b.base.name) (op : a.op = b.op)
      (alias? : a.alias? = b.alias?) : Alike (.derived a) (.derived b)
  | aggregate {a b : Expr} {op : AggregateOperator} {alias? : Option String} (base : Alike a b) :
      Alike (.aggregate a op alias?) (.aggregate b op alias?)
  | binary {a b c d : Expr} {op : BooleanOperator} (left : Alike a b) (right : Alike c d) :
      Alike (.binary a op c) (.binary b op d)
  | unary {a b : Expr} {op : UnaryOperator} (operand : Alike a b) :
      Alike (.unary a op) (.unary b op)

theorem column_beq_column {a b : Column} : (column a == column b) = true ↔ a.name = b.name := by
  change (a.name == b.name) = true ↔ _
  exact beq_iff_eq

theorem derived_beq_derived {a b : Derived} : (derived a == derived b) = true ↔
    a.base.name = b.base.name ∧ a.op = b.op ∧ a.alias? = b.alias? := by
  change a.sameValue b = true ↔ _
  simp [Derived.sameValue, Column.sameColumn, and_assoc]

theorem aggregate_beq_aggregate {a b : Expr} {op op' : AggregateOperator}
    {first second : Option String} :
    (aggregate a op first == aggregate b op' second) = true ↔
      (a == b) = true ∧ op = op' ∧ first = second := by
  change (beq a b && op == op' && first == second) = true ↔ beq a b = true ∧ _
  simp [and_assoc]

theorem binary_beq_binary {a b c d : Expr} {op op' : BooleanOperator} :
    (binary a op c == binary b op' d) = true ↔ (a == b) = true ∧ op = op' ∧ (c == d) = true := by
  change (beq a b && op == op' && beq c d) = true ↔ beq a b = true ∧ _ ∧ beq c d = true
  simp [and_assoc]

theorem unary_beq_unary {a b : Expr} {op op' : UnaryOperator} :
    (unary a op == unary b op') = true ↔ (a == b) = true ∧ op = op' := by
  change (beq a b && op == op') = true ↔ beq a b = true ∧ _
  simp

theorem alike_of_beq {a b : Expr} (h : (a == b) = true) : Alike a b := by
  induction a generalizing b with
  | column c =>
    cases b with
    | column d => exact .column (column_beq_column.1 h)
    | _ => cases h
  | literal l =>
    cases b with
    | literal m => exact .literal h
    | _ => cases h
  | derived d =>
    cases b with
    | derived e =>
      obtain ⟨base, op, same⟩ := derived_beq_derived.1 h
      exact .derived base op same
    | _ => cases h
  | aggregate base op a ih =>
    cases b with
    | aggregate base' op' a' =>
      obtain ⟨same, rfl, rfl⟩ := aggregate_beq_aggregate.1 h
      exact .aggregate (ih same)
    | _ => cases h
  | binary left op right ihLeft ihRight =>
    cases b with
    | binary left' op' right' =>
      obtain ⟨first, rfl, second⟩ := binary_beq_binary.1 h
      exact .binary (ihLeft first) (ihRight second)
    | _ => cases h
  | unary operand op ih =>
    cases b with
    | unary operand' op' =>
      obtain ⟨same, rfl⟩ := unary_beq_unary.1 h
      exact .unary (ih same)
    | _ => cases h

theorem Alike.beq {a b : Expr} (h : Alike a b) : (a == b) = true := by
  induction h with
  | column name => exact column_beq_column.2 name
  | literal same => exact same
  | derived base op same => exact derived_beq_derived.2 ⟨base, op, same⟩
  | aggregate _ ih => exact aggregate_beq_aggregate.2 ⟨ih, rfl, rfl⟩
  | binary _ _ left right => exact binary_beq_binary.2 ⟨left, rfl, right⟩
  | unary _ ih => exact unary_beq_unary.2 ⟨ih, rfl⟩

theorem Alike.symm {a b : Expr} (h : Alike a b) : Alike b a := by
  induction h with
  | column name => exact .column name.symm
  | literal same => exact .literal (BEq.symm same)
  | derived base op same => exact .derived base.symm op.symm same.symm
  | aggregate _ ih => exact .aggregate ih
  | binary _ _ left right => exact .binary left right
  | unary _ ih => exact .unary ih

theorem Alike.trans {a b c : Expr} (h : Alike a b) (h' : Alike b c) : Alike a c := by
  induction h generalizing c with
  | column name =>
    cases h' with
    | column name' => exact .column (name.trans name')
  | literal same =>
    cases h' with
    | literal same' => exact .literal (BEq.trans same same')
  | derived base op same =>
    cases h' with
    | derived base' op' same' =>
      exact .derived (base.trans base') (op.trans op') (same.trans same')
  | aggregate _ ih =>
    cases h' with
    | aggregate base => exact .aggregate (ih base)
  | binary _ _ ihLeft ihRight =>
    cases h' with
    | binary left right => exact .binary (ihLeft left) (ihRight right)
  | unary _ ih =>
    cases h' with
    | unary operand => exact .unary (ih operand)

instance : PartialEquivBEq Expr where
  symm h := (alike_of_beq h).symm.beq
  trans h h' := ((alike_of_beq h).trans (alike_of_beq h')).beq

/-- A tree equals itself unless one of its constants does not. -/
theorem beq_self_iff (e : Expr) : (e == e) = true ↔ ∀ s ∈ e.constants, s.isNaN = false := by
  induction e with
  | column c => simp [column_beq_column, constants]
  | literal l => exact l.beq_self_iff
  | derived d => simp [derived_beq_derived, constants]
  | aggregate base op a ih => simpa [aggregate_beq_aggregate, constants] using ih
  | binary left op right ihLeft ihRight =>
    rw [binary_beq_binary, ihLeft, ihRight, constants, List.forall_mem_append]
    simp only [true_and]
  | unary operand op ih => simpa [unary_beq_unary, constants] using ih

/-! What equal trees are asked for. -/

theorem Alike.operator {a b : Expr} (h : Alike a b) : a.operator = b.operator := by
  cases h with
  | derived _ op => exact congrArg Operator.projection op
  | _ => rfl

theorem Alike.operands {a b : Expr} (h : Alike a b) :
    List.Forall₂ (fun x y => (x == y) = true) a.operands b.operands := by
  cases h with
  | column name => exact .cons (column_beq_column.2 name) .nil
  | @literal l m same =>
    rcases Literal.beq_iff.1 same with each | each
    · exact .cons same .nil
    · simp only [Expr.operands, List.forall₂_map_left_iff, List.forall₂_map_right_iff]
      exact list_beq_iff.1 each
  | derived base => exact .cons (column_beq_column.2 base) .nil
  | aggregate base => exact .cons base.beq .nil
  | binary left right => exact .cons left.beq (.cons right.beq .nil)
  | unary operand => exact .cons operand.beq .nil

theorem Alike.isPredicate {a b : Expr} (h : Alike a b) : a.isPredicate = b.isPredicate := by
  cases h <;> rfl

theorem Alike.defects {a b : Expr} (h : Alike a b) : a.defects = b.defects := by
  induction h with
  | column => rfl
  | literal same => exact (Literal.beq_iff.1 same).defects
  | derived => rfl
  | aggregate _ ih => exact ih
  | binary left right ihLeft ihRight =>
    simp only [Expr.defects, left.isPredicate, right.isPredicate, ihLeft, ihRight]
  | unary _ ih => exact ih

theorem Alike.image {a b : Expr} (h : Alike a b) : (a.image == b.image) = true := by
  change a.image.beq b.image = true
  induction h with
  | column name => exact beq_iff_eq.2 name
  | literal same => exact (Literal.beq_iff.1 same).image
  | derived base op =>
    have code := congrArg ProjectionOperator.code op
    exact Bool.and_eq_true_iff.2 ⟨beq_iff_eq.2 base, beq_iff_eq.2 code⟩
  | aggregate _ ih => exact Bool.and_eq_true_iff.2 ⟨ih, beq_self_eq_true _⟩
  | binary _ _ ihLeft ihRight =>
    have rest := Bool.and_eq_true_iff.2 ⟨ihRight, rfl⟩
    exact Bool.and_eq_true_iff.2
      ⟨beq_self_eq_true _, Bool.and_eq_true_iff.2 ⟨ihLeft, rest⟩⟩
  | unary _ ih =>
    exact Bool.and_eq_true_iff.2 ⟨beq_self_eq_true _, Bool.and_eq_true_iff.2 ⟨ih, rfl⟩⟩

/-- What two trees are asked for: the operators are the same, the operands are equal one by one, and
so are the messages. -/
structure SameViews (a b : Expr) : Prop where
  operator : a.operator = b.operator
  operands : List.Forall₂ (fun x y => (x == y) = true) a.operands b.operands
  message : SameOutcome a.toWire b.toWire

theorem Alike.sameViews {a b : Expr} (h : Alike a b) : SameViews a b where
  operator := h.operator
  operands := h.operands
  message := by
    rw [a.toWire_eq, b.toWire_eq, h.defects]
    exact .judged b.defects h.image

/-- Equality is symmetric and transitive, and reflexive on just the trees in which no NaN occurs.
It looks at the names of columns, and elsewhere at aliases too, and is respected by all views. -/
theorem equality_is_respected (a b c : Expr) :
    ((a == b) = true → (b == a) = true) ∧
    ((a == b) = true → (b == c) = true → (a == c) = true) ∧
    ((a == a) = true ↔ ∀ s ∈ a.constants, s.isNaN = false) ∧
    ((a == b) = true → SameViews a b) ∧
    (∀ x y : Column, (column x == column y) = true ↔ x.name = y.name) ∧
    (∀ x y : Derived, (derived x == derived y) = true ↔
      x.base.name = y.base.name ∧ x.op = y.op ∧ x.alias? = y.alias?) ∧
    ∀ (op op' : AggregateOperator) (first second : Option String),
      (aggregate a op first == aggregate b op' second) = true ↔
        (a == b) = true ∧ op = op' ∧ first = second :=
  ⟨BEq.symm, BEq.trans, a.beq_self_iff, fun h => (alike_of_beq h).sameViews,
    fun _ _ => column_beq_column, fun _ _ => derived_beq_derived,
    fun _ _ _ _ => aggregate_beq_aggregate⟩

/-- The two zeros are equal, and so are references to one column by another alias or kind. -/
theorem equality_is_respected_by_zeros :
    let day : Column := .of .date "day"
    let zero : Scalar := .f64 ⟨0⟩
    let negative : Scalar := .f64 ⟨0x8000000000000000⟩
    let a : Expr := .binary (.column day) .eq (.list [zero, .null])
    let b : Expr := .binary (.column (day.withAlias "d")) .eq (.list [negative, .null])
    let c : Expr := .binary (.column (.of .generic "day")) .eq (.list [zero, .null])
    (a == b) = true ∧ (b == c) = true ∧ (b == a) = true ∧ (a == c) = true ∧ (a == a) = true ∧
      SameViews a b := by
  intro day zero negative a b c
  obtain ⟨symm, trans, refl, views, -⟩ := equality_is_respected a b c
  have first : (a == b) = true := by decide
  have second : (b == c) = true := by decide
  exact ⟨first, second, symm first, trans first second, refl.2 (by decide), views first⟩

end Expr

end DatasetQuery
