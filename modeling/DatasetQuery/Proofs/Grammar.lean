import DatasetQuery.Proofs.Erasure
/-!
The grammar of expressions on the wire. The schema admits more messages than there are expressions:
unset choices, conditions of any arity, codes that no operator has. Translation gives exactly the
messages of the grammar, and queries are built from these alone.
-/
namespace DatasetQuery

namespace Wire

/-- The codes that a table of the schema lists under such a name. -/
def CodeWhere (names : List (Int32 × String)) (kind : String → Prop) (code : Int32) : Prop :=
  ∃ entry ∈ names, kind entry.2 ∧ entry.1 = code

def IsJunction : Int32 → Prop := CodeWhere predicateNames (· ∈ ["AND", "OR"])

def IsNullCheck : Int32 → Prop := CodeWhere predicateNames (· ∈ ["IS_NULL", "IS_NOT_NULL"])

/-- All other predicates compare two operands. -/
def IsComparison : Int32 → Prop :=
  CodeWhere predicateNames (· ∉ ["AND", "OR", "IS_NULL", "IS_NOT_NULL"])

def IsAggregate : Int32 → Prop := CodeWhere aggregateNames (· ≠ "MEDIAN")

/-- Whole dates and times of day are no projections of instants. -/
def IsProjection : Int32 → Prop := CodeWhere projectionNames (· ∉ ["DATE", "TIME"])

def IsDirection : Int32 → Prop := CodeWhere directionNames fun _ => True

/-- The operators that a table lists under such names, by comparing both lists. -/
theorem codeWhere_iff {ω : Type} {operators : List ω} {code : ω → Int32}
    {names : List (Int32 × String)} {kind : String → Prop}
    (written : ∀ o ∈ operators, ∃ entry ∈ names, kind entry.2 ∧ entry.1 = code o)
    (known : ∀ entry ∈ names, kind entry.2 → ∃ o ∈ operators, code o = entry.1) {op : Int32} :
    CodeWhere names kind op ↔ ∃ o ∈ operators, code o = op := by
  constructor
  · rintro ⟨entry, listed, named, rfl⟩
    exact known entry listed named
  · rintro ⟨o, among, rfl⟩
    exact written o among

theorem isJunction_iff {op : Int32} :
    IsJunction op ↔ ∃ o ∈ BooleanOperator.all.filter (·.isJunction), o.code = op :=
  codeWhere_iff (by decide) (by decide)

theorem isComparison_iff {op : Int32} :
    IsComparison op ↔ ∃ o ∈ BooleanOperator.all.filter (!·.isJunction), o.code = op :=
  codeWhere_iff (by decide) (by decide)

theorem isNullCheck_iff {op : Int32} :
    IsNullCheck op ↔ ∃ o ∈ UnaryOperator.all, o.code = op :=
  codeWhere_iff (by decide) (by decide)

theorem isAggregate_iff {op : Int32} :
    IsAggregate op ↔ ∃ o ∈ AggregateOperator.all, o.code = op :=
  codeWhere_iff (by decide) (by decide)

theorem isProjection_iff {op : Int32} :
    IsProjection op ↔ ∃ o ∈ ProjectionOperator.all, o.code = op :=
  codeWhere_iff (by decide) (by decide)

theorem isDirection_iff {op : Int32} : IsDirection op ↔ ∃ o ∈ Direction.all, o.code = op :=
  codeWhere_iff (by decide) (by decide)

/-- Constants of one of the scalar kinds. -/
def Literal.IsScalar : Literal → Prop
  | unset | list _ => False
  | _ => True

/-- A constant is a scalar or a list of scalars; there are no lists in lists. -/
def Literal.IsConstant (l : Literal) : Prop :=
  l.IsScalar ∨ ∃ values, l = list values ∧ ∀ value ∈ values, value.IsScalar

def Expression.IsCondition : Expression → Prop
  | condition _ _ => True
  | _ => False

/-- The messages that are expressions. -/
inductive Expression.Grammatical : Expression → Prop where
  | column (name : String) : Grammatical (column name)
  | literal {l : Literal} (constant : l.IsConstant) : Grammatical (literal l)
  | derived {op : Int32} (name : String) (projection : IsProjection op) :
      Grammatical (derived (some (column name)) op)
  | aggregate {op : Int32} {argument : Expression} (aggregating : IsAggregate op)
      (base : Grammatical argument) : Grammatical (aggregate (some argument) op)
  | junction {op : Int32} {left right : Expression} (joining : IsJunction op)
      (first : Grammatical left) (second : Grammatical right)
      (conditions : left.IsCondition ∧ right.IsCondition) :
      Grammatical (condition op [left, right])
  | comparison {op : Int32} {left right : Expression} (comparing : IsComparison op)
      (first : Grammatical left) (second : Grammatical right) :
      Grammatical (condition op [left, right])
  | nullCheck {op : Int32} {operand : Expression} (checking : IsNullCheck op)
      (inner : Grammatical operand) : Grammatical (condition op [operand])

/-- Rows are grouped on columns and on projections of columns. -/
def Grouping.Grammatical : Grouping → Prop
  | unset => False
  | column _ => True
  | derived content => (Expression.ofDerived content).Grammatical

/-- Queries without an unset part, whose expressions are all grammatical. -/
structure Query.Grammatical (q : Query) : Prop where
  address : ∃ a, q.address = some a ∧ a ≠ .unset
  select : ∀ s ∈ q.select, ∃ e, s.argument = some e ∧ e.Grammatical
  filter : ∀ c ∈ q.filter, (Expression.ofCondition c).Grammatical
  groupBy : ∀ g ∈ q.groupBy, g.Grammatical
  orderBy : ∀ k ∈ q.orderBy, (∃ e, k.argument = some e ∧ e.Grammatical) ∧
    ∃ d, k.direction = some d ∧ IsDirection d

end Wire

open Wire

theorem Scalar.image_isScalar {s : Scalar} (faultless : s.defects = []) : s.image.IsScalar := by
  cases s <;> trivial

theorem Scalar.exists_image {l : Wire.Literal} (scalar : l.IsScalar) :
    ∃ s : Scalar, s.defects = [] ∧ s.image = l := by
  cases l with
  | unset => exact scalar.elim
  | list values => exact scalar.elim
  | string value => exact ⟨.string value, rfl, rfl⟩
  | boolean value => exact ⟨.boolean value, rfl, rfl⟩
  | i32 value => exact ⟨.i32 value, rfl, rfl⟩
  | u64 value => exact ⟨.u64 value, rfl, rfl⟩
  | u32 value => exact ⟨.u32 value, rfl, rfl⟩
  | i64 value => exact ⟨.i64 value, rfl, rfl⟩
  | f32 value => exact ⟨.f32 value, rfl, rfl⟩
  | f64 value => exact ⟨.f64 value, rfl, rfl⟩
  | timestamp micros => exact ⟨.timestamp micros, rfl, rfl⟩

theorem Scalar.exists_images {values : List Wire.Literal}
    (scalars : ∀ value ∈ values, value.IsScalar) :
    ∃ list : List Scalar, list.flatMap defects = [] ∧ list.map image = values := by
  induction values with
  | nil => exact ⟨[], rfl, rfl⟩
  | cons value values ih =>
    obtain ⟨head, tail⟩ := List.forall_mem_cons.1 scalars
    obtain ⟨s, faultless, same⟩ := exists_image head
    obtain ⟨list, allFaultless, allSame⟩ := ih tail
    exact ⟨s :: list, by rw [List.flatMap_cons, faultless, allFaultless, List.append_nil],
      by rw [List.map_cons, same, allSame]⟩

theorem Literal.image_isConstant {l : Literal} (faultless : l.defects = []) :
    l.image.IsConstant := by
  cases l with
  | scalar s => exact .inl (s.image_isScalar faultless)
  | list values =>
    refine .inr ⟨_, rfl, fun value among => ?_⟩
    obtain ⟨s, member, rfl⟩ := List.mem_map.1 among
    exact s.image_isScalar (List.flatMap_eq_nil_iff.1 faultless s member)

theorem Literal.exists_image {l : Wire.Literal} (constant : l.IsConstant) :
    ∃ c : Literal, c.defects = [] ∧ c.image = l := by
  rcases constant with scalar | ⟨values, rfl, scalars⟩
  · obtain ⟨s, faultless, same⟩ := Scalar.exists_image scalar
    exact ⟨.scalar s, faultless, same⟩
  · obtain ⟨list, faultless, same⟩ := Scalar.exists_images scalars
    exact ⟨.list list, faultless, congrArg _ same⟩

namespace Expr

theorem image_isCondition_iff (e : Expr) : e.image.IsCondition ↔ e.isPredicate = true := by
  cases e <;> simp [image, isPredicate, Expression.IsCondition, Expression.ofDerived]

theorem image_grammatical {e : Expr} (faultless : e.defects = []) : e.image.Grammatical := by
  induction e with
  | column c => exact .column c.name
  | literal l => exact .literal (l.image_isConstant faultless)
  | derived d => exact .derived d.base.name (isProjection_iff.2 ⟨d.op, d.op.mem_all, rfl⟩)
  | aggregate base op a ih =>
    exact .aggregate (isAggregate_iff.2 ⟨op, op.mem_all, rfl⟩) (ih faultless)
  | binary left op right ihLeft ihRight =>
    obtain ⟨first, second⟩ := List.append_eq_nil_iff.1 faultless
    obtain ⟨leftPredicate, leftFaultless⟩ := BooleanOperator.operandDefects_eq_nil_iff.1 first
    obtain ⟨rightPredicate, rightFaultless⟩ := BooleanOperator.operandDefects_eq_nil_iff.1 second
    have left_grammatical := ihLeft leftFaultless
    have right_grammatical := ihRight rightFaultless
    cases joining : op.isJunction with
    | true =>
      have junction := isJunction_iff.2 ⟨op, List.mem_filter.2 ⟨op.mem_all, joining⟩, rfl⟩
      exact .junction junction left_grammatical right_grammatical
        ⟨left.image_isCondition_iff.2 (leftPredicate joining),
          right.image_isCondition_iff.2 (rightPredicate joining)⟩
    | false =>
      have other : (!op.isJunction) = true := by rw [joining, Bool.not_false]
      have comparison := isComparison_iff.2 ⟨op, List.mem_filter.2 ⟨op.mem_all, other⟩, rfl⟩
      exact .comparison comparison left_grammatical right_grammatical
  | unary operand op ih =>
    exact .nullCheck (isNullCheck_iff.2 ⟨op, op.mem_all, rfl⟩) (ih faultless)

/-- Every message of the grammar is that of some expression. -/
theorem exists_image {m : Expression} (grammatical : m.Grammatical) :
    ∃ e : Expr, e.defects = [] ∧ e.image = m := by
  induction grammatical with
  | column name => exact ⟨.column (.of .generic name), rfl, rfl⟩
  | literal constant =>
    obtain ⟨c, faultless, rfl⟩ := Literal.exists_image constant
    exact ⟨.literal c, faultless, rfl⟩
  | derived name projection =>
    obtain ⟨op, _, rfl⟩ := isProjection_iff.1 projection
    exact ⟨.derived (.of (.of .generic name) op), rfl, rfl⟩
  | aggregate aggregating _ ih =>
    obtain ⟨op, _, rfl⟩ := isAggregate_iff.1 aggregating
    obtain ⟨base, faultless, rfl⟩ := ih
    exact ⟨.aggregate base op none, faultless, rfl⟩
  | junction joining _ _ conditions ihLeft ihRight =>
    obtain ⟨op, _, rfl⟩ := isJunction_iff.1 joining
    obtain ⟨left, leftFaultless, rfl⟩ := ihLeft
    obtain ⟨right, rightFaultless, rfl⟩ := ihRight
    refine ⟨.binary left op right, List.append_eq_nil_iff.2 ⟨?_, ?_⟩, rfl⟩
    · exact BooleanOperator.operandDefects_eq_nil_iff.2
        ⟨fun _ => left.image_isCondition_iff.1 conditions.1, leftFaultless⟩
    · exact BooleanOperator.operandDefects_eq_nil_iff.2
        ⟨fun _ => right.image_isCondition_iff.1 conditions.2, rightFaultless⟩
  | comparison comparing _ _ ihLeft ihRight =>
    obtain ⟨op, listed, rfl⟩ := isComparison_iff.1 comparing
    obtain ⟨left, leftFaultless, rfl⟩ := ihLeft
    obtain ⟨right, rightFaultless, rfl⟩ := ihRight
    have comparison : ¬op.isJunction = true := by simpa using (List.mem_filter.1 listed).2
    refine ⟨.binary left op right, List.append_eq_nil_iff.2 ⟨?_, ?_⟩, rfl⟩
    · exact BooleanOperator.operandDefects_eq_nil_iff.2
        ⟨fun joining => absurd joining comparison, leftFaultless⟩
    · exact BooleanOperator.operandDefects_eq_nil_iff.2
        ⟨fun joining => absurd joining comparison, rightFaultless⟩
  | nullCheck checking _ ih =>
    obtain ⟨op, _, rfl⟩ := isNullCheck_iff.1 checking
    obtain ⟨operand, faultless, rfl⟩ := ih
    exact ⟨.unary operand op, faultless, rfl⟩

theorem exists_toWire_iff {m : Expression} : (∃ e : Expr, e.toWire = .ok m) ↔ m.Grammatical := by
  simp only [toWire_eq, judged_eq_ok_iff]
  constructor
  · rintro ⟨e, faultless, rfl⟩
    exact image_grammatical faultless
  · exact exists_image

theorem grouping?_grammatical {e : Expr} {g : Grouping} (grouped : e.grouping? = some g) :
    g.Grammatical := by
  cases e with
  | column c =>
    cases grouped
    trivial
  | derived d =>
    cases grouped
    exact image_grammatical (e := .derived d) rfl
  | _ => cases grouped

end Expr

theorem Table.image_grammatical {t : Table} (faultless : t.defects = []) :
    t.image.Grammatical := by
  obtain ⟨selected, rest⟩ := List.append_eq_nil_iff.1 faultless
  obtain ⟨filtered, rest⟩ := List.append_eq_nil_iff.1 rest
  obtain ⟨_, ordered⟩ := List.append_eq_nil_iff.1 rest
  refine ⟨⟨t.address, rfl, ?_⟩, ?_, ?_, ?_, ?_⟩
  · unfold Table.address
    split <;> exact Address.noConfusion
  · intro s among
    obtain ⟨e, member, rfl⟩ := List.mem_map.1 among
    exact ⟨e.image, rfl, Expr.image_grammatical (List.flatMap_eq_nil_iff.1 selected e member)⟩
  · intro c present
    obtain ⟨p, filter, rfl⟩ := Option.map_eq_some_iff.1 present
    rw [Predicate.ofCondition_image]
    have member : p ∈ t.filter.toList := Option.mem_toList.2 filter
    exact Expr.image_grammatical (List.flatMap_eq_nil_iff.1 filtered p member)
  · intro g among
    obtain ⟨e, _, grouped⟩ := List.mem_filterMap.1 among
    exact Expr.grouping?_grammatical grouped
  · intro k among
    obtain ⟨key, member, rfl⟩ := List.mem_map.1 among
    have grammatical := Expr.image_grammatical (List.flatMap_eq_nil_iff.1 ordered key member)
    have direction := isDirection_iff.2 ⟨key.direction, by cases key.direction <;> decide, rfl⟩
    exact ⟨⟨key.expr.image, rfl, grammatical⟩, key.direction.code, rfl, direction⟩

/-- The messages of expressions are those of the grammar, all of them and no others, and a query
is built from these without an unset part. -/
theorem translation_is_grammatical :
    (∀ m : Expression, (∃ e : Expr, e.toWire = .ok m) ↔ m.Grammatical) ∧
      ∀ (t : Table) (q : Query), t.toQuery = .ok q → q.Grammatical := by
  constructor
  · intro m
    exact Expr.exists_toWire_iff
  · intro t q translated
    obtain ⟨faultless, rfl⟩ := Table.toQuery_eq_ok_iff.1 translated
    exact Table.image_grammatical faultless

theorem translation_is_grammatical_of_totals :
    let placed : Column := .of .datetime "placed"
    let year : Expr := .derived (.of placed .year)
    let total : Expr := .aggregate (.column (.of .generic "price")) .sum (some "total")
    let recent : Expr := .binary year .isIn (.list [.i64 2023, .i64 2024])
    let t := { Table.named "orders" with
      source := some "warehouse"
      selection := [year, total]
      filter := some ⟨.binary recent .and (.unary (.column placed) .isNotNull), rfl⟩
      ordering := [⟨total, .descending⟩] }
    t.toQuery = .ok t.image ∧ t.image.Grammatical := by
  intro placed year total recent t
  have translated : t.toQuery = .ok t.image := Table.toQuery_eq_ok_iff.2 ⟨rfl, rfl⟩
  exact ⟨translated, translation_is_grammatical.2 t t.image translated⟩

end DatasetQuery
