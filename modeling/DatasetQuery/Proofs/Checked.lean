import DatasetQuery.Proofs.Defects
import DatasetQuery.Term.Construction
/-!
What the checked operations build. Every operation makes its check once, on the way a receiver is
held or on the shape of an expression; the checks together leave nothing for the translation to
find, however the operations are chained.
-/
namespace DatasetQuery

/-- Constants with a form on the wire. -/
def Literal.HasForm : Literal → Prop
  | scalar value => value ≠ .null
  | list values => ∀ value ∈ values, value ≠ .null

/-- Terms that offer methods by the way they are held: typed columns, and projections. -/
inductive Receiver : Term → Prop where
  | typed (c : Column) : Receiver (.typed c)
  | derived (d : Derived) : Receiver ⟨.derived, .derived d⟩

/-- The expressions that come from checked operations alone. -/
inductive Checked : Expr → Prop where
  | receiver {t : Term} (held : Receiver t) : Checked t.expr
  | literal {l : Literal} (form : l.HasForm) : Checked (.literal l)
  | withAlias {e : Expr} (newAlias : String) (built : Checked e) : Checked (e.withAlias newAlias)
  | aggregated {t : Term} (op : AggregateOperator) (held : Receiver t)
      (offered : t.handle.offers .aggregation) : Checked (t.expr.aggregated op)
  | checkedAggregate {e a : Expr} (op : AggregateOperator) (built : Checked e)
      (accepted : e.checkedAggregate op = .ok a) : Checked a
  | nullCheck {t : Term} (op : UnaryOperator) (held : Receiver t)
      (offered : t.handle.offers .nullChecks) : Checked (.unary t.expr op)
  | comparison {t : Term} {other : Expr} (c : Comparison) (held : Receiver t)
      (offered : t.handle.offers .comparison) (built : Checked other) :
      Checked (t.expr.compared c.op other)
  | isIn {t : Term} {values : List Scalar} (held : Receiver t)
      (offered : t.handle.offers .comparison) (form : (Literal.list values).HasForm) :
      Checked (t.expr.isIn values)
  | between {t : Term} {low high : Expr} (held : Receiver t)
      (offered : t.handle.offers .comparison) (lower : Checked low) (upper : Checked high) :
      Checked (t.expr.between low high)
  | like {t : Term} (pattern : String) (held : Receiver t)
      (offered : t.handle.offers .patterns) : Checked (t.expr.like pattern)
  | hasAny {t : Term} {values : List Scalar} (held : Receiver t)
      (offered : t.handle.offers .membership) (form : (Literal.list values).HasForm) :
      Checked (t.expr.hasAny values)
  | hasAll {t : Term} {values : List Scalar} (held : Receiver t)
      (offered : t.handle.offers .membership) (form : (Literal.list values).HasForm) :
      Checked (t.expr.hasAll values)
  | temporal {t : Term} (c : TemporalComparison) (value : Moment) (held : Receiver t)
      (offered : t.handle.offers (.temporal value.kind)) : Checked (value.compare t.expr c.op)
  | inPastAt {t : Term} (window : PastWindow) (held : Receiver t)
      (offered : t.handle.offers (.temporal window.kind)) : Checked (window.test t.expr).value
  | checkedCompare {e other p : Expr} (op : BooleanOperator) (left : Checked e)
      (right : Checked other) (accepted : e.checkedCompare op other = .ok p) : Checked p
  | joined {left right : Expr} (j : Junction) (first : Checked left) (second : Checked right)
      (leftPredicate : left.isPredicate) (rightPredicate : right.isPredicate) :
      Checked (j.join left right)

namespace Expr

/-- A tree and all trees inside it. -/
def parts : Expr → List Expr
  | column c => [column c]
  | literal l => [literal l]
  | derived d => [derived d]
  | aggregate base op a => aggregate base op a :: base.parts
  | binary left op right => binary left op right :: (left.parts ++ right.parts)
  | unary operand op => unary operand op :: operand.parts

/-- What can be aggregated: columns other than arrays, and projections. -/
def IsBase (e : Expr) : Prop := (∃ c, e = .column c ∧ c.kind ≠ .array) ∨ ∃ d, e = .derived d

/-- Nothing to refuse at the root of a tree. -/
def RootSound : Expr → Prop
  | aggregate base _ _ => base.IsBase
  | binary left op right => op.isJunction → left.isPredicate ∧ right.isPredicate
  | column _ | literal _ | derived _ | unary _ _ => True

/-- Nothing to refuse anywhere in a tree, and nothing without a form. -/
structure Faultless (e : Expr) : Prop where
  defects : e.defects = []
  sound : ∀ part ∈ e.parts, part.RootSound

end Expr

theorem Scalar.defects_eq_nil {s : Scalar} (h : s ≠ .null) : s.defects = [] := by
  cases s with
  | null => exact absurd rfl h
  | _ => rfl

theorem Literal.HasForm.defects_eq_nil {l : Literal} (form : l.HasForm) : l.defects = [] := by
  cases l with
  | scalar value => exact Scalar.defects_eq_nil form
  | list values =>
    exact List.flatMap_eq_nil_iff.2 fun value member => Scalar.defects_eq_nil (form value member)

theorem BooleanOperator.operandDefects_eq_nil {op : BooleanOperator} {isPredicate : Bool}
    (checked : op.isJunction → isPredicate) : op.operandDefects isPredicate [] = [] := by
  unfold operandDefects
  split
  · simp_all
  · rfl

namespace Expr.Faultless

theorem column (c : Column) : Faultless (.column c) := ⟨rfl, by simp [parts, RootSound]⟩

theorem derived (d : Derived) : Faultless (.derived d) := ⟨rfl, by simp [parts, RootSound]⟩

theorem literal {l : Literal} (form : l.HasForm) : Faultless (.literal l) :=
  ⟨form.defects_eq_nil, by simp [parts, RootSound]⟩

theorem aggregate {base : Expr} (isBase : base.IsBase) (op : AggregateOperator)
    (a : Option String) : Faultless (.aggregate base op a) := by
  obtain ⟨c, rfl, array⟩ | ⟨d, rfl⟩ := isBase
  · exact ⟨rfl, by simp [parts, RootSound, IsBase, array]⟩
  · exact ⟨rfl, by simp [parts, RootSound, IsBase]⟩

theorem unary {e : Expr} (operand : Faultless e) (op : UnaryOperator) :
    Faultless (.unary e op) := by
  refine ⟨operand.defects, fun part member => ?_⟩
  rcases List.mem_cons.1 member with rfl | inside
  · trivial
  · exact operand.sound part inside

theorem binary {left right : Expr} {op : BooleanOperator} (first : Faultless left)
    (second : Faultless right) (checked : op.isJunction → left.isPredicate ∧ right.isPredicate) :
    Faultless (.binary left op right) := by
  refine ⟨?_, fun part member => ?_⟩
  · rw [Expr.defects, first.defects, second.defects,
      BooleanOperator.operandDefects_eq_nil fun h => (checked h).1,
      BooleanOperator.operandDefects_eq_nil fun h => (checked h).2]
    rfl
  · rcases List.mem_cons.1 member with rfl | inside
    · exact checked
    · rcases List.mem_append.1 inside with h | h
      · exact first.sound part h
      · exact second.sound part h

theorem withAlias {e : Expr} (h : Faultless e) (newAlias : String) :
    Faultless (e.withAlias newAlias) := by
  cases e with
  | column c => exact column _
  | derived d => exact derived _
  | aggregate base op a => exact aggregate (h.sound _ (List.mem_cons_self ..)) op _
  | literal l => exact h
  | binary left op right => exact h
  | unary operand op => exact h

end Expr.Faultless

namespace Receiver

theorem faultless {t : Term} (held : Receiver t) : t.expr.Faultless := by
  cases held with
  | typed c => exact .column c
  | derived d => exact .derived d

/-- Who offers aggregation can be aggregated. -/
theorem isBase {t : Term} (held : Receiver t) (offered : t.handle.offers .aggregation) :
    t.expr.IsBase := by
  cases held with
  | typed c => exact .inl ⟨c, rfl, of_decide_eq_true offered⟩
  | derived d => exact .inr ⟨d, rfl⟩

/-- A comparison of a receiver has nothing to refuse, as its operator is no junction. -/
theorem compared {t : Term} {other : Expr} (held : Receiver t) (op : BooleanOperator)
    (second : other.Faultless) (plain : op.isJunction = false) :
    (Expr.binary t.expr op other).Faultless :=
  .binary held.faultless second fun junction => absurd junction (by simp [plain])

theorem temporal {α : Type} [Temporal α] {t : Term} (held : Receiver t) (op : BooleanOperator)
    (value : α) (plain : op.isJunction = false) : (Temporal.compare t.expr op value).Faultless :=
  held.compared op (.literal Scalar.noConfusion) plain

theorem inPastAt {α : Type} [Temporal α] {t : Term} (held : Receiver t) (now : α)
    (older newer : Int64) (unit : Temporal.Unit α) :
    (Temporal.inPastAt t.expr now older newer unit).value.Faultless := by
  have lower := held.temporal .gte (Temporal.window now older newer unit).1 rfl
  have upper := held.temporal .lte (Temporal.window now older newer unit).2 rfl
  exact lower.binary upper fun _ => ⟨rfl, rfl⟩

end Receiver

namespace Expr

theorem checkedAggregate_eq_ok {e a : Expr} {op : AggregateOperator}
    (accepted : e.checkedAggregate op = .ok a) : e.IsBase ∧ a = e.aggregated op := by
  unfold checkedAggregate at accepted
  split at accepted
  · rename_i aggregatable
    refine ⟨?_, (Except.ok.inj accepted).symm⟩
    cases e with
    | column c => exact .inl ⟨c, rfl, of_decide_eq_true aggregatable⟩
    | derived d => exact .inr ⟨d, rfl⟩
    | _ => cases aggregatable
  · cases accepted

theorem checkedCompare_eq_ok {e other p : Expr} {op : BooleanOperator}
    (accepted : e.checkedCompare op other = .ok p) :
    (op.isJunction → e.isPredicate ∧ other.isPredicate) ∧ p = e.compared op other := by
  unfold checkedCompare at accepted
  split at accepted
  · split at accepted
    · rename_i predicates
      exact ⟨fun _ => Bool.and_eq_true_iff.1 predicates, (Except.ok.inj accepted).symm⟩
    · cases accepted
  · split at accepted
    · rename_i plain _
      exact ⟨fun junction => absurd junction plain, (Except.ok.inj accepted).symm⟩
    · cases accepted

end Expr

/-- What one checked operation after the other builds has nothing to refuse. -/
theorem Checked.faultless {e : Expr} (built : Checked e) : e.Faultless := by
  induction built with
  | receiver held => exact held.faultless
  | literal form => exact .literal form
  | withAlias newAlias _ ih => exact ih.withAlias newAlias
  | aggregated op held offered => exact .aggregate (held.isBase offered) op none
  | checkedAggregate op _ accepted _ =>
    obtain ⟨isBase, rfl⟩ := Expr.checkedAggregate_eq_ok accepted
    exact .aggregate isBase op none
  | nullCheck op held _ => exact held.faultless.unary op
  | comparison c held _ _ ih => exact held.compared c.op ih (by cases c <;> rfl)
  | isIn held _ form => exact held.compared .isIn (.literal form) rfl
  | between held _ _ _ ihLow ihHigh =>
    have low := held.compared .gte ihLow rfl
    have high := held.compared .lte ihHigh rfl
    exact low.binary high fun _ => ⟨rfl, rfl⟩
  | like pattern held _ => exact held.compared .like (.literal Scalar.noConfusion) rfl
  | hasAny held _ form => exact held.compared .hasAny (.literal form) rfl
  | hasAll held _ form => exact held.compared .hasAll (.literal form) rfl
  | temporal c value held _ =>
    have plain : c.op.isJunction = false := by cases c <;> rfl
    cases value with
    | date value => exact held.temporal c.op value plain
    | time value => exact held.temporal c.op value plain
    | instant value => exact held.temporal c.op value plain
  | inPastAt window held _ =>
    cases window with
    | dates now older newer unit => exact held.inPastAt now older newer unit
    | times now older newer unit => exact held.inPastAt now older newer unit
    | instants now older newer unit => exact held.inPastAt now older newer unit
  | checkedCompare op _ _ accepted ihLeft ihRight =>
    -- here the operator may be a junction, but then both sides were seen to be predicates
    obtain ⟨checked, rfl⟩ := Expr.checkedCompare_eq_ok accepted
    exact ihLeft.binary ihRight checked
  | joined j _ _ leftPredicate rightPredicate ihLeft ihRight =>
    cases j with
    | and => exact ihLeft.binary ihRight fun _ => ⟨leftPredicate, rightPredicate⟩
    | or => exact ihLeft.binary ihRight fun _ => ⟨leftPredicate, rightPredicate⟩

namespace Table

/-- What a selection may be: a column, a projection or an aggregate. -/
def Selectable (e : Expr) : Prop := e.isAggregate ∨ (∃ c, e = .column c) ∨ ∃ d, e = .derived d

/-- A table whose every part comes from checked operations. -/
structure IsChecked (t : Table) : Prop where
  selection : ∀ e ∈ t.selection, Checked e ∧ Selectable e
  filter : ∀ p ∈ t.filter, Checked p.expr
  ordering : ∀ k ∈ t.ordering, Checked k.expr

theorem groupingDefects_eq_nil {e : Expr} (selectable : Selectable e) :
    e.groupingDefects = [] := by
  obtain isAggregate | ⟨c, rfl⟩ | ⟨d, rfl⟩ := selectable
  · cases e with
    | aggregate base op a => rfl
    | _ => cases isAggregate
  · rfl
  · rfl

theorem IsChecked.defects_eq_nil {t : Table} (checked : t.IsChecked) : t.defects = [] := by
  simp only [defects, List.append_eq_nil_iff, List.flatMap_eq_nil_iff]
  refine ⟨fun e member => ?_, fun p member => ?_, fun e member => ?_, fun k member => ?_⟩
  · exact (checked.selection e member).1.faultless.defects
  · exact (checked.filter p (Option.mem_toList.1 member)).faultless.defects
  · exact groupingDefects_eq_nil (checked.selection e member).2
  · exact (checked.ordering k member).faultless.defects

/-- Checked operations never aggregate anything but a column that is no array or a projection,
never join anything but predicates, and the tables they fill always are queries. -/
theorem checked_tables_are_queries :
    (∀ e, Checked e → ∀ base op a, .aggregate base op a ∈ e.parts → base.IsBase) ∧
      (∀ e, Checked e → ∀ left op right, .binary left op right ∈ e.parts →
        op = .and ∨ op = .or → left.isPredicate ∧ right.isPredicate) ∧
      ∀ t : Table, t.IsChecked → ∃ q, t.toQuery = .ok q := by
  refine ⟨fun e built base op a member => ?_, fun e built left op right member junction => ?_,
    fun t checked => ?_⟩
  · exact built.faultless.sound _ member
  · apply built.faultless.sound _ member
    rcases junction with rfl | rfl <;> rfl
  · exact ⟨t.image, toQuery_eq_ok_iff.2 ⟨checked.defects_eq_nil, rfl⟩⟩

/-- A window into the past joined with a membership test, over a column and an aggregate that
was built by the check on shapes. -/
theorem checked_tables_are_queries_window :
    let day : Column := ⟨"day", some "d", .date⟩
    let year : Expr := .derived (.of day .year)
    let recent := ((PastWindow.dates Date.latest 7 1 .weeks).test (.column day)).value
    let tagged := (Expr.column (.of .array "tags")).hasAny [.i32 1, .string "x"]
    let t := { named "sales" with
      selection := [.column day, year.aggregated .max]
      filter := some ⟨recent.or tagged, rfl⟩
      ordering := [⟨year.compared .eq (.scalar (.i64 2024)), .ascending⟩] }
    t.IsChecked ∧ ∃ q, t.toQuery = .ok q := by
  intro day year recent tagged t
  have column : Checked (.column day) := .receiver (.typed day)
  have maximum : Checked (year.aggregated .max) :=
    .checkedAggregate .max (.receiver (.derived (.of day .year))) rfl
  have window : Checked recent := .inPastAt (.dates Date.latest 7 1 .weeks) (.typed day) rfl
  have member : Checked tagged :=
    .hasAny (.typed (.of .array "tags")) rfl fun value listed => by
      simp only [List.mem_cons, List.not_mem_nil, or_false] at listed
      rcases listed with rfl | rfl <;> exact Scalar.noConfusion
  have either : Checked (recent.or tagged) := .joined .or window member rfl rfl
  have equal : Checked (year.compared .eq (.scalar (.i64 2024))) :=
    .comparison .equals (.derived (.of day .year)) rfl (.literal Scalar.noConfusion)
  have checked : t.IsChecked := by
    refine ⟨fun e listed => ?_, fun p chosen => ?_, fun k listed => ?_⟩
    · rcases List.mem_cons.1 listed with rfl | listed
      · exact ⟨column, .inr (.inl ⟨day, rfl⟩)⟩
      · rw [List.mem_singleton.1 listed]
        exact ⟨maximum, .inl rfl⟩
    · rw [← Option.some.inj chosen]
      exact either
    · rw [List.mem_singleton.1 listed]
      exact equal
  exact ⟨checked, checked_tables_are_queries.2.2 t checked⟩

end Table

end DatasetQuery
