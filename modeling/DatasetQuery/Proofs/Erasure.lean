import DatasetQuery.Proofs.Defects
/-!
What a query tells of its table. Kinds of columns never reach the wire, nor do aliases other than
those of whole selections; erasing them leaves exactly what the query is made of, so that two
tables have one query precisely if they agree up to erasure.
-/
namespace DatasetQuery

theorem BooleanOperator.mem_all (op : BooleanOperator) : op ∈ all := by
  cases op <;> decide

theorem BooleanOperator.code_injective {a b : BooleanOperator} (h : a.code = b.code) : a = b :=
  (by decide : ∀ a ∈ all, ∀ b ∈ all, a.code = b.code → a = b) a a.mem_all b b.mem_all h

theorem UnaryOperator.mem_all (op : UnaryOperator) : op ∈ all := by
  cases op <;> decide

theorem UnaryOperator.code_injective {a b : UnaryOperator} (h : a.code = b.code) : a = b :=
  (by decide : ∀ a ∈ all, ∀ b ∈ all, a.code = b.code → a = b) a a.mem_all b b.mem_all h

theorem AggregateOperator.mem_all (op : AggregateOperator) : op ∈ all := by
  cases op <;> decide

theorem AggregateOperator.code_injective {a b : AggregateOperator} (h : a.code = b.code) : a = b :=
  (by decide : ∀ a ∈ all, ∀ b ∈ all, a.code = b.code → a = b) a a.mem_all b b.mem_all h

theorem ProjectionOperator.mem_all (op : ProjectionOperator) : op ∈ all := by
  cases op <;> decide

theorem ProjectionOperator.code_injective {a b : ProjectionOperator} (h : a.code = b.code) :
    a = b :=
  (by decide : ∀ a ∈ all, ∀ b ∈ all, a.code = b.code → a = b) a a.mem_all b b.mem_all h

theorem Direction.code_injective {a b : Direction} (h : a.code = b.code) : a = b := by
  cases a <;> cases b <;> first | rfl | exact absurd h (by decide)

theorem Scalar.image_injective {a b : Scalar} (h : a.image = b.image) : a = b := by
  cases a <;> cases b <;> cases h <;> rfl

theorem Scalar.image_ne_list (s : Scalar) (values : List Wire.Literal) :
    s.image ≠ .list values := by
  cases s <;> exact Wire.Literal.noConfusion

/-- A constant is its message: floating point is compared by its bits. -/
theorem Literal.image_injective {a b : Literal} (h : a.image = b.image) : a = b := by
  cases a with
  | scalar a =>
    cases b with
    | scalar b => rw [Scalar.image_injective h]
    | list bs => exact absurd h (a.image_ne_list _)
  | list as =>
    cases b with
    | scalar b => exact absurd h.symm (b.image_ne_list _)
    | list bs =>
      have same : as.map Scalar.image = bs.map Scalar.image := Wire.Literal.list.inj h
      rw [(List.map_inj_right fun _ _ => Scalar.image_injective).1 same]

namespace Expr

/-- A tree without the kinds of its columns and without aliases. -/
def erase : Expr → Expr
  | column c => column (.of .generic c.name)
  | literal l => literal l
  | derived d => derived (.of (.of .generic d.base.name) d.op)
  | aggregate base op _ => aggregate base.erase op none
  | binary left op right => binary left.erase op right.erase
  | unary operand op => unary operand.erase op

theorem isPredicate_erase (e : Expr) : e.erase.isPredicate = e.isPredicate := by
  cases e <;> rfl

theorem defects_erase (e : Expr) : e.erase.defects = e.defects := by
  induction e with
  | column c => rfl
  | literal l => rfl
  | derived d => rfl
  | aggregate base op a ih => exact ih
  | binary left op right ihLeft ihRight =>
    simp only [erase, defects, isPredicate_erase, ihLeft, ihRight]
  | unary operand op ih => exact ih

theorem groupingDefects_erase (e : Expr) : e.erase.groupingDefects = e.groupingDefects := by
  cases e <;> rfl

theorem grouping?_erase (e : Expr) : e.erase.grouping? = e.grouping? := by
  cases e <;> rfl

theorem image_erase (e : Expr) : e.erase.image = e.image := by
  induction e with
  | column c => rfl
  | literal l => rfl
  | derived d => rfl
  | aggregate base op a ih => simp only [erase, image, ih]
  | binary left op right ihLeft ihRight => simp only [erase, image, ihLeft, ihRight]
  | unary operand op ih => simp only [erase, image, ih]

/-- Nothing but kinds and aliases is lost on the way to the wire. The number of arguments tells
null checks from comparisons, whose codes are drawn from one set. -/
theorem erase_eq_of_image_eq {e f : Expr} (h : e.image = f.image) : e.erase = f.erase := by
  induction e generalizing f with
  | column c =>
    cases f with
    | column c' => simp only [erase, Wire.Expression.column.inj h]
    | _ => cases h
  | literal l =>
    cases f with
    | literal l' => rw [Literal.image_injective (Wire.Expression.literal.inj h)]
    | _ => cases h
  | derived d =>
    cases f with
    | derived d' =>
      obtain ⟨argument, code⟩ := Wire.Expression.derived.inj h
      have name := Wire.Expression.column.inj (Option.some.inj argument)
      simp only [erase, name, ProjectionOperator.code_injective code]
    | _ => cases h
  | aggregate base op a ih =>
    cases f with
    | aggregate base' op' a' =>
      obtain ⟨argument, code⟩ := Wire.Expression.aggregate.inj h
      simp only [erase, ih (Option.some.inj argument), AggregateOperator.code_injective code]
    | _ => cases h
  | binary left op right ihLeft ihRight =>
    cases f with
    | binary left' op' right' =>
      obtain ⟨code, arguments⟩ := Wire.Expression.condition.inj h
      obtain ⟨first, rest⟩ := List.cons.inj arguments
      simp only [erase, BooleanOperator.code_injective code, ihLeft first,
        ihRight (List.cons.inj rest).1]
    | unary operand op' =>
      obtain ⟨_, arguments⟩ := Wire.Expression.condition.inj h
      cases (List.cons.inj arguments).2
    | _ => cases h
  | unary operand op ih =>
    cases f with
    | unary operand' op' =>
      obtain ⟨code, arguments⟩ := Wire.Expression.condition.inj h
      simp only [erase, UnaryOperator.code_injective code, ih (List.cons.inj arguments).1]
    | binary left op' right =>
      obtain ⟨_, arguments⟩ := Wire.Expression.condition.inj h
      cases (List.cons.inj arguments).2
    | _ => cases h

theorem image_eq_iff {e f : Expr} : e.image = f.image ↔ e.erase = f.erase := by
  constructor
  · exact erase_eq_of_image_eq
  · intro h
    rw [← image_erase e, h, image_erase]

/-- What is left of a whole selection, which keeps its alias. -/
def shown (e : Expr) : Expr × Option String := (e.erase, e.alias?)

end Expr

/-- A predicate is told by the content of its condition. -/
theorem Predicate.ofCondition_image (p : Predicate) :
    Wire.Expression.ofCondition p.image = p.expr.image := by
  obtain ⟨e, predicate⟩ := p
  cases e with
  | binary left op right => rfl
  | unary operand op => rfl
  | _ => cases predicate

def Predicate.erase (p : Predicate) : Expr := p.expr.erase

theorem Predicate.image_eq_iff {p q : Predicate} : p.image = q.image ↔ p.erase = q.erase := by
  rw [erase, erase, ← Expr.image_eq_iff, ← p.ofCondition_image, ← q.ofCondition_image]
  constructor
  · exact congrArg _
  · exact congrArg Wire.Expression.content

def SortKey.shown (k : SortKey) : Expr × Direction := (k.expr.erase, k.direction)

theorem SortKey.image_eq_iff {j k : SortKey} : j.image = k.image ↔ j.shown = k.shown := by
  simp only [image, shown, Wire.SortKey.mk.injEq, Option.some.injEq, Prod.mk.injEq,
    Expr.image_eq_iff]
  constructor
  · rintro ⟨same, code⟩
    exact ⟨same, Direction.code_injective code⟩
  · rintro ⟨same, direction⟩
    exact ⟨same, by rw [direction]⟩

/-- Lists that agree in one respect agree in every respect that depends on it. -/
theorem map_eq_of_map_eq {α β γ : Type} {f : α → β} {g : α → γ}
    (depends : ∀ x y, f x = f y → g x = g y) {xs ys : List α} (same : xs.map f = ys.map f) :
    xs.map g = ys.map g := by
  induction xs generalizing ys with
  | nil =>
    cases ys with
    | nil => rfl
    | cons y ys => cases same
  | cons x xs ih =>
    cases ys with
    | nil => cases same
    | cons y ys =>
      obtain ⟨first, rest⟩ := List.cons.inj same
      rw [List.map_cons, List.map_cons, depends x y first, ih rest]

namespace Table

/-- Agreement on the parts of a table that its query shows. A source hides the package behind
it. -/
structure Agree (t u : Table) : Prop where
  name : t.name = u.name
  datasetVersion : t.datasetVersion = u.datasetVersion
  source : t.source = u.source
  package : t.source = none → t.packageId = u.packageId
  limit : t.limit = u.limit
  selection : t.selection.map Expr.shown = u.selection.map Expr.shown
  filter : t.filter.map Predicate.erase = u.filter.map Predicate.erase
  ordering : t.ordering.map SortKey.shown = u.ordering.map SortKey.shown

theorem address_eq_iff {t u : Table} :
    t.address = u.address ↔
      t.source = u.source ∧ (t.source = none → t.packageId = u.packageId) := by
  unfold address
  cases ht : t.source <;> cases hu : u.source <;> simp

theorem selection_image_eq_iff {xs ys : List Expr} :
    (xs.map fun e => (⟨some e.image, e.alias?⟩ : Wire.Selection)) =
        (ys.map fun e => ⟨some e.image, e.alias?⟩) ↔
      xs.map Expr.shown = ys.map Expr.shown := by
  constructor
  · apply map_eq_of_map_eq
    intro e f same
    obtain ⟨argument, alias_⟩ := Wire.Selection.mk.inj same
    rw [Expr.shown, Expr.shown, Expr.image_eq_iff.1 (Option.some.inj argument), alias_]
  · apply map_eq_of_map_eq
    intro e f same
    obtain ⟨erased, alias_⟩ := Prod.mk.inj same
    rw [Expr.image_eq_iff.2 erased, alias_]

theorem filter_image_eq_iff {a b : Option Predicate} :
    a.map Predicate.image = b.map Predicate.image ↔
      a.map Predicate.erase = b.map Predicate.erase := by
  cases a <;> cases b <;> simp [Predicate.image_eq_iff]

theorem ordering_image_eq_iff {xs ys : List SortKey} :
    xs.map SortKey.image = ys.map SortKey.image ↔ xs.map SortKey.shown = ys.map SortKey.shown :=
  ⟨map_eq_of_map_eq fun _ _ => SortKey.image_eq_iff.1,
    map_eq_of_map_eq fun _ _ => SortKey.image_eq_iff.2⟩

theorem limit_image_eq_iff {a b : UInt64} :
    ((if a = 0 then none else some a) = if b = 0 then none else some b) ↔ a = b := by
  by_cases ha : a = 0 <;> by_cases hb : b = 0 <;> simp [ha, hb, Ne.symm]

theorem Agree.selection_map {γ : Type} {f : Expr → γ} (forgets : ∀ e, f e.erase = f e)
    {t u : Table} (agree : Agree t u) : t.selection.map f = u.selection.map f := by
  refine map_eq_of_map_eq (fun x y same => ?_) agree.selection
  rw [← forgets x, (Prod.mk.inj same).1, forgets y]

/-- The defects of a table depend on its shown parts only. -/
theorem Agree.defects_eq {t u : Table} (agree : Agree t u) : t.defects = u.defects := by
  have selected := agree.selection_map Expr.defects_erase
  have grouped := agree.selection_map Expr.groupingDefects_erase
  have ordered : t.ordering.map SortKey.defects = u.ordering.map SortKey.defects := by
    refine map_eq_of_map_eq (fun j k same => ?_) agree.ordering
    rw [SortKey.defects, ← j.expr.defects_erase, (Prod.mk.inj same).1, k.expr.defects_erase]
    rfl
  have filtered :
      t.filter.toList.map Predicate.defects = u.filter.toList.map Predicate.defects := by
    have same := congrArg Option.toList agree.filter
    rw [Option.toList_map, Option.toList_map] at same
    refine map_eq_of_map_eq (fun p q same => ?_) same
    rw [Predicate.erase, Predicate.erase] at same
    rw [Predicate.defects, ← p.expr.defects_erase, same, q.expr.defects_erase]
    rfl
  simp only [defects, List.flatMap_def, selected, grouped, ordered, filtered]

/-- The query of a table shows its shown parts, and shows them completely. -/
theorem image_eq_iff {t u : Table} : t.image = u.image ↔ Agree t u := by
  constructor
  · intro h
    obtain ⟨address, name, select, filter, _, ordering, limit, version, _⟩ := Wire.Query.mk.inj h
    obtain ⟨source, package⟩ := address_eq_iff.1 (Option.some.inj address)
    exact {
      name
      datasetVersion := (Wire.ClientVersion.mk.inj (Option.some.inj version)).2.2
      source
      package
      limit := limit_image_eq_iff.1 limit
      selection := selection_image_eq_iff.1 select
      filter := filter_image_eq_iff.1 filter
      ordering := ordering_image_eq_iff.1 ordering }
  · intro agree
    have groupings :
        t.selection.filterMap Expr.grouping? = u.selection.filterMap Expr.grouping? := by
      have := congrArg (List.filterMap id) (agree.selection_map Expr.grouping?_erase)
      simpa only [List.filterMap_map, Function.id_comp] using this
    simp only [image, address_eq_iff.2 ⟨agree.source, agree.package⟩, agree.name,
      agree.datasetVersion, agree.limit, selection_image_eq_iff.2 agree.selection,
      filter_image_eq_iff.2 agree.filter, ordering_image_eq_iff.2 agree.ordering, groupings]

/-- Tables that agree have one outcome, be it a query or an error, and tables that have one
query agree. -/
theorem toQuery_lossless (t u : Table) :
    (Agree t u → t.toQuery = u.toQuery) ∧
      ∀ q, t.toQuery = .ok q → u.toQuery = .ok q → Agree t u := by
  constructor
  · intro agree
    rw [toQuery_eq, toQuery_eq, agree.defects_eq, image_eq_iff.2 agree]
  · intro q first second
    -- both messages are images, and images tell tables apart up to erasure
    have left := (toQuery_eq_ok_iff.1 first).2
    have right := (toQuery_eq_ok_iff.1 second).2
    exact image_eq_iff.1 (left.trans right.symm)

/-- Behind a source the package does not show, and below a selection neither do kinds and
aliases. -/
theorem toQuery_lossless_behind_source :
    let sales := fun package (c : Column) => { named "sales" with
      packageId := package, source := some "s", limit := 5
      selection := [.aggregate (.column c) .sum (some "total")] }
    let left := sales "a" ⟨"price", some "p", .generic⟩
    let right := sales "b" ⟨"price", none, .date⟩
    left.toQuery = right.toQuery ∧ Agree left right := by
  intro sales left right
  have forward := (toQuery_lossless left right).1 ⟨rfl, rfl, rfl, nofun, rfl, rfl, rfl, rfl⟩
  exact ⟨forward, (toQuery_lossless left right).2 _ rfl rfl⟩

end Table

end DatasetQuery
