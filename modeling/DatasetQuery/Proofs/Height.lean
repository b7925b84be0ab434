import DatasetQuery.Proofs.Defects
import DatasetQuery.Proofs.RoundTrip
/-!
The levels that a table takes on the wire. They are read off its expressions, and a filter that
joins one comparison after the other runs out of them after 48 junctions.
-/
namespace DatasetQuery

namespace Literal

/-- The levels of messages below a constant; an empty list holds no further messages. -/
def height : Literal → Nat
  | scalar _ => 1
  | list [] => 2
  | list (_ :: _) => 3

end Literal

namespace Expr

/-- The levels of messages below an expression: two for every operator. -/
def height : Expr → Nat
  | column _ => 1
  | literal l => l.height
  | derived _ => 3
  | aggregate base _ _ => base.height + 2
  | binary left _ right => max left.height right.height + 2
  | unary operand _ => operand.height + 2

end Expr

theorem Scalar.image_depth (s : Scalar) : s.image.depth = 0 := by
  cases s <;> rfl

theorem Scalar.listDepth_image (s : Scalar) (values : List Scalar) :
    Wire.Literal.listDepth ((s :: values).map Scalar.image) = 1 := by
  apply Nat.le_antisymm
  · rw [Wire.Literal.listDepth_le_iff, List.forall_mem_map]
    exact fun value _ => Nat.le_of_eq (congrArg (· + 1) value.image_depth)
  · exact Nat.le_trans (Nat.le_add_left 1 _) (Nat.le_max_left _ _)

theorem Literal.image_depth (l : Literal) : l.image.depth + 1 = l.height := by
  cases l with
  | scalar value => exact congrArg (· + 1) value.image_depth
  | list values =>
    cases values with
    | nil => rfl
    | cons s values => exact congrArg (· + 2) (s.listDepth_image values)

theorem Expr.image_depth (e : Expr) : e.image.depth = e.height := by
  induction e with
  | column c => rfl
  | literal l => exact l.image_depth
  | derived d => rfl
  | aggregate base op a ih =>
    simp only [image, height, Wire.Expression.depth, Wire.Expression.argumentDepth, ih]
  | binary left op right ihLeft ihRight =>
    simp only [image, height, Wire.Expression.depth, Wire.Expression.argumentsDepth, ihLeft,
      ihRight]
    omega
  | unary operand op ih =>
    simp only [image, height, Wire.Expression.depth, Wire.Expression.argumentsDepth, ih]
    omega

/-- A filter is a condition, which saves the level of the choice around it. -/
theorem Predicate.image_depth (p : Predicate) : p.image.depth + 1 = p.expr.height := by
  have depth := p.expr.image_depth
  obtain ⟨e, isPredicate⟩ := p
  cases e with
  | binary left op right => exact depth
  | unary operand op => exact depth
  | _ => cases isPredicate

/-- The argument of a selection or of a sort key stands one level below it. -/
theorem Expr.argument_depth (e : Expr) :
    Wire.Expression.argumentDepth (some e.image) = e.height + 1 :=
  congrArg (· + 1) e.image_depth

theorem Expr.grouping?_depth {e : Expr} {g : Wire.Grouping} (grouped : e.grouping? = some g) :
    g.depth ≤ 3 := by
  cases e with
  | column c =>
    cases grouped
    exact Nat.le_add_left 1 2
  | derived d =>
    cases grouped
    exact Nat.le_refl 3
  | _ => cases grouped

namespace Table

/-- No expression takes more levels than there are where it stands. -/
structure Shallow (t : Table) : Prop where
  selection : ∀ e ∈ t.selection, e.height ≤ 98
  filter : ∀ p ∈ t.filter, p.expr.height ≤ 100
  ordering : ∀ k ∈ t.ordering, k.expr.height ≤ 98

theorem image_depth_le_iff (t : Table) : t.image.depth ≤ Wire.rootLevels ↔ t.Shallow := by
  have groupings : ∀ g ∈ t.image.groupBy, g.depth ≤ 99 := by
    intro g among
    obtain ⟨e, _, grouped⟩ := List.mem_filterMap.1 among
    exact Nat.le_trans (Expr.grouping?_depth grouped) (by decide)
  rw [Wire.rootLevels, Wire.Query.depth_le_iff]
  constructor
  · rintro ⟨select, filter, _, orderBy⟩
    refine ⟨fun e among => ?_, fun p chosen => ?_, fun k among => ?_⟩
    · have fits := select _ (List.mem_map_of_mem among)
      rw [Wire.Selection.depth, e.argument_depth] at fits
      exact Nat.le_of_succ_le_succ fits
    · have fits := filter p.image (congrArg (Option.map Predicate.image) chosen)
      rw [← p.image_depth]
      exact Nat.succ_le_succ fits
    · have fits := orderBy _ (List.mem_map_of_mem among)
      rw [Wire.SortKey.depth, SortKey.image, k.expr.argument_depth] at fits
      exact Nat.le_of_succ_le_succ fits
  · intro shallow
    refine ⟨fun s among => ?_, fun c present => ?_, groupings, fun k among => ?_⟩
    · obtain ⟨e, selected, rfl⟩ := List.mem_map.1 among
      rw [Wire.Selection.depth, e.argument_depth]
      exact Nat.succ_le_succ (shallow.selection e selected)
    · obtain ⟨p, chosen, rfl⟩ := Option.map_eq_some_iff.1 present
      have fits := shallow.filter p chosen
      rw [← p.image_depth] at fits
      exact Nat.le_of_succ_le_succ fits
    · obtain ⟨k, sorted, rfl⟩ := List.mem_map.1 among
      rw [Wire.SortKey.depth, SortKey.image, k.expr.argument_depth]
      exact Nat.succ_le_succ (shallow.ordering k sorted)

end Table

namespace Expr

/-- Comparisons of columns with constants, each but the first joined to those before it. -/
inductive Chain : (junctions : Nat) → Expr → Prop
  | comparison {op : BooleanOperator} (plain : op.isJunction = false) (c : Column) (s : Scalar) :
    Chain 0 (binary (column c) op (scalar s))
  | joined {op : BooleanOperator} (junction : op.isJunction = true) {n : Nat} {left right : Expr}
    (chain : Chain n left) (last : Chain 0 right) : Chain (n + 1) (binary left op right)

/-- There is a chain of any number of junctions. -/
theorem Chain.repeated {last : Expr} (comparison : Chain 0 last) (n : Nat) :
    Chain n (n.repeat (fun left => binary left .and last) last) := by
  induction n with
  | zero => exact comparison
  | succ n ih => exact .joined rfl ih comparison

theorem Chain.height_eq {n : Nat} {e : Expr} (chain : Chain n e) : e.height = 2 * n + 3 := by
  induction chain with
  | comparison plain c s => rfl
  | joined junction chain last ihChain ihLast =>
    rw [height, ihChain, ihLast]
    omega

end Expr

namespace Table

/-- A chain takes two levels for each junction, so that 48 of them are the most. -/
theorem shallow_iff_of_chain {t : Table} {p : Predicate} {n : Nat} (chosen : t.filter = some p)
    (chain : p.expr.Chain n) :
    t.Shallow ↔ n ≤ 48 ∧ (∀ e ∈ t.selection, e.height ≤ 98)
      ∧ ∀ k ∈ t.ordering, k.expr.height ≤ 98 := by
  have height := chain.height_eq
  constructor
  · intro shallow
    have fits := shallow.filter p chosen
    exact ⟨by omega, shallow.selection, shallow.ordering⟩
  · rintro ⟨few, selection, ordering⟩
    -- the chain is the only filter there is
    refine ⟨selection, fun p' chosen' => ?_, ordering⟩
    cases Option.some.inj (chosen.symm.trans chosen')
    omega

/-- A query comes back from its bytes up to a hundred levels of messages and is refused beyond
them. For a table the heights of its expressions decide, and a filter that is a chain has room
for 48 junctions. -/
theorem toQuery_survives_to_limit :
    (∀ q : Wire.Query, Wire.Query.decode q.encode =
        if q.depth ≤ 100 ∧ Wire.Framed q.fields then some q else none) ∧
      (∀ q : Wire.Query, q.encode.length < Wire.wordBound →
        Wire.Query.decode q.encode = if q.depth ≤ 100 then some q else none) ∧
      (∀ (t : Table) (q : Wire.Query), t.toQuery = .ok q → q.encode.length < Wire.wordBound →
        (Wire.Query.decode q.encode = some q ↔ t.Shallow)) ∧
      ∀ (t : Table) (q : Wire.Query) (p : Predicate) (n : Nat), t.toQuery = .ok q →
        q.encode.length < Wire.wordBound → t.filter = some p → p.expr.Chain n →
        (Wire.Query.decode q.encode = some q ↔
          n ≤ 48 ∧ (∀ e ∈ t.selection, e.height ≤ 98) ∧ ∀ k ∈ t.ordering, k.expr.height ≤ 98) := by
  have table : ∀ (t : Table) (q : Wire.Query), t.toQuery = .ok q →
      q.encode.length < Wire.wordBound → (Wire.Query.decode q.encode = some q ↔ t.Shallow) := by
    intro t q translated short
    obtain rfl := (toQuery_eq_ok_iff.1 translated).2
    rw [← t.image_depth_le_iff, Wire.Query.decode_encode_of_short short]
    simp
  refine ⟨Wire.Query.decode_encode, fun q => Wire.Query.decode_encode_of_short, table, ?_⟩
  intro t q p n translated short chosen chain
  rw [table t q translated short, shallow_iff_of_chain chosen chain]

/-- A filter of 49 comparisons comes back, and one of 50 does not. -/
theorem toQuery_survives_to_limit_comparisons :
    let last : Expr := .binary (.column (.of .generic "a")) .gt (.scalar (.i32 1))
    let filtered := fun n : Nat => { named "sales" with
      filter := some ⟨n.repeat (fun left => .binary left .and last) last, by cases n <;> rfl⟩ }
    (∃ q, (filtered 48).toQuery = .ok q ∧ Wire.Query.decode q.encode = some q) ∧
      ∃ q, (filtered 49).toQuery = .ok q ∧ Wire.Query.decode q.encode = none := by
  intro last filtered
  constructor
  · have translated : (filtered 48).toQuery = .ok (filtered 48).image := rfl
    have short : (filtered 48).image.encode.length < Wire.wordBound := by decide +kernel
    have chain := Expr.Chain.repeated (.comparison rfl _ _ : Expr.Chain 0 last) 48
    refine ⟨_, translated, ?_⟩
    exact (toQuery_survives_to_limit.2.2.2 _ _ _ 48 translated short rfl chain).2
      ⟨Nat.le_refl 48, nofun, nofun⟩
  · have deep : ¬(filtered 49).image.depth ≤ 100 := by decide +kernel
    refine ⟨(filtered 49).image, rfl, ?_⟩
    exact (toQuery_survives_to_limit.1 _).trans (if_neg fun both => deep both.1)

end Table

end DatasetQuery
