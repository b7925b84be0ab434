import DatasetQuery.Proofs.Changes
import DatasetQuery.Proofs.Defects
import Mathlib.Data.List.Forall2
/-!
What a query makes of the selection of its table. Rows are grouped on every selection that is no
aggregate, and an ordering by an alias sends the very argument that the selection under that alias
sends.
-/
namespace DatasetQuery

variable {α β ε : Type}

/-- What succeeds in two steps has succeeded in both. -/
theorem exists_ok_of_bind {x : Except ε α} {f : α → Except ε β} {y : β}
    (succeeded : (x >>= f) = .ok y) : ∃ a, x = .ok a ∧ f a = .ok y := by
  cases x with
  | error e => cases succeeded
  | ok a => exact ⟨a, rfl, succeeded⟩

/-- A traversal that succeeds has succeeded at every element. -/
theorem forall₂_of_mapM {f : α → Except ε β} {xs : List α} {ys : List β}
    (traversed : xs.mapM f = .ok ys) : List.Forall₂ (fun x y => f x = .ok y) xs ys := by
  induction xs generalizing ys with
  | nil =>
    cases traversed
    exact .nil
  | cons x xs ih =>
    rw [List.mapM_cons] at traversed
    obtain ⟨y, first, others⟩ := exists_ok_of_bind traversed
    obtain ⟨rest, tail, whole⟩ := exists_ok_of_bind others
    cases whole
    exact .cons first (ih tail)

theorem mapM_eq_ok_iff {f : α → Except ε β} {xs : List α} {ys : List β} :
    xs.mapM f = .ok ys ↔ List.Forall₂ (fun x y => f x = .ok y) xs ys := by
  refine ⟨forall₂_of_mapM, fun each => ?_⟩
  induction each with
  | nil => rfl
  | cons first _ ih =>
    rw [List.mapM_cons, first, ih]
    rfl

/-- A traversal succeeds if it can pass every element. -/
theorem exists_mapM_iff {f : α → Except ε β} {xs : List α} :
    (∃ ys, xs.mapM f = .ok ys) ↔ ∀ x ∈ xs, ∃ y, f x = .ok y := by
  simp only [mapM_eq_ok_iff]
  induction xs with
  | nil => simp
  | cons x xs ih => simp [List.forall₂_cons_left_iff, ← ih]

/-- A traversal fails where it fails first. -/
theorem mapM_eq_error_iff {f : α → Except ε β} {xs : List α} {e : ε} : xs.mapM f = .error e ↔
    ∃ before x after, xs = before ++ x :: after ∧ f x = .error e ∧
      ∀ y ∈ before, ∃ z, f y = .ok z := by
  constructor
  · intro failed
    induction xs with
    | nil => cases failed
    | cons x xs ih =>
      rw [List.mapM_cons] at failed
      cases first : f x with
      | error reason =>
        rw [first] at failed
        cases failed
        exact ⟨[], x, xs, rfl, first, List.forall_mem_nil _⟩
      | ok y =>
        cases others : xs.mapM f with
        | error reason =>
          rw [first, others] at failed
          cases failed
          obtain ⟨before, z, after, rfl, here, passed⟩ := ih others
          exact ⟨x :: before, z, after, rfl, here, List.forall_mem_cons.2 ⟨⟨y, first⟩, passed⟩⟩
        | ok ys =>
          rw [first, others] at failed
          cases failed
  · rintro ⟨before, x, after, rfl, here, passed⟩
    induction before with
    | nil =>
      rw [List.nil_append, List.mapM_cons, here]
      rfl
    | cons y before ih =>
      obtain ⟨⟨z, first⟩, others⟩ := List.forall_mem_cons.1 passed
      rw [List.cons_append, List.mapM_cons, first, ih others]
      rfl

namespace Wire

def Expression.isAggregate : Expression → Bool
  | aggregate _ _ => true
  | _ => false

/-- Constants and conditions are never selected. -/
def Expression.IsSelectable : Expression → Prop
  | column _ | derived _ _ | aggregate _ _ => True
  | unset | literal _ | condition _ _ => False

def Selection.isAggregate (s : Selection) : Bool := s.argument.any Expression.isAggregate

/-- What a grouping groups on, as an argument. -/
def Grouping.argument : Grouping → Option Expression
  | unset => none
  | column name => some (.column name)
  | derived content => some (.ofDerived content)

end Wire

namespace Expr

/-- How an expression is selected. -/
def selected (e : Expr) : Wire.Selection := ⟨some e.image, e.alias?⟩

@[simp]
theorem isAggregate_image (e : Expr) : e.image.isAggregate = e.isAggregate := by
  cases e <;> rfl

@[simp]
theorem isAggregate_selected (e : Expr) : e.selected.isAggregate = e.isAggregate :=
  e.isAggregate_image

theorem isSelectable_image {e : Expr} (groupable : e.groupingDefects = []) :
    e.image.IsSelectable := by
  cases e with
  | column c => trivial
  | derived d => trivial
  | aggregate base op a => trivial
  | literal l => cases groupable
  | binary left op right => cases groupable
  | unary operand op => cases groupable

/-- An expression is grouped on as it is selected, unless it is an aggregate. -/
theorem grouping?_argument {e : Expr} (groupable : e.groupingDefects = []) :
    e.grouping?.map Wire.Grouping.argument =
      if e.isAggregate then none else some e.selected.argument := by
  cases e with
  | column c => rfl
  | derived d => rfl
  | aggregate base op a => rfl
  | literal l => cases groupable
  | binary left op right => cases groupable
  | unary operand op => cases groupable

end Expr

namespace Table

variable {t : Table} {q : Wire.Query}

theorem select_of_toQuery (translated : t.toQuery = .ok q) :
    q.select = t.selection.map Expr.selected := by
  obtain ⟨_, rfl⟩ := toQuery_eq_ok_iff.1 translated
  rfl

theorem groupBy_of_toQuery (translated : t.toQuery = .ok q) :
    q.groupBy = t.selection.filterMap Expr.grouping? := by
  obtain ⟨_, rfl⟩ := toQuery_eq_ok_iff.1 translated
  rfl

theorem orderBy_of_toQuery (translated : t.toQuery = .ok q) :
    q.orderBy = t.ordering.map SortKey.image := by
  obtain ⟨_, rfl⟩ := toQuery_eq_ok_iff.1 translated
  rfl

/-- A table that is a query selects only what can be grouped on and aggregates, and sorts by nothing
defective. -/
theorem faultless_of_toQuery (translated : t.toQuery = .ok q) :
    (∀ e ∈ t.selection, e.groupingDefects = []) ∧ ∀ k ∈ t.ordering, k.expr.defects = [] := by
  have faultless := (toQuery_eq_ok_iff.1 translated).1
  simp only [defects, List.append_eq_nil_iff, List.flatMap_eq_nil_iff] at faultless
  exact faultless.2.2

/-- The groupings are the selections but for the aggregates, each on the argument selected. -/
theorem groupBy_arguments (translated : t.toQuery = .ok q) :
    q.groupBy.map Wire.Grouping.argument =
      (q.select.filter (!·.isAggregate)).map Wire.Selection.argument := by
  have groupable := (faultless_of_toQuery translated).1
  rw [groupBy_of_toQuery translated, select_of_toQuery translated, List.map_filterMap,
    List.filter_map, List.map_map, ← List.filterMap_eq_map, List.filterMap_filter]
  -- both lists are now read off the selection, one expression at a time
  apply List.filterMap_congr
  intro e among
  rw [Expr.grouping?_argument (groupable e among)]
  cases aggregate : e.isAggregate <;> simp [aggregate]

/-- How a query groups: on its selections that are no aggregates, in their order, and on nothing
else. -/
structure Groups (t : Table) (q : Wire.Query) : Prop where
  selectable : ∀ s ∈ q.select, ∃ e, s.argument = some e ∧ e.IsSelectable
  arguments : q.groupBy.map Wire.Grouping.argument =
    (q.select.filter (!·.isAggregate)).map Wire.Selection.argument
  complement : q.groupBy.length + q.select.countP Wire.Selection.isAggregate = q.select.length
  aggregates : q.groupBy.length + t.selection.countP Expr.isAggregate = t.selection.length

theorem groups_selected_but_aggregates (t : Table) (q : Wire.Query)
    (translated : t.toQuery = .ok q) : t.Groups q := by
  have arguments := groupBy_arguments translated
  have complement :
      q.groupBy.length + q.select.countP Wire.Selection.isAggregate = q.select.length := by
    have lengths := congrArg List.length arguments
    rw [List.length_map, List.length_map, ← List.countP_eq_length_filter] at lengths
    rw [lengths, List.length_eq_countP_add_countP Wire.Selection.isAggregate, Nat.add_comm]
    simp
  have select := select_of_toQuery translated
  refine ⟨?_, arguments, complement, ?_⟩
  · intro s among
    rw [select] at among
    obtain ⟨e, chosen, rfl⟩ := List.mem_map.1 among
    exact ⟨e.image, rfl, Expr.isSelectable_image ((faultless_of_toQuery translated).1 e chosen)⟩
  · rw [select, List.countP_map, List.length_map] at complement
    simpa [Function.comp_def] using complement

theorem groups_selected_but_aggregates_twice :
    let price : Column := .of .generic "price"
    let year : Derived := .of (.of .date "created") .year
    let t := { named "sales" with
      selection := [.column ⟨"shop", some "place", .string⟩,
        .aggregate (.column price) .sum (some "total"), .derived year,
        .column (.of .string "shop")] }
    t.toQuery = .ok t.image ∧ t.Groups t.image ∧
      t.image.groupBy = [.column "shop", .derived ⟨some (.column "created"), 0⟩, .column "shop"] := by
  intro price year t
  have translated : t.toQuery = .ok t.image := rfl
  exact ⟨translated, groups_selected_but_aggregates t t.image translated, rfl⟩

end Table

/-- Only the exact text `ASC` is read as ascending. -/
theorem Direction.ofText_eq_ascending_iff {s : String} : ofText s = ascending ↔ s = "ASC" := by
  rw [ofText]
  split
  · next ascends => exact iff_of_true rfl ascends
  · next other => exact iff_of_false Direction.noConfusion other

/-- The schema names the code of a direction by its text. -/
theorem Direction.codeName?_code_iff (d other : Direction) :
    Wire.codeName? Wire.directionNames d.code = some other.text ↔ d = other := by
  cases d <;> cases other <;> decide

/-- Filters and limits change which rows there are, and not what is shown of them. -/
def Change.restricts : Change → Bool
  | filter _ | limit _ => true
  | select _ | orderBy _ => false

namespace Table

/-- Two tables that show the same of their rows. -/
structure SameView (t u : Table) : Prop where
  columns : u.columns = t.columns
  selection : u.selection = t.selection
  ordering : u.ordering = t.ordering

theorem SameView.trans {t u v : Table} (first : t.SameView u) (second : u.SameView v) :
    t.SameView v :=
  ⟨second.columns.trans first.columns, second.selection.trans first.selection,
    second.ordering.trans first.ordering⟩

theorem applyOrKeep_restricting (t : Table) {change : Change} (restricts : change.restricts) :
    t.SameView (t.applyOrKeep change) := by
  cases change with
  | filter p => exact ⟨rfl, rfl, rfl⟩
  | limit n => exact ⟨rfl, rfl, rfl⟩
  | select selectors => cases restricts
  | orderBy keys => cases restricts

theorem applyAll_restricting (t : Table) {changes : List Change}
    (restrict : ∀ change ∈ changes, change.restricts) : t.SameView (t.applyAll changes) := by
  induction changes generalizing t with
  | nil => exact ⟨rfl, rfl, rfl⟩
  | cons change changes ih =>
    obtain ⟨first, rest⟩ := List.forall_mem_cons.1 restrict
    exact (t.applyOrKeep_restricting first).trans (ih (t.applyOrKeep change) rest)

theorem columns_of_select {t u : Table} {selectors : List Selector}
    (selected : t.select selectors = .ok u) : u.columns = t.columns := by
  obtain ⟨selection, _, replaced⟩ := exists_ok_of_bind selected
  cases replaced
  rfl

theorem sorted_of_orderBy {t u : Table} {keys : List (Selector × Direction)}
    (ordered : t.orderBy keys = .ok u) :
    t.sorted keys = .ok u.ordering ∧ u.selection = t.selection := by
  obtain ⟨ordering, sorted, replaced⟩ := exists_ok_of_bind ordered
  cases replaced
  exact ⟨sorted, rfl⟩

/-- Whether a name is that of a declared column. -/
def Declares (t : Table) (name : String) : Prop := ∃ c ∈ t.columns, c.name = name

theorem orderable?_of_declares {t : Table} {name : String} (declared : t.Declares name) :
    ∃ c : Column, t.orderable? name = some (.column c) ∧ c.name = name := by
  obtain ⟨c, among, rfl⟩ := declared
  have found : (t.column? c.name).isSome := by
    rw [column?, List.find?_isSome]
    exact ⟨c, List.mem_reverse.2 among, beq_self_eq_true c.name⟩
  obtain ⟨last, there⟩ := Option.isSome_iff_exists.1 found
  refine ⟨last, by simp [orderable?, selectable?, there], ?_⟩
  simpa using List.find?_some there

theorem orderable?_of_not_declares {t : Table} {name : String} (undeclared : ¬t.Declares name) :
    t.orderable? name = t.aliased? name := by
  have absent : t.column? name = none := by
    rw [column?, List.find?_eq_none]
    intro c among named
    exact undeclared ⟨c, List.mem_reverse.1 among, by simpa using named⟩
  simp [orderable?, selectable?, absent]

/-- What a key of an ordering becomes in a query: a declared name is a reference, any other name
stands for the first selection sent under that alias. -/
structure Sends (t : Table) (q : Wire.Query) (key : Selector × Direction) (entry : Wire.SortKey) :
    Prop where
  declared : ∀ name, key.1 = .name name → t.Declares name → entry.argument = some (.column name)
  aliased : ∀ name, key.1 = .name name → ¬t.Declares name →
    ∃ s, q.select.find? (·.alias? == some name) = some s ∧ entry.argument = s.argument
  given : ∀ e, key.1 = .expr e → ∃ m, e.toWire = .ok m ∧ entry.argument = some m
  ascending : entry.direction.bind (Wire.codeName? Wire.directionNames) = some "ASC" ↔
    key.2 = .ascending
  descending : entry.direction.bind (Wire.codeName? Wire.directionNames) = some "DESC" ↔
    key.2 = .descending

theorem Sends.of_columns {t u : Table} (columns : u.columns = t.columns) {q : Wire.Query}
    {key : Selector × Direction} {entry : Wire.SortKey} (sends : u.Sends q key entry) :
    t.Sends q key entry := by
  have declares (name : String) : u.Declares name ↔ t.Declares name := by
    rw [Declares, Declares, columns]
  refine ⟨?_, ?_, sends.given, sends.ascending, sends.descending⟩
  · intro name named declared
    exact sends.declared name named ((declares name).2 declared)
  · intro name named undeclared
    exact sends.aliased name named (mt (declares name).1 undeclared)

theorem sends_of_resolve {t : Table} {q : Wire.Query} {key : Selector × Direction} {expr : Expr}
    (select : q.select = t.selection.map Expr.selected)
    (resolved : resolve t.orderable? key.1 = .ok expr) (faultless : expr.defects = []) :
    t.Sends q key (SortKey.image ⟨expr, key.2⟩) := by
  obtain ⟨selector, direction⟩ := key
  have stands {name : String} (named : selector = .name name) : t.orderable? name = some expr := by
    subst named
    simp only [resolve] at resolved
    split at resolved
    · next e found => rw [found, Except.ok.inj resolved]
    · cases resolved
  refine ⟨?_, ?_, ?_, ?_, ?_⟩
  · intro name named declared
    obtain ⟨c, found, rfl⟩ := orderable?_of_declares declared
    cases (stands named).symm.trans found
    rfl
  · intro name named undeclared
    have first : t.selection.find? (·.alias? == some name) = some expr :=
      (orderable?_of_not_declares undeclared).symm.trans (stands named)
    refine ⟨expr.selected, ?_, rfl⟩
    rw [select, List.find?_map]
    exact congrArg (Option.map Expr.selected) first
  · intro e given
    cases given
    cases resolved
    exact ⟨expr.image, by rw [Expr.toWire_eq, faultless, judged_nil], rfl⟩
  · exact direction.codeName?_code_iff .ascending
  · exact direction.codeName?_code_iff .descending

/-- The keys of an ordering are sent one by one, in their order. -/
theorem sends_of_sorted {t u : Table} {q : Wire.Query} {keys : List (Selector × Direction)}
    (sorted : t.sorted keys = .ok u.ordering) (selection : u.selection = t.selection)
    (translated : u.toQuery = .ok q) : List.Forall₂ (t.Sends q) keys q.orderBy := by
  have select : q.select = t.selection.map Expr.selected := by
    rw [select_of_toQuery translated, selection]
  obtain ⟨length, each⟩ := List.forall₂_iff_zip.1 (forall₂_of_mapM sorted)
  rw [orderBy_of_toQuery translated, List.forall₂_map_right_iff]
  refine List.forall₂_iff_zip.2 ⟨length, ?_⟩
  intro key k paired
  have faultless : k.expr.defects = [] :=
    (faultless_of_toQuery translated).2 k (List.of_mem_zip paired).2
  obtain ⟨expr, resolved, keyed⟩ := exists_ok_of_bind (each paired)
  cases keyed
  exact sends_of_resolve select resolved faultless

/-- An ordering by a name sends what the caller sees under that name, and ascends only where that is
asked for. -/
theorem orderings_send_what_is_seen :
    (∀ (t selected ordered : Table) (selectors : List Selector)
      (keys : List (Selector × Direction)) (between after : List Change) (q : Wire.Query),
      (∀ change ∈ between, change.restricts) → (∀ change ∈ after, change.restricts) →
      t.select selectors = .ok selected →
      (selected.applyAll between).orderBy keys = .ok ordered →
      (ordered.applyAll after).toQuery = .ok q →
      List.Forall₂ (t.Sends q) keys q.orderBy) ∧
    ∀ s, Direction.ofText s = .ascending ↔ s = "ASC" := by
  refine ⟨?_, fun _ => Direction.ofText_eq_ascending_iff⟩
  intro t selected ordered selectors keys between after q before behind select orderBy translated
  have restricted := selected.applyAll_restricting before
  have finished := ordered.applyAll_restricting behind
  obtain ⟨sorted, selection⟩ := sorted_of_orderBy orderBy
  have sends : List.Forall₂ ((selected.applyAll between).Sends q) keys q.orderBy := by
    refine sends_of_sorted ?_ (finished.selection.trans selection) translated
    rw [sorted, finished.ordering]
  have columns := restricted.columns.trans (columns_of_select select)
  exact sends.imp fun _ _ => Sends.of_columns columns

theorem orderings_send_what_is_seen_under_two_aliases :
    let price : Column := .of .generic "price"
    let total : Expr := .aggregate (.column price) .sum (some "total")
    let t := (named "sales").declare [price]
    let selected := { t with selection :=
      [total, .column ⟨"shop", some "total", .string⟩, .column ⟨"shop", some "price", .string⟩] }
    let keys : List (Selector × Direction) :=
      [(.name "total", .ofText "ASC"), (.name "price", .ofText "asc")]
    let ordered := { selected with
      limit := 10, ordering := [⟨total, .ascending⟩, ⟨.column price, .descending⟩] }
    t.select (selected.selection.map .expr) = .ok selected ∧
      (selected.applyAll [.limit 10]).orderBy keys = .ok ordered ∧
      ordered.toQuery = .ok ordered.image ∧
      List.Forall₂ (t.Sends ordered.image) keys ordered.image.orderBy := by
  intro price total t selected keys ordered
  refine ⟨rfl, rfl, rfl, ?_⟩
  refine orderings_send_what_is_seen.1 t selected ordered (selected.selection.map .expr) keys
    [.limit 10] [] ordered.image ?_ ?_ rfl rfl rfl
  · intro change among
    rw [List.mem_singleton.1 among]
    rfl
  · intro change among
    cases among

end Table

end DatasetQuery
