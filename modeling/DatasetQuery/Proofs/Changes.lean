import DatasetQuery.Table.Change
import Mathlib.Data.List.Induction
/-!
Runs of changes. Whatever is done to a table, each part of its query is what the last change of that
part made of it. Only an ordering reads another part: its aliases are those of the selection in
force when it is made, and later selections do not change it.
-/
namespace DatasetQuery

variable {α β ε : Type}

/-- A traversal that may fail, without the reason for which it does. -/
theorem toOption_mapM {f : α → Except ε β} {g : α → Option β}
    (each : ∀ x, (f x).toOption = g x) (xs : List α) : (xs.mapM f).toOption = xs.mapM g := by
  induction xs with
  | nil => rfl
  | cons x xs ih =>
    rw [List.mapM_cons, List.mapM_cons, ← each x, ← ih]
    cases f x with
    | error e => rfl
    | ok y =>
      cases xs.mapM f with
      | error e => rfl
      | ok ys => rfl

theorem mapM_eq_of_forall {f g : α → Except ε β} {xs : List α} (same : ∀ x ∈ xs, f x = g x) :
    xs.mapM f = xs.mapM g := by
  induction xs with
  | nil => rfl
  | cons x xs ih =>
    obtain ⟨head, tail⟩ := List.forall_mem_cons.1 same
    rw [List.mapM_cons, List.mapM_cons, head, ih tail]

/-- The expression of a selector, if its name stands for one. -/
def Selector.expr? (stands? : String → Option Expr) : Selector → Option Expr
  | .name wanted => stands? wanted
  | .expr e => some e

namespace Change

/-- The filter that a change sets. -/
def filter? : Change → Option Predicate
  | filter p => some p
  | _ => none

/-- The limit that a change sets. -/
def limit? : Change → Option UInt64
  | limit n => some n
  | _ => none

/-- The selection that a change makes of the declared columns, if it names no others. -/
def selection? (declared? : String → Option Column) : Change → Option (List Expr)
  | select selectors => selectors.mapM (Selector.expr? fun name => (declared? name).map .column)
  | _ => none

/-- The ordering that a change makes under a selection, if each name is that of a declared column
or else an alias. -/
def ordering? (declared? : String → Option Column) (selection : List Expr) :
    Change → Option (List SortKey)
  | orderBy keys => keys.mapM fun key => do
    let e ← key.1.expr? fun name =>
      (declared? name).map .column <|> selection.find? fun e => e.alias? == some name
    return ⟨e, key.2⟩
  | _ => none

end Change

namespace Table

theorem toOption_resolve (stands? : String → Option Expr) (s : Selector) :
    (resolve stands? s).toOption = s.expr? stands? := by
  cases s with
  | expr e => rfl
  | name wanted =>
    simp only [resolve, Selector.expr?]
    cases stands? wanted with
    | none => rfl
    | some e => rfl

/-- A change that fails leaves the table as it is. -/
def applyOrKeep (t : Table) (change : Change) : Table := (t.apply change).toOption.getD t

def applyAll (t : Table) (changes : List Change) : Table := changes.foldl applyOrKeep t

/-- The expressions of selectors, or the first name that stands for none. -/
def chosen (t : Table) (selectors : List Selector) : Except Error (List Expr) :=
  selectors.mapM (resolve t.selectable?)

/-- The expressions of keys, or the first name that stands for none. -/
def sorted (t : Table) (keys : List (Selector × Direction)) : Except Error (List SortKey) :=
  keys.mapM fun key => do
    let expr ← resolve t.orderable? key.1
    return ⟨expr, key.2⟩

theorem select_eq (t : Table) (selectors : List Selector) :
    t.select selectors = (t.chosen selectors).map fun selection => { t with selection } := by
  rw [select, chosen]
  cases selectors.mapM (resolve t.selectable?) <;> rfl

theorem orderBy_eq (t : Table) (keys : List (Selector × Direction)) :
    t.orderBy keys = (t.sorted keys).map fun ordering => { t with ordering } := by
  have unfolded : t.orderBy keys = t.sorted keys >>= fun ordering => pure { t with ordering } := rfl
  rw [unfolded]
  cases t.sorted keys <;> rfl

theorem toOption_chosen (t : Table) (selectors : List Selector) : (t.chosen selectors).toOption =
    (Change.select selectors).selection? t.column? :=
  toOption_mapM (toOption_resolve t.selectable?) selectors

theorem toOption_sorted (t : Table) (keys : List (Selector × Direction)) :
    (t.sorted keys).toOption = (Change.orderBy keys).ordering? t.column? t.selection := by
  apply toOption_mapM
  intro key
  change _ = (key.1.expr? t.orderable? >>= fun e => pure (SortKey.mk e key.2))
  rw [← toOption_resolve]
  cases resolve t.orderable? key.1 <;> rfl

/-- One change replaces its own part, if it does not fail, and nothing else. -/
theorem applyOrKeep_eq (t : Table) (change : Change) : t.applyOrKeep change =
    { t with
      selection := (change.selection? t.column?).getD t.selection
      filter := change.filter?.or t.filter
      ordering := (change.ordering? t.column? t.selection).getD t.ordering
      limit := change.limit?.getD t.limit } := by
  unfold applyOrKeep
  cases change with
  | select selectors =>
    rw [apply, select_eq, ← toOption_chosen]
    cases t.chosen selectors <;> rfl
  | filter p => rfl
  | orderBy keys =>
    rw [apply, orderBy_eq, ← toOption_sorted]
    cases t.sorted keys <;> rfl
  | limit n => rfl

/-- A table as it is declared, with nothing asked of it. -/
structure Fresh (t : Table) : Prop where
  selection : t.selection = []
  filter : t.filter = none
  ordering : t.ordering = []
  limit : t.limit = 0

theorem fresh_named (name : String) : (named name).Fresh := ⟨rfl, rfl, rfl, rfl⟩

theorem Fresh.declare {t : Table} (fresh : t.Fresh) (columns : List Column) :
    (t.declare columns).Fresh :=
  ⟨fresh.selection, fresh.filter, fresh.ordering, fresh.limit⟩

/-- The selection after some changes, the newest first. -/
def lastSelection (t : Table) (history : List Change) : List Expr :=
  (history.findSome? (Change.selection? t.column?)).getD []

/-- The ordering after some changes, the newest first: each was made under the selection in force
before it. -/
def lastOrdering (t : Table) : List Change → List SortKey
  | [] => []
  | newest :: earlier =>
    (newest.ordering? t.column? (t.lastSelection earlier)).getD (t.lastOrdering earlier)

theorem findSome?_newest (f : Change → Option α) (newest : Change) (earlier : List Change) :
    (newest :: earlier).findSome? f = (f newest).or (earlier.findSome? f) := by
  rw [List.findSome?_cons]
  cases f newest <;> rfl

theorem lastSelection_newest (t : Table) (newest : Change) (earlier : List Change) :
    t.lastSelection (newest :: earlier) =
      (newest.selection? t.column?).getD (t.lastSelection earlier) := by
  rw [lastSelection, findSome?_newest, Option.getD_or]
  rfl

theorem applyAll_eq {t : Table} (fresh : t.Fresh) (changes : List Change) : t.applyAll changes =
    { t with
      selection := t.lastSelection changes.reverse
      filter := changes.reverse.findSome? Change.filter?
      ordering := t.lastOrdering changes.reverse
      limit := (changes.reverse.findSome? Change.limit?).getD 0 } := by
  induction changes using List.reverseRecOn with
  | nil =>
    obtain ⟨selection, filter, ordering, limit⟩ := fresh
    cases t
    cases selection
    cases filter
    cases ordering
    cases limit
    rfl
  | append_singleton earlier newest ih =>
    have step : t.applyAll (earlier ++ [newest]) = (t.applyAll earlier).applyOrKeep newest :=
      List.foldl_append
    have reversed : (earlier ++ [newest]).reverse = newest :: earlier.reverse :=
      List.reverse_concat
    rw [step, ih, applyOrKeep_eq, reversed, lastSelection_newest, findSome?_newest,
      findSome?_newest, Option.getD_or]
    rfl

variable {t : Table}

theorem select_update (update : Table → Table) {selectors : List Selector}
    (names : (update t).chosen selectors = t.chosen selectors)
    (keeps : ∀ selection, { update t with selection } = update { t with selection }) :
    (update t).select selectors = (t.select selectors).map update := by
  rw [select_eq, select_eq, names]
  cases t.chosen selectors with
  | error e => rfl
  | ok selection => exact congrArg Except.ok (keeps selection)

theorem orderBy_update (update : Table → Table) {keys : List (Selector × Direction)}
    (names : (update t).sorted keys = t.sorted keys)
    (keeps : ∀ ordering, { update t with ordering } = update { t with ordering }) :
    (update t).orderBy keys = (t.orderBy keys).map update := by
  rw [orderBy_eq, orderBy_eq, names]
  cases t.sorted keys with
  | error e => rfl
  | ok ordering => exact congrArg Except.ok (keeps ordering)

/-- No other change reads or writes the filter, or fails for it. -/
theorem filterBy_apply (t : Table) (p : Predicate) {change : Change}
    (other : ∀ q, change ≠ .filter q) :
    (t.filterBy p).apply change = (t.apply change).map fun next => next.filterBy p := by
  cases change with
  | select selectors => exact select_update (·.filterBy p) rfl fun _ => rfl
  | filter q => exact absurd rfl (other q)
  | orderBy keys => exact orderBy_update (·.filterBy p) rfl fun _ => rfl
  | limit n => rfl

/-- No other change reads or writes the limit, or fails for it. -/
theorem limitTo_apply (t : Table) (n : UInt64) {change : Change}
    (other : ∀ m, change ≠ .limit m) :
    (t.limitTo n).apply change = (t.apply change).map fun next => next.limitTo n := by
  cases change with
  | select selectors => exact select_update (·.limitTo n) rfl fun _ => rfl
  | filter p => rfl
  | orderBy keys => exact orderBy_update (·.limitTo n) rfl fun _ => rfl
  | limit m => exact absurd rfl (other m)

/-- Declared names stand for the same whatever is selected. -/
theorem sorted_of_declared {keys : List (Selector × Direction)}
    (declared : ∀ key ∈ keys, ∀ name, key.1 = .name name → t.column? name ≠ none)
    (selection : List Expr) : sorted { t with selection } keys = t.sorted keys := by
  apply mapM_eq_of_forall
  rintro ⟨selector, direction⟩ among
  cases selector with
  | expr e => rfl
  | name name =>
    obtain ⟨c, found⟩ := Option.ne_none_iff_exists'.1 (declared _ among name rfl)
    have first (other : Table) (same : other.column? name = some c) :
        other.orderable? name = some (.column c) := by
      rw [orderable?, selectable?, same]
      rfl
    dsimp only [resolve]
    rw [first t found, first { t with selection } found]

/-- A selection and an ordering by declared names can be made in either order. -/
theorem select_orderBy_comm {u v : Table} {selectors : List Selector}
    {keys : List (Selector × Direction)} (selected : t.select selectors = .ok u)
    (ordered : t.orderBy keys = .ok v)
    (declared : ∀ key ∈ keys, ∀ name, key.1 = .name name → t.column? name ≠ none) :
    ∃ w, u.orderBy keys = .ok w ∧ v.select selectors = .ok w := by
  rw [select_eq] at selected
  rw [orderBy_eq] at ordered
  cases found : t.chosen selectors with
  | error e =>
    rw [found] at selected
    cases selected
  | ok selection =>
    cases sortedBy : t.sorted keys with
    | error e =>
      rw [sortedBy] at ordered
      cases ordered
    | ok ordering =>
      rw [found] at selected
      rw [sortedBy] at ordered
      obtain rfl := Except.ok.inj selected
      obtain rfl := Except.ok.inj ordered
      have afterSelection := (sorted_of_declared declared selection).trans sortedBy
      have afterOrdering : chosen { t with ordering } selectors = .ok selection := found
      refine ⟨{ t with selection, ordering }, ?_, ?_⟩
      · rw [orderBy_eq, afterSelection]
        rfl
      · rw [select_eq, afterOrdering]
        rfl

/-- Each part of a query is what the last change of that part made of it. A filter or a limit can
change places with any change of another part, and so can a selection and an ordering by declared
names. -/
theorem parts_are_of_last_changes :
    (∀ t : Table, t.Fresh → ∀ changes : List Change,
      t.applyAll changes =
        { t with
          selection := t.lastSelection changes.reverse
          filter := changes.reverse.findSome? Change.filter?
          ordering := t.lastOrdering changes.reverse
          limit := (changes.reverse.findSome? Change.limit?).getD 0 } ∧
      (t.applyAll changes).column? = t.column?) ∧
    (∀ (t : Table) (p : Predicate) (change : Change), (∀ q, change ≠ .filter q) →
      (t.filterBy p).apply change = (t.apply change).map fun next => next.filterBy p) ∧
    (∀ (t : Table) (n : UInt64) (change : Change), (∀ m, change ≠ .limit m) →
      (t.limitTo n).apply change = (t.apply change).map fun next => next.limitTo n) ∧
    ∀ (t u v : Table) (selectors : List Selector) (keys : List (Selector × Direction)),
      t.select selectors = .ok u → t.orderBy keys = .ok v →
      (∀ key ∈ keys, ∀ name, key.1 = .name name → t.column? name ≠ none) →
      ∃ w, u.orderBy keys = .ok w ∧ v.select selectors = .ok w := by
  refine ⟨?_, ?_, ?_, ?_⟩
  · intro t fresh changes
    have whole := applyAll_eq fresh changes
    refine ⟨whole, ?_⟩
    rw [whole]
    rfl
  · intro t p change other
    exact filterBy_apply t p other
  · intro t n change other
    exact limitTo_apply t n other
  · intro t u v selectors keys selected ordered declared
    exact select_orderBy_comm selected ordered declared

theorem parts_are_of_last_changes_after_alias :
    let price : Column := .of .generic "price"
    let total : Expr := .aggregate (.column price) .sum (some "total")
    let t := (named "orders").declare [price]
    let changes : List Change :=
      [.select [.expr total], .orderBy [(.name "total", .descending)], .select [.name "absent"],
        .select [.name "price"], .limit 10, .orderBy [(.name "total", .ascending)]]
    t.Fresh ∧ t.applyAll changes =
      { t with selection := [.column price], ordering := [⟨total, .descending⟩], limit := 10 } ∧
    (∃ w, orderBy { t with selection := [.column price] } [(.name "price", .ascending)] = .ok w ∧
      select { t with ordering := [⟨.column price, .ascending⟩] } [.name "price"] = .ok w) := by
  intro price total t changes
  have fresh : t.Fresh := (fresh_named "orders").declare [price]
  refine ⟨fresh, (parts_are_of_last_changes.1 t fresh changes).1, ?_⟩
  apply parts_are_of_last_changes.2.2.2 t _ _ _ _ rfl rfl
  intro key among name named
  cases List.mem_singleton.1 among
  cases named
  exact Option.some_ne_none price

end Table

end DatasetQuery
