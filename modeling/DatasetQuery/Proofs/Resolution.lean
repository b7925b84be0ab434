import DatasetQuery.Proofs.Selections
import Mathlib.Logic.Function.Basic
/-!
What names stand for. Of several declarations of a name the last one counts, of several selections
under an alias the first one, and a declaration comes before an alias. A change that names something
else fails at the first such name and leaves the table as it is.
-/
namespace DatasetQuery

/-- Declarations entered under their names one after the other, each in the place of an earlier one
of its name. -/
def entered (columns : List Column) : String → Option Column :=
  columns.foldl (fun index c => Function.update index c.name (some c)) fun _ => none

/-- The last declaration of a name. -/
structure LastDeclared (columns : List Column) (name : String) (c : Column) : Prop where
  named : c.name = name
  last : ∃ before after, columns = before ++ c :: after ∧ ∀ d ∈ after, d.name ≠ name

/-- The first expression under an alias. -/
structure FirstShown (shown : List Expr) (wanted : String) (e : Expr) : Prop where
  named : e.alias? = some wanted
  first : ∃ before after, shown = before ++ e :: after ∧ ∀ d ∈ before, d.alias? ≠ some wanted

/-- Names that stand for something among declarations and expressions with an alias. -/
def IsKnown (columns : List Column) (shown : List Expr) (name : String) : Prop :=
  (∃ c ∈ columns, c.name = name) ∨ ∃ e ∈ shown, e.alias? = some name

/-- An expression stands for itself and a name for its last declaration, or without one for the
first expression under it. -/
inductive StandsFor (columns : List Column) (shown : List Expr) : Selector → Expr → Prop where
  | given (e : Expr) : StandsFor columns shown (.expr e) e
  | declared {name : String} {c : Column} (last : LastDeclared columns name c) :
      StandsFor columns shown (.name name) (.column c)
  | aliased {name : String} {e : Expr} (undeclared : ∀ c ∈ columns, c.name ≠ name)
      (first : FirstShown shown name e) : StandsFor columns shown (.name name) e

/-- The first name that stands for nothing. -/
def FirstUnknown (columns : List Column) (shown : List Expr) (selectors : List Selector)
    (name : String) : Prop :=
  ∃ before after, selectors = before ++ .name name :: after ∧ ¬IsKnown columns shown name ∧
    ∀ earlier, .name earlier ∈ before → IsKnown columns shown earlier

theorem find?_shown_eq_some_iff {shown : List Expr} {wanted : String} {e : Expr} :
    (shown.find? fun e => e.alias? == some wanted) = some e ↔ FirstShown shown wanted e := by
  rw [List.find?_eq_some_iff_append]
  simp only [beq_iff_eq, Bool.not_eq_true', beq_eq_false_iff_ne]
  constructor
  · rintro ⟨named, first⟩
    exact ⟨named, first⟩
  · rintro ⟨named, first⟩
    exact ⟨named, first⟩

theorem isKnown_nil_iff {columns : List Column} {name : String} :
    IsKnown columns [] name ↔ ∃ c ∈ columns, c.name = name := by
  simp [IsKnown]

theorem map_eq_ok_iff {α β : Type} {x : Except Error α} {f : α → β} {z : β} :
    x.map f = .ok z ↔ ∃ a, x = .ok a ∧ z = f a := by
  cases x <;> simp [Except.map, eq_comm]

theorem map_eq_error_iff {α β : Type} {x : Except Error α} {f : α → β} {reason : Error} :
    x.map f = .error reason ↔ x = .error reason := by
  cases x <;> simp [Except.map]

theorem exists_map_iff {α β : Type} {x : Except Error α} {f : α → β} :
    (∃ z, x.map f = .ok z) ↔ ∃ a, x = .ok a := by
  cases x <;> simp [Except.map]

namespace Table

variable {t : Table}

theorem column?_eq_entered (t : Table) : t.column? = entered t.columns := by
  funext name
  rw [column?]
  induction t.columns using List.reverseRecOn with
  | nil => rfl
  | append_singleton earlier c ih =>
    have last : entered (earlier ++ [c]) = Function.update (entered earlier) c.name (some c) :=
      List.foldl_append
    rw [List.reverse_concat, List.find?_cons, ih, last, Function.update_apply]
    by_cases named : c.name = name
    · subst named
      simp
    · have other : (c.name == name) = false := beq_false_of_ne named
      simp [other, Ne.symm named]

theorem column?_eq_some_iff {name : String} {c : Column} :
    t.column? name = some c ↔ LastDeclared t.columns name c := by
  rw [column?, List.find?_eq_some_iff_append]
  simp only [beq_iff_eq, Bool.not_eq_true', beq_eq_false_iff_ne]
  constructor
  · rintro ⟨named, after, before, parts, others⟩
    refine ⟨named, before.reverse, after.reverse, ?_, ?_⟩
    · rw [← List.reverse_reverse t.columns, parts]
      simp
    · simpa using others
  · rintro ⟨named, before, after, parts, others⟩
    refine ⟨named, after.reverse, before.reverse, ?_, ?_⟩
    · rw [parts]
      simp
    · simpa using others

theorem column?_eq_none_iff {name : String} :
    t.column? name = none ↔ ∀ c ∈ t.columns, c.name ≠ name := by
  simp [column?]

/-- What a name stands for among the declarations and some expressions with an alias. -/
def meaning? (t : Table) (shown : List Expr) (name : String) : Option Expr :=
  t.selectable? name <|> shown.find? fun e => e.alias? == some name

theorem selectable?_eq_meaning? (t : Table) : t.selectable? = t.meaning? [] := by
  funext name
  rw [meaning?]
  cases t.selectable? name <;> rfl

theorem orderable?_eq_meaning? (t : Table) : t.orderable? = t.meaning? t.selection := rfl

variable {shown : List Expr}

theorem meaning?_eq_some_iff {name : String} {e : Expr} :
    t.meaning? shown name = some e ↔ StandsFor t.columns shown (.name name) e := by
  rw [meaning?, selectable?]
  cases found : t.column? name with
  | some c =>
    have last := column?_eq_some_iff.1 found
    constructor
    · rintro ⟨⟩
      exact .declared last
    · rintro (_ | other | undeclared)
      · rw [← found, column?_eq_some_iff.2 other]
        rfl
      · rw [column?_eq_none_iff.2 undeclared] at found
        cases found
  | none =>
    have undeclared := column?_eq_none_iff.1 found
    change shown.find? _ = some e ↔ _
    rw [find?_shown_eq_some_iff]
    constructor
    · intro first
      exact .aliased undeclared first
    · rintro (_ | other | ⟨_, first⟩)
      · rw [column?_eq_some_iff.2 other] at found
        cases found
      · exact first

theorem meaning?_eq_none_iff {name : String} :
    t.meaning? shown name = none ↔ ¬IsKnown t.columns shown name := by
  rw [meaning?, selectable?, IsKnown]
  simp [column?_eq_none_iff]

theorem resolve_eq_ok_iff {s : Selector} {e : Expr} :
    resolve (t.meaning? shown) s = .ok e ↔ StandsFor t.columns shown s e := by
  cases s with
  | expr other =>
    constructor
    · rintro ⟨⟩
      exact .given e
    · rintro ⟨⟩
      rfl
  | name name =>
    rw [← meaning?_eq_some_iff, resolve]
    cases t.meaning? shown name <;> simp

theorem resolve_eq_error_iff {s : Selector} {reason : Error} :
    resolve (t.meaning? shown) s = .error reason ↔
      ∃ name, s = .name name ∧ ¬IsKnown t.columns shown name ∧ reason = .unknownField name := by
  cases s with
  | expr other => simp [resolve]
  | name name =>
    simp only [Selector.name.injEq, exists_eq_left', ← meaning?_eq_none_iff, resolve]
    cases t.meaning? shown name <;> simp [eq_comm]

/-! Selecting and ordering traverse their selectors alike, and differ in what they make of the
expressions. -/

section

variable {α β : Type} {make : α → Except Error β} {selector : α → Selector}

/-- Failing at an element just where its selector is a name for nothing. -/
def FailsAtUnknown (t : Table) (shown : List Expr) (make : α → Except Error β)
    (selector : α → Selector) : Prop :=
  ∀ x reason, make x = .error reason ↔
    ∃ name, selector x = .name name ∧ ¬IsKnown t.columns shown name ∧ reason = .unknownField name

theorem exists_make_iff (fails : t.FailsAtUnknown shown make selector) {x : α} :
    (∃ y, make x = .ok y) ↔ ∀ name, selector x = .name name → IsKnown t.columns shown name := by
  constructor
  · rintro ⟨y, made⟩ name named
    by_contra unknown
    have refused := (fails x (.unknownField name)).2 ⟨name, named, unknown, rfl⟩
    cases made.symm.trans refused
  · intro known
    cases made : make x with
    | ok y => exact ⟨y, rfl⟩
    | error reason =>
      obtain ⟨name, named, unknown, _⟩ := (fails x reason).1 made
      exact absurd (known name named) unknown

theorem exists_traversal_iff (fails : t.FailsAtUnknown shown make selector) {xs : List α} :
    (∃ ys, xs.mapM make = .ok ys) ↔
      ∀ name, .name name ∈ xs.map selector → IsKnown t.columns shown name := by
  simp only [exists_mapM_iff, exists_make_iff fails, List.mem_map]
  constructor
  · rintro each name ⟨x, among, named⟩
    exact each x among name named
  · intro known x among name named
    exact known name ⟨x, among, named⟩

theorem traversal_eq_error_iff (fails : t.FailsAtUnknown shown make selector) {xs : List α}
    {reason : Error} :
    xs.mapM make = .error reason ↔
      ∃ name, FirstUnknown t.columns shown (xs.map selector) name ∧ reason = .unknownField name := by
  rw [mapM_eq_error_iff]
  constructor
  · rintro ⟨before, x, after, rfl, refused, passed⟩
    obtain ⟨name, named, unknown, rfl⟩ := (fails x reason).1 refused
    refine ⟨name, ⟨before.map selector, after.map selector, by simp [named], unknown, ?_⟩, rfl⟩
    intro earlier among
    obtain ⟨y, member, same⟩ := List.mem_map.1 among
    exact (exists_make_iff fails).1 (passed y member) earlier same
  · rintro ⟨name, ⟨before, after, parts, unknown, known⟩, rfl⟩
    obtain ⟨first, rest, rfl, rfl, others⟩ := List.map_eq_append_iff.1 parts
    obtain ⟨x, last, rfl, named, rfl⟩ := List.map_eq_cons_iff.1 others
    refine ⟨first, x, last, rfl, (fails x _).2 ⟨name, named, unknown, rfl⟩, ?_⟩
    intro y member
    refine (exists_make_iff fails).2 fun earlier same => known earlier ?_
    exact List.mem_map.2 ⟨y, member, same⟩

end

theorem chosen_eq (t : Table) (selectors : List Selector) :
    t.chosen selectors = selectors.mapM (resolve (t.meaning? [])) := by
  rw [chosen, selectable?_eq_meaning?]

/-- The key that becomes of a selector and a direction. -/
def keyOf (t : Table) (key : Selector × Direction) : Except Error SortKey :=
  (resolve (t.meaning? t.selection) key.1).map fun e => ⟨e, key.2⟩

theorem sorted_eq (t : Table) (keys : List (Selector × Direction)) :
    t.sorted keys = keys.mapM t.keyOf := by
  refine mapM_eq_of_forall fun key _ => ?_
  rw [keyOf, ← orderable?_eq_meaning?]
  cases resolve t.orderable? key.1 <;> rfl

theorem keyOf_eq_ok_iff {key : Selector × Direction} {k : SortKey} : t.keyOf key = .ok k ↔
    StandsFor t.columns t.selection key.1 k.expr ∧ k.direction = key.2 := by
  rw [← resolve_eq_ok_iff, keyOf]
  obtain ⟨e, direction⟩ := k
  cases resolve (t.meaning? t.selection) key.1 with
  | error reason => simp [Except.map]
  | ok other => simp [Except.map, eq_comm]

theorem keyOf_eq_error_iff {key : Selector × Direction} {reason : Error} :
    t.keyOf key = .error reason ↔ ∃ name, key.1 = .name name ∧
      ¬IsKnown t.columns t.selection name ∧ reason = .unknownField name := by
  rw [← resolve_eq_error_iff, keyOf]
  cases resolve (t.meaning? t.selection) key.1 <;> simp [Except.map]

/-- What a table makes of names under these declarations. -/
structure Resolves (columns : List Column) (t : Table) : Prop where
  declared : ∀ name c, t.column? name = some c ↔ LastDeclared columns name c
  undeclared : ∀ name, t.column? name = none ↔ ∀ c ∈ columns, c.name ≠ name
  selects : ∀ selectors, (∃ u, t.select selectors = .ok u) ↔
    ∀ name, .name name ∈ selectors → ∃ c ∈ columns, c.name = name
  selection : ∀ selectors u, t.select selectors = .ok u ↔ ∃ selection,
    List.Forall₂ (StandsFor columns []) selectors selection ∧ u = { t with selection }
  unselected : ∀ selectors reason, t.select selectors = .error reason ↔
    ∃ name, FirstUnknown columns [] selectors name ∧ reason = .unknownField name
  orders : ∀ keys, (∃ u, t.orderBy keys = .ok u) ↔
    ∀ name, .name name ∈ keys.map Prod.fst → IsKnown columns t.selection name
  ordering : ∀ keys u, t.orderBy keys = .ok u ↔ ∃ ordering,
    List.Forall₂ (fun key k => StandsFor columns t.selection key.1 k.expr ∧ k.direction = key.2)
      keys ordering ∧ u = { t with ordering }
  unordered : ∀ keys reason, t.orderBy keys = .error reason ↔
    ∃ name, FirstUnknown columns t.selection (keys.map Prod.fst) name ∧
      reason = .unknownField name
  kept : ∀ change reason, t.apply change = .error reason → t.applyOrKeep change = t

theorem resolves (t : Table) : t.Resolves t.columns := by
  have selected : t.FailsAtUnknown [] (resolve (t.meaning? [])) id := fun _ _ => resolve_eq_error_iff
  have ordered : t.FailsAtUnknown t.selection t.keyOf Prod.fst := fun _ _ => keyOf_eq_error_iff
  refine ⟨fun _ _ => column?_eq_some_iff, fun _ => column?_eq_none_iff, ?_, ?_, ?_, ?_, ?_, ?_, ?_⟩
  · intro selectors
    rw [select_eq, exists_map_iff, chosen_eq, exists_traversal_iff selected]
    simp only [List.map_id, isKnown_nil_iff]
  · intro selectors u
    rw [select_eq, map_eq_ok_iff, chosen_eq]
    simp only [mapM_eq_ok_iff, resolve_eq_ok_iff]
  · intro selectors reason
    rw [select_eq, map_eq_error_iff, chosen_eq, traversal_eq_error_iff selected,
      List.map_id]
  · intro keys
    rw [orderBy_eq, exists_map_iff, sorted_eq]
    exact exists_traversal_iff ordered
  · intro keys u
    rw [orderBy_eq, map_eq_ok_iff, sorted_eq]
    simp only [mapM_eq_ok_iff, keyOf_eq_ok_iff]
  · intro keys reason
    rw [orderBy_eq, map_eq_error_iff, sorted_eq]
    exact traversal_eq_error_iff ordered
  · intro change reason refused
    rw [applyOrKeep, refused]
    rfl

theorem columns_applyAll (t : Table) (changes : List Change) :
    (t.applyAll changes).columns = t.columns := by
  refine List.foldlRecOn (motive := fun u : Table => u.columns = t.columns) _ _ rfl ?_
  intro u same change _
  rw [applyOrKeep_eq]
  exact same

/-- Whatever was done to a table before, a name stands for its last declaration, and in an ordering
without one for the first selection in force under that alias. A list of selectors is refused for
its first name that stands for nothing, and then nothing changes. -/
theorem names_stand_for_declarations_and_aliases (t : Table) (changes : List Change) :
    (t.applyAll changes).Resolves t.columns ∧
      (t.applyAll changes).column? = entered t.columns := by
  have resolved := (t.applyAll changes).resolves
  have index := (t.applyAll changes).column?_eq_entered
  rw [columns_applyAll] at resolved index
  exact ⟨resolved, index⟩

end Table

end DatasetQuery
