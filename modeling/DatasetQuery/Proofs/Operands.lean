import DatasetQuery.Proofs.Erasure
import DatasetQuery.Proofs.Grammar
import DatasetQuery.Proofs.Selections
/-!
Trees seen from outside. A tree that is no reference and no constant shows its operator and its
operands, and these in turn theirs: a walk that asks for nothing else finds the message of the tree,
or the error in its place, and its name.
-/
namespace DatasetQuery

/-- What is no application of an operator. -/
inductive Leaf where
  | column (c : Column)
  | literal (l : Literal)

namespace Leaf

def toWire : Leaf → Except Error Wire.Expression
  | column c => .ok (.column c.name)
  | literal l => l.toWire.map .literal

def name : Leaf → String
  | column c => c.name
  | literal l => l.name

end Leaf

namespace Wire.Expression

/-- The code of the operator that a message applies. -/
def code? : Expression → Option Int32
  | derived _ op | aggregate _ op | condition op _ => some op
  | unset | column _ | literal _ => none

/-- What a message applies its operator to. -/
def arguments : Expression → List Expression
  | derived argument _ | aggregate argument _ => argument.toList
  | condition _ arguments => arguments
  | unset | column _ | literal _ => []

end Wire.Expression

namespace Operator

def code? : Operator → Option Int32
  | ident => none
  | boolean op => some op.code
  | unary op => some op.code
  | aggregate op => some op.code
  | projection op => some op.code

/-- The operators of predicates. -/
def isPredicate : Operator → Bool
  | boolean _ | unary _ => true
  | ident | aggregate _ | projection _ => false

def isJunction : Operator → Bool
  | boolean op => op.isJunction
  | ident | unary _ | aggregate _ | projection _ => false

/-- The message of an operator on its arguments. -/
def message : Operator → List Wire.Expression → Wire.Expression
  | ident, _ => .unset
  | boolean op, arguments => .condition op.code arguments
  | unary op, arguments => .condition op.code arguments
  | aggregate op, arguments => .aggregate arguments.head? op.code
  | projection op, arguments => .derived arguments.head? op.code

/-- The argument that becomes of an operand, of which the operator and the message are known. A
junction wraps a condition, and refuses what is none. -/
def argument (op : Operator) (operand : Operator × Except Error Wire.Expression) :
    Except Error Wire.Expression :=
  if op.isJunction then
    if operand.1.isPredicate then operand.2.map fun m => .ofCondition m.content
    else .error (.expectedBoolean op.text)
  else operand.2

/-- The first operand without an argument is the error. -/
def toWire (op : Operator) (operands : List (Operator × Except Error Wire.Expression)) :
    Except Error Wire.Expression :=
  (operands.mapM op.argument).map op.message

/-- An operator stands between two operands and in front of one. -/
def phrase (op : Operator) : List String → String
  | [left, right] => "(" ++ left ++ " " ++ op.text ++ " " ++ right ++ ")"
  | operands => "(" ++ op.text ++ "(" ++ String.intercalate ", " operands ++ "))"

def name (op : Operator) (operands : List (Operator × String)) : String :=
  op.phrase (operands.map Prod.snd)

end Operator

namespace Expr

def leaf? : Expr → Option Leaf
  | column c => some (.column c)
  | literal l => some (.literal l)
  | derived _ | aggregate _ _ _ | binary _ _ _ | unary _ _ => none

theorem leaf?_eq_none_iff {e : Expr} : e.leaf? = none ↔ e.operator ≠ .ident := by
  cases e <;> simp [leaf?, operator]

theorem sizeOf_lt_of_mem_operands {e x : Expr} (node : e.leaf? = none) (among : x ∈ e.operands) :
    sizeOf x < sizeOf e := by
  cases e with
  | column c => cases node
  | literal l => cases node
  | derived d =>
    obtain ⟨base, op, a⟩ := d
    obtain rfl := List.mem_singleton.1 among
    simp only [column.sizeOf_spec, derived.sizeOf_spec, Derived.mk.sizeOf_spec]
    omega
  | aggregate base op a =>
    obtain rfl := List.mem_singleton.1 among
    simp only [aggregate.sizeOf_spec]
    omega
  | binary left op right =>
    simp only [binary.sizeOf_spec]
    rcases List.mem_cons.1 among with rfl | last
    · omega
    · obtain rfl := List.mem_singleton.1 last
      omega
  | unary operand op =>
    obtain rfl := List.mem_singleton.1 among
    simp only [unary.sizeOf_spec]
    omega

/-- An answer about a tree, drawn from the answers about its leaves. Of a node no more is known than
its operator and its operands, each by its operator and the answer about it. -/
def walk {α : Type} (leaf : Leaf → α) (node : Operator → List (Operator × α) → α) (e : Expr) : α :=
  match _seen : e.leaf? with
  | some l => leaf l
  | none => node e.operator (e.operands.attach.map fun x => (x.1.operator, walk leaf node x.1))
termination_by sizeOf e
decreasing_by exact sizeOf_lt_of_mem_operands _seen x.2

section

variable {α : Type} {leaf : Leaf → α} {node : Operator → List (Operator × α) → α}

theorem walk_of_leaf {e : Expr} {l : Leaf} (seen : e.leaf? = some l) : e.walk leaf node = leaf l := by
  rw [walk]
  split
  · next found => rw [Option.some.inj (seen.symm.trans found)]
  · next absent => cases seen.symm.trans absent

theorem walk_of_node {e : Expr} (seen : e.leaf? = none) : e.walk leaf node =
    node e.operator (e.operands.map fun x => (x.operator, x.walk leaf node)) := by
  rw [walk]
  split
  · next found => cases seen.symm.trans found
  · have whole := List.attach_map_val (l := e.operands)
      (f := fun x : Expr => (x.operator, x.walk leaf node))
    exact congrArg (node e.operator) whole

/-- Only one answer agrees with its own answers about leaves and about operands. -/
theorem walk_eq {answer : Expr → α} (leaves : ∀ e l, e.leaf? = some l → answer e = leaf l)
    (nodes : ∀ e, e.leaf? = none →
      answer e = node e.operator (e.operands.map fun x => (x.operator, answer x))) (e : Expr) :
    e.walk leaf node = answer e := by
  cases seen : e.leaf? with
  | some l => rw [walk_of_leaf seen, leaves e l seen]
  | none =>
    have same : (e.operands.map fun x => (x.operator, x.walk leaf node)) =
        e.operands.map fun x => (x.operator, answer x) := by
      refine List.map_congr_left fun x among => ?_
      rw [walk_eq leaves nodes x]
    rw [walk_of_node seen, nodes e seen, same]
termination_by sizeOf e
decreasing_by exact sizeOf_lt_of_mem_operands seen among

end

@[simp]
theorem isPredicate_operator (e : Expr) : e.operator.isPredicate = e.isPredicate := by
  cases e <;> rfl

theorem name_of_leaf {e : Expr} {l : Leaf} (seen : e.leaf? = some l) : e.name = l.name := by
  cases e <;> cases seen <;> rfl

theorem name_of_node {e : Expr} (seen : e.leaf? = none) :
    e.name = e.operator.phrase (e.operands.map name) := by
  cases e with
  | column c => cases seen
  | literal l => cases seen
  | _ => rfl

theorem toWire_of_leaf {e : Expr} {l : Leaf} (seen : e.leaf? = some l) : e.toWire = l.toWire := by
  cases e with
  | column c =>
    cases seen
    rfl
  | literal l =>
    cases seen
    rw [toWire, Leaf.toWire]
    cases l.toWire <;> rfl
  | _ => cases seen

/-- What is wrong with an operand as an argument. -/
def argumentDefects (op : Operator) (operand : Expr) : List Error :=
  if op.isJunction && !operand.isPredicate then [.expectedBoolean op.text] else operand.defects

theorem defects_of_node {e : Expr} (seen : e.leaf? = none) :
    e.defects = e.operands.flatMap (argumentDefects e.operator) := by
  cases e with
  | column c => cases seen
  | literal l => cases seen
  | derived d => rfl
  | aggregate base op a => exact (List.append_nil _).symm
  | binary left op right =>
    rw [operands, List.flatMap_cons, List.flatMap_singleton]
    rfl
  | unary operand op => exact (List.append_nil _).symm

theorem image_of_node {e : Expr} (seen : e.leaf? = none) :
    e.image = e.operator.message (e.operands.map image) := by
  cases e with
  | column c => cases seen
  | literal l => cases seen
  | _ => rfl

/-- What is wrapped as a condition was one before. -/
theorem ofCondition_content_image {e : Expr} (predicate : e.isPredicate = true) :
    .ofCondition e.image.content = e.image :=
  Predicate.ofCondition_image ⟨e, predicate⟩

theorem argument_eq (op : Operator) (x : Expr) :
    op.argument (x.operator, x.toWire) = judged (argumentDefects op x) x.image := by
  rw [Operator.argument, argumentDefects, isPredicate_operator, x.toWire_eq]
  cases op.isJunction with
  | false => rfl
  | true =>
    cases predicate : x.isPredicate with
    | false => rfl
    | true =>
      cases x.defects with
      | nil => exact congrArg Except.ok (ofCondition_content_image predicate)
      | cons first rest => rfl

theorem toWire_of_node {e : Expr} (seen : e.leaf? = none) :
    e.toWire = e.operator.toWire (e.operands.map fun x => (x.operator, x.toWire)) := by
  rw [Operator.toWire, List.mapM_map, Function.comp_def, mapM_judged (argument_eq e.operator),
    e.toWire_eq, defects_of_node seen, image_of_node seen]
  cases e.operands.flatMap (argumentDefects e.operator) <;> rfl

theorem code?_image {e : Expr} (seen : e.leaf? = none) : e.image.code? = e.operator.code? := by
  cases e with
  | column c => cases seen
  | literal l => cases seen
  | _ => rfl

theorem arguments_image {e : Expr} (seen : e.leaf? = none) :
    e.image.arguments = e.operands.map image := by
  cases e with
  | column c => cases seen
  | literal l => cases seen
  | _ => rfl

/-- The operands of a node without defects have none, and are predicates under a junction. -/
theorem operands_of_faultless {e : Expr} (seen : e.leaf? = none) (faultless : e.defects = []) :
    ∀ x ∈ e.operands, x.defects = [] ∧ (e.operator.isJunction = true → x.isPredicate = true) := by
  intro x among
  rw [defects_of_node seen, List.flatMap_eq_nil_iff] at faultless
  have own := faultless x among
  rw [argumentDefects] at own
  split at own
  · cases own
  · next accepted =>
    refine ⟨own, fun junction => ?_⟩
    simpa [junction] using accepted

/-- What a node shows is told by its operator and its operands: its name, the code and the arguments
of its message, or else the first operand that is no argument. -/
structure ToldByOperands (e : Expr) : Prop where
  name : e.name = e.operator.phrase (e.operands.map name)
  message : e.toWire = e.operator.toWire (e.operands.map fun x => (x.operator, x.toWire))
  code : ∀ m, e.toWire = .ok m → m.code? = e.operator.code?
  arguments : ∀ m, e.toWire = .ok m →
    List.Forall₂ (fun x a => x.toWire = .ok a) e.operands m.arguments
  conditions : e.operator.isJunction = true → ∀ m, e.toWire = .ok m →
    ∀ a ∈ m.arguments, a.IsCondition
  error : ∀ reason, e.toWire = .error reason ↔ ∃ before x after,
    e.operands = before ++ x :: after ∧
      e.operator.argument (x.operator, x.toWire) = .error reason ∧
      ∀ y ∈ before, ∃ a, e.operator.argument (y.operator, y.toWire) = .ok a

theorem toldByOperands {e : Expr} (seen : e.leaf? = none) : e.ToldByOperands := by
  have written {m : Wire.Expression} (sent : e.toWire = .ok m) : e.defects = [] ∧ e.image = m := by
    rwa [toWire_eq, judged_eq_ok_iff] at sent
  refine ⟨name_of_node seen, toWire_of_node seen, ?_, ?_, ?_, ?_⟩
  · intro m sent
    obtain ⟨_, rfl⟩ := written sent
    exact code?_image seen
  · intro m sent
    obtain ⟨faultless, rfl⟩ := written sent
    rw [arguments_image seen, List.forall₂_map_right_iff, List.forall₂_same]
    intro x among
    rw [toWire_eq, (operands_of_faultless seen faultless x among).1, judged_nil]
  · intro junction m sent a among
    obtain ⟨faultless, rfl⟩ := written sent
    rw [arguments_image seen] at among
    obtain ⟨x, operand, rfl⟩ := List.mem_map.1 among
    exact x.image_isCondition_iff.2 ((operands_of_faultless seen faultless x operand).2 junction)
  · intro reason
    let argument (x : Expr) := e.operator.argument (x.operator, x.toWire)
    have traversal : e.operands.mapM argument = .error reason ↔ _ := mapM_eq_error_iff
    rw [← traversal, toWire_of_node seen, Operator.toWire, List.mapM_map, Function.comp_def]
    cases e.operands.mapM fun x : Expr => e.operator.argument (x.operator, x.toWire) with
    | error other =>
      constructor
      · rintro ⟨⟩
        rfl
      · rintro ⟨⟩
        rfl
    | ok arguments => exact iff_of_false nofun nofun

/-- A walk by operators and operands finds the message and the name of every tree, and what a node
adds to its operands is told by its operator. -/
theorem operands_tell_trees (e : Expr) :
    e.walk Leaf.toWire Operator.toWire = e.toWire ∧ e.walk Leaf.name Operator.name = e.name ∧
      (e.operator ≠ .ident → e.ToldByOperands) := by
  refine ⟨?_, ?_, ?_⟩
  · exact walk_eq (fun _ _ => toWire_of_leaf) (fun _ => toWire_of_node) e
  · refine walk_eq (fun _ _ => name_of_leaf) (fun node seen => ?_) e
    rw [Operator.name, List.map_map]
    exact name_of_node seen
  · intro operation
    exact toldByOperands (leaf?_eq_none_iff.2 operation)

/-- Of two operands that are no conditions the first is reported, and the constant without a form in
the second is not met. -/
theorem operands_tell_trees_under_a_junction :
    let placed : Column := .of .datetime "placed"
    let year : Expr := .derived (.of placed .year)
    let recent : Expr := .binary year .isIn (.list [.i64 2023, .null])
    let e : Expr := .binary (.aggregate (.column placed) .max none) .and recent
    e.operator ≠ .ident ∧ e.ToldByOperands ∧ e.toWire = .error (.expectedBoolean "and") ∧
      e.name = "((max(placed)) and ((year(placed)) in lit([2023, null])))" := by
  intro placed year recent e
  have operation : e.operator ≠ .ident := nofun
  exact ⟨operation, (operands_tell_trees e).2.2 operation, rfl, by decide⟩

end Expr

end DatasetQuery
