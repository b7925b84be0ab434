import DatasetQuery.Proofs.Framing
/-!
Messages inside messages. The depth of a message is the number of levels below it, and a reader
gives a message back exactly if it has as many levels left.
-/
namespace DatasetQuery.Wire

mutual

/-- The levels of messages below a constant. -/
def Literal.depth : Literal → Nat
  | .list values => Literal.listDepth values + 1
  | .unset | .string _ | .boolean _ | .i32 _ | .u64 _ | .u32 _ | .i64 _ | .f32 _ | .f64 _
  | .timestamp _ => 0

def Literal.listDepth : List Literal → Nat
  | [] => 0
  | value :: rest => max (value.depth + 1) (Literal.listDepth rest)

end

mutual

/-- The levels of messages below an expression. -/
def Expression.depth : Expression → Nat
  | .unset => 0
  | .column _ => 1
  | .literal l => l.depth + 1
  | .derived argument _ => Expression.argumentDepth argument + 1
  | .aggregate argument _ => Expression.argumentDepth argument + 1
  | .condition _ arguments => Expression.argumentsDepth arguments + 1

/-- The levels below a message that holds an argument. -/
def Expression.argumentDepth : Option Expression → Nat
  | none => 0
  | some e => e.depth + 1

def Expression.argumentsDepth : List Expression → Nat
  | [] => 0
  | e :: rest => max (e.depth + 1) (Expression.argumentsDepth rest)

end

def Application.depth (a : Application) : Nat := Expression.argumentDepth a.argument

def Condition.depth (c : Condition) : Nat := Expression.argumentsDepth c.arguments

theorem Literal.listDepth_le_iff {values : List Literal} {n : Nat} :
    Literal.listDepth values ≤ n ↔ ∀ l ∈ values, l.depth + 1 ≤ n := by
  induction values with
  | nil => simp [Literal.listDepth]
  | cons l values ih => simp only [Literal.listDepth, Nat.max_le, ih, List.forall_mem_cons]

theorem Expression.argumentsDepth_le_iff {arguments : List Expression} {n : Nat} :
    Expression.argumentsDepth arguments ≤ n ↔ ∀ e ∈ arguments, e.depth + 1 ≤ n := by
  induction arguments with
  | nil => simp [Expression.argumentsDepth]
  | cons e arguments ih =>
    simp only [Expression.argumentsDepth, Nat.max_le, ih, List.forall_mem_cons]

theorem Literal.lt_listDepth_iff {values : List Literal} {n : Nat} :
    n < Literal.listDepth values ↔ ∃ l ∈ values, n < l.depth + 1 := by
  rw [← Nat.not_le, Literal.listDepth_le_iff]
  simp

theorem Expression.lt_argumentsDepth_iff {arguments : List Expression} {n : Nat} :
    n < Expression.argumentsDepth arguments ↔ ∃ e ∈ arguments, n < e.depth + 1 := by
  rw [← Nat.not_le, Expression.argumentsDepth_le_iff]
  simp

theorem Literal.listFields_eq_map (values : List Literal) :
    Literal.listFields values = values.map fun l => .ofMessage 1 l.fields := by
  induction values with
  | nil => rfl
  | cons l values ih => rw [Literal.listFields, ih, List.map_cons]

theorem Expression.argumentsFields_eq_map (arguments : List Expression) :
    Expression.argumentsFields arguments = arguments.map fun e => .ofMessage 2 e.fields := by
  induction arguments with
  | nil => rfl
  | cons e arguments ih => rw [Expression.argumentsFields, ih, List.map_cons]

theorem Expression.argumentFields_eq (argument : Option Expression) :
    Expression.argumentFields argument =
      optionalPart (fun e => .ofMessage 1 e.fields) argument := by
  cases argument <;> rfl

section Written

theorem Written.nil : Written [] := fun _ member => nomatch member

theorem Written.single {number : Nat} {payload : Payload} (numbered : Numbered number)
    (fits : payload.Written) : Written [⟨number, payload⟩] := by
  intro f member
  rw [List.mem_singleton.1 member]
  exact ⟨numbered, fits⟩

theorem Written.message {number : Nat} (numbered : Numbered number) (inner : List Field) :
    Written [.ofMessage number inner] := .single numbered trivial

theorem Written.text {number : Nat} (numbered : Numbered number) (s : String) :
    Written [.ofText number s] := .single numbered trivial

theorem Written.code {number : Nat} (numbered : Numbered number) (code : Int32) :
    Written [.ofInt32 number code] := .single numbered (signed_lt _)

theorem Written.boolean {number : Nat} (numbered : Numbered number) (b : Bool) :
    Written [.ofBool number b] := .single numbered (Nat.lt_trans b.toNat_lt (by decide))

theorem Written.append {xs ys : List Field} (first : Written xs) (second : Written ys) :
    Written (xs ++ ys) :=
  fun f member => (List.mem_append.1 member).elim (first f) (second f)

theorem Written.map {α : Type} {field : α → Field} (each : ∀ x, Written [field x])
    (parts : List α) : Written (parts.map field) := by
  intro f member
  obtain ⟨x, _, rfl⟩ := List.mem_map.1 member
  exact each x _ (List.mem_singleton_self _)

theorem Written.optionalPart {α : Type} {field : α → Field} (each : ∀ x, Written [field x])
    (part : Option α) : Written (optionalPart field part) := by
  cases part with
  | none => exact .nil
  | some x => exact each x

theorem Written.plainCode {number : Nat} (numbered : Numbered number) (code : Int32) :
    Written (plainCode number code) := by
  unfold Wire.plainCode
  split
  · exact .nil
  · exact .code numbered code

theorem Written.plainText {number : Nat} (numbered : Numbered number) (s : String) :
    Written (plainText number s) := by
  unfold Wire.plainText
  split
  · exact .nil
  · exact .text numbered s

theorem columnFields_written (name : String) : Written (columnFields name) :=
  .plainText (by decide) name

theorem Literal.fields_written (l : Literal) : Written l.fields := by
  cases l with
  | unset => exact .nil
  | string value => exact .text (by decide) value
  | boolean value => exact .boolean (by decide) value
  | i32 value => exact .code (by decide) value
  | u64 value => exact .single (by decide) value.toNat_lt
  | u32 value => exact .single (by decide) (Nat.lt_trans value.toNat_lt (by decide))
  | i64 value => exact .single (by decide) (signed_lt _)
  | f32 value => exact .single (by decide) value.bits.toNat_lt
  | f64 value => exact .single (by decide) value.bits.toNat_lt
  | timestamp micros => exact .single (by decide) (signed_lt _)
  | list values => exact .message (by decide) _

theorem Literal.listFields_written (values : List Literal) :
    Written (Literal.listFields values) := by
  rw [Literal.listFields_eq_map]
  exact .map (fun l => .message (by decide : Numbered 1) l.fields) values

theorem Expression.fields_written (e : Expression) : Written e.fields := by
  cases e with
  | unset => exact .nil
  | _ => exact .message (by decide) _

theorem Expression.argumentFields_written (argument : Option Expression) :
    Written (Expression.argumentFields argument) := by
  rw [Expression.argumentFields_eq]
  exact .optionalPart (fun e => .message (by decide : Numbered 1) e.fields) argument

theorem Application.fields_written (a : Application) : Written a.fields :=
  .append (Expression.argumentFields_written a.argument) (.plainCode (by decide) a.op)

theorem Condition.fields_written (c : Condition) : Written c.fields := by
  rw [Condition.fields, Expression.argumentsFields_eq_map]
  exact .append (.plainCode (by decide) c.op)
    (.map (fun e => .message (by decide : Numbered 2) e.fields) c.arguments)

end Written

namespace Readers

/-- Readers of the messages inside one that has `levels` levels below it. -/
def below : (levels : Nat) → Option Readers
  | 0 => none
  | levels + 1 => some (withLevels levels)

theorem withLevels_eq (levels : Nat) : withLevels levels = above levels (below levels) := by
  cases levels <;> rfl

/-- With so many levels left, every message that is not deeper is given back. -/
structure Reads (levels : Nat) : Prop where
  column : ∀ name, Field.Short (columnFields name) →
    (withLevels levels).column "" (Field.encodeAll (columnFields name)) = some name
  literal : ∀ l : Literal, l.depth ≤ levels → Field.Short l.fields →
    (withLevels levels).literal .unset (Field.encodeAll l.fields) = some l
  literals : ∀ values, Literal.listDepth values ≤ levels → Field.Short (Literal.listFields values) →
    (withLevels levels).literals [] (Field.encodeAll (Literal.listFields values)) = some values
  expression : ∀ e : Expression, e.depth ≤ levels → Field.Short e.fields →
    (withLevels levels).expression .unset (Field.encodeAll e.fields) = some e
  application : ∀ a : Application, a.depth ≤ levels → Field.Short a.fields →
    (withLevels levels).application .empty (Field.encodeAll a.fields) = some a
  condition : ∀ c : Condition, c.depth ≤ levels → Field.Short c.fields →
    (withLevels levels).condition .empty (Field.encodeAll c.fields) = some c

/-- A level that is left is a level for the messages inside. -/
theorem nested_below {levels depth : Nat} (room : depth + 1 ≤ levels) :
    ∃ inner, levels = inner + 1 ∧ depth ≤ inner ∧ ∀ {α : Type} (read : Readers → Option α),
      nested (below levels) read = read (withLevels inner) := by
  obtain ⟨inner, rfl⟩ := Nat.exists_eq_add_of_le' (Nat.le_trans (Nat.le_add_left 1 depth) room)
  exact ⟨inner, rfl, Nat.le_of_succ_le_succ room, fun _ => rfl⟩

section Reads

variable {levels : Nat} (inside : ∀ inner, levels = inner + 1 → Reads inner)

theorem merges_column (name : String) :
    Merges (columnStep (below levels)) (columnFields name) "" name :=
  .plainText (fun empty => empty.symm) (text?_textBytes name)

include inside

theorem merges_literal {l : Literal} (fits : l.depth ≤ levels) (short : Field.Short l.fields) :
    Merges (Literal.step (below levels)) l.fields .unset l := by
  cases l with
  | unset => exact .nil _
  | string value => exact .single (congrArg (Option.map Literal.string) (text?_textBytes value))
  | boolean value => cases value <;> exact .single rfl
  | i32 value => exact .single (congrArg (fun n => some (Literal.i32 n)) (int32Of_signed value))
  | u64 value => exact .single (congrArg (fun n => some (Literal.u64 n)) UInt64.ofNat_toNat)
  | u32 value => exact .single (congrArg (fun n => some (Literal.u32 n)) UInt32.ofNat_toNat)
  | i64 value => exact .single (congrArg (fun n => some (Literal.i64 n)) (int64Of_signed value))
  | f32 value => exact .single (congrArg (fun n => some (Literal.f32 ⟨n⟩)) UInt32.ofNat_toNat)
  | f64 value => exact .single (congrArg (fun n => some (Literal.f64 ⟨n⟩)) UInt64.ofNat_toNat)
  | timestamp micros =>
    exact .single (congrArg (fun n => some (Literal.timestamp n)) (int64Of_signed micros))
  | list values =>
    obtain ⟨inner, eq, fits, same⟩ := nested_below fits
    have contents := (inside inner eq).literals values fits short.only
    exact .single ((same _).trans (congrArg (Option.map Literal.list) contents))

theorem merges_literals {values : List Literal} (fits : Literal.listDepth values ≤ levels)
    (short : Field.Short (Literal.listFields values)) :
    Merges (literalsStep (below levels)) (Literal.listFields values) [] values := by
  rw [Literal.listDepth_le_iff] at fits
  rw [Literal.listFields_eq_map] at short ⊢
  refine Merges.collected (fun before => before) (fun l member before => ?_) []
  obtain ⟨inner, eq, fits, same⟩ := nested_below (fits l member)
  have contents := (inside inner eq).literal l fits (short.nested (List.mem_map_of_mem member))
  exact (same _).trans (congrArg (Option.map fun l => before ++ [l]) contents)

theorem merges_expression {e : Expression} (fits : e.depth ≤ levels)
    (short : Field.Short e.fields) :
    Merges (Expression.step (below levels)) e.fields .unset e := by
  cases e with
  | unset => exact .nil _
  | column name =>
    obtain ⟨inner, eq, _, same⟩ := nested_below fits
    have contents := (inside inner eq).column name short.only
    exact .single ((same _).trans (congrArg (Option.map Expression.column) contents))
  | literal l =>
    obtain ⟨inner, eq, fits, same⟩ := nested_below fits
    have contents := (inside inner eq).literal l fits short.only
    exact .single ((same _).trans (congrArg (Option.map Expression.literal) contents))
  | derived argument op =>
    obtain ⟨inner, eq, fits, same⟩ := nested_below fits
    have contents := (inside inner eq).application ⟨argument, op⟩ fits
      short.only
    exact .single ((same _).trans (congrArg (Option.map Expression.ofDerived) contents))
  | aggregate argument op =>
    obtain ⟨inner, eq, fits, same⟩ := nested_below fits
    have contents := (inside inner eq).application ⟨argument, op⟩ fits
      short.only
    exact .single ((same _).trans (congrArg (Option.map Expression.ofAggregate) contents))
  | condition op arguments =>
    obtain ⟨inner, eq, fits, same⟩ := nested_below fits
    have contents := (inside inner eq).condition ⟨op, arguments⟩ fits
      short.only
    exact .single ((same _).trans (congrArg (Option.map Expression.ofCondition) contents))

theorem merges_application {a : Application} (fits : a.depth ≤ levels)
    (short : Field.Short a.fields) :
    Merges (Application.step (below levels)) a.fields .empty a := by
  obtain ⟨argument, op⟩ := a
  have first : Merges (Application.step (below levels)) (Expression.argumentFields argument)
      .empty ⟨argument, 0⟩ := by
    cases argument with
    | none => exact .nil _
    | some e =>
      obtain ⟨inner, eq, fits, same⟩ := nested_below fits
      have contents := (inside inner eq).expression e fits
        (short.nested (List.mem_append_left _ (List.mem_singleton_self _)))
      exact .single
        ((same _).trans (congrArg (Option.map fun e => Application.mk (some e) 0) contents))
  refine first.append (.plainCode (fun zero => ?_) ?_)
  · exact congrArg (Application.mk argument) zero.symm
  · exact congrArg (fun code => some (Application.mk argument code)) (int32Of_signed op)

theorem merges_condition {c : Condition} (fits : c.depth ≤ levels)
    (short : Field.Short c.fields) :
    Merges (Condition.step (below levels)) c.fields .empty c := by
  obtain ⟨op, arguments⟩ := c
  rw [Condition.depth, Expression.argumentsDepth_le_iff] at fits
  rw [Condition.fields, Expression.argumentsFields_eq_map] at short ⊢
  have first : Merges (Condition.step (below levels)) (plainCode 1 op) .empty ⟨op, []⟩ := by
    refine .plainCode (fun zero => ?_) ?_
    · rw [zero]
      rfl
    · exact congrArg (fun code => some (Condition.mk code [])) (int32Of_signed op)
  refine first.append (Merges.collected (Condition.mk op) (fun e member before => ?_) [])
  obtain ⟨inner, eq, fits, same⟩ := nested_below (fits e member)
  have contents := (inside inner eq).expression e fits
    (short.nested (List.mem_append_right _ (List.mem_map_of_mem member)))
  exact (same _).trans (congrArg (Option.map fun e => Condition.mk op (before ++ [e])) contents)

/-- Readers that hold for the messages inside hold for the messages around them. -/
theorem reads_of_inside : Reads levels where
  column name short := by
    rw [withLevels_eq]
    exact (merges_column name).read (columnFields_written name) short.framed levels
  literal l fits short := by
    rw [withLevels_eq]
    exact (merges_literal inside fits short).read l.fields_written short.framed levels
  literals values fits short := by
    rw [withLevels_eq]
    exact (merges_literals inside fits short).read (Literal.listFields_written values)
      short.framed levels
  expression e fits short := by
    rw [withLevels_eq]
    exact (merges_expression inside fits short).read e.fields_written short.framed levels
  application a fits short := by
    rw [withLevels_eq]
    exact (merges_application inside fits short).read a.fields_written short.framed levels
  condition c fits short := by
    rw [withLevels_eq]
    exact (merges_condition inside fits short).read c.fields_written short.framed levels

end Reads

theorem reads (levels : Nat) : Reads levels := by
  -- on the levels and not on a message, since readers of all kinds call each other
  induction levels with
  | zero => exact reads_of_inside fun inner eq => absurd eq (Nat.succ_ne_zero inner).symm
  | succ levels ih =>
    refine reads_of_inside fun inner eq => ?_
    cases eq
    exact ih

/-- With so many levels left, a message that is deeper is refused, whatever is there already. -/
structure Refuses (levels : Nat) : Prop where
  literal : ∀ l : Literal, levels < l.depth → Field.Short l.fields →
    ∀ start, (withLevels levels).literal start (Field.encodeAll l.fields) = none
  literals : ∀ values, levels < Literal.listDepth values → Field.Short (Literal.listFields values) →
    ∀ start, (withLevels levels).literals start (Field.encodeAll (Literal.listFields values)) = none
  expression : ∀ e : Expression, levels < e.depth → Field.Short e.fields →
    ∀ start, (withLevels levels).expression start (Field.encodeAll e.fields) = none
  application : ∀ a : Application, levels < a.depth → Field.Short a.fields →
    ∀ start, (withLevels levels).application start (Field.encodeAll a.fields) = none
  condition : ∀ c : Condition, levels < c.depth → Field.Short c.fields →
    ∀ start, (withLevels levels).condition start (Field.encodeAll c.fields) = none

/-- Either no level is left for the message inside, or it is too deep for those that are. -/
theorem nested_refused {levels depth : Nat} {α : Type} {read : Readers → Option α}
    (deep : levels < depth + 1)
    (refused : ∀ inner, levels = inner + 1 → inner < depth → read (withLevels inner) = none) :
    nested (below levels) read = none := by
  cases levels with
  | zero => rfl
  | succ inner => exact refused inner rfl (Nat.lt_of_succ_lt_succ deep)

section Refuses

variable {levels : Nat} (inside : ∀ inner, levels = inner + 1 → Refuses inner)

include inside

theorem blocked_literal {l : Literal} (deep : levels < l.depth) (short : Field.Short l.fields) :
    Blocked (Literal.step (below levels)) l.fields := by
  cases l with
  | list values =>
    refine .single fun message => nested_refused deep fun inner eq deeper => ?_
    exact congrArg (Option.map Literal.list)
      ((inside inner eq).literals values deeper short.only _)
  | _ => exact absurd deep (Nat.not_lt_zero _)

theorem blocked_literals {values : List Literal} (deep : levels < Literal.listDepth values)
    (short : Field.Short (Literal.listFields values)) :
    Blocked (literalsStep (below levels)) (Literal.listFields values) := by
  obtain ⟨l, among, deep⟩ := Literal.lt_listDepth_iff.1 deep
  rw [Literal.listFields_eq_map] at short ⊢
  have member := List.mem_map_of_mem (f := fun l => Field.ofMessage 1 l.fields) among
  refine ⟨_, member, fun before => nested_refused deep fun inner eq deeper => ?_⟩
  exact congrArg (Option.map fun l => before ++ [l])
    ((inside inner eq).literal l deeper (short.nested member) _)

theorem blocked_expression {e : Expression} (deep : levels < e.depth)
    (short : Field.Short e.fields) : Blocked (Expression.step (below levels)) e.fields := by
  cases e with
  | unset => exact absurd deep (Nat.not_lt_zero _)
  | column name =>
    refine .single fun message => nested_refused deep fun inner eq deeper => ?_
    exact absurd deeper (Nat.not_lt_zero inner)
  | literal l =>
    refine .single fun message => nested_refused deep fun inner eq deeper => ?_
    exact congrArg (Option.map Expression.literal)
      ((inside inner eq).literal l deeper short.only _)
  | derived argument op =>
    refine .single fun message => nested_refused deep fun inner eq deeper => ?_
    exact congrArg (Option.map Expression.ofDerived)
      ((inside inner eq).application ⟨argument, op⟩ deeper short.only _)
  | aggregate argument op =>
    refine .single fun message => nested_refused deep fun inner eq deeper => ?_
    exact congrArg (Option.map Expression.ofAggregate)
      ((inside inner eq).application ⟨argument, op⟩ deeper short.only _)
  | condition op arguments =>
    refine .single fun message => nested_refused deep fun inner eq deeper => ?_
    exact congrArg (Option.map Expression.ofCondition)
      ((inside inner eq).condition ⟨op, arguments⟩ deeper short.only _)

theorem blocked_application {a : Application} (deep : levels < a.depth)
    (short : Field.Short a.fields) : Blocked (Application.step (below levels)) a.fields := by
  obtain ⟨argument, op⟩ := a
  cases argument with
  | none => exact absurd deep (Nat.not_lt_zero _)
  | some e =>
    have member : Field.ofMessage 1 e.fields ∈ (Application.mk (some e) op).fields :=
      List.mem_append_left _ (List.mem_singleton_self _)
    refine ⟨_, member, fun message => nested_refused deep fun inner eq deeper => ?_⟩
    exact congrArg (Option.map fun e => Application.mk (some e) message.op)
      ((inside inner eq).expression e deeper (short.nested member) _)

theorem blocked_condition {c : Condition} (deep : levels < c.depth)
    (short : Field.Short c.fields) : Blocked (Condition.step (below levels)) c.fields := by
  obtain ⟨e, among, deep⟩ := Expression.lt_argumentsDepth_iff.1 deep
  rw [Condition.fields, Expression.argumentsFields_eq_map] at short ⊢
  have member := List.mem_append_right (plainCode 1 c.op)
    (List.mem_map_of_mem (f := fun e => Field.ofMessage 2 e.fields) among)
  refine ⟨_, member, fun message => nested_refused deep fun inner eq deeper => ?_⟩
  exact congrArg (Option.map fun e => Condition.mk message.op (message.arguments ++ [e]))
    ((inside inner eq).expression e deeper (short.nested member) _)

/-- Readers that refuse inside refuse the messages around. -/
theorem refuses_of_inside : Refuses levels where
  literal l deep short start := by
    rw [withLevels_eq]
    exact (blocked_literal inside deep short).read l.fields_written short.framed levels start
  literals values deep short start := by
    rw [withLevels_eq]
    exact (blocked_literals inside deep short).read (Literal.listFields_written values)
      short.framed levels start
  expression e deep short start := by
    rw [withLevels_eq]
    exact (blocked_expression inside deep short).read e.fields_written short.framed levels start
  application a deep short start := by
    rw [withLevels_eq]
    exact (blocked_application inside deep short).read a.fields_written short.framed levels start
  condition c deep short start := by
    rw [withLevels_eq]
    exact (blocked_condition inside deep short).read c.fields_written short.framed levels start

end Refuses

theorem refuses (levels : Nat) : Refuses levels := by
  induction levels with
  | zero => exact refuses_of_inside fun inner eq => absurd eq (Nat.succ_ne_zero inner).symm
  | succ levels ih =>
    refine refuses_of_inside fun inner eq => ?_
    cases eq
    exact ih

end Readers

end DatasetQuery.Wire
