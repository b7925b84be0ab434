import DatasetQuery.Proofs.Nesting
/-!
Queries on the wire. What is decoded from the bytes of a query is that query if none of its
messages lies deeper than the levels below the root, and nothing otherwise.
-/
namespace DatasetQuery.Wire

theorem addressFields_written (a : Address) : Written a.fields := by
  cases a with
  | unset => exact .nil
  | package id => exact .text (by decide) id
  | source id => exact .text (by decide) id

theorem Selection.fields_written (s : Selection) : Written s.fields :=
  .append (Expression.argumentFields_written s.argument)
    (.optionalPart (.text (by decide)) s.alias?)

theorem Grouping.fields_written (g : Grouping) : Written g.fields := by
  cases g with
  | unset => exact .nil
  | column name => exact .message (by decide) _
  | derived content => exact .message (by decide) _

theorem SortKey.fields_written (k : SortKey) : Written k.fields :=
  .append (Expression.argumentFields_written k.argument)
    (.optionalPart (.code (by decide)) k.direction)

theorem ClientVersion.fields_written (v : ClientVersion) : Written v.fields :=
  .append (.append (.plainCode (by decide) v.client) (.plainText (by decide) v.codeVersion))
    (.plainText (by decide) v.datasetVersion)

theorem Query.fields_written (q : Query) : Written q.fields := by
  refine .append (.append (.append (.append (.append (.append (.append (.append ?_ ?_) ?_) ?_)
    ?_) ?_) ?_) ?_) ?_
  · exact .optionalPart (fun _ => .message (by decide) _) q.address
  · exact .plainText (by decide) q.selectFrom
  · exact .map (fun _ => .message (by decide) _) q.select
  · exact .optionalPart (fun _ => .message (by decide) _) q.filter
  · exact .map (fun _ => .message (by decide) _) q.groupBy
  · exact .map (fun _ => .message (by decide) _) q.orderBy
  · exact .optionalPart (fun n => .single (by decide) n.toNat_lt) q.limit
  · exact .optionalPart (fun _ => .message (by decide) _) q.clientVersion
  · exact .optionalPart (.boolean (by decide)) q.dryRun

theorem QueryResult.fields_written (r : QueryResult) : Written r.fields :=
  .append (.plainText (by decide) r.queryString) (.plainText (by decide) r.jsonData)

/-- The levels of messages below a selection. -/
def Selection.depth (s : Selection) : Nat := Expression.argumentDepth s.argument

def Grouping.depth : Grouping → Nat
  | .unset => 0
  | .column _ => 1
  | .derived content => content.depth + 1

def SortKey.depth (k : SortKey) : Nat := Expression.argumentDepth k.argument

/-- The levels below a message that holds messages of such depths. -/
def levelsAbove (depths : List Nat) : Nat := depths.foldr (fun depth n => max (depth + 1) n) 0

theorem levelsAbove_le_iff {depths : List Nat} {n : Nat} :
    levelsAbove depths ≤ n ↔ ∀ depth ∈ depths, depth + 1 ≤ n := by
  induction depths with
  | nil => simp [levelsAbove]
  | cons depth depths ih =>
    rw [List.forall_mem_cons, ← ih]
    exact Nat.max_le

namespace Query

/-- The levels of messages below a query. Addresses and versions hold no messages. -/
def depth (q : Query) : Nat :=
  levelsAbove (q.address.toList.map (fun _ => 0) ++ q.select.map Selection.depth
    ++ q.filter.toList.map Condition.depth ++ q.groupBy.map Grouping.depth
    ++ q.orderBy.map SortKey.depth ++ q.clientVersion.toList.map (fun _ => 0))

theorem depth_le_iff {q : Query} {levels : Nat} :
    q.depth ≤ levels + 1 ↔ (∀ s ∈ q.select, s.depth ≤ levels) ∧ (∀ c ∈ q.filter, c.depth ≤ levels)
      ∧ (∀ g ∈ q.groupBy, g.depth ≤ levels) ∧ ∀ k ∈ q.orderBy, k.depth ≤ levels := by
  simp only [depth, levelsAbove_le_iff, Nat.add_le_add_iff_right, List.forall_mem_append,
    List.forall_mem_map, Option.mem_toList, Option.mem_def, Nat.zero_le, implies_true, and_true,
    true_and, and_assoc]

theorem lt_depth_iff {q : Query} {levels : Nat} :
    levels + 1 < q.depth ↔ (∃ s ∈ q.select, levels < s.depth) ∨ (∃ c ∈ q.filter, levels < c.depth)
      ∨ (∃ g ∈ q.groupBy, levels < g.depth) ∨ ∃ k ∈ q.orderBy, levels < k.depth := by
  rw [← Nat.not_le, depth_le_iff]
  simp only [Classical.not_and_iff_not_or_not, Classical.not_forall, Nat.not_le, exists_prop]

end Query

section Parts

theorem merges_address (a : Address) : Merges Address.step a.fields .unset a := by
  cases a with
  | unset => exact .nil _
  | package id => exact .single (congrArg (Option.map Address.package) (text?_textBytes id))
  | source id => exact .single (congrArg (Option.map Address.source) (text?_textBytes id))

theorem merges_clientVersion (v : ClientVersion) :
    Merges ClientVersion.step v.fields .empty v := by
  obtain ⟨client, code, dataset⟩ := v
  have first : Merges ClientVersion.step (plainCode 1 client) .empty ⟨client, "", ""⟩ := by
    refine .plainCode (fun zero => ?_) ?_
    · rw [zero]
      rfl
    · exact congrArg (fun n => some (ClientVersion.mk n "" "")) (int32Of_signed client)
  have second : Merges ClientVersion.step (plainText 2 code) ⟨client, "", ""⟩
      ⟨client, code, ""⟩ := by
    refine .plainText (fun empty => ?_) ?_
    · rw [empty]
    · exact congrArg (Option.map fun s => ClientVersion.mk client s "") (text?_textBytes code)
  have third : Merges ClientVersion.step (plainText 3 dataset) ⟨client, code, ""⟩
      ⟨client, code, dataset⟩ := by
    refine .plainText (fun empty => ?_) ?_
    · rw [empty]
    · exact congrArg (Option.map fun s => ClientVersion.mk client code s) (text?_textBytes dataset)
  exact (first.append second).append third

section Argument

variable {α : Type} {step : Field → α → Option α} {argument : Option Expression}

/-- The argument in front of a selection or of a sort key, read where there is none yet. -/
theorem merges_argument (put : Option Expression → α)
    (reads : ∀ b, step ⟨1, .bytes b⟩ (put none) =
      (secondLevel.expression .unset b).map fun e => put (some e))
    (fits : Expression.argumentDepth argument ≤ 99)
    (framed : Framed (Expression.argumentFields argument)) :
    Merges step (Expression.argumentFields argument) (put none) (put argument) := by
  cases argument with
  | none => exact .nil _
  | some e =>
    have short : Field.Short e.fields := framed _ (List.mem_singleton_self _)
    have contents := (Readers.reads 98).expression e (Nat.le_of_succ_le_succ fits) short
    exact .single ((reads _).trans (congrArg (Option.map fun e => put (some e)) contents))

/-- An argument that is too deep is refused, whatever is there already. -/
theorem blocked_argument (present : α → Expression) (put : α → Expression → α)
    (reads : ∀ b message, step ⟨1, .bytes b⟩ message =
      (secondLevel.expression (present message) b).map (put message))
    (deep : 99 < Expression.argumentDepth argument)
    (framed : Framed (Expression.argumentFields argument)) :
    Blocked step (Expression.argumentFields argument) := by
  cases argument with
  | none => exact absurd deep (Nat.not_lt_zero _)
  | some e =>
    have short : Field.Short e.fields := framed _ (List.mem_singleton_self _)
    refine .single fun message => ?_
    have contents := (Readers.refuses 98).expression e (Nat.lt_of_succ_lt_succ deep) short
      (present message)
    exact (reads _ _).trans (congrArg (Option.map (put message)) contents)

end Argument

theorem merges_selection {s : Selection} (fits : s.depth ≤ 99) (short : Field.Short s.fields) :
    Merges Selection.step s.fields .empty s := by
  obtain ⟨argument, alias?⟩ := s
  have first : Merges Selection.step (Expression.argumentFields argument) .empty
      ⟨argument, none⟩ :=
    merges_argument (fun argument => Selection.mk argument none) (fun _ => rfl) fits
      short.framed.left
  refine first.append (.optionalPart (fun absent => ?_) fun a present => ?_)
  · exact congrArg (Selection.mk argument) absent.symm
  · rw [show alias? = some a from present]
    exact congrArg (Option.map fun a => Selection.mk argument (some a)) (text?_textBytes a)

theorem merges_sortKey {k : SortKey} (fits : k.depth ≤ 99) (short : Field.Short k.fields) :
    Merges SortKey.step k.fields .empty k := by
  obtain ⟨argument, direction⟩ := k
  have first : Merges SortKey.step (Expression.argumentFields argument) .empty
      ⟨argument, none⟩ :=
    merges_argument (fun argument => SortKey.mk argument none) (fun _ => rfl) fits
      short.framed.left
  refine first.append (.optionalPart (fun absent => ?_) fun d present => ?_)
  · exact congrArg (SortKey.mk argument) absent.symm
  · rw [show direction = some d from present]
    exact congrArg (fun d => some (SortKey.mk argument (some d))) (int32Of_signed d)

theorem merges_grouping {g : Grouping} (fits : g.depth ≤ 99) (short : Field.Short g.fields) :
    Merges Grouping.step g.fields .unset g := by
  cases g with
  | unset => exact .nil _
  | column name =>
    have inner := short.only
    exact .single (congrArg (Option.map Grouping.column) ((Readers.reads 98).column name inner))
  | derived content =>
    have inner := short.only
    exact .single (congrArg (Option.map Grouping.derived)
      ((Readers.reads 98).application content (Nat.le_of_succ_le_succ fits) inner))

theorem blocked_selection {s : Selection} (deep : 99 < s.depth) (short : Field.Short s.fields) :
    Blocked Selection.step s.fields := by
  have argument : Blocked Selection.step (Expression.argumentFields s.argument) :=
    blocked_argument (fun s => start s.argument) (fun s e => { s with argument := some e })
      (fun _ _ => rfl) deep short.framed.left
  exact argument.left

theorem blocked_sortKey {k : SortKey} (deep : 99 < k.depth) (short : Field.Short k.fields) :
    Blocked SortKey.step k.fields := by
  have argument : Blocked SortKey.step (Expression.argumentFields k.argument) :=
    blocked_argument (fun k => start k.argument) (fun k e => { k with argument := some e })
      (fun _ _ => rfl) deep short.framed.left
  exact argument.left

theorem blocked_grouping {g : Grouping} (deep : 99 < g.depth) (short : Field.Short g.fields) :
    Blocked Grouping.step g.fields := by
  cases g with
  | unset => exact absurd deep (Nat.not_lt_zero _)
  | column name => exact absurd deep (by simp [Grouping.depth])
  | derived content =>
    refine .single fun message => ?_
    exact congrArg (Option.map Grouping.derived)
      ((Readers.refuses 98).application content (Nat.lt_of_succ_lt_succ deep) short.only _)

end Parts

namespace Query

section Fields

variable {q : Query}

theorem address_mem {a : Address} (present : a ∈ q.address) :
    Field.ofMessage 1 a.fields ∈ q.fields := by
  simp only [fields, List.mem_append, Option.mem_def.1 present, optionalPart, Option.map_some,
    Option.toList_some, List.mem_singleton, true_or]

theorem select_mem {s : Selection} (among : s ∈ q.select) :
    Field.ofMessage 3 s.fields ∈ q.fields := by
  have part := List.mem_map_of_mem (f := fun s => Field.ofMessage 3 s.fields) among
  simp only [fields, List.mem_append, part, or_true, true_or]

theorem filter_mem {c : Condition} (present : c ∈ q.filter) :
    Field.ofMessage 4 c.fields ∈ q.fields := by
  simp only [fields, List.mem_append, Option.mem_def.1 present, optionalPart, Option.map_some,
    Option.toList_some, List.mem_singleton, or_true, true_or]

theorem groupBy_mem {g : Grouping} (among : g ∈ q.groupBy) :
    Field.ofMessage 5 g.fields ∈ q.fields := by
  have part := List.mem_map_of_mem (f := fun g => Field.ofMessage 5 g.fields) among
  simp only [fields, List.mem_append, part, or_true, true_or]

theorem orderBy_mem {k : SortKey} (among : k ∈ q.orderBy) :
    Field.ofMessage 6 k.fields ∈ q.fields := by
  have part := List.mem_map_of_mem (f := fun k => Field.ofMessage 6 k.fields) among
  simp only [fields, List.mem_append, part, or_true, true_or]

theorem clientVersion_mem {v : ClientVersion} (present : v ∈ q.clientVersion) :
    Field.ofMessage 8 v.fields ∈ q.fields := by
  simp only [fields, List.mem_append, Option.mem_def.1 present, optionalPart, Option.map_some,
    Option.toList_some, List.mem_singleton, or_true, true_or]

end Fields

section Step

theorem step_address {a : Address} (short : Field.Short a.fields) {q : Query}
    (absent : q.address = none) :
    step (.ofMessage 1 a.fields) q = some { q with address := some a } := by
  have contents := (merges_address a).read (addressFields_written a) short.framed 99
  simp only [step, Field.ofMessage, absent, Option.getD_none, contents, Option.map_some]

theorem step_selectFrom (name : String) (q : Query) :
    step (.ofText 2 name) q = some { q with selectFrom := name } := by
  simp only [step, Field.ofText, text?_textBytes, Option.map_some]

theorem step_select {s : Selection} (fits : s.depth ≤ 99) (short : Field.Short s.fields)
    (q : Query) : step (.ofMessage 3 s.fields) q = some { q with select := q.select ++ [s] } := by
  have contents := (merges_selection fits short).read s.fields_written short.framed 99
  simp only [step, Field.ofMessage, contents, Option.map_some]

theorem step_filter {c : Condition} (fits : c.depth ≤ 99) (short : Field.Short c.fields)
    {q : Query} (absent : q.filter = none) :
    step (.ofMessage 4 c.fields) q = some { q with filter := some c } := by
  have contents : firstLevel.condition .empty (Field.encodeAll c.fields) = some c :=
    (Readers.reads 99).condition c fits short
  simp only [step, Field.ofMessage, absent, Option.getD_none, contents, Option.map_some]

theorem step_groupBy {g : Grouping} (fits : g.depth ≤ 99) (short : Field.Short g.fields)
    (q : Query) : step (.ofMessage 5 g.fields) q = some { q with groupBy := q.groupBy ++ [g] } := by
  have contents := (merges_grouping fits short).read g.fields_written short.framed 99
  simp only [step, Field.ofMessage, contents, Option.map_some]

theorem step_orderBy {k : SortKey} (fits : k.depth ≤ 99) (short : Field.Short k.fields)
    (q : Query) : step (.ofMessage 6 k.fields) q = some { q with orderBy := q.orderBy ++ [k] } := by
  have contents := (merges_sortKey fits short).read k.fields_written short.framed 99
  simp only [step, Field.ofMessage, contents, Option.map_some]

theorem step_clientVersion {v : ClientVersion} (short : Field.Short v.fields) {q : Query}
    (absent : q.clientVersion = none) :
    step (.ofMessage 8 v.fields) q = some { q with clientVersion := some v } := by
  have contents := (merges_clientVersion v).read v.fields_written short.framed 99
  simp only [step, Field.ofMessage, absent, Option.getD_none, contents, Option.map_some]

theorem step_limit (n : UInt64) (q : Query) :
    step ⟨7, .varint n.toNat⟩ q = some { q with limit := some n } := by
  simp only [step, UInt64.ofNat_toNat]

theorem step_dryRun (b : Bool) (q : Query) :
    step (.ofBool 9 b) q = some { q with dryRun := some b } := by
  cases b <;> rfl

end Step

/-- Fields in the order of their numbers fill the parts of a query one after the other. -/
theorem merges_fields {q : Query} (fits : q.depth ≤ rootLevels) (framed : Framed q.fields) :
    Merges step q.fields .empty q := by
  obtain ⟨selectFits, filterFits, groupByFits, orderByFits⟩ := depth_le_iff.1 fits
  -- every part is merged into a query that has the parts before it and none after it
  have address : Merges step (optionalPart (fun a => .ofMessage 1 a.fields) q.address)
      .empty ⟨q.address, "", [], none, [], [], none, none, none⟩ := by
    refine .optionalPart (fun absent => ?_) fun a present => ?_
    · rw [absent]
      rfl
    · rw [present]
      exact step_address (framed _ (address_mem present)) rfl
  have selectFrom : Merges step (plainText 2 q.selectFrom)
      ⟨q.address, "", [], none, [], [], none, none, none⟩
      ⟨q.address, q.selectFrom, [], none, [], [], none, none, none⟩ := by
    refine .plainText (fun absent => ?_) (step_selectFrom _ _)
    rw [absent]
  have select : Merges step (q.select.map fun s => .ofMessage 3 s.fields)
      ⟨q.address, q.selectFrom, [], none, [], [], none, none, none⟩
      ⟨q.address, q.selectFrom, q.select, none, [], [], none, none, none⟩ :=
    .collected (fun select => mk q.address q.selectFrom select none [] [] none none none)
      (fun s among _ => step_select (selectFits s among) (framed _ (select_mem among)) _) []
  have filter : Merges step (optionalPart (fun c => .ofMessage 4 c.fields) q.filter)
      ⟨q.address, q.selectFrom, q.select, none, [], [], none, none, none⟩
      ⟨q.address, q.selectFrom, q.select, q.filter, [], [], none, none, none⟩ := by
    refine .optionalPart (fun absent => ?_) fun c present => ?_
    · rw [absent]
    · rw [present]
      exact step_filter (filterFits c present) (framed _ (filter_mem present)) rfl
  have groupBy : Merges step (q.groupBy.map fun g => .ofMessage 5 g.fields)
      ⟨q.address, q.selectFrom, q.select, q.filter, [], [], none, none, none⟩
      ⟨q.address, q.selectFrom, q.select, q.filter, q.groupBy, [], none, none, none⟩ :=
    .collected
      (fun groupBy => mk q.address q.selectFrom q.select q.filter groupBy [] none none none)
      (fun g among _ => step_groupBy (groupByFits g among) (framed _ (groupBy_mem among)) _) []
  have orderBy : Merges step (q.orderBy.map fun k => .ofMessage 6 k.fields)
      ⟨q.address, q.selectFrom, q.select, q.filter, q.groupBy, [], none, none, none⟩
      ⟨q.address, q.selectFrom, q.select, q.filter, q.groupBy, q.orderBy, none, none, none⟩ :=
    .collected
      (fun orderBy => mk q.address q.selectFrom q.select q.filter q.groupBy orderBy none none none)
      (fun k among _ => step_orderBy (orderByFits k among) (framed _ (orderBy_mem among)) _) []
  have limit : Merges step (optionalPart (fun n => ⟨7, .varint n.toNat⟩) q.limit)
      ⟨q.address, q.selectFrom, q.select, q.filter, q.groupBy, q.orderBy, none, none, none⟩
      ⟨q.address, q.selectFrom, q.select, q.filter, q.groupBy, q.orderBy, q.limit, none, none⟩ := by
    refine .optionalPart (fun absent => ?_) fun n present => ?_
    · rw [absent]
    · rw [present]
      exact step_limit n _
  have clientVersion :
      Merges step (optionalPart (fun v => .ofMessage 8 v.fields) q.clientVersion)
        ⟨q.address, q.selectFrom, q.select, q.filter, q.groupBy, q.orderBy, q.limit, none, none⟩
        { q with dryRun := none } := by
    refine .optionalPart (fun absent => ?_) fun v present => ?_
    · rw [absent]
    · rw [present]
      exact step_clientVersion (framed _ (clientVersion_mem present)) rfl
  have dryRun :
      Merges step (optionalPart (Field.ofBool 9) q.dryRun) { q with dryRun := none } q := by
    refine .optionalPart (fun absent => ?_) fun b present => ?_
    · rw [← absent]
    · rw [step_dryRun, ← present]
  exact (((((((address.append selectFrom).append select).append filter).append groupBy).append
    orderBy).append limit).append clientVersion).append dryRun

/-- A message that is too deep is refused where it stands. -/
theorem blocked_fields {q : Query} (deep : rootLevels < q.depth) (framed : Framed q.fields) :
    Blocked step q.fields := by
  rcases lt_depth_iff.1 deep with ⟨s, among, deep⟩ | ⟨c, present, deep⟩ | ⟨g, among, deep⟩ |
    ⟨k, among, deep⟩
  · have short : Field.Short s.fields := framed _ (select_mem among)
    have contents := (blocked_selection deep short).read s.fields_written short.framed 99 .empty
    refine ⟨_, select_mem among, fun q => ?_⟩
    simp only [step, Field.ofMessage, contents, Option.map_none]
  · have short : Field.Short c.fields := framed _ (filter_mem present)
    refine ⟨_, filter_mem present, fun q => ?_⟩
    have contents : firstLevel.condition (q.filter.getD .empty) (Field.encodeAll c.fields) = none :=
      (Readers.refuses 99).condition c deep short _
    simp only [step, Field.ofMessage, contents, Option.map_none]
  · have short : Field.Short g.fields := framed _ (groupBy_mem among)
    have contents := (blocked_grouping deep short).read g.fields_written short.framed 99 .unset
    refine ⟨_, groupBy_mem among, fun q => ?_⟩
    simp only [step, Field.ofMessage, contents, Option.map_none]
  · have short : Field.Short k.fields := framed _ (orderBy_mem among)
    have contents := (blocked_sortKey deep short).read k.fields_written short.framed 99 .empty
    refine ⟨_, orderBy_mem among, fun q => ?_⟩
    simp only [step, Field.ofMessage, contents, Option.map_none]

/-- What is decoded is the query itself or nothing. -/
theorem decode_encode (q : Query) :
    decode q.encode = if q.depth ≤ rootLevels ∧ Framed q.fields then some q else none := by
  by_cases framed : Framed q.fields
  · by_cases fits : q.depth ≤ rootLevels
    · rw [if_pos ⟨fits, framed⟩]
      exact (merges_fields fits framed).read q.fields_written framed rootLevels
    · rw [if_neg fun both => fits both.1]
      exact (blocked_fields (Nat.lt_of_not_le fits) framed).read q.fields_written framed
        rootLevels empty
  · rw [if_neg fun both => framed both.2]
    exact mergeFields_unframed q.fields_written framed rootLevels empty

/-- Queries whose bytes can be counted are decided by their depth alone. -/
theorem decode_encode_of_short {q : Query} (short : q.encode.length < wordBound) :
    decode q.encode = if q.depth ≤ rootLevels then some q else none := by
  have framed : Framed q.fields := Field.Short.framed short
  simp only [decode_encode, framed, and_true]

end Query

/-- Results hold no messages, so that no level counts. -/
theorem QueryResult.decode_encode (r : QueryResult) :
    decode r.encode = if Framed r.fields then some r else none := by
  by_cases framed : Framed r.fields
  · rw [if_pos framed]
    have first : Merges step (plainText 1 r.queryString) .empty ⟨r.queryString, ""⟩ := by
      refine .plainText (fun absent => ?_) ?_
      · rw [absent]
        rfl
      · simp only [step, Field.ofText, text?_textBytes, Option.map_some, empty]
    have second : Merges step (plainText 2 r.jsonData) ⟨r.queryString, ""⟩ r := by
      refine .plainText (fun absent => ?_) ?_
      · rw [← absent]
      · simp only [step, Field.ofText, text?_textBytes, Option.map_some]
    exact (first.append second).read r.fields_written framed rootLevels
  · rw [if_neg framed]
    exact mergeFields_unframed r.fields_written framed rootLevels empty

end DatasetQuery.Wire
