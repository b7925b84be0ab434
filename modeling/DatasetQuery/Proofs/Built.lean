import DatasetQuery.Proofs.Checked
/-!
Constructions by checked methods. Whatever is written down with them alone has, if it has a term
at all, an expression that checked operations build: a handle offers only what the expression
held by it supports.
-/
namespace DatasetQuery

namespace Building

variable {α β : Type}

/-- Building comes to an end without a fault. -/
def Ends (b : Building α) (result : α) : Prop := b.run.value = .ok result

theorem ends_pure {a b : α} : Ends (pure a) b ↔ a = b := by
  constructor
  · intro ended
    exact Except.ok.inj ended
  · rintro rfl
    rfl

theorem ends_bind {x : Building α} {f : α → Building β} {result : β} :
    Ends (x >>= f) result ↔ ∃ a, Ends x a ∧ Ends (f a) result := by
  have step : (x >>= f).run.value = (ExceptT.bindCont f x.run.value).value := rfl
  unfold Ends
  rw [step]
  cases x.run.value with
  | ok a =>
    constructor
    · intro ended
      exact ⟨a, rfl, ended⟩
    · rintro ⟨a', same, ended⟩
      cases same
      exact ended
  | error fault =>
    constructor
    · intro ended
      cases ended
    · rintro ⟨a, same, _⟩
      cases same

theorem not_ends_throw {fault : Fault} {result : α} : ¬Ends (throw fault) result :=
  fun ended => nomatch ended

theorem ends_ofExcept {x : Except Error α} {result : α} :
    Ends (ofExcept x) result ↔ x = .ok result := by
  cases x with
  | ok a =>
    rw [Except.ok.injEq]
    exact ends_pure
  | error error => exact iff_of_false not_ends_throw nofun

end Building

/-- Calls of checked methods: all but comparisons by a spelling, which may spell a junction, and
the look at an operand. -/
def Call.IsChecked : Call → Prop
  | .isIn values | .hasAny values | .hasAll values => (Literal.list values).HasForm
  | .temporalBy _ _ | .operand _ => False
  | .withAlias _ | .nullCheck _ | .aggregate _ | .aggregateBy _ | .like _ | .part _
  | .temporal _ _ | .inPastAt _ => True

namespace Term

open Building

/-- What a handle tells of the expression held by it. -/
def Held (t : Term) : Prop :=
  match t.handle with
  | .column kind => ∃ c : Column, c.kind = kind ∧ t.expr = .column c
  | .derived => ∃ d, t.expr = .derived d
  | .binary | .unary | .predicate => t.expr.isPredicate
  | .reference | .literal | .aggregate | .expr => True

/-- A term that checked methods lead to. -/
structure Sound (t : Term) : Prop where
  checked : Checked t.expr
  held : t.Held

theorem Held.receiver {t : Term} {family : Family} (held : t.Held)
    (offered : t.handle.offers family) (method : family ≠ .renaming) (value : family ≠ .junctions) :
    Receiver t := by
  obtain ⟨handle, e⟩ := t
  cases handle with
  | column kind =>
    obtain ⟨c, rfl, same⟩ := held
    cases same
    exact .typed c
  | derived =>
    obtain ⟨d, same⟩ := held
    cases same
    exact .derived d
  | reference | aggregate => exact absurd (of_decide_eq_true offered) method
  | binary | unary | predicate => exact absurd (of_decide_eq_true offered) value
  | literal | expr => cases offered

theorem Held.isPredicate {t : Term} (held : t.Held) (offered : t.handle.offers .junctions) :
    t.expr.isPredicate := by
  obtain ⟨handle, e⟩ := t
  cases handle with
  | binary | unary | predicate => exact held
  | column kind => cases offered
  | _ => cases offered

theorem ends_require {t : Term} {family : Family} {method : String}
    (ended : Ends (t.require family method) ()) : t.handle.offers family := by
  unfold require at ended
  split at ended
  · assumption
  · exact absurd ended not_ends_throw

theorem ends_asPredicate {t : Term} {p : Predicate} (ended : Ends t.asPredicate p) :
    p.expr = t.expr := by
  unfold asPredicate at ended
  split at ended
  · rename_i found
    rw [← ends_pure.1 ended]
    unfold predicate? Predicate.of? at found
    split at found
    · split at found
      · rw [← Option.some.inj found]
      · cases found
    · cases found
  · exact absurd ended not_ends_throw

theorem ends_project {t u : Term} {op : ProjectionOperator} (ended : Ends (t.project op) u) :
    ∃ c, u = ⟨.derived, .derived (.of c op)⟩ := by
  obtain ⟨c, _, ended⟩ := ends_bind.1 ended
  exact ⟨c, (ends_pure.1 ended).symm⟩

theorem Sound.of_derived (d : Derived) : Sound ⟨.derived, .derived d⟩ :=
  ⟨.receiver (.derived d), d, rfl⟩

theorem Held.withAlias {t : Term} (held : t.Held) (newAlias : String)
    (offered : t.handle.offers .renaming) : Held ⟨t.handle, t.expr.withAlias newAlias⟩ := by
  obtain ⟨handle, e⟩ := t
  cases handle with
  | column kind =>
    obtain ⟨c, same, rfl⟩ := held
    exact ⟨c.withAlias newAlias, same, rfl⟩
  | derived =>
    obtain ⟨d, rfl⟩ := held
    exact ⟨_, rfl⟩
  | reference | aggregate => trivial
  | _ => cases offered

theorem Sound.apply {t u : Term} {c : Call} (sound : t.Sound) (checked : c.IsChecked)
    (offered : ∀ family ∈ c.family?, t.handle.offers family) (ended : Ends (t.apply c) u) :
    u.Sound := by
  cases c with
  | withAlias newAlias =>
    rw [← ends_pure.1 ended]
    exact ⟨.withAlias newAlias sound.checked, sound.held.withAlias newAlias (offered _ rfl)⟩
  | nullCheck op =>
    have receiver := sound.held.receiver (offered _ rfl) nofun nofun
    rw [← ends_pure.1 ended]
    exact ⟨.nullCheck op receiver (offered _ rfl), rfl⟩
  | aggregate op =>
    have receiver := sound.held.receiver (offered _ rfl) nofun nofun
    rw [← ends_pure.1 ended]
    exact ⟨.aggregated op receiver (offered _ rfl), trivial⟩
  | aggregateBy spelling =>
    have receiver := sound.held.receiver (offered _ rfl) nofun nofun
    obtain ⟨op, _, ended⟩ := ends_bind.1 ended
    rw [← ends_pure.1 ended]
    exact ⟨.aggregated op receiver (offered _ rfl), trivial⟩
  | isIn values =>
    have receiver := sound.held.receiver (offered _ rfl) nofun nofun
    rw [← ends_pure.1 ended]
    exact ⟨.isIn receiver (offered _ rfl) checked, rfl⟩
  | like pattern =>
    have receiver := sound.held.receiver (offered _ rfl) nofun nofun
    rw [← ends_pure.1 ended]
    exact ⟨.like pattern receiver (offered _ rfl), rfl⟩
  | hasAny values =>
    have receiver := sound.held.receiver (offered _ rfl) nofun nofun
    rw [← ends_pure.1 ended]
    exact ⟨.hasAny receiver (offered _ rfl) checked, rfl⟩
  | hasAll values =>
    have receiver := sound.held.receiver (offered _ rfl) nofun nofun
    rw [← ends_pure.1 ended]
    exact ⟨.hasAll receiver (offered _ rfl) checked, rfl⟩
  | part op =>
    obtain ⟨c, rfl⟩ := ends_project ended
    exact .of_derived _
  | temporal comparison value =>
    have receiver := sound.held.receiver (offered _ rfl) nofun nofun
    rw [← ends_pure.1 ended]
    exact ⟨.temporal comparison value receiver (offered _ rfl), by cases value <;> rfl⟩
  | inPastAt window =>
    have receiver := sound.held.receiver (offered _ rfl) nofun nofun
    obtain ⟨e, tested, ended⟩ := ends_bind.1 ended
    have same : (window.test t.expr).value = e := Except.ok.inj tested
    rw [← ends_pure.1 ended, ← same]
    exact ⟨.inPastAt window receiver (offered _ rfl), by cases window <;> rfl⟩
  | temporalBy spelling value => cases checked
  | operand index => cases checked

/-- A call of a checked method leads from sound terms to sound terms. -/
theorem Sound.call {t u : Term} {c : Call} (sound : t.Sound) (checked : c.IsChecked)
    (ended : Ends (t.call c) u) : u.Sound := by
  unfold Term.call at ended
  split at ended
  -- a term held as an expression of any shape offers nothing and is checked by its shape
  · obtain ⟨op, _, ended⟩ := ends_bind.1 ended
    obtain ⟨e, accepted, ended⟩ := ends_bind.1 ended
    rw [← ends_pure.1 ended]
    exact ⟨.checkedAggregate op sound.checked (ends_ofExcept.1 accepted), trivial⟩
  · split at ended
    · rename_i family asked
      obtain ⟨_, required, ended⟩ := ends_bind.1 ended
      refine sound.apply checked (fun other found => ?_) ended
      rw [← Option.some.inj (asked.symm.trans found)]
      exact ends_require required
    · rename_i unasked
      refine sound.apply checked (fun other found => ?_) ended
      cases unasked.symm.trans found

theorem Sound.join {left right u : Term} {j : Junction} (first : left.Sound) (second : right.Sound)
    (ended : Ends (left.join j right) u) : u.Sound := by
  obtain ⟨_, required, ended⟩ := ends_bind.1 ended
  obtain ⟨p, found, ended⟩ := ends_bind.1 ended
  have leftPredicate := first.held.isPredicate (ends_require required)
  have rightPredicate := p.isPredicate
  rw [← ends_pure.1 ended]
  rw [ends_asPredicate found] at rightPredicate ⊢
  exact ⟨.joined j first.checked second.checked leftPredicate rightPredicate, by cases j <;> rfl⟩

theorem Sound.joinLeft {j : Junction} {first u : Term} {rest : List Term} (sound : first.Sound)
    (others : ∀ t ∈ rest, t.Sound) (ended : Ends (joinLeft j first rest) u) : u.Sound := by
  induction rest generalizing first with
  | nil =>
    rw [← ends_pure.1 ended]
    exact sound
  | cons next rest ih =>
    rw [List.forall_mem_cons] at others
    obtain ⟨joined, step, ended⟩ := ends_bind.1 ended
    exact ih (sound.join others.1 step) others.2 ended

theorem Sound.joinRight {j : Junction} {first u : Term} {rest : List Term} (sound : first.Sound)
    (others : ∀ t ∈ rest, t.Sound) (ended : Ends (joinRight j first rest) u) : u.Sound := by
  induction rest generalizing first u with
  | nil =>
    rw [← ends_pure.1 ended]
    exact sound
  | cons next rest ih =>
    rw [List.forall_mem_cons] at others
    obtain ⟨right, step, ended⟩ := ends_bind.1 ended
    exact sound.join (ih others.1 others.2 step) ended

end Term

namespace Construction

open Building

/-- Constructions by checked methods alone. A comparison by a spelling is one of them where its
receiver is held as an expression of any shape. -/
inductive IsChecked : Construction → Prop where
  | column (c : Column) : IsChecked (.column c)
  | reference (c : Column) : IsChecked (.reference c)
  | literal {l : Literal} (form : l.HasForm) : IsChecked (.literal l)
  | dynamic {inner : Construction} (checked : IsChecked inner) : IsChecked (.dynamic inner)
  | predicate {inner : Construction} (checked : IsChecked inner) : IsChecked (.predicate inner)
  | derived {base : Construction} (spelling : String) (checked : IsChecked base) :
    IsChecked (.derived base spelling)
  | call {receiver : Construction} {c : Call} (checked : IsChecked receiver) (call : c.IsChecked) :
    IsChecked (.call receiver c)
  | comparison {receiver other : Construction} (c : Comparison) (first : IsChecked receiver)
    (second : IsChecked other) : IsChecked (.comparison receiver c other)
  | compare {receiver other : Construction} (spelling : String) (first : IsChecked receiver)
    (second : IsChecked other) : IsChecked (.compare (.dynamic receiver) spelling other)
  | between {receiver low high : Construction} (first : IsChecked receiver)
    (lower : IsChecked low) (upper : IsChecked high) : IsChecked (.between receiver low high)
  | join {left right : Construction} (j : Junction) (first : IsChecked left)
    (second : IsChecked right) : IsChecked (.join left j right)
  | joined {items : List Construction} (j : Junction) (repetitions : Nat) (fromRight : Bool)
    (checked : ∀ item ∈ items, IsChecked item) : IsChecked (.joined j items repetitions fromRight)

/-- The terms of a list of constructions come from its members. -/
theorem ends_buildAll {items : List Construction} {terms : List Term}
    (each : ∀ item ∈ items, ∀ t, item.build.Ends t → t.Sound)
    (ended : (buildAll items).Ends terms) : ∀ t ∈ terms, t.Sound := by
  induction items generalizing terms with
  | nil =>
    rw [← ends_pure.1 ended]
    exact nofun
  | cons item items ih =>
    rw [List.forall_mem_cons] at each
    rw [buildAll] at ended
    obtain ⟨t, first, ended⟩ := ends_bind.1 ended
    obtain ⟨ts, rest, ended⟩ := ends_bind.1 ended
    rw [← ends_pure.1 ended, List.forall_mem_cons]
    exact ⟨each.1 t first, ih each.2 rest⟩

/-- What checked methods build is sound, in whatever order they are called. -/
theorem IsChecked.sound {c : Construction} (checked : c.IsChecked) :
    ∀ t, c.build.Ends t → t.Sound := by
  induction checked with
  | column c =>
    intro t ended
    rw [build] at ended
    rw [← ends_pure.1 ended]
    exact ⟨.receiver (.typed c), c, rfl, rfl⟩
  | reference c =>
    intro t ended
    rw [build] at ended
    rw [← ends_pure.1 ended]
    have column : Checked (.column c) := .receiver (.typed c)
    exact ⟨column, trivial⟩
  | literal form =>
    intro t ended
    rw [build] at ended
    rw [← ends_pure.1 ended]
    exact ⟨.literal form, trivial⟩
  | dynamic _ ih =>
    intro t ended
    rw [build] at ended
    obtain ⟨inner, built, ended⟩ := ends_bind.1 ended
    rw [← ends_pure.1 ended]
    exact ⟨(ih inner built).checked, trivial⟩
  | predicate _ ih =>
    intro t ended
    rw [build] at ended
    obtain ⟨inner, built, ended⟩ := ends_bind.1 ended
    obtain ⟨p, found, ended⟩ := ends_bind.1 ended
    rw [← ends_pure.1 ended]
    refine ⟨?_, p.isPredicate⟩
    rw [Term.ends_asPredicate found]
    exact (ih inner built).checked
  | derived spelling _ ih =>
    intro t ended
    rw [build] at ended
    obtain ⟨inner, built, ended⟩ := ends_bind.1 ended
    obtain ⟨c, found, ended⟩ := ends_bind.1 ended
    obtain ⟨op, _, ended⟩ := ends_bind.1 ended
    rw [← ends_pure.1 ended]
    exact .of_derived _
  | call _ call ih =>
    intro t ended
    rw [build] at ended
    obtain ⟨receiver, built, ended⟩ := ends_bind.1 ended
    exact (ih receiver built).call call ended
  | comparison c _ _ ihReceiver ihOther =>
    intro t ended
    rw [build] at ended
    obtain ⟨receiver, built, ended⟩ := ends_bind.1 ended
    obtain ⟨_, required, ended⟩ := ends_bind.1 ended
    obtain ⟨other, otherBuilt, ended⟩ := ends_bind.1 ended
    have offered := Term.ends_require required
    have held := (ihReceiver receiver built).held.receiver offered nofun nofun
    rw [← ends_pure.1 ended]
    exact ⟨.comparison c held offered (ihOther other otherBuilt).checked, rfl⟩
  | compare spelling _ _ ihReceiver ihOther =>
    intro t ended
    rw [build, build] at ended
    obtain ⟨receiver, held, ended⟩ := ends_bind.1 ended
    obtain ⟨inner, built, held⟩ := ends_bind.1 held
    have dynamic : (Term.dynamic inner.expr).handle = .expr := rfl
    rw [← ends_pure.1 held, if_pos dynamic] at ended
    obtain ⟨op, _, ended⟩ := ends_bind.1 ended
    obtain ⟨other, otherBuilt, ended⟩ := ends_bind.1 ended
    obtain ⟨e, accepted, ended⟩ := ends_bind.1 ended
    have accepted := ends_ofExcept.1 accepted
    have left := (ihReceiver inner built).checked
    have right := (ihOther other otherBuilt).checked
    rw [← ends_pure.1 ended]
    refine ⟨.checkedCompare op left right accepted, ?_⟩
    rw [(Expr.checkedCompare_eq_ok accepted).2]
    rfl
  | between _ _ _ ihReceiver ihLow ihHigh =>
    intro t ended
    rw [build] at ended
    obtain ⟨receiver, built, ended⟩ := ends_bind.1 ended
    obtain ⟨_, required, ended⟩ := ends_bind.1 ended
    obtain ⟨low, lowBuilt, ended⟩ := ends_bind.1 ended
    obtain ⟨high, highBuilt, ended⟩ := ends_bind.1 ended
    have offered := Term.ends_require required
    have held := (ihReceiver receiver built).held.receiver offered nofun nofun
    rw [← ends_pure.1 ended]
    exact ⟨.between held offered (ihLow low lowBuilt).checked (ihHigh high highBuilt).checked, rfl⟩
  | join j _ _ ihLeft ihRight =>
    intro t ended
    rw [build] at ended
    obtain ⟨left, leftBuilt, ended⟩ := ends_bind.1 ended
    obtain ⟨right, rightBuilt, ended⟩ := ends_bind.1 ended
    exact (ihLeft left leftBuilt).join (ihRight right rightBuilt) ended
  | joined j repetitions fromRight _ ih =>
    intro t ended
    rw [build] at ended
    obtain ⟨terms, built, ended⟩ := ends_bind.1 ended
    have each := ends_buildAll ih built
    split at ended
    · exact absurd ended not_ends_throw
    · rename_i first rest repeated
      have sound : ∀ t ∈ first :: rest, t.Sound := by
        intro t member
        rw [← repeated] at member
        obtain ⟨copy, among, member⟩ := List.mem_flatten.1 member
        rw [List.eq_of_mem_replicate among] at member
        exact each t member
      rw [List.forall_mem_cons] at sound
      split at ended
      · exact sound.1.joinRight sound.2 ended
      · exact sound.1.joinLeft sound.2 ended

end Construction

/-- An expression held by a term that a construction by checked methods ends with. -/
def Built (e : Expr) : Prop :=
  ∃ c : Construction, c.IsChecked ∧ ∃ t, c.build.Ends t ∧ t.expr = e

theorem Built.checked {e : Expr} (built : Built e) : Checked e := by
  obtain ⟨c, checked, t, ended, rfl⟩ := built
  exact (checked.sound t ended).checked

/-- A table that is filled with built expressions is a query. -/
theorem Table.exists_query_of_built {t : Table}
    (selection : ∀ e ∈ t.selection, Built e ∧ Selectable e)
    (filter : ∀ p ∈ t.filter, Built p.expr) (ordering : ∀ k ∈ t.ordering, Built k.expr) :
    ∃ q, t.toQuery = .ok q := by
  have checked : t.IsChecked :=
    { selection := fun e among => ⟨(selection e among).1.checked, (selection e among).2⟩
      filter := fun p chosen => (filter p chosen).checked
      ordering := fun k among => (ordering k among).checked }
  exact ⟨t.image, toQuery_eq_ok_iff.2 ⟨checked.defects_eq_nil, rfl⟩⟩

end DatasetQuery
