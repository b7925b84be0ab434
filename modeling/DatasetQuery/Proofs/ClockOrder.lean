import DatasetQuery.Proofs.Midnight
/-!
The order of shifted times of day. The clock is never set back by a greater step, leap seconds
included, if the days passed over count first. Shifting keeps that order up to the end of the day,
where it stops at the last microsecond: a time that has come to lie behind that microsecond without
stopping is later than all that stop there. Times in whole microseconds never come to lie there,
but from within a leap second at the end of the day.
-/
namespace DatasetQuery

namespace TimeOfDay

theorem le_refl (t : TimeOfDay) : t ≤ t := .inr ⟨rfl, Nat.le_refl _⟩

theorem le_or_lt (s t : TimeOfDay) : s ≤ t ∨ t < s := by
  simp only [le_iff, lt_iff]
  omega

theorem not_le_of_lt {s t : TimeOfDay} (h : s < t) : ¬t ≤ s := by
  rw [lt_iff] at h
  rw [le_iff]
  omega

/-- Times on days around some day, where the days count first. -/
def Precedes (x y : TimeOfDay × Int) : Prop := x.2 < y.2 ∨ (x.2 = y.2 ∧ x.1 ≤ y.1)

theorem atNanosecond_precedes {m n : Int} (h : m ≤ n) :
    Precedes (atNanosecond m, m / 86400000000000) (atNanosecond n, n / 86400000000000) := by
  simp only [Precedes, le_iff, atNanosecond]
  omega

/-- The ways of a leap second do not cross: a short step stays in it, back from it lies only what is
earlier, and onward only what is later. -/
theorem LeapStep.precedes {t : TimeOfDay} {a b : Int} {x y : TimeOfDay × Int} (h : a ≤ b)
    (first : LeapStep t a x) (second : LeapStep t b y) : Precedes x y := by
  have below := t.nanos_lt
  have second_lt := t.second_lt
  cases first with
  | @inside u short same nanos =>
    have below' := u.nanos_lt
    cases second with
    | @inside v short' same' nanos' =>
      refine .inr ⟨rfl, .inr ⟨same.trans same'.symm, ?_⟩⟩
      dsimp only
      omega
    | back whole => omega
    | onward out place =>
      simp only [Precedes, le_iff, atNanosecond, nanosecond] at place ⊢
      omega
  | back whole place =>
    cases second with
    | inside short' same' nanos' =>
      simp only [Precedes, le_iff, atNanosecond, nanosecond] at place ⊢
      omega
    | back whole' place' => exact atNanosecond_precedes (by omega)
    | onward out' place' => exact atNanosecond_precedes (by omega)
  | onward out place =>
    cases second with
    | @inside u short' same' nanos' =>
      have below' := u.nanos_lt
      omega
    | back whole' => omega
    | onward out' place' => exact atNanosecond_precedes (by omega)

/-- A greater step never leads to an earlier time. -/
theorem advance_precedes (t : TimeOfDay) {a b : Int} (h : a ≤ b) :
    Precedes (t.advance a) (t.advance b) := by
  by_cases leap : t.isLeap = true
  · exact (leapStep_advance leap a).precedes h (leapStep_advance leap b)
  · have ordinary := Bool.eq_false_iff.2 leap
    rw [advance_eq ordinary, advance_eq ordinary]
    exact atNanosecond_precedes (by omega)

theorem atNanosecond_nanosecond {t : TimeOfDay} (ordinary : t.isLeap = false) :
    atNanosecond t.nanosecond = t := by
  have below := nanos_lt_of_ordinary ordinary
  obtain ⟨second, nanos, second_lt, nanos_lt⟩ := t
  simp only [atNanosecond, nanosecond, mk.injEq] at below ⊢
  omega

theorem advance_zero (t : TimeOfDay) : t.advance 0 = (t, 0) := by
  by_cases leap : t.isLeap = true
  · exact (leapStep_advance leap 0).eq_of_zero
  · have ordinary := Bool.eq_false_iff.2 leap
    have bounds := nanosecond_bounds ordinary
    have today : (t.nanosecond : Int) / 86400000000000 = 0 := by omega
    rw [advance_eq ordinary, Int.zero_mul, Int.add_zero, atNanosecond_nanosecond ordinary, today]

/-- Steps that a word holds and that stay within the day are taken, all others stop. -/
def Takes (t : TimeOfDay) (milliseconds : Int) : Prop :=
  milliseconds.natAbs ≤ greatestWord ∧ (t.advance milliseconds).2 = 0

/-- Between two steps that are taken, all are. -/
theorem Takes.of_between {t : TimeOfDay} {a b c : Int} (first : t.Takes a) (last : t.Takes c)
    (low : a ≤ b) (high : b ≤ c) : t.Takes b := by
  have after := advance_precedes t low
  have before := advance_precedes t high
  have near := first.1
  have near' := last.1
  simp only [Precedes, first.2, last.2] at after before
  constructor <;> omega

theorem takes_zero (t : TimeOfDay) : t.Takes 0 :=
  ⟨by decide, congrArg Prod.snd t.advance_zero⟩

theorem shift_of_takes {t : TimeOfDay} {count : Int64} {unit : ClockUnit}
    (taken : t.Takes (count.toInt * unit.inMilliseconds)) :
    t.shift count unit = (t.advance (count.toInt * unit.inMilliseconds)).1 :=
  shift_eq_advance taken.1 taken.2

/-- A greater count leads to no earlier time, unless the smaller one leads behind the end of the
day, where the greater one stops. -/
theorem shift_ordered (t : TimeOfDay) (unit : ClockUnit) {m n : Int64} (h : m.toInt ≤ n.toInt) :
    t.shift m unit ≤ t.shift n unit ∨
      (lastMicrosecond < t.shift m unit ∧ t.shift n unit = lastMicrosecond) := by
  have size := Int.le_of_lt unit.inMilliseconds_pos
  have steps : m.toInt * unit.inMilliseconds ≤ n.toInt * unit.inMilliseconds :=
    Int.mul_le_mul_of_nonneg_right h size
  have of_neg {count : Int64} : count.toInt < 0 → count.toInt * unit.inMilliseconds ≤ 0 :=
    fun back => Int.mul_nonpos_of_nonpos_of_nonneg (Int.le_of_lt back) size
  have of_nonneg {count : Int64} : 0 ≤ count.toInt → 0 ≤ count.toInt * unit.inMilliseconds :=
    fun onward => Int.mul_nonneg onward size
  by_cases first : t.Takes (m.toInt * unit.inMilliseconds) <;>
    by_cases second : t.Takes (n.toInt * unit.inMilliseconds)
  · have order := advance_precedes t steps
    rw [shift_of_takes first, shift_of_takes second]
    simp only [Precedes, first.2, second.2] at order
    exact .inl (by simpa using order)
  · have onward : ¬n.toInt < 0 :=
      fun back => second (first.of_between t.takes_zero steps (of_neg back))
    rw [shift_eq_bound second, bound, if_neg onward]
    exact (le_or_lt _ _).imp_right fun late => ⟨late, rfl⟩
  · have back : m.toInt < 0 :=
      Int.not_le.1 fun onward => first (t.takes_zero.of_between second (of_nonneg onward) steps)
    rw [shift_eq_bound first, bound, if_pos back]
    exact .inl (midnight_le _)
  · rw [shift_eq_bound first, shift_eq_bound second, bound, bound]
    by_cases back : m.toInt < 0
    · rw [if_pos back]
      exact .inl (midnight_le _)
    · rw [if_neg back, if_neg (by omega)]
      exact .inl (le_refl _)

theorem atNanosecond_le_lastMicrosecond {n : Int} (part : n % 1000000 ≤ 999000) :
    atNanosecond n ≤ lastMicrosecond := by
  simp only [le_iff, atNanosecond, lastMicrosecond]
  omega

/-- A time whose part below the millisecond is no longer than that of the last microsecond of the day
is not led behind it by whole milliseconds. -/
theorem advance_le_lastMicrosecond {t : TimeOfDay} (part : t.nanos % 1000000 ≤ 999000)
    (early : t.isLeap = true → t.second ≠ 86399) (milliseconds : Int) :
    (t.advance milliseconds).1 ≤ lastMicrosecond := by
  by_cases leap : t.isLeap = true
  · have apart := early leap
    have second_lt := t.second_lt
    have step := leapStep_advance leap milliseconds
    generalize t.advance milliseconds = moved at step ⊢
    cases step with
    | inside short same nanos =>
      simp only [le_iff, lastMicrosecond]
      omega
    | back whole place =>
      apply atNanosecond_le_lastMicrosecond
      unfold nanosecond at place
      omega
    | onward out place =>
      apply atNanosecond_le_lastMicrosecond
      unfold nanosecond at place
      omega
  · rw [advance_eq (Bool.eq_false_iff.2 leap)]
    apply atNanosecond_le_lastMicrosecond
    unfold nanosecond
    omega

theorem shift_le_lastMicrosecond {t : TimeOfDay} (part : t.nanos % 1000000 ≤ 999000)
    (early : t.isLeap = true → t.second ≠ 86399) (unit : ClockUnit) (count : Int64) :
    t.shift count unit ≤ lastMicrosecond := by
  by_cases taken : t.Takes (count.toInt * unit.inMilliseconds)
  · rw [shift_of_takes taken]
    exact advance_le_lastMicrosecond part early _
  · rw [shift_eq_bound taken, bound]
    split
    · exact midnight_le _
    · exact le_refl _

/-- Steps of milliseconds lead every time but the last leap second of the day to its last
millisecond. -/
theorem exists_advance_to_end {t : TimeOfDay} (early : t.isLeap = true → t.second ≠ 86399) :
    ∃ m : Int, (0 ≤ m ∧ m < 86400000) ∧
      t.advance m = (atNanosecond (86399999000000 + t.nanos % 1000000), 0) := by
  have second_lt := t.second_lt
  have below := t.nanos_lt
  by_cases leap : t.isLeap = true
  · have apart := early leap
    have late : 1000000000 ≤ t.nanos := of_decide_eq_true leap
    let m : Int := 86399999 - (t.second * 1000 + (t.nanos - 1000000000) / 1000000)
    have step := leapStep_advance leap m
    refine ⟨m, by omega, ?_⟩
    generalize t.advance m = moved at step ⊢
    cases step with
    | @inside u short same nanos =>
      have below' := u.nanos_lt
      omega
    | back whole => omega
    | @onward n out place =>
      have last : n = 86399999000000 + t.nanos % 1000000 := by
        unfold nanosecond at place
        omega
      rw [last]
      refine Prod.ext rfl ?_
      dsimp only
      omega
  · have ordinary := Bool.eq_false_iff.2 leap
    have bounds := nanosecond_bounds ordinary
    have last : t.nanosecond + (86399999 - t.nanosecond / 1000000) * 1000000 =
        86399999000000 + (t.nanos % 1000000 : Int) := by
      unfold nanosecond
      omega
    refine ⟨86399999 - t.nanosecond / 1000000, by omega, ?_⟩
    rw [advance_eq ordinary, last]
    refine Prod.ext rfl ?_
    dsimp only
    omega

theorem shift_milliseconds {t : TimeOfDay} {m : Int} (near : 0 ≤ m ∧ m < 86400000)
    (today : (t.advance m).2 = 0) :
    t.shift (Int64.ofInt m) .milliseconds = (t.advance m).1 := by
  have held : (Int64.ofInt m).toInt * ClockUnit.milliseconds.inMilliseconds = m := by
    rw [Int64.toInt_ofInt_of_le (by omega) (by omega)]
    exact Int.mul_one m
  have taken : t.Takes ((Int64.ofInt m).toInt * ClockUnit.milliseconds.inMilliseconds) := by
    rw [held]
    refine ⟨?_, today⟩
    unfold greatestWord
    omega
  rw [shift_of_takes taken, held]

/-- All other times are led behind the last microsecond of the day by some step. -/
theorem exists_shift_late {t : TimeOfDay}
    (h : ¬(t.nanos % 1000000 ≤ 999000 ∧ (t.isLeap = true → t.second ≠ 86399))) :
    ∃ count : Int64, lastMicrosecond < t.shift count .milliseconds := by
  by_cases early : t.isLeap = true → t.second ≠ 86399
  · obtain ⟨m, near, led⟩ := exists_advance_to_end early
    have part : ¬t.nanos % 1000000 ≤ 999000 := fun part => h ⟨part, early⟩
    refine ⟨Int64.ofInt m, ?_⟩
    rw [shift_milliseconds near (congrArg Prod.snd led), led]
    simp only [lt_iff, atNanosecond, lastMicrosecond]
    omega
  · obtain ⟨leap, last⟩ := Classical.not_imp.1 early
    have late : 1000000000 ≤ t.nanos := of_decide_eq_true leap
    refine ⟨Int64.ofInt 0, ?_⟩
    rw [shift_milliseconds (by decide) (congrArg Prod.snd t.advance_zero), t.advance_zero]
    simp only [lt_iff, lastMicrosecond]
    omega

/-- The clock saturates: every step leads into the range of the day in microseconds, and a greater
step of a unit to no earlier time. -/
structure Saturates (t : TimeOfDay) : Prop where
  range (unit : ClockUnit) (count : Int64) :
    midnight ≤ t.shift count unit ∧ t.shift count unit ≤ lastMicrosecond
  order (unit : ClockUnit) (m n : Int64) : m.toInt ≤ n.toInt → t.shift m unit ≤ t.shift n unit

theorem saturates_iff {t : TimeOfDay} :
    t.Saturates ↔ t.nanos % 1000000 ≤ 999000 ∧ (t.isLeap = true → t.second ≠ 86399) := by
  constructor
  · intro saturates
    by_contra h
    obtain ⟨count, late⟩ := exists_shift_late h
    exact not_le_of_lt late (saturates.range .milliseconds count).2
  · rintro ⟨part, early⟩
    refine ⟨fun unit count => ⟨midnight_le _, shift_le_lastMicrosecond part early unit count⟩, ?_⟩
    intro unit m n h
    refine (t.shift_ordered unit h).resolve_right fun ⟨late, _⟩ => ?_
    exact not_le_of_lt late (shift_le_lastMicrosecond part early unit m)

/-- Just those times saturate whose part below the millisecond is no longer than that of the last
microsecond of the day, the leap second at its end left out. No time is led before midnight, and
order is lost only where a step leads behind that microsecond and a greater one stops at it. -/
theorem shift_saturates_on_microseconds (t : TimeOfDay) :
    (t.Saturates ↔ t.nanos % 1000000 ≤ 999000 ∧ (t.isLeap = true → t.second ≠ 86399)) ∧
    ∀ (unit : ClockUnit) (m n : Int64), m.toInt ≤ n.toInt → midnight ≤ t.shift m unit ∧
      (t.shift m unit ≤ t.shift n unit ∨
        (lastMicrosecond < t.shift m unit ∧ t.shift n unit = lastMicrosecond)) :=
  ⟨saturates_iff, fun unit _ _ h => ⟨midnight_le _, t.shift_ordered unit h⟩⟩

theorem shift_saturates_on_microseconds_of_noon :
    let noon : TimeOfDay := ⟨43200, 999000, by decide, by decide⟩
    noon.Saturates ∧ (0 : Int64).toInt ≤ (12 : Int64).toInt ∧ midnight ≤ noon.shift 0 .hours ∧
      (noon.shift 0 .hours ≤ noon.shift 12 .hours ∨
        (lastMicrosecond < noon.shift 0 .hours ∧ noon.shift 12 .hours = lastMicrosecond)) := by
  intro noon
  refine ⟨(shift_saturates_on_microseconds noon).1.2 ⟨by decide, by decide⟩, by decide, ?_⟩
  exact (shift_saturates_on_microseconds noon).2 .hours 0 12 (by decide)

/-- One second on from half a microsecond before the end of the second but last of the day. -/
theorem shift_leads_behind_last_microsecond :
    let t : TimeOfDay := ⟨86398, 999999500, by decide, by decide⟩
    (1 : Int64).toInt ≤ (2 : Int64).toInt ∧ ¬t.shift 1 .seconds ≤ lastMicrosecond ∧
      ¬t.shift 1 .seconds ≤ t.shift 2 .seconds := by
  simp only [le_iff]
  decide

end TimeOfDay

end DatasetQuery
