import DatasetQuery.Proofs.Clock
/-!
Times of day that are shifted. None passes midnight: outside of leap seconds a time moves by
nanoseconds and stops at the end of the day on the way out of it. A step out of a leap second counts
from the ordinary second before it or after it, and still leads back or forward as its count says.
-/
namespace DatasetQuery

/-- Whole thousands and the rest, both of which point where the number does. -/
theorem thousands (n : Int) : n = 1000 * n.tdiv 1000 + n.tmod 1000 ∧
    (-1000 < n.tmod 1000 ∧ n.tmod 1000 < 1000) ∧
    (0 ≤ n → 0 ≤ n.tmod 1000) ∧ (n ≤ 0 → n.tmod 1000 ≤ 0) := by
  have low := Int.lt_tmod_of_pos n (by decide : (0 : Int) < 1000)
  have high := Int.tmod_lt_of_pos n (by decide : (0 : Int) < 1000)
  refine ⟨(Int.mul_tdiv_add_tmod n 1000).symm, ⟨low, high⟩, Int.tmod_nonneg 1000, ?_⟩
  intro back
  have mirrored := Int.tmod_nonneg 1000 (Int.neg_nonneg_of_nonpos back)
  rw [Int.neg_tmod] at mirrored
  omega

theorem ClockUnit.inMilliseconds_pos (unit : ClockUnit) : 0 < unit.inMilliseconds := by
  cases unit <;> decide

namespace TimeOfDay

/-- Times are ordered by their seconds; a leap second comes after the second it follows and before
the next one. -/
instance : LE TimeOfDay :=
  ⟨fun s t => s.second < t.second ∨ (s.second = t.second ∧ s.nanos ≤ t.nanos)⟩

instance : LT TimeOfDay :=
  ⟨fun s t => s.second < t.second ∨ (s.second = t.second ∧ s.nanos < t.nanos)⟩

theorem le_iff {s t : TimeOfDay} :
    s ≤ t ↔ s.second < t.second ∨ (s.second = t.second ∧ s.nanos ≤ t.nanos) := Iff.rfl

theorem lt_iff {s t : TimeOfDay} :
    s < t ↔ s.second < t.second ∨ (s.second = t.second ∧ s.nanos < t.nanos) := Iff.rfl

theorem midnight_le (t : TimeOfDay) : midnight ≤ t := by
  simp only [le_iff, midnight]
  omega

/-- Where a time stops that moves to `n` nanoseconds after midnight: there, if that is within the
day, and otherwise at the end of the day on that side, which is the one that the count points to. -/
structure StopsAt (n count : Int) (r : TimeOfDay) : Prop where
  within : 0 ≤ n → n < 86400000000000 → r.isLeap = false ∧ r.nanosecond = n
  before : n < 0 → count < 0 ∧ r = midnight
  after : 86400000000000 ≤ n → 0 < count ∧ r = lastMicrosecond

theorem nanosecond_of_ofNanosecond? {n : Int} {t : TimeOfDay} (found : ofNanosecond? n = some t) :
    t.isLeap = false ∧ (t.nanosecond : Int) = n := by
  obtain ⟨today, rfl⟩ := ofNanosecond?_eq_some_iff.1 found
  refine ⟨isLeap_atNanosecond n, ?_⟩
  simp only [nanosecond, atNanosecond]
  omega

theorem shift_stopsAt {t : TimeOfDay} (ordinary : t.isLeap = false) (count : Int64)
    (unit : ClockUnit) :
    StopsAt (t.nanosecond + count.toInt * unit.inNanoseconds) count.toInt
      (t.shift count unit) := by
  rw [shift_eq ordinary, unit.inNanoseconds_eq, bound]
  rcases scale_of_nanoseconds.step_cases (nanosecond_bounds ordinary) unit.forward count.toInt with
    ⟨u, found, low, high, same⟩ | ⟨out, back, same⟩ | ⟨out, onward, same⟩
  · rw [same]
    exact ⟨fun _ _ => nanosecond_of_ofNanosecond? found, by omega, by omega⟩
  · rw [same]
    exact ⟨by omega, fun _ => ⟨back, rfl⟩, by omega⟩
  · rw [same]
    exact ⟨by omega, by omega, fun _ => ⟨onward, rfl⟩⟩

/-- The ways in which a step from within a leap second goes. Back out of it, the clock counts from
the second after it, and onward from the one before, so that the leap second is passed over. -/
inductive LeapStep (t : TimeOfDay) (milliseconds : Int) : TimeOfDay × Int → Prop where
  | inside {u : TimeOfDay} (short : -1000 < milliseconds) (second : u.second = t.second)
      (nanos : (u.nanos : Int) = t.nanos + milliseconds * 1000000) : LeapStep t milliseconds (u, 0)
  | back {n : Int} (whole : milliseconds ≤ -1000)
      (place : n = t.nanosecond + milliseconds * 1000000) :
      LeapStep t milliseconds (atNanosecond n, n / 86400000000000)
  | onward {n : Int} (out : 2000000000 ≤ t.nanos + milliseconds * 1000000)
      (place : n = t.nanosecond - 1000000000 + milliseconds * 1000000) :
      LeapStep t milliseconds (atNanosecond n, n / 86400000000000)

theorem leapStep_advance {t : TimeOfDay} (leap : t.isLeap = true) (milliseconds : Int) :
    LeapStep t milliseconds (t.advance milliseconds) := by
  have late : 1000000000 ≤ t.nanos := of_decide_eq_true leap
  -- the step is cut towards zero, so that its seconds and its rest never point to different sides
  obtain ⟨parts, ⟨low, high⟩, ahead, behind⟩ := thousands milliseconds
  unfold advance
  dsimp only
  by_cases stays : 1000000000 ≤ t.nanos ∧ milliseconds.tdiv 1000 = 0 ∧
      t.nanos + milliseconds.tmod 1000 * 1000000 < 2000000000
  · rw [dif_pos stays]
    refine .inside ?_ rfl ?_
    · omega
    · dsimp only
      omega
  · rw [dif_neg stays, if_pos late, carry_eq]
    split
    · refine .back ?_ ?_
      · omega
      · unfold nanosecond
        omega
    · refine .onward ?_ ?_
      · omega
      · unfold nanosecond
        omega

/-- Within the day, a step leads back or forward as it says. -/
theorem LeapStep.side {t : TimeOfDay} {milliseconds : Int} {moved : TimeOfDay × Int}
    (step : LeapStep t milliseconds moved) (today : moved.2 = 0) :
    (milliseconds ≤ 0 → moved.1 ≤ t) ∧ (0 < milliseconds → t < moved.1) := by
  have below := t.nanos_lt
  simp only [le_iff, lt_iff]
  cases step with
  | inside short second nanos =>
    dsimp only
    omega
  | back whole place =>
    simp only [atNanosecond, nanosecond] at today place ⊢
    omega
  | onward out place =>
    simp only [atNanosecond, nanosecond] at today place ⊢
    omega

theorem LeapStep.eq_of_zero {t : TimeOfDay} {moved : TimeOfDay × Int}
    (step : LeapStep t 0 moved) : moved = (t, 0) := by
  have below := t.nanos_lt
  cases step with
  | @inside u short same nanos =>
    obtain ⟨second, part, second_lt, part_lt⟩ := u
    obtain ⟨second', part', second_lt', part_lt'⟩ := t
    dsimp only at same nanos
    simp only [Prod.mk.injEq, mk.injEq, and_true]
    omega
  | back whole => omega
  | onward out => omega

/-- From within a leap second, a step leads back or forward as its count says, or to the end of the
day. -/
theorem shift_of_leap {t : TimeOfDay} (leap : t.isLeap = true) (count : Int64) (unit : ClockUnit) :
    (count.toInt ≤ 0 → t.shift count unit ≤ t) ∧
      (0 < count.toInt → t < t.shift count unit ∨ t.shift count unit = lastMicrosecond) := by
  have size := unit.inMilliseconds_pos
  have step := leapStep_advance leap (count.toInt * unit.inMilliseconds)
  by_cases inside : (count.toInt * unit.inMilliseconds).natAbs ≤ greatestWord ∧
      (t.advance (count.toInt * unit.inMilliseconds)).2 = 0
  · obtain ⟨back, onward⟩ := step.side inside.2
    rw [shift_eq_advance inside.1 inside.2]
    constructor
    · intro down
      exact back (Int.mul_nonpos_of_nonpos_of_nonneg down (Int.le_of_lt size))
    · intro up
      exact .inl (onward (Int.mul_pos up size))
  · -- a count of zero is not stopped at the end of the day, to which it would not point
    have moves : count.toInt ≠ 0 := by
      intro still
      rw [still, Int.zero_mul] at inside step
      exact inside ⟨by decide, congrArg Prod.snd step.eq_of_zero⟩
    rw [shift_eq_bound inside, bound]
    constructor
    · intro down
      rw [if_pos (by omega)]
      exact t.midnight_le
    · intro up
      exact .inr (if_neg (by omega))

/-- No step passes midnight. -/
theorem shift_never_passes_midnight (t : TimeOfDay) (count : Int64) (unit : ClockUnit) :
    (t.isLeap = false → StopsAt (t.nanosecond + count.toInt * unit.inNanoseconds) count.toInt
      (t.shift count unit)) ∧
    (t.isLeap = true → (count.toInt ≤ 0 → t.shift count unit ≤ t) ∧
      (0 < count.toInt → t < t.shift count unit ∨ t.shift count unit = lastMicrosecond)) :=
  ⟨fun ordinary => shift_stopsAt ordinary count unit, fun leap => shift_of_leap leap count unit⟩

theorem shift_never_passes_midnight_from_noon_or_a_leap_second :
    let noon : TimeOfDay := ⟨43200, 0, by decide, by decide⟩
    let added : TimeOfDay := ⟨86399, 1500000000, by decide, by decide⟩
    noon.isLeap = false ∧ added.isLeap = true ∧
      noon.shift (-24) .hours = midnight ∧ noon.shift Int64.maxValue .hours = lastMicrosecond ∧
      (added < added.shift 499 .milliseconds ∨
        added.shift 499 .milliseconds = lastMicrosecond) := by
  intro noon added
  refine ⟨rfl, rfl, ?_, ?_, ?_⟩
  · exact (((shift_never_passes_midnight noon (-24) .hours).1 rfl).before (by decide)).2
  · exact (((shift_never_passes_midnight noon Int64.maxValue .hours).1 rfl).after (by decide)).2
  · exact ((shift_never_passes_midnight added 499 .milliseconds).2 rfl).2 (by decide)

end TimeOfDay

end DatasetQuery
