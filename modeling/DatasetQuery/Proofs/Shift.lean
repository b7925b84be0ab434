import DatasetQuery.Proofs.Calendar
import DatasetQuery.Calendar.Shift
/-!
Steps on a scale. Counts are words of 64 bits, and multiplication, narrowing and the limits of a
single step can each cut them short; none of these keeps a date from being reached. A step is
therefore exact on unbounded integers until it leaves the scale, and keeps the order of counts.
-/
namespace DatasetQuery

open Calendar

variable {α : Type}

/-- Values at the places of a line of numbers, in their order from `low` to `high`; the places
from `first` to `last` have one. -/
structure Scale (le : α → α → Prop) (low high : α) (first last : Int) (place : Int → Option α) :
    Prop where
  absent_iff : ∀ n, place n = none ↔ n < first ∨ last < n
  mono : ∀ {m n a b}, m ≤ n → place m = some a → place n = some b → le a b
  above : ∀ {n a}, place n = some a → le low a
  below : ∀ {n a}, place n = some a → le a high
  low_le : le low low
  le_high : le high high
  low_le_high : le low high

section Steps

variable {le : α → α → Prop} {low high : α} {first last start size i j : Int}
  {place : Int → Option α}

/-- A step from inside a scale goes to its place, or leaves the scale on the side that its count
points to and stops at the end there. -/
theorem Scale.step_cases (scale : Scale le low high first last place)
    (inside : first ≤ start ∧ start ≤ last) (forward : 0 ≤ size) (i : Int) :
    (∃ a, place (start + i * size) = some a ∧ first ≤ start + i * size ∧ start + i * size ≤ last ∧
        (place (start + i * size)).getD (if i < 0 then low else high) = a) ∨
      (start + i * size < first ∧ i < 0 ∧
        (place (start + i * size)).getD (if i < 0 then low else high) = low) ∨
      (last < start + i * size ∧ 0 < i ∧
        (place (start + i * size)).getD (if i < 0 then low else high) = high) := by
  have back (down : i ≤ 0) : i * size ≤ 0 := Int.mul_nonpos_of_nonpos_of_nonneg down forward
  have onward (up : 0 ≤ i) : 0 ≤ i * size := Int.mul_nonneg up forward
  cases found : place (start + i * size) with
  | some a =>
    have present := mt (scale.absent_iff _).2 (by rw [found]; exact Option.some_ne_none a)
    exact .inl ⟨a, rfl, by omega, by omega, rfl⟩
  | none =>
    rw [Option.getD_none]
    rcases (scale.absent_iff _).1 found with before | after
    · have down : i < 0 := by omega
      exact .inr (.inl ⟨before, down, if_pos down⟩)
    · have up : ¬i < 0 := by omega
      exact .inr (.inr ⟨after, by omega, if_neg up⟩)

/-- Steps from inside a scale keep the order of their counts. -/
theorem Scale.step_mono (scale : Scale le low high first last place)
    (inside : first ≤ start ∧ start ≤ last) (forward : 0 ≤ size) (h : i ≤ j) :
    le ((place (start + i * size)).getD (if i < 0 then low else high))
      ((place (start + j * size)).getD (if j < 0 then low else high)) := by
  have grows := Int.mul_le_mul_of_nonneg_right h forward
  rcases scale.step_cases inside forward i with
    ⟨a, left, _, _, same⟩ | ⟨out, _, same⟩ | ⟨out, _, same⟩
  · rw [same]
    rcases scale.step_cases inside forward j with
      ⟨b, right, _, _, same'⟩ | ⟨out', _, _⟩ | ⟨_, _, same'⟩
    · rw [same']
      exact scale.mono (by omega) left right
    · omega
    · rw [same']
      exact scale.below left
  · rw [same]
    rcases scale.step_cases inside forward j with
      ⟨b, right, _, _, same'⟩ | ⟨_, _, same'⟩ | ⟨_, _, same'⟩
    · rw [same']
      exact scale.above right
    · rw [same']
      exact scale.low_le
    · rw [same']
      exact scale.low_le_high
  · rw [same]
    rcases scale.step_cases inside forward j with
      ⟨_, _, _, _, _⟩ | ⟨out', _, _⟩ | ⟨_, _, same'⟩
    · omega
    · omega
    · rw [same']
      exact scale.le_high

end Steps

theorem saturated_eq_self {n : Int} (low : leastWord ≤ n) (high : n ≤ greatestWord) :
    saturated n = n := by
  unfold saturated
  rw [if_neg (by omega), if_neg (by omega)]

theorem saturated_cases (n : Int) :
    saturated n = n ∨ (greatestWord < n ∧ saturated n = greatestWord) ∨
      (n < leastWord ∧ saturated n = leastWord) := by
  unfold saturated
  split_ifs with above below
  · exact .inr (.inl ⟨above, rfl⟩)
  · exact .inr (.inr ⟨below, rfl⟩)
  · exact .inl rfl

/-- The months or days in one unit. -/
def CalendarUnit.size : CalendarUnit → Int
  | years => 12
  | months => 1
  | weeks => 7
  | days => 1

theorem saturated_toInt (count : Int64) : saturated count.toInt = count.toInt :=
  saturated_eq_self count.le_toInt (Int.lt_add_one_iff.1 count.toInt_lt)

/-- The months or days of a step. -/
def CalendarStep.size : CalendarStep → Int
  | months n => n
  | days n => n

namespace Date

/-- Where a step by an unbounded count leads, if there is a date. -/
def target? (d : Date) (unit : CalendarUnit) (count : Int) : Option Date :=
  match unit with
  | .years | .months => d.inMonth? (d.monthNumber + count * unit.size)
  | .weeks | .days => ofDayNumber? (d.dayNumber + count * unit.size)

/-- A count of months beyond a single step leads out of the calendar from every date. -/
theorem addMonths?_saturated (d : Date) (n : Int) :
    d.addMonths? (saturated n) = d.inMonth? (d.monthNumber + n) := by
  have bounds := d.monthNumber_bounds
  have ends := saturated_cases n
  simp only [greatestWord, leastWord] at ends
  unfold addMonths? greatestCount longestStep
  dsimp only
  split_ifs with zero far
  · have none : n = 0 := by omega
    rw [none, Int.add_zero, inMonth?_monthNumber]
  · symm
    rw [inMonth?_eq_none_iff]
    unfold firstYear lastYear at *
    omega
  · have exact : saturated n = n := by omega
    rw [exact, Nat.min_eq_left (by omega), Int.sign_mul_natAbs]

theorem earliest_dayNumber : earliest.dayNumber = -96465292 := by decide

theorem latest_dayNumber : latest.dayNumber = 95026236 := by decide

theorem addDays?_saturated (d : Date) (n : Int) :
    d.addDays? (saturated n) = ofDayNumber? (d.dayNumber + n) := by
  have bounds := d.dayNumber_bounds
  rw [earliest_dayNumber, latest_dayNumber] at bounds
  have ends := saturated_cases n
  simp only [greatestWord, leastWord] at ends
  unfold addDays? longestStep
  split
  · symm
    rw [ofDayNumber?_eq_none_iff, earliest_dayNumber, latest_dayNumber]
    omega
  · have exact : saturated n = n := by omega
    rw [exact]

theorem dayNumber_of_addDays? {d e : Date} {n : Int} (reached : d.addDays? n = some e) :
    e.dayNumber = d.dayNumber + n := by
  unfold addDays? at reached
  split at reached
  · cases reached
  · exact ofDayNumber?_eq_some_iff.1 reached

/-- Neither saturation nor the limit of a single step keeps a date from being reached. -/
theorem take?_step (d : Date) (unit : CalendarUnit) (count : Int64) :
    d.take? (unit.step count) = d.target? unit count.toInt := by
  have whole : saturated (count.toInt * 1) = count.toInt := by
    rw [Int.mul_one, saturated_toInt]
  cases unit with
  | years => exact d.addMonths?_saturated _
  | months =>
    have reached := d.addMonths?_saturated (count.toInt * 1)
    rw [whole] at reached
    exact reached
  | weeks => exact d.addDays?_saturated _
  | days =>
    have reached := d.addDays?_saturated (count.toInt * 1)
    rw [whole] at reached
    exact reached

/-- A step is exact on unbounded integers, and stops at the ends of the calendar. -/
theorem shift_eq (d : Date) (count : Int64) (unit : CalendarUnit) :
    d.shift count unit = (d.target? unit count.toInt).getD (bound count) :=
  congrArg (Option.getD · _) (d.take?_step unit count)

theorem scale_of_months (d : Date) :
    Scale (· ≤ ·) earliest latest (firstYear * 12) (lastYear * 12 + 11) d.inMonth? where
  absent_iff _ := inMonth?_eq_none_iff
  mono := by
    intro m n a b h left right
    rcases Int.lt_or_eq_of_le h with earlier | same
    · rw [le_iff_monthNumber, monthNumber_of_inMonth? left, monthNumber_of_inMonth? right]
      exact .inl earlier
    · rw [same, right] at left
      rw [Option.some.inj left]
      exact le_refl _
  above {_ a} _ := a.earliest_le
  below {_ a} _ := a.le_latest
  low_le := le_refl _
  le_high := le_refl _
  low_le_high := earliest_le _

theorem scale_of_days :
    Scale (· ≤ ·) earliest latest earliest.dayNumber latest.dayNumber ofDayNumber? where
  absent_iff _ := ofDayNumber?_eq_none_iff
  mono := by
    intro m n a b h left right
    rw [le_iff_dayNumber, ofDayNumber?_eq_some_iff.1 left, ofDayNumber?_eq_some_iff.1 right]
    exact h
  above {_ a} _ := a.earliest_le
  below {_ a} _ := a.le_latest
  low_le := le_refl _
  le_high := le_refl _
  low_le_high := earliest_le _

/-- The greater the count, the later the date. -/
theorem shift_mono (d : Date) (unit : CalendarUnit) {i j : Int64} (h : i.toInt ≤ j.toInt) :
    d.shift i unit ≤ d.shift j unit := by
  rw [shift_eq, shift_eq]
  cases unit with
  | years | months => exact d.scale_of_months.step_mono d.monthNumber_bounds (by decide) h
  | weeks | days => exact scale_of_days.step_mono d.dayNumber_bounds (by decide) h

end Date

end DatasetQuery
