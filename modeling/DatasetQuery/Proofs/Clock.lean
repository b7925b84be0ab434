import DatasetQuery.Proofs.Shift
import DatasetQuery.Calendar.Iso
import Mathlib.Data.String.Basic
/-!
Steps along the clock. From a time outside of leap seconds, the clock moves along the nanoseconds of
the day and of the days around it, so that steps are exact until they leave the day or the calendar.
Times of day are ordered by their texts, instants as they are compared.
-/
namespace DatasetQuery

open Decimal (padded)

namespace Decimal

theorem padded_two : ∀ n < 100, padded 2 n = [Nat.digitChar (n / 10), Nat.digitChar (n % 10)] := by
  decide

theorem digitChar_lt : ∀ n < 10, ∀ m < n, Nat.digitChar m < Nat.digitChar n := by
  decide

/-- Texts that begin with two digits are ordered first by the number these write. -/
theorem padded_two_append_lt {m n : Nat} (small : n < 100) {u v : List Char}
    (h : m < n ∨ (m = n ∧ u < v)) : padded 2 m ++ u < padded 2 n ++ v := by
  rcases h with less | ⟨rfl, rest⟩
  · rw [padded_two m (by omega), padded_two n small]
    simp only [List.cons_append, List.nil_append, List.cons_lt_cons_iff]
    rcases Nat.lt_or_eq_of_le (Nat.div_le_div_right (c := 10) (Nat.le_of_lt less)) with tens | tens
    · exact .inl (digitChar_lt _ (by omega) _ tens)
    · exact .inr ⟨congrArg _ tens, .inl (digitChar_lt _ (by omega) _ (by omega))⟩
  · exact List.append_left_lt rest

end Decimal

/-- The nanoseconds in one unit. -/
def ClockUnit.inNanoseconds : ClockUnit → Int
  | hours => 3600000000000
  | minutes => 60000000000
  | seconds => 1000000000
  | milliseconds => 1000000

theorem ClockUnit.inNanoseconds_eq (unit : ClockUnit) :
    unit.inNanoseconds = unit.inMilliseconds * 1000000 := by
  cases unit <;> rfl

theorem ClockUnit.forward (unit : ClockUnit) : 0 ≤ unit.inMilliseconds * 1000000 := by
  cases unit <;> decide

namespace TimeOfDay

theorem nanos_lt_of_ordinary {t : TimeOfDay} (ordinary : t.isLeap = false) :
    t.nanos < 1000000000 :=
  Nat.lt_of_not_le (of_decide_eq_false ordinary)

theorem isoChars_of_ordinary {t : TimeOfDay} (ordinary : t.isLeap = false) : t.isoChars =
    padded 2 t.hour ++ ':' :: (padded 2 t.minute ++ ':' :: (padded 2 t.secondOfMinute ++ [])) := by
  unfold isoChars
  rw [Nat.div_eq_of_lt (nanos_lt_of_ordinary ordinary), Nat.add_zero]
  simp only [List.append_assoc, List.cons_append, List.append_nil]

/-- Outside of leap seconds, the texts of times are ordered as their seconds. -/
theorem iso_le_iso {a b : TimeOfDay} (first : a.isLeap = false) (second : b.isLeap = false)
    (h : a.second ≤ b.second) : a.iso ≤ b.iso := by
  have bound := b.second_lt
  unfold iso
  rw [isoChars_of_ordinary first, isoChars_of_ordinary second]
  unfold hour minute secondOfMinute
  rcases Nat.lt_or_eq_of_le h with earlier | same
  · apply le_of_lt
    rw [String.lt_iff_toList_lt, String.toList_ofList, String.toList_ofList]
    apply Decimal.padded_two_append_lt (by omega)
    by_cases hours : a.second / 3600 = b.second / 3600
    · refine .inr ⟨hours, List.cons_lt_cons_iff.2 (.inr ⟨rfl, ?_⟩)⟩
      apply Decimal.padded_two_append_lt (by omega)
      by_cases minutes : a.second / 60 % 60 = b.second / 60 % 60
      · refine .inr ⟨minutes, List.cons_lt_cons_iff.2 (.inr ⟨rfl, ?_⟩)⟩
        exact Decimal.padded_two_append_lt (by omega) (.inl (by omega))
      · exact .inl (by omega)
    · exact .inl (by omega)
  · rw [same]

theorem ordinarySecond_lt (n : Int) : (n / 1000000000 % 86400).toNat < 86400 := by omega

theorem ordinaryNanos_lt (n : Int) : (n % 1000000000).toNat < 2000000000 := by omega

/-- The time of day so many nanoseconds after some midnight. -/
def atNanosecond (n : Int) : TimeOfDay :=
  ⟨(n / 1000000000 % 86400).toNat, (n % 1000000000).toNat, ordinarySecond_lt n, ordinaryNanos_lt n⟩

theorem isLeap_atNanosecond (n : Int) : (atNanosecond n).isLeap = false := by
  apply decide_eq_false
  simp only [atNanosecond]
  omega

theorem atNanosecond_add_days (days n : Int) :
    atNanosecond (days * 86400000000000 + n) = atNanosecond n := by
  have second : (days * 86400000000000 + n) / 1000000000 % 86400 = n / 1000000000 % 86400 := by
    omega
  have part : (days * 86400000000000 + n) % 1000000000 = n % 1000000000 := by omega
  simp only [atNanosecond, second, part]

theorem carry_eq (seconds nanos : Int) : carry seconds nanos =
    (atNanosecond (seconds * 1000000000 + nanos),
      (seconds * 1000000000 + nanos) / 86400000000000) := by
  have whole : seconds + nanos / 1000000000 = (seconds * 1000000000 + nanos) / 1000000000 := by
    omega
  have part : nanos % 1000000000 = (seconds * 1000000000 + nanos) % 1000000000 := by omega
  have days : (seconds * 1000000000 + nanos) / 1000000000 / 86400 =
      (seconds * 1000000000 + nanos) / 86400000000000 := by omega
  simp only [carry, wrap, atNanosecond, whole, part, days]

/-- Outside of leap seconds, the clock moves along the nanoseconds of the days. -/
theorem advance_eq {t : TimeOfDay} (ordinary : t.isLeap = false) (milliseconds : Int) :
    t.advance milliseconds =
      (atNanosecond (t.nanosecond + milliseconds * 1000000),
        (t.nanosecond + milliseconds * 1000000) / 86400000000000) := by
  have below := nanos_lt_of_ordinary ordinary
  have parts := Int.mul_tdiv_add_tmod milliseconds 1000
  have place : (t.second + milliseconds.tdiv 1000) * 1000000000
      + (t.nanos + milliseconds.tmod 1000 * 1000000) = t.nanosecond + milliseconds * 1000000 := by
    unfold nanosecond
    omega
  unfold advance
  dsimp only
  rw [dif_neg (by omega), if_neg (by omega), carry_eq, place]

/-- The time of day at a nanosecond, if it belongs to the day. -/
def ofNanosecond? (n : Int) : Option TimeOfDay :=
  if n / 86400000000000 = 0 then some (atNanosecond n) else none

theorem nanosecond_bounds {t : TimeOfDay} (ordinary : t.isLeap = false) :
    0 ≤ (t.nanosecond : Int) ∧ (t.nanosecond : Int) ≤ 86399999999999 := by
  have below := nanos_lt_of_ordinary ordinary
  have second_lt := t.second_lt
  unfold nanosecond
  omega

theorem shift_eq_advance {t : TimeOfDay} {count : Int64} {unit : ClockUnit}
    (near : (count.toInt * unit.inMilliseconds).natAbs ≤ greatestWord)
    (today : (t.advance (count.toInt * unit.inMilliseconds)).2 = 0) :
    t.shift count unit = (t.advance (count.toInt * unit.inMilliseconds)).1 := by
  unfold shift ClockUnit.step?
  dsimp only
  rw [if_pos near]
  exact if_pos today

theorem shift_eq_bound {t : TimeOfDay} {count : Int64} {unit : ClockUnit}
    (out : ¬((count.toInt * unit.inMilliseconds).natAbs ≤ greatestWord ∧
      (t.advance (count.toInt * unit.inMilliseconds)).2 = 0)) :
    t.shift count unit = bound count := by
  unfold shift ClockUnit.step?
  dsimp only
  split
  · rename_i n taken
    obtain ⟨near, same⟩ := Option.ite_none_right_eq_some.1 taken
    cases same
    exact if_neg fun today => out ⟨near, today⟩
  · rfl

/-- A step from an ordinary time is exact on unbounded integers, and stops at the ends of the
day. -/
theorem shift_eq {t : TimeOfDay} (ordinary : t.isLeap = false) (count : Int64)
    (unit : ClockUnit) : t.shift count unit =
      (ofNanosecond? (t.nanosecond + count.toInt * (unit.inMilliseconds * 1000000))).getD
        (bound count) := by
  have bounds := nanosecond_bounds ordinary
  have moved := advance_eq ordinary (count.toInt * unit.inMilliseconds)
  rw [← Int.mul_assoc, ofNanosecond?]
  by_cases inside : (count.toInt * unit.inMilliseconds).natAbs ≤ greatestWord ∧
      (t.advance (count.toInt * unit.inMilliseconds)).2 = 0
  · rw [shift_eq_advance inside.1 inside.2]
    rw [moved] at inside ⊢
    rw [if_pos inside.2]
    rfl
  · rw [shift_eq_bound inside]
    rw [moved] at inside
    unfold greatestWord at inside
    rw [if_neg (by omega)]
    rfl

theorem ofNanosecond?_eq_some_iff {n : Int} {t : TimeOfDay} :
    ofNanosecond? n = some t ↔ n / 86400000000000 = 0 ∧ atNanosecond n = t := by
  unfold ofNanosecond?
  rw [Option.ite_none_right_eq_some, Option.some.injEq]

theorem ofNanosecond?_eq_none_iff {n : Int} :
    ofNanosecond? n = none ↔ n < 0 ∨ 86399999999999 < n := by
  unfold ofNanosecond?
  rw [ite_eq_right_iff]
  simp only [reduceCtorEq, imp_false]
  omega

theorem scale_of_nanoseconds :
    Scale (fun a b => a.iso ≤ b.iso) midnight lastMicrosecond 0 86399999999999 ofNanosecond? where
  absent_iff _ := ofNanosecond?_eq_none_iff
  mono := by
    intro m n a b h left right
    obtain ⟨first, rfl⟩ := ofNanosecond?_eq_some_iff.1 left
    obtain ⟨second, rfl⟩ := ofNanosecond?_eq_some_iff.1 right
    apply iso_le_iso (isLeap_atNanosecond m) (isLeap_atNanosecond n)
    simp only [atNanosecond]
    omega
  above := by
    intro n t found
    obtain ⟨_, rfl⟩ := ofNanosecond?_eq_some_iff.1 found
    exact iso_le_iso rfl (isLeap_atNanosecond n) (Nat.zero_le _)
  below := by
    intro n t found
    obtain ⟨_, rfl⟩ := ofNanosecond?_eq_some_iff.1 found
    exact iso_le_iso (isLeap_atNanosecond n) rfl (Nat.le_of_lt_succ (atNanosecond n).second_lt)
  low_le := le_rfl
  le_high := le_rfl
  low_le_high := iso_le_iso rfl rfl (Nat.zero_le _)

/-- The greater the count, the later the text. -/
theorem shift_mono {t : TimeOfDay} (ordinary : t.isLeap = false) (unit : ClockUnit)
    {m n : Int64} (h : m.toInt ≤ n.toInt) : (t.shift m unit).iso ≤ (t.shift n unit).iso := by
  rw [shift_eq ordinary, shift_eq ordinary]
  exact scale_of_nanoseconds.step_mono (nanosecond_bounds ordinary) unit.forward h

end TimeOfDay

namespace Instant

theorem unixNanosecond_eq (i : Instant) :
    i.unixNanosecond = i.date.dayNumber * 86400000000000 + i.time.nanosecond := by
  unfold unixNanosecond unixSecond TimeOfDay.nanosecond
  omega

/-- Outside of leap seconds, instants are ordered as their nanoseconds. -/
theorem isAtMost_iff {i j : Instant} (first : i.time.isLeap = false)
    (second : j.time.isLeap = false) :
    i.isAtMost j = true ↔ i.unixNanosecond ≤ j.unixNanosecond := by
  have below := TimeOfDay.nanos_lt_of_ordinary first
  have below' := TimeOfDay.nanos_lt_of_ordinary second
  unfold isAtMost unixNanosecond
  rw [decide_eq_true_iff]
  omega

theorem isAtMost_refl (i : Instant) : i.isAtMost i = true :=
  decide_eq_true (.inr ⟨rfl, Nat.le_refl _⟩)

theorem isAtMost_of_date_le {d e : Date} (h : d ≤ e) (t : TimeOfDay) :
    isAtMost ⟨d, t⟩ ⟨e, t⟩ = true := by
  have days := Date.le_iff_dayNumber.1 h
  apply decide_eq_true
  simp only [unixSecond]
  omega

theorem earliest_isAtMost (i : Instant) : earliest.isAtMost i = true := by
  have days := i.date.dayNumber_bounds.1
  apply decide_eq_true
  simp only [unixSecond, earliest, TimeOfDay.midnight]
  omega

theorem isAtMost_latest {i : Instant} (ordinary : i.time.isLeap = false) :
    i.isAtMost latest = true := by
  have below := TimeOfDay.nanos_lt_of_ordinary ordinary
  have second_lt := i.time.second_lt
  have days := i.date.dayNumber_bounds.2
  apply decide_eq_true
  simp only [unixSecond, latest, TimeOfDay.lastNanosecond]
  omega

/-- Only on the last of all dates is there something after the latest instant. -/
theorem date_eq_latest_of_late {d : Date} {t : TimeOfDay} (late : isAtMost ⟨d, t⟩ latest = false) :
    d = .latest := by
  have after := of_decide_eq_false late
  have second_lt := t.second_lt
  simp only [unixSecond, latest, TimeOfDay.lastNanosecond] at after
  exact Date.eq_latest_of_le (by omega)

theorem unixNanosecond_bounds {i : Instant} (ordinary : i.time.isLeap = false) :
    earliest.unixNanosecond ≤ i.unixNanosecond ∧ i.unixNanosecond ≤ latest.unixNanosecond :=
  ⟨(isAtMost_iff rfl ordinary).1 i.earliest_isAtMost,
    (isAtMost_iff ordinary rfl).1 (isAtMost_latest ordinary)⟩

/-- The instant a number of nanoseconds after the start of 1970, if it is on the calendar. -/
def ofUnixNanosecond? (n : Int) : Option Instant :=
  (Date.ofDayNumber? (n / 86400000000000)).map fun d => ⟨d, .atNanosecond n⟩

theorem unixNanosecond_of_ofUnixNanosecond? {n : Int} {i : Instant}
    (found : ofUnixNanosecond? n = some i) : i.unixNanosecond = n ∧ i.time.isLeap = false := by
  obtain ⟨d, day, rfl⟩ := Option.map_eq_some_iff.1 found
  have number := Date.ofDayNumber?_eq_some_iff.1 day
  refine ⟨?_, TimeOfDay.isLeap_atNanosecond n⟩
  simp only [unixNanosecond_eq, TimeOfDay.nanosecond, TimeOfDay.atNanosecond]
  omega

/-- There is an instant for the numbers from that of the earliest to that of the latest. -/
theorem ofUnixNanosecond?_eq_none_iff {n : Int} : ofUnixNanosecond? n = none ↔
    n < earliest.unixNanosecond ∨ latest.unixNanosecond < n := by
  have first : earliest.unixNanosecond = Date.earliest.dayNumber * 86400000000000 := by decide
  have last : latest.unixNanosecond = Date.latest.dayNumber * 86400000000000 + 86399999999999 := by
    decide
  unfold ofUnixNanosecond?
  rw [Option.map_eq_none_iff, Date.ofDayNumber?_eq_none_iff, first, last]
  omega

theorem advance?_eq {i : Instant} (ordinary : i.time.isLeap = false) (milliseconds : Int) :
    i.advance? milliseconds = ofUnixNanosecond? (i.unixNanosecond + milliseconds * 1000000) := by
  have day : i.date.dayNumber
      + (i.time.nanosecond + milliseconds * 1000000) / 86400000000000 =
      (i.unixNanosecond + milliseconds * 1000000) / 86400000000000 := by
    rw [unixNanosecond_eq]
    omega
  unfold advance? on? ofUnixNanosecond?
  rw [TimeOfDay.advance_eq ordinary, day, unixNanosecond_eq, Int.add_assoc,
    TimeOfDay.atNanosecond_add_days]

/-- A calendar step is refused at a date that it reaches only if a leap second would end after the
latest instant. The step then led forward, to the last of all dates. -/
theorem take?_eq_or_refused (i : Instant) (step : CalendarStep) :
    i.take? step = (i.date.take? step).map (fun d => ⟨d, i.time⟩) ∨
      (i.take? step = none ∧ i.date.take? step = some .latest ∧ 0 < step.size ∧
        isAtMost ⟨.latest, i.time⟩ latest = false) := by
  cases step with
  | months n => exact .inl rfl
  | days n =>
    have bounds := i.date.dayNumber_bounds
    unfold take?
    dsimp only [Date.take?, CalendarStep.size]
    split
    · rename_i none
      have stays : i.date.addDays? 0 = some i.date := by
        have reached := i.date.addDays?_saturated 0
        rw [Int.add_zero, Date.ofDayNumber?_eq_some_iff.2 rfl] at reached
        exact reached
      rw [none, stays]
      exact .inl rfl
    · rename_i moves
      cases reached : i.date.addDays? n with
      | none => exact .inl rfl
      | some d =>
        have number := Date.dayNumber_of_addDays? reached
        cases timely : isAtMost ⟨d, i.time⟩ latest with
        | true => exact .inl (Option.filter_eq_some_iff.2 ⟨rfl, timely⟩)
        | false =>
          have last : d = .latest := date_eq_latest_of_late timely
          subst last
          refine .inr ⟨Option.filter_eq_none_iff.2 ?_, rfl, by omega, timely⟩
          rintro _ ⟨⟩
          exact ne_true_of_eq_false timely

/-- At an ordinary time of day, no date that a step reaches is refused. -/
theorem take?_eq {i : Instant} (ordinary : i.time.isLeap = false) (step : CalendarStep) :
    i.take? step = (i.date.take? step).map fun d => ⟨d, i.time⟩ := by
  rcases i.take?_eq_or_refused step with taken | ⟨_, _, _, late⟩
  · exact taken
  · cases late.symm.trans (isAtMost_latest (i := ⟨.latest, i.time⟩) ordinary)

/-- Where a step by an unbounded count leads, if there is an instant. -/
def target? (i : Instant) (unit : InstantUnit) (count : Int) : Option Instant :=
  match unit with
  | .calendar unit => (i.date.target? unit count).map fun d => ⟨d, i.time⟩
  | .clock unit => ofUnixNanosecond? (i.unixNanosecond + count * (unit.inMilliseconds * 1000000))

/-- A step from an ordinary instant is exact on unbounded integers, and stops at the ends of the
calendar. -/
theorem shift_eq {i : Instant} (ordinary : i.time.isLeap = false) (count : Int64)
    (unit : InstantUnit) :
    i.shift count unit = (i.target? unit count.toInt).getD (bound count) := by
  cases unit with
  | calendar unit =>
    refine congrArg (Option.getD · _) ?_
    rw [take?_eq ordinary, i.date.take?_step]
    rfl
  | clock unit =>
    have bounds := unixNanosecond_bounds ordinary
    have first : earliest.unixNanosecond = -8334601228800000000000 := by decide
    have last : latest.unixNanosecond = 8210266876799999999999 := by decide
    refine congrArg (Option.getD · _) ?_
    unfold ClockUnit.step? target?
    dsimp only
    rw [← Int.mul_assoc]
    generalize count.toInt * unit.inMilliseconds = n
    split
    · exact advance?_eq ordinary n
    · rename_i far
      unfold greatestWord at far
      symm
      rw [Option.bind_none, ofUnixNanosecond?_eq_none_iff]
      omega

theorem scale_of_nanoseconds :
    Scale (fun i j => i.isAtMost j = true) earliest latest earliest.unixNanosecond
      latest.unixNanosecond ofUnixNanosecond? where
  absent_iff _ := ofUnixNanosecond?_eq_none_iff
  mono := by
    intro m n i j h left right
    obtain ⟨first, ordinary⟩ := unixNanosecond_of_ofUnixNanosecond? left
    obtain ⟨second, ordinary'⟩ := unixNanosecond_of_ofUnixNanosecond? right
    rw [isAtMost_iff ordinary ordinary', first, second]
    exact h
  above {_ i} _ := i.earliest_isAtMost
  below found := isAtMost_latest (unixNanosecond_of_ofUnixNanosecond? found).2
  low_le := isAtMost_refl _
  le_high := isAtMost_refl _
  low_le_high := earliest_isAtMost _

/-- Dates at one ordinary time of day are instants in the same order. -/
theorem scale_at {first last : Int} {place : Int → Option Date} {t : TimeOfDay}
    (ordinary : t.isLeap = false)
    (scale : Scale (· ≤ ·) Date.earliest Date.latest first last place) :
    Scale (fun i j => i.isAtMost j = true) earliest latest first last
      fun n => (place n).map fun d => ⟨d, t⟩ where
  absent_iff n := Option.map_eq_none_iff.trans (scale.absent_iff n)
  mono := by
    intro m n i j h left right
    obtain ⟨d, found, rfl⟩ := Option.map_eq_some_iff.1 left
    obtain ⟨e, found', rfl⟩ := Option.map_eq_some_iff.1 right
    exact isAtMost_of_date_le (scale.mono h found found') t
  above {_ i} _ := i.earliest_isAtMost
  below := by
    intro n i found
    obtain ⟨d, _, rfl⟩ := Option.map_eq_some_iff.1 found
    exact isAtMost_latest ordinary
  low_le := isAtMost_refl _
  le_high := isAtMost_refl _
  low_le_high := earliest_isAtMost _

/-- The greater the count, the later the instant. -/
theorem shift_mono {i : Instant} (ordinary : i.time.isLeap = false) (unit : InstantUnit)
    {m n : Int64} (h : m.toInt ≤ n.toInt) : (i.shift m unit).isAtMost (i.shift n unit) = true := by
  rw [shift_eq ordinary, shift_eq ordinary]
  cases unit with
  | calendar unit =>
    cases unit with
    | years | months =>
      have scale := scale_at ordinary i.date.scale_of_months
      exact scale.step_mono i.date.monthNumber_bounds (by decide) h
    | weeks | days =>
      have scale := scale_at ordinary Date.scale_of_days
      exact scale.step_mono i.date.dayNumber_bounds (by decide) h
  | clock unit =>
    have bounds := unixNanosecond_bounds ordinary
    exact scale_of_nanoseconds.step_mono bounds unit.forward h

end Instant

end DatasetQuery
