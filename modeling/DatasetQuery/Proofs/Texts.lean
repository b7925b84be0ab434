import DatasetQuery.Calendar.Iso
import DatasetQuery.Calendar.Reader
import DatasetQuery.Proofs.Shift
import DatasetQuery.Scalar
/-!
Texts and what they denote. A date is read back from its text, whatever its year. A time of day is
read back to the second and an instant to the microsecond, and the microseconds that are read are
those of the timestamp that stands for the instant on the wire.
-/
namespace DatasetQuery

namespace Decimal

theorem isDigit_of_mem_padded {width n : Nat} {c : Char} (among : c ∈ padded width n) :
    c.isDigit = true := by
  rcases List.mem_append.1 among with fill | digit
  · rw [List.eq_of_mem_replicate fill]
    rfl
  · exact Nat.isDigit_of_mem_toDigits (by decide) (by decide) digit

theorem ofDigitChars_padded (width n : Nat) : Nat.ofDigitChars 10 (padded width n) 0 = n := by
  rw [padded, Nat.ofDigitChars_append, Nat.ofDigitChars_replicate_zero, Nat.mul_zero]
  exact Nat.ofDigitChars_ten_toDigits

/-- A number that fits is filled to the width exactly. -/
theorem length_padded_of_le {width n : Nat} (fits : (digits n).length ≤ width) :
    (padded width n).length = width := by
  simp only [padded, List.length_append, List.length_replicate]
  omega

end Decimal

open Decimal (padded)

namespace Iso

/-- Padded digits are read as the number they write, up to the first character that is none. -/
theorem number?_padded {enough : Nat → Bool} {width n : Nat} {rest : List Char}
    (long : enough (padded width n).length = true) (stop : rest.takeWhile Char.isDigit = []) :
    number? enough (padded width n ++ rest) = some (n, rest) := by
  have digits : ∀ c ∈ padded width n, c.isDigit = true := fun _ => Decimal.isDigit_of_mem_padded
  have after : rest.dropWhile Char.isDigit = rest := by
    have whole := List.takeWhile_append_dropWhile (p := Char.isDigit) (l := rest)
    rwa [stop] at whole
  rw [number?, List.takeWhile_append_of_pos digits, List.dropWhile_append_of_pos digits, stop,
    List.append_nil, if_pos long, Decimal.ofDigitChars_padded, after]

theorem number?_exact {width n : Nat} (fits : (Decimal.digits n).length ≤ width)
    {rest : List Char} (stop : rest.takeWhile Char.isDigit = []) :
    number? (· = width) (padded width n ++ rest) = some (n, rest) :=
  number?_padded (decide_eq_true (Decimal.length_padded_of_le fits)) stop

theorem number?_two {n : Nat} (small : n < 100) {rest : List Char}
    (stop : rest.takeWhile Char.isDigit = []) :
    number? (· = 2) (padded 2 n ++ rest) = some (n, rest) :=
  number?_exact ((Nat.length_toDigits_le_iff (by decide) (by decide)).2 small) stop

theorem mark?_self (mark : Char) (rest : List Char) : mark? mark (mark :: rest) = some rest :=
  if_pos rfl

/-- Digits are not taken for a sign. -/
theorem year?_padded (n : Nat) (rest : List Char) : year? (padded 4 n ++ rest) =
    (number? (· = 4) (padded 4 n ++ rest)).map fun (n, rest) => ((n : Int), rest) := by
  have length := Decimal.length_padded 4 n
  cases digits : padded 4 n with
  | nil =>
    rw [digits] at length
    cases length
  | cons c cs =>
    have digit : c.isDigit = true :=
      Decimal.isDigit_of_mem_padded (digits ▸ List.mem_cons_self : c ∈ padded 4 n)
    rw [List.cons_append, year?.eq_def]
    split
    · rename_i same
      rw [(List.cons.inj same).1] at digit
      exact absurd digit (by decide)
    · rename_i same
      rw [(List.cons.inj same).1] at digit
      exact absurd digit (by decide)
    · rfl

theorem year?_yearText (year : Int) {rest : List Char}
    (stop : rest.takeWhile Char.isDigit = []) :
    year? (Date.yearText year ++ rest) = some (year, rest) := by
  have signed (n : Nat) : number? (4 ≤ ·) (padded 4 n ++ rest) = some (n, rest) :=
    number?_padded (decide_eq_true (Decimal.length_padded 4 n)) stop
  unfold Date.yearText
  split
  · have fits : (Decimal.digits year.toNat).length ≤ 4 :=
      (Nat.length_toDigits_le_iff (by decide) (by decide)).2 (by omega)
    rw [year?_padded, number?_exact fits stop]
    simp only [Option.map_some, Option.some.injEq, Prod.mk.injEq, and_true]
    omega
  · split
    · rw [List.cons_append, year?, signed]
      simp only [Option.map_some, Option.some.injEq, Prod.mk.injEq, and_true]
      omega
    · rw [List.cons_append, year?, signed]
      simp only [Option.map_some, Option.some.injEq, Prod.mk.injEq, and_true]
      omega

theorem date?_isoChars (d : Date) {rest : List Char} (stop : rest.takeWhile Char.isDigit = []) :
    date? (d.isoChars ++ rest) = some (d, rest) := by
  obtain ⟨_, month_le, _, day_le⟩ := d.onCalendar
  have length : Calendar.daysInMonth d.year d.month ≤ 31 := by
    unfold Calendar.daysInMonth
    split_ifs <;> decide
  have text : d.isoChars ++ rest = Date.yearText d.year ++
      '-' :: (padded 2 d.month ++ '-' :: (padded 2 d.day ++ rest)) := by
    simp only [Date.isoChars, List.append_assoc, List.cons_append]
  have valid := (Date.of?_eq_some_iff (d := d)).2 ⟨rfl, rfl, rfl⟩
  simp [date?, text, year?_yearText, mark?_self, number?_two (show d.month < 100 by omega),
    number?_two (show d.day < 100 by omega), stop, valid]

end Iso

namespace TimeOfDay

/-- The same time with leap seconds only behind second 59. Where an offset has moved one behind
another second, a clock goes on to the next. -/
def regular (t : TimeOfDay) : TimeOfDay :=
  if h : t.isLeap = true ∧ t.secondOfMinute ≠ 59 then
    ⟨t.second + 1, t.nanos - 1000000000,
      by have := t.second_lt; have := h.2; unfold secondOfMinute at this; omega,
      by have := t.nanos_lt; omega⟩
  else t

/-- The time without what is left over a multiple of so many nanoseconds. -/
def cut (t : TimeOfDay) (size : Nat) : TimeOfDay :=
  ⟨t.second, t.nanos / size * size, t.second_lt,
    Nat.lt_of_le_of_lt (Nat.div_mul_le_self t.nanos size) t.nanos_lt⟩

/-- What a clock shows of a time that is cut to so many nanoseconds. -/
def shown (t : TimeOfDay) (size : Nat) : TimeOfDay := t.regular.cut size

/-- The second that is shown, 60 in a leap second. -/
def shownSecond (t : TimeOfDay) : Nat := t.secondOfMinute + t.nanos / 1000000000

theorem regular_of_ordinary {t : TimeOfDay} (ordinary : t.isLeap = false) : t.regular = t :=
  dif_neg fun moved => absurd (moved.1.symm.trans ordinary) (by decide)

theorem regular_cases (t : TimeOfDay) :
    (t.nanos < 1000000000 ∧ t.regular = t) ∨
      (1000000000 ≤ t.nanos ∧ t.second % 60 = 59 ∧ t.regular = t) ∨
      (1000000000 ≤ t.nanos ∧ t.second % 60 ≠ 59 ∧ t.regular.second = t.second + 1 ∧
        t.regular.nanos = t.nanos - 1000000000) := by
  unfold regular
  split
  · rename_i moved
    exact .inr (.inr ⟨of_decide_eq_true moved.1, moved.2, rfl, rfl⟩)
  · rename_i stays
    simp only [isLeap, secondOfMinute, decide_eq_true_eq] at stays
    by_cases leap : 1000000000 ≤ t.nanos
    · exact .inr (.inl ⟨leap, by_contra fun other => stays ⟨leap, other⟩, rfl⟩)
    · exact .inl ⟨by omega, rfl⟩

theorem nanosecond_regular (t : TimeOfDay) : t.regular.nanosecond = t.nanosecond := by
  unfold nanosecond
  rcases t.regular_cases with ⟨_, same⟩ | ⟨_, _, same⟩ | ⟨leap, _, next, rest⟩
  · rw [same]
  · rw [same]
  · omega

theorem fraction_regular (t : TimeOfDay) :
    t.regular.nanos % 1000000000 = t.nanos % 1000000000 := by
  have place := t.nanosecond_regular
  unfold nanosecond at place
  omega

/-- A clock that shows what is shown of a time is at that time. -/
theorem ofClock?_shown {t : TimeOfDay} {nanos size : Nat} (small : nanos < 1000000000)
    (part : t.regular.nanos / size * size = t.regular.nanos / 1000000000 * 1000000000 + nanos) :
    ofClock? t.hour t.minute t.shownSecond nanos = some (t.shown size) := by
  have second_lt := t.second_lt
  have nanos_lt := t.nanos_lt
  unfold ofClock? hour minute shownSecond secondOfMinute shown cut
  rw [dif_pos (by rcases t.regular_cases with h | h | h <;> omega)]
  simp only [Option.some.injEq, mk.injEq, part]
  rcases t.regular_cases with ⟨ordinary, same⟩ | ⟨leap, last, same⟩ | ⟨leap, other, next, rest⟩
  · rw [same]
    omega
  · rw [same]
    omega
  · omega

end TimeOfDay

namespace Iso

theorem clock?_isoChars (t : TimeOfDay) {rest : List Char}
    (stop : rest.takeWhile Char.isDigit = []) :
    clock? (t.isoChars ++ rest) = some ((t.hour, t.minute, t.shownSecond), rest) := by
  have second_lt := t.second_lt
  have nanos_lt := t.nanos_lt
  have hour : t.hour < 100 := by unfold TimeOfDay.hour; omega
  have minute : t.minute < 100 := by unfold TimeOfDay.minute; omega
  have second : t.shownSecond < 100 := by
    unfold TimeOfDay.shownSecond TimeOfDay.secondOfMinute
    omega
  have text : t.isoChars ++ rest = padded 2 t.hour ++
      ':' :: (padded 2 t.minute ++ ':' :: (padded 2 t.shownSecond ++ rest)) := by
    simp only [TimeOfDay.isoChars, TimeOfDay.shownSecond, List.append_assoc, List.cons_append]
  simp [clock?, text, mark?_self, number?_two hour, number?_two minute, number?_two second, stop]

theorem time?_isoChars (t : TimeOfDay) : time? t.isoChars = some (t.shown 1000000000, []) := by
  have clock := @clock?_isoChars t [] rfl
  rw [List.append_nil] at clock
  have time : TimeOfDay.ofClock? t.hour t.minute t.shownSecond 0 = some (t.shown 1000000000) :=
    TimeOfDay.ofClock?_shown (by decide) (Nat.add_zero _).symm
  simp [time?, clock, time]

end Iso

namespace Instant

/-- What is shown of an instant, to the microsecond. -/
def shown (i : Instant) : Instant := ⟨i.date, i.time.shown 1000⟩

theorem unixMicrosecond_shown (i : Instant) : i.shown.unixMicrosecond = i.unixMicrosecond := by
  have place := i.time.nanosecond_regular
  unfold TimeOfDay.nanosecond at place
  simp only [unixMicrosecond, unixSecond, shown, TimeOfDay.shown, TimeOfDay.cut]
  omega

end Instant

namespace Iso

theorem instant?_isoChars (i : Instant) : instant? i.isoChars = some (i.shown, []) := by
  have micros : i.time.microsecond < 1000000 := by
    unfold TimeOfDay.microsecond
    omega
  have fits : (Decimal.digits i.time.microsecond).length ≤ 6 :=
    (Nat.length_toDigits_le_iff (by decide) (by decide)).2 micros
  have text : i.isoChars = i.date.isoChars ++
      'T' :: (i.time.isoChars ++ '.' :: (padded 6 i.time.microsecond ++ ['Z'])) := by
    simp only [Instant.isoChars, List.append_assoc, List.cons_append]
  have time : TimeOfDay.ofClock? i.time.hour i.time.minute i.time.shownSecond
      (i.time.microsecond * 1000) = some (i.time.shown 1000) := by
    have fraction := i.time.fraction_regular
    apply TimeOfDay.ofClock?_shown (by omega)
    unfold TimeOfDay.microsecond
    rw [← fraction]
    generalize i.time.regular.nanos = nanos
    omega
  simp [instant?, text, date?_isoChars, clock?_isoChars, mark?_self, number?_exact fits, time,
    Instant.shown]

theorem whole?_eq_some {α : Type} {read : List Char → Option (α × List Char)} {cs : List Char}
    {value : α} (reads : read cs = some (value, [])) :
    whole? read (String.ofList cs) = some value := by
  simp [whole?, reads]

end Iso

/-- A date is read back from its text. -/
theorem Date.ofIso?_iso (d : Date) : ofIso? d.iso = some d := by
  have reads := @Iso.date?_isoChars d [] rfl
  rw [List.append_nil] at reads
  exact Iso.whole?_eq_some reads

/-- A time of day is read back to the second. -/
theorem TimeOfDay.ofIso?_iso (t : TimeOfDay) : ofIso? t.iso = some (t.shown 1000000000) :=
  Iso.whole?_eq_some (Iso.time?_isoChars t)

/-- An instant is read back to the microsecond. -/
theorem Instant.ofIso?_iso (i : Instant) : ofIso? i.iso = some i.shown :=
  Iso.whole?_eq_some (Iso.instant?_isoChars i)

namespace Instant

/-- A local time denotes the second that lies its offset earlier. -/
theorem unixMicrosecond_of_ofLocal? {date : Date} {time : TimeOfDay} {offset : Int} {i : Instant}
    (utc : ofLocal? date time offset = some i) : i.unixMicrosecond =
      (date.dayNumber * 86400 + time.second - offset) * 1000000 + (time.nanos / 1000 : Nat) := by
  obtain ⟨d, day, rfl⟩ := Option.map_eq_some_iff.1 utc
  have number := Date.ofDayNumber?_eq_some_iff.1 day
  simp only [TimeOfDay.wrap] at number
  simp only [unixMicrosecond, unixSecond, TimeOfDay.wrap, number]
  omega

/-- The microseconds of every instant fit a word, those of a leap second at the end included. -/
theorem toInt_unixMicrosecond (i : Instant) :
    (Int64.ofInt i.unixMicrosecond).toInt = i.unixMicrosecond := by
  have bounds := i.date.dayNumber_bounds
  rw [Date.earliest_dayNumber, Date.latest_dayNumber] at bounds
  have second_lt := i.time.second_lt
  have nanos_lt := i.time.nanos_lt
  unfold unixMicrosecond unixSecond
  apply Int64.toInt_ofInt_of_le <;> omega

end Instant

/-- Every text denotes its value. Dates are read back as they are, times of day as the second that
they show, and instants, from whatever offset they come, as the microseconds that their timestamp
holds. Texts are therefore the same only for the same dates, and for instants that show the same. -/
theorem texts_denote_values :
    (∀ d : Date, Date.ofIso? d.iso = some d) ∧
    (∀ t : TimeOfDay, TimeOfDay.ofIso? t.iso = some (t.shown 1000000000)) ∧
    (∀ (date : Date) (time : TimeOfDay) (offset : Int) (i : Instant),
      Instant.ofLocal? date time offset = some i →
        ∃ micros : Int64, Scalar.ofInstant i = .timestamp micros ∧
          (Instant.ofIso? i.iso).map Instant.unixMicrosecond = some micros.toInt ∧
          micros.toInt = (date.dayNumber * 86400 + time.second - offset) * 1000000
            + (time.nanos / 1000 : Nat)) ∧
    (∀ d e : Date, d.iso = e.iso → d = e) ∧
    ∀ i j : Instant, i.iso = j.iso →
      i.shown = j.shown ∧ Scalar.ofInstant i = Scalar.ofInstant j := by
  refine ⟨Date.ofIso?_iso, TimeOfDay.ofIso?_iso, ?_, ?_, ?_⟩
  · intro date time offset i utc
    refine ⟨_, rfl, ?_, ?_⟩
    · rw [Instant.ofIso?_iso, Option.map_some, i.unixMicrosecond_shown, i.toInt_unixMicrosecond]
    · rw [i.toInt_unixMicrosecond, Instant.unixMicrosecond_of_ofLocal? utc]
  · intro d e same
    have read := congrArg Date.ofIso? same
    rw [Date.ofIso?_iso, Date.ofIso?_iso] at read
    exact Option.some.inj read
  · intro i j same
    have read := congrArg Instant.ofIso? same
    rw [Instant.ofIso?_iso, Instant.ofIso?_iso] at read
    have shown := Option.some.inj read
    refine ⟨shown, ?_⟩
    rw [Scalar.ofInstant, Scalar.ofInstant, ← i.unixMicrosecond_shown, shown,
      j.unixMicrosecond_shown]

/-- A leap second just after the new year, so far in the east that in UTC the old year has not
ended and the clock goes on to its next second. -/
theorem texts_denote_values_behind_an_offset :
    let date : Date :=
      ⟨2024, 1, 1, by decide, by decide, by decide, by decide, by decide, by decide⟩
    let eve : Date :=
      ⟨2023, 12, 31, by decide, by decide, by decide, by decide, by decide, by decide⟩
    let i : Instant := ⟨eve, 58049, 1500000000, by decide, by decide⟩
    let j : Instant := ⟨eve, 58050, 500000999, by decide, by decide⟩
    Instant.ofLocal? date ⟨59, 1500000000, by decide, by decide⟩ 28410 = some i ∧
      (∃ micros : Int64, Scalar.ofInstant i = .timestamp micros ∧
        (Instant.ofIso? i.iso).map Instant.unixMicrosecond = some micros.toInt ∧
        micros.toInt = 1704038850500000) ∧
      i.iso = j.iso ∧ i.shown = j.shown ∧ Scalar.ofInstant i = Scalar.ofInstant j := by
  intro date eve i j
  have utc : Instant.ofLocal? date ⟨59, 1500000000, by decide, by decide⟩ 28410 = some i := by
    decide
  obtain ⟨micros, stored, read, value⟩ := texts_denote_values.2.2.1 date _ 28410 i utc
  have same : i.iso = j.iso := congrArg String.ofList (by decide)
  exact ⟨utc, ⟨micros, stored, read, value.trans (by decide)⟩, same,
    texts_denote_values.2.2.2.2 i j same⟩

end DatasetQuery
