import DatasetQuery.Proofs.Instants
import DatasetQuery.Proofs.Midnight
import DatasetQuery.Proofs.PastWindow
import DatasetQuery.Proofs.Texts
/-!
Rows of a window. A window stands in a query as the texts of its ends, and a row is admitted by what
these texts denote. Dates and instants are written precisely enough for every value that a column
holds. Times of day are written without their fraction, so that the newer end of a window moves to
the start of its second, and the rows in the rest of that second are lost.
-/
namespace DatasetQuery

/-- The predicates that admit a row in which the subject has a value. A comparison with a literal
compares with what the text of the literal denotes. -/
inductive Admits {α : Type} [LE α] (read : String → Option α) (subject : Expr) (value : α) :
    Expr → Prop where
  | atLeast {text : String} {low : α} (denotes : read text = some low) (side : low ≤ value) :
      Admits read subject value (.binary subject .gte (.literal (.scalar (.string text))))
  | atMost {text : String} {high : α} (denotes : read text = some high) (side : value ≤ high) :
      Admits read subject value (.binary subject .lte (.literal (.scalar (.string text))))
  | both {left right : Expr} (first : Admits read subject value left)
      (second : Admits read subject value right) :
      Admits read subject value (.binary left .and right)

/-- Instants in their order. -/
instance : LE Instant := ⟨fun i j => i.isAtMost j = true⟩

namespace Temporal

section Window

variable {α : Type} [Temporal α] [LE α]

omit [LE α] in
/-- The ends of a window are as every shifted value is. -/
theorem window_of_forall (p : α → Prop) (now : α) (older newer : Int64) (unit : Unit α)
    (each : ∀ count, p (shift now count unit)) :
    p (window now older newer unit).1 ∧ p (window now older newer unit).2 := by
  rw [window_eq]
  exact ⟨each _, each _⟩

/-- A value between the ends of a window, both of which belong to it. -/
structure InWindow (now : α) (older newer : Int64) (unit : Unit α) (value : α) : Prop where
  lower : (window now older newer unit).1 ≤ value
  upper : value ≤ (window now older newer unit).2

/-- A window admits the values between what the texts of its ends denote. -/
theorem admits_inPastAt_iff (read : String → Option α) (e : Expr) (now : α) (older newer : Int64)
    (unit : Unit α) {value low high : α}
    (lower : read (iso (window now older newer unit).1) = some low)
    (upper : read (iso (window now older newer unit).2) = some high) :
    Admits read e value (inPastAt e now older newer unit).value ↔ low ≤ value ∧ value ≤ high := by
  have built : (inPastAt e now older newer unit).value =
      .binary (.binary e .gte (.literal (.scalar (.string (iso (window now older newer unit).1)))))
        .and (.binary e .lte
          (.literal (.scalar (.string (iso (window now older newer unit).2))))) := rfl
  rw [built]
  constructor
  · intro admitted
    cases admitted with
    | both first second =>
      cases first with
      | atLeast denotes low_le =>
        cases second with
        | atMost denotes' le_high =>
          cases lower.symm.trans denotes
          cases upper.symm.trans denotes'
          exact ⟨low_le, le_high⟩
  · rintro ⟨low_le, le_high⟩
    exact .both (.atLeast lower low_le) (.atMost upper le_high)

end Window

end Temporal

open Temporal

/-- Every date of a window is admitted. -/
theorem Date.admits_of_inWindow {now d : Date} {older newer : Int64} {unit : CalendarUnit}
    (within : InWindow now older newer unit d) (e : Expr) :
    Admits Date.ofIso? e d (inPastAt e now older newer unit).value :=
  (admits_inPastAt_iff Date.ofIso? e now older newer unit (Date.ofIso?_iso _)
    (Date.ofIso?_iso _)).2 ⟨within.lower, within.upper⟩

namespace TimeOfDay

theorem isLeap_shift {t : TimeOfDay} (ordinary : t.isLeap = false) (count : Int64)
    (unit : ClockUnit) : (t.shift count unit).isLeap = false := by
  rw [shift_eq ordinary]
  cases found : ofNanosecond? (t.nanosecond + count.toInt * (unit.inMilliseconds * 1000000)) with
  | some u => exact (nanosecond_of_ofNanosecond? found).1
  | none =>
    rw [Option.getD_none]
    unfold bound
    split <;> rfl

theorem ofIso?_iso_of_ordinary {t : TimeOfDay} (ordinary : t.isLeap = false) :
    ofIso? t.iso = some (t.cut 1000000000) := by
  rw [ofIso?_iso, shown, regular_of_ordinary ordinary]

/-- Of the times in a window, those after the start of its last second are not admitted. -/
theorem admits_iff_of_inWindow {now t : TimeOfDay} {older newer : Int64} {unit : ClockUnit}
    (ordinary : now.isLeap = false) (within : InWindow now older newer unit t) (e : Expr) :
    Admits TimeOfDay.ofIso? e t (inPastAt e now older newer unit).value ↔
      t.second < (window now older newer unit).2.second ∨ t.nanos = 0 := by
  obtain ⟨lower, upper⟩ := within
  obtain ⟨low, high⟩ := window_of_forall (fun u : TimeOfDay => u.isLeap = false) now older newer
    unit fun count => isLeap_shift ordinary count unit
  rw [admits_inPastAt_iff TimeOfDay.ofIso? e now older newer unit (ofIso?_iso_of_ordinary low)
    (ofIso?_iso_of_ordinary high)]
  have whole := nanos_lt_of_ordinary high
  generalize window now older newer unit = ends at *
  simp only [le_iff, cut] at *
  omega

end TimeOfDay

namespace Instant

theorem le_iff {i j : Instant} : i ≤ j ↔ i.unixSecond < j.unixSecond ∨
    (i.unixSecond = j.unixSecond ∧ i.time.nanos ≤ j.time.nanos) := decide_eq_true_iff

theorem isLeap_shift {i : Instant} (ordinary : i.time.isLeap = false) (count : Int64)
    (unit : InstantUnit) : (i.shift count unit).time.isLeap = false := by
  cases unit with
  | clock unit => exact (unixNanosecond_shift ordinary count unit).1
  | calendar unit =>
    rcases i.time_shift count unit with kept | first | last
    · rw [kept]
      exact ordinary
    · rw [first]
      rfl
    · rw [last]
      rfl

/-- The instant without what is below a microsecond. -/
def cut (i : Instant) : Instant := ⟨i.date, i.time.cut 1000⟩

theorem ofIso?_iso_of_ordinary {i : Instant} (ordinary : i.time.isLeap = false) :
    ofIso? i.iso = some i.cut := by
  rw [ofIso?_iso, shown, TimeOfDay.shown, TimeOfDay.regular_of_ordinary ordinary, cut]

/-- Every instant of a window is admitted that has no more places than are written. -/
theorem admits_of_inWindow {now i : Instant} {older newer : Int64} {unit : InstantUnit}
    (ordinary : now.time.isLeap = false) (precise : i.time.nanos % 1000 = 0)
    (within : InWindow now older newer unit i) (e : Expr) :
    Admits Instant.ofIso? e i (inPastAt e now older newer unit).value := by
  obtain ⟨lower, upper⟩ := within
  obtain ⟨low, high⟩ := window_of_forall (fun j : Instant => j.time.isLeap = false) now older newer
    unit fun count => isLeap_shift ordinary count unit
  rw [admits_inPastAt_iff Instant.ofIso? e now older newer unit (ofIso?_iso_of_ordinary low)
    (ofIso?_iso_of_ordinary high)]
  generalize window now older newer unit = ends at *
  simp only [le_iff, unixSecond, cut, TimeOfDay.cut] at *
  omega

end Instant

namespace Temporal

/-- Windows of dates and of instants lose no row. Of the times of day in a window just those are
lost that lie behind the start of its last second. -/
theorem windows_lose_cut_seconds_only (e : Expr) (older newer : Int64) :
    (∀ (now d : Date) (unit : CalendarUnit), InWindow now older newer unit d →
      Admits Date.ofIso? e d (inPastAt e now older newer unit).value) ∧
    (∀ (now i : Instant) (unit : InstantUnit), now.time.isLeap = false →
      i.time.nanos % 1000 = 0 → InWindow now older newer unit i →
        Admits Instant.ofIso? e i (inPastAt e now older newer unit).value) ∧
    ∀ (now t : TimeOfDay) (unit : ClockUnit), now.isLeap = false → InWindow now older newer unit t →
      (Admits TimeOfDay.ofIso? e t (inPastAt e now older newer unit).value ↔
        t.second < (window now older newer unit).2.second ∨ t.nanos = 0) :=
  ⟨fun _ _ _ within => Date.admits_of_inWindow within e,
    fun _ _ _ ordinary precise within => Instant.admits_of_inWindow ordinary precise within e,
    fun _ _ _ ordinary within => TimeOfDay.admits_iff_of_inWindow ordinary within e⟩

/-- One second before a half second after noon, a row from the last microsecond before noon. -/
theorem windows_lose_cut_seconds_only_around_noon :
    let e : Expr := .column (.of .time "opened")
    let noon : TimeOfDay := ⟨43200, 500000000, by decide, by decide⟩
    let row : TimeOfDay := ⟨43199, 999999000, by decide, by decide⟩
    InWindow Date.latest (-1) 0 CalendarUnit.days Date.latest ∧
      Admits Date.ofIso? e Date.latest (inPastAt e Date.latest (-1) 0 CalendarUnit.days).value ∧
      InWindow (⟨.latest, noon⟩ : Instant) 0 1 (InstantUnit.clock .seconds) ⟨.latest, row⟩ ∧
      Admits Instant.ofIso? e ⟨.latest, row⟩
        (inPastAt e (⟨.latest, noon⟩ : Instant) 0 1 (InstantUnit.clock .seconds)).value ∧
      InWindow noon 0 1 ClockUnit.seconds row ∧
      Admits TimeOfDay.ofIso? e row (inPastAt e noon 0 1 ClockUnit.seconds).value := by
  intro e noon row
  have dates : InWindow Date.latest (-1) 0 CalendarUnit.days Date.latest :=
    ⟨Date.le_iff.2 (by decide), Date.le_iff.2 (by decide)⟩
  have instants : InWindow (⟨.latest, noon⟩ : Instant) 0 1 (InstantUnit.clock .seconds)
      ⟨.latest, row⟩ := ⟨Instant.le_iff.2 (by decide), Instant.le_iff.2 (by decide)⟩
  have times : InWindow noon 0 1 ClockUnit.seconds row :=
    ⟨TimeOfDay.le_iff.2 (by decide), TimeOfDay.le_iff.2 (by decide)⟩
  refine ⟨dates, ?_, instants, ?_, times, ?_⟩
  · exact (windows_lose_cut_seconds_only e (-1) 0).1 _ _ _ dates
  · exact (windows_lose_cut_seconds_only e 0 1).2.1 _ _ _ rfl (by decide) instants
  · exact ((windows_lose_cut_seconds_only e 0 1).2.2 _ _ _ rfl times).2 (.inl (by decide))

/-- Three tenths of a second before a half second after noon, a row from that time is not
found. -/
theorem windows_lose_rows :
    let e : Expr := .column (.of .time "opened")
    let now : TimeOfDay := ⟨43200, 500000000, by decide, by decide⟩
    let row : TimeOfDay := ⟨43200, 300000000, by decide, by decide⟩
    now.isLeap = false ∧ row.nanos % 1000 = 0 ∧ InWindow now 0 300 ClockUnit.milliseconds row ∧
      ¬Admits TimeOfDay.ofIso? e row (inPastAt e now 0 300 ClockUnit.milliseconds).value := by
  intro e now row
  have within : InWindow now 0 300 ClockUnit.milliseconds row :=
    ⟨TimeOfDay.le_iff.2 (by decide), TimeOfDay.le_iff.2 (by decide)⟩
  refine ⟨rfl, by decide, within, ?_⟩
  rw [TimeOfDay.admits_iff_of_inWindow rfl within]
  decide

end Temporal

end DatasetQuery
