import DatasetQuery.Proofs.Clock
import DatasetQuery.Expr.Temporal
/-!
Windows into the past. The greater of two counts gives the older end of a window and the smaller one
the newer end, whichever comes first, so that no window is inverted: a step back by a greater count
leads to an earlier value on each of the three time scales.
-/
namespace DatasetQuery

/-- Negation of a count is exact but for the least one. -/
theorem toInt_saturatingNeg (count : Int64) : (saturatingNeg count).toInt =
    if count.toInt = leastWord then greatestWord else -count.toInt := by
  have low := count.le_toInt
  have high := count.toInt_lt
  have value : saturated (-count.toInt) =
      if count.toInt = leastWord then greatestWord else -count.toInt := by
    unfold saturated greatestWord leastWord
    split_ifs <;> omega
  unfold saturatingNeg
  rw [value]
  unfold greatestWord leastWord
  apply Int64.toInt_ofInt_of_le <;> split_ifs <;> omega

theorem toInt_saturatingNeg_le {m n : Int64} (h : m.toInt ≤ n.toInt) :
    (saturatingNeg n).toInt ≤ (saturatingNeg m).toInt := by
  have high := n.toInt_lt
  have low := n.le_toInt
  rw [toInt_saturatingNeg, toInt_saturatingNeg]
  unfold leastWord greatestWord
  split_ifs <;> omega

theorem ordered_counts (a b : Int64) :
    (b < a ∧ max a b = a ∧ min a b = b) ∨ (¬b < a ∧ max a b = b ∧ min a b = a) := by
  by_cases swapped : b < a
  · have above : ¬a ≤ b := Int64.not_le.2 swapped
    exact .inl ⟨swapped, if_neg above, if_neg above⟩
  · have below : a ≤ b := Int64.not_lt.1 swapped
    exact .inr ⟨swapped, if_pos below, if_pos below⟩

theorem toInt_ordered (a b : Int64) :
    (max a b).toInt = max a.toInt b.toInt ∧ (min a b).toInt = min a.toInt b.toInt := by
  rcases ordered_counts a b with ⟨swapped, greater, smaller⟩ | ⟨straight, greater, smaller⟩
  · have apart := Int64.lt_iff_toInt_lt.1 swapped
    rw [greater, smaller]
    omega
  · have apart := Int64.le_iff_toInt_le.1 (Int64.not_lt.1 straight)
    rw [greater, smaller]
    omega

theorem ordered_counts_comm (a b : Int64) : max a b = max b a ∧ min a b = min b a := by
  obtain ⟨greater, smaller⟩ := toInt_ordered a b
  obtain ⟨greater', smaller'⟩ := toInt_ordered b a
  rw [← Int64.toInt_inj, ← Int64.toInt_inj]
  omega

namespace Temporal

variable {α : Type} [Temporal α]

theorem window_eq (now : α) (a b : Int64) (unit : Unit α) : window now a b unit =
    (shift now (saturatingNeg (max a b)) unit, shift now (saturatingNeg (min a b)) unit) := by
  unfold window
  rcases ordered_counts a b with ⟨swapped, greater, smaller⟩ | ⟨straight, greater, smaller⟩
  · rw [greater, smaller, if_pos swapped, if_pos swapped]
  · rw [greater, smaller, if_neg straight, if_neg straight]

/-- Windows before a value that are never inverted, where greater counts lead no end forward. -/
structure OrderedWindows (le : α → α → Prop) (now : α) (unit : Unit α) : Prop where
  ordered : ∀ a b, le (window now a b unit).1 (window now a b unit).2
  lower : ∀ {a b c d}, max a b ≤ max c d → le (window now c d unit).1 (window now a b unit).1
  upper : ∀ {a b c d}, min c d ≤ min a b → le (window now a b unit).2 (window now c d unit).2

theorem OrderedWindows.of_mono {le : α → α → Prop} {now : α} {unit : Unit α}
    (mono : ∀ {m n : Int64}, m.toInt ≤ n.toInt → le (shift now m unit) (shift now n unit)) :
    OrderedWindows le now unit where
  ordered a b := by
    obtain ⟨greater, smaller⟩ := toInt_ordered a b
    rw [window_eq]
    apply mono
    apply toInt_saturatingNeg_le
    omega
  lower {a b c d} h := by
    rw [window_eq, window_eq]
    exact mono (toInt_saturatingNeg_le (Int64.le_iff_toInt_le.1 h))
  upper {a b c d} h := by
    rw [window_eq, window_eq]
    exact mono (toInt_saturatingNeg_le (Int64.le_iff_toInt_le.1 h))

theorem inPastAt_eq (e : Expr) (now : α) (a b : Int64) (unit : Unit α) :
    inPastAt e now a b unit =
      ⟨(compare e .gte (shift now (saturatingNeg (max a b)) unit)).and
          (compare e .lte (shift now (saturatingNeg (min a b)) unit)),
        if b < a then [swappedBounds a b] else []⟩ := by
  have made : inPastAt e now a b unit =
      ⟨(compare e .gte (window now a b unit).1).and (compare e .lte (window now a b unit).2),
        (if decide (b < a) = true then [swappedBounds a b] else []) ++ []⟩ := rfl
  rw [made, window_eq, List.append_nil]
  simp only [decide_eq_true_eq]

/-- No window is inverted. Its ends lie as far back as the greater and the smaller count say, and
swapped counts are the same window with a warning. Dates, and outside of leap seconds also instants
and the texts of times of day, come in order, and greater counts never lead an end forward. -/
theorem window_never_inverted :
    (∀ {α : Type} [Temporal α] (e : Expr) (now : α) (a b : Int64) (unit : Unit α),
      inPastAt e now a b unit =
        ⟨(compare e .gte (shift now (saturatingNeg (max a b)) unit)).and
            (compare e .lte (shift now (saturatingNeg (min a b)) unit)),
          if b < a then [swappedBounds a b] else []⟩ ∧
      (inPastAt e now b a unit).value = (inPastAt e now a b unit).value ∧
      window now a b unit =
        (shift now (saturatingNeg (max a b)) unit, shift now (saturatingNeg (min a b)) unit)) ∧
    (∀ count, (saturatingNeg count).toInt =
      if count.toInt = leastWord then greatestWord else -count.toInt) ∧
    (∀ (now : Date) (unit : CalendarUnit), OrderedWindows (· ≤ ·) now unit) ∧
    (∀ (now : Instant) (unit : InstantUnit), now.time.isLeap = false →
      OrderedWindows (fun i j => i.isAtMost j = true) now unit) ∧
    ∀ (now : TimeOfDay) (unit : ClockUnit), now.isLeap = false →
      OrderedWindows (fun s t => s.iso ≤ t.iso) now unit := by
  refine ⟨?_, toInt_saturatingNeg, ?_, ?_, ?_⟩
  · intro α _ e now a b unit
    refine ⟨inPastAt_eq e now a b unit, ?_, window_eq now a b unit⟩
    obtain ⟨greater, smaller⟩ := ordered_counts_comm b a
    rw [inPastAt_eq, inPastAt_eq, greater, smaller]
  · intro now unit
    exact .of_mono (now.shift_mono unit)
  · intro now unit ordinary
    exact .of_mono (Instant.shift_mono ordinary unit)
  · intro now unit ordinary
    exact .of_mono (TimeOfDay.shift_mono ordinary unit)

theorem window_never_inverted_at_the_ends :
    Instant.latest.time.isLeap = false ∧ TimeOfDay.midnight.isLeap = false ∧
      (window Instant.latest Int64.minValue 5 (InstantUnit.calendar .years)).1.isAtMost
        (window Instant.latest Int64.minValue 5 (InstantUnit.calendar .years)).2 = true ∧
      (window TimeOfDay.midnight 1 Int64.maxValue ClockUnit.hours).1.iso ≤
        (window TimeOfDay.midnight 1 Int64.maxValue ClockUnit.hours).2.iso :=
  ⟨rfl, rfl, (window_never_inverted.2.2.2.1 Instant.latest _ rfl).ordered _ _,
    (window_never_inverted.2.2.2.2 TimeOfDay.midnight _ rfl).ordered _ _⟩

end Temporal

end DatasetQuery
