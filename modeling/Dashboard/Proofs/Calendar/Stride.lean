import Dashboard.Calendar.Stride
import Dashboard.Proofs.Calendar.Date
import Mathlib.Data.List.Chain

/-! Walks through the calendar meet the points of their stride between two ends, each once and in order. -/

namespace Dashboard.Calendar.Stride

/-- A stride visits a set of dates when it leads from each of them to the next one. -/
structure Visits (stride : Stride) (point : Date → Prop) : Prop where
  /-- From a point the stride leads to a point. -/
  stays : ∀ {d e : Date}, point d → stride.next? d = some e → point e
  /-- The stride neither ends before a later point nor leads past it. -/
  complete : ∀ {d e : Date}, point d → point e → d < e → ∃ next, stride.next? d = some next ∧ next ≤ e

/-- Within the range a walk takes the date and goes on from the next one. -/
theorem walk_of_next? {stride : Stride} {last d next : Date} (within : d ≤ last)
    (reached : stride.next? d = some next) : stride.walk last d = d :: stride.walk last next := by
  -- Of the two ways to go on, the other one contradicts the step.
  rw [walk, if_pos within]
  split
  · rename_i step found
    cases reached.symm.trans found
    rfl
  · rename_i ended
    cases reached.symm.trans ended

/-- Where the calendar ends, a walk takes its last date. -/
theorem walk_of_end {stride : Stride} {last d : Date} (within : d ≤ last) (ended : stride.next? d = none) :
    stride.walk last d = [d] := by
  -- There is no next date to go on from.
  rw [walk, if_pos within]
  split
  · rename_i step found
    cases ended.symm.trans found
  · rfl

/-- Beyond its end a walk takes no date. -/
theorem walk_of_beyond {stride : Stride} {last d : Date} (beyond : ¬ d ≤ last) : stride.walk last d = [] := by
  rw [walk, if_neg beyond]

/-- A walk stays between its start and its end. -/
theorem le_of_mem_walk {stride : Stride} {last d e : Date} (met : e ∈ stride.walk last d) : d ≤ e ∧ e ≤ last := by
  -- The date itself is met within the range only, and each step leads further on.
  induction d using walk.induct stride last with
  | case1 d within next reached ih =>
    rw [walk_of_next? within reached, List.mem_cons] at met
    rcases met with rfl | further
    · exact ⟨Std.le_refl e, within⟩
    · obtain ⟨above, below⟩ := ih further
      have onward := stride.later reached
      rw [Date.le_iff] at above ⊢
      exact ⟨by omega, below⟩
  | case2 d within ended =>
    -- At the end of the calendar only the date itself is met.
    rw [walk_of_end within ended, List.mem_singleton] at met
    subst met
    exact ⟨Std.le_refl e, within⟩
  | case3 d beyond =>
    rw [walk_of_beyond beyond] at met
    cases met

/-- A walk meets each date before all later ones. -/
theorem walk_pairwise (stride : Stride) (last d : Date) : (stride.walk last d).Pairwise (· < ·) := by
  -- All dates met behind the first one lie at or after the first step.
  induction d using walk.induct stride last with
  | case1 d within next reached ih =>
    rw [walk_of_next? within reached]
    refine List.pairwise_cons.2 ⟨fun e met => ?_, ih⟩
    have above := (le_of_mem_walk met).1
    have onward := stride.later reached
    rw [Date.le_iff] at above
    rw [Date.lt_iff]
    omega
  -- A walk that ends or never begins has no two dates to compare.
  | case2 d within ended =>
    rw [walk_of_end within ended]
    exact List.pairwise_singleton _ d
  | case3 d beyond =>
    rw [walk_of_beyond beyond]
    exact List.Pairwise.nil

/-- A walk starts with its first date, if the range reaches that far. -/
theorem head?_walk {stride : Stride} {last d : Date} (within : d ≤ last) : (stride.walk last d).head? = some d := by
  rw [walk, if_pos within]
  split <;> rfl

/-- A walk ends with the latest of its dates. -/
theorem getLast?_walk {stride : Stride} {last d e : Date} (met : e ∈ stride.walk last d)
    (latest : ∀ other ∈ stride.walk last d, other ≤ e) : (stride.walk last d).getLast? = some e := by
  obtain ⟨before, behind, shape⟩ := List.append_of_mem met
  cases behind with
  | nil => rw [shape, List.getLast?_concat]
  | cons other rest =>
    -- A date behind would be a later one.
    have ordered := walk_pairwise stride last d
    rw [shape] at ordered latest
    have later := List.rel_of_pairwise_cons (List.pairwise_append.1 ordered).2.1 List.mem_cons_self
    have notLater := latest other (by simp)
    exact absurd (Int.lt_of_lt_of_le later notLater) (Int.lt_irrefl _)

/-- A walk goes from each date to the next one. -/
theorem walk_isChain (stride : Stride) (last d : Date) :
    (stride.walk last d).IsChain fun a b => stride.next? a = some b := by
  -- Induction along the walk; what the rest of it starts with is the next date, if the range goes that far.
  induction d using walk.induct stride last with
  | case1 d within next reached ih =>
    rw [walk_of_next? within reached, List.isChain_cons]
    refine ⟨fun e first => ?_, ih⟩
    by_cases further : next ≤ last
    · rw [head?_walk further] at first
      cases first
      exact reached
    · rw [walk_of_beyond further] at first
      cases first
  -- A walk of one date or of none has no step to justify.
  | case2 d within ended =>
    rw [walk_of_end within ended]
    exact List.isChain_singleton d
  | case3 d beyond =>
    rw [walk_of_beyond beyond]
    exact List.isChain_nil

/-- A walk along the points of its stride meets exactly those between its start and its end. -/
theorem mem_walk {stride : Stride} {point : Date → Prop} (visits : stride.Visits point) {last d e : Date}
    (start : point d) : e ∈ stride.walk last d ↔ point e ∧ d ≤ e ∧ e ≤ last := by
  -- A point within the range is the current date, or else the next step does not pass it.
  induction d using walk.induct stride last with
  | case1 d within next reached ih =>
    rw [walk_of_next? within reached, List.mem_cons, ih (visits.stays start reached)]
    have onward := stride.later reached
    constructor
    · rintro (rfl | ⟨isPoint, above, below⟩)
      · exact ⟨start, Std.le_refl e, within⟩
      · rw [Date.le_iff] at above ⊢
        exact ⟨isPoint, by omega, below⟩
    · rintro ⟨isPoint, above, below⟩
      rcases Int.lt_or_eq_of_le (Date.le_iff.1 above) with later | same
      · -- A later point is not passed by the step, so the rest of the walk meets it.
        obtain ⟨step, found, upTo⟩ := visits.complete start isPoint later
        cases reached.symm.trans found
        exact .inr ⟨isPoint, upTo, below⟩
      · exact .inl (Date.eq_of_dayNumber_eq same.symm)
  | case2 d within ended =>
    rw [walk_of_end within ended, List.mem_singleton]
    constructor
    · rintro rfl
      exact ⟨start, Std.le_refl e, within⟩
    · rintro ⟨isPoint, above, below⟩
      rcases Int.lt_or_eq_of_le (Date.le_iff.1 above) with later | same
      · -- The calendar does not end before a later point.
        obtain ⟨step, found, -⟩ := visits.complete start isPoint later
        cases ended.symm.trans found
      · exact Date.eq_of_dayNumber_eq same.symm
  | case3 d beyond =>
    rw [walk_of_beyond beyond]
    simp only [List.not_mem_nil, false_iff]
    rintro ⟨-, above, below⟩
    exact beyond (Std.le_trans above below)

/-- The daily stride visits every date. -/
theorem daily_visits : daily.Visits fun _ => True where
  stays _ _ := trivial
  complete _ _ later := Date.exists_next? later

/-- The monthly stride visits the first day of every month. -/
theorem monthly_visits : monthly.Visits fun d => d.day = 1 where
  stays firstDay reached := (Date.nextMonth?_of_firstDay firstDay reached).1
  complete firstDay otherFirstDay later := Date.exists_nextMonth? firstDay otherFirstDay later

end Dashboard.Calendar.Stride
