import Dashboard.Calendar.Span
import Dashboard.Proofs.Calendar.Label
import Dashboard.Proofs.Calendar.Stride

/-! A timeline has one point for each day or month between its ends, and each point has a label of its own. -/

namespace Dashboard.Calendar.Span

/-- The dates at which a timeline may have points: all of them, or the first days of months. -/
def IsPoint : Span → Date → Prop
  | month, d => d.day = 1
  | _, _ => True

/-- The dates of a timeline's points. -/
def points (span : Span) (earliest latest : Date) : List Date :=
  span.pointStride.walk latest (span.firstPoint earliest)

/-- The labels of a timeline are those of its points. -/
theorem timeline_eq_map (span : Span) (earliest latest : Date) :
    span.timeline earliest latest = (span.points earliest latest).map span.pointLabel := rfl

/-- The step of a timeline leads from point to point. -/
theorem pointStride_visits (span : Span) : span.pointStride.Visits span.IsPoint := by
  -- A timeline by weeks has a point for each day.
  cases span with
  | day => exact Stride.daily_visits
  | week => exact Stride.daily_visits
  | month => exact Stride.monthly_visits

/-- Every date belongs to a point. -/
theorem isPoint_firstPoint (span : Span) (d : Date) : span.IsPoint (span.firstPoint d) := by
  -- Only a timeline by months has points that are not all dates.
  cases span with
  | day => trivial
  | week => trivial
  | month => exact Date.firstOfMonth_day d

/-- A point belongs to itself. -/
theorem firstPoint_of_isPoint {span : Span} {d : Date} (isPoint : span.IsPoint d) : span.firstPoint d = d := by
  -- Only a month holds dates that are no points.
  cases span with
  | day => rfl
  | week => rfl
  | month => exact Date.firstOfMonth_of_firstDay isPoint

/-- No date lies before its point. -/
theorem firstPoint_le (span : Span) (d : Date) : span.firstPoint d ≤ d := by
  cases span with
  | day => exact Std.le_refl d
  | week => exact Std.le_refl d
  | month => exact Date.firstOfMonth_le d

/-- Points are in the order of the dates that belong to them. -/
theorem firstPoint_mono {span : Span} {d e : Date} (order : d ≤ e) : span.firstPoint d ≤ span.firstPoint e := by
  cases span with
  | day => exact order
  | week => exact order
  | month => exact Date.firstOfMonth_mono order

/-- A timeline has exactly the points of the dates between its ends. -/
theorem mem_points {span : Span} {earliest latest d : Date} (order : earliest ≤ latest) :
    d ∈ span.points earliest latest ↔ ∃ e, earliest ≤ e ∧ e ≤ latest ∧ span.firstPoint e = d := by
  unfold points
  rw [Stride.mem_walk span.pointStride_visits (span.isPoint_firstPoint earliest)]
  constructor
  · rintro ⟨isPoint, above, below⟩
    -- Only the first point may lie before the earliest date, and then that date belongs to it.
    rcases (Std.le_total : earliest ≤ d ∨ d ≤ earliest) with after | before
    · exact ⟨d, after, below, firstPoint_of_isPoint isPoint⟩
    · refine ⟨earliest, Std.le_refl earliest, order, Std.le_antisymm above ?_⟩
      have behind : span.firstPoint d ≤ span.firstPoint earliest := firstPoint_mono before
      rwa [firstPoint_of_isPoint isPoint] at behind
  · rintro ⟨e, above, below, rfl⟩
    exact ⟨span.isPoint_firstPoint e, firstPoint_mono above, Std.le_trans (span.firstPoint_le e) below⟩

/-- The points of a timeline are in the order of time, each of them once. -/
theorem points_pairwise (span : Span) (earliest latest : Date) :
    (span.points earliest latest).Pairwise (· < ·) :=
  Stride.walk_pairwise span.pointStride latest (span.firstPoint earliest)

/-- Two dates have the same label on a timeline exactly when they belong to the same point. -/
theorem pointLabel_eq_iff {span : Span} {d e : Date} :
    span.pointLabel d = span.pointLabel e ↔ span.firstPoint d = span.firstPoint e := by
  -- Days are told apart by their labels, and months by the labels of their first days.
  cases span with
  | day => exact ⟨Date.dayLabel_injective, congrArg Date.dayLabel⟩
  | week => exact ⟨Date.dayLabel_injective, congrArg Date.dayLabel⟩
  | month => exact Date.monthLabel_eq_iff

/-- A date has the label of its point. -/
@[simp] theorem pointLabel_firstPoint (span : Span) (d : Date) :
    span.pointLabel (span.firstPoint d) = span.pointLabel d :=
  pointLabel_eq_iff.2 (firstPoint_of_isPoint (span.isPoint_firstPoint d))

/-- The labels of a timeline are those of the dates between its ends. -/
theorem mem_timeline {span : Span} {earliest latest : Date} {label : String} (order : earliest ≤ latest) :
    label ∈ span.timeline earliest latest ↔ ∃ e, earliest ≤ e ∧ e ≤ latest ∧ span.pointLabel e = label := by
  -- A date and its point have one label, so it does not matter which of the two carries it.
  rw [timeline_eq_map, List.mem_map]
  constructor
  · rintro ⟨d, member, rfl⟩
    obtain ⟨e, above, below, rfl⟩ := (mem_points order).1 member
    exact ⟨e, above, below, (span.pointLabel_firstPoint e).symm⟩
  · rintro ⟨e, above, below, rfl⟩
    exact ⟨span.firstPoint e, (mem_points order).2 ⟨e, above, below, rfl⟩, span.pointLabel_firstPoint e⟩

/-- No label comes twice on a timeline. -/
theorem timeline_nodup (span : Span) (earliest latest : Date) : (span.timeline earliest latest).Nodup := by
  -- Points with the same label would be the same date.
  rw [timeline_eq_map]
  refine List.pairwise_map.2 ((span.points_pairwise earliest latest).imp_of_mem ?_)
  intro d e dPoint ePoint before sameLabel
  have isPoint : ∀ f ∈ span.points earliest latest, span.IsPoint f := fun f member =>
    ((Stride.mem_walk span.pointStride_visits (span.isPoint_firstPoint earliest)).1 member).1
  have same := pointLabel_eq_iff.1 sameLabel
  rw [firstPoint_of_isPoint (isPoint d dPoint), firstPoint_of_isPoint (isPoint e ePoint)] at same
  subst same
  exact Int.lt_irrefl _ before

end Dashboard.Calendar.Span
