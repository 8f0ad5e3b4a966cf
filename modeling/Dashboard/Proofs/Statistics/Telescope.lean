import Dashboard.Proofs.Statistics.Delta

/-! Changes of totals: both scans find the same ones, they telescope, and a series turned around has the opposite ones;
annotated points carry them and keep everything else. -/

namespace Dashboard

namespace Delta

/-- The first change is that of the first total, and the others are those of the totals behind it. -/
theorem forward_cons_cons (first second : Int) (rest : List Int) :
    forward (first :: second :: rest) = (first - second) :: forward (second :: rest) := rfl

/-- The scan from the back has found the changes of the totals behind it and knows the first of these totals. -/
theorem foldr_backwardStep (totals : List Int) :
    totals.foldr backwardStep ([], none) = (forward totals, totals.head?) := by
  -- What the scan carries is the invariant: the next total finds the one behind it there.
  induction totals with
  | nil => rfl
  | cons first rest ih =>
    rw [List.foldr_cons, ih]
    cases rest with
    | nil => rfl
    | cons second rest => rfl

/-- Both scans find the same changes. -/
theorem backward_eq_forward (totals : List Int) : backward totals = forward totals :=
  congrArg Prod.fst (foldr_backwardStep totals)

/-- The direction only chooses the scan, and both scans find the same changes. -/
theorem deltas_eq_forward (totals : List Int) (direction : SortDirection) :
    deltas totals direction = forward totals := by
  cases direction with
  | ascending => exact backward_eq_forward totals
  | descending => rfl

/-- Changes telescope when there is one for each total, each is the total less the one behind it, the last one is none,
and together they make the first total less the last. -/
structure Telescopes (totals changes : List Int) : Prop where
  length : changes.length = totals.length
  step : ∀ i (behind : i + 1 < totals.length), changes[i]? = some (totals[i] - totals[i + 1])
  last : ∀ change, changes.getLast? = some change → change = 0
  sum : changes.sum = totals.head?.getD 0 - totals.getLast?.getD 0

/-- Changes make the first total less the last. -/
theorem sum_forward (totals : List Int) :
    (forward totals).sum = totals.head?.getD 0 - totals.getLast?.getD 0 := by
  induction totals with
  -- From the front on each total but the first and the last comes in twice, with opposite signs.
  | nil => rfl
  | cons first rest ih =>
    cases rest with
    | nil => simp [forward]
    | cons second rest =>
      -- The second total is taken away by the first change and comes in again with the others.
      rw [forward_cons_cons, List.sum_cons, ih, List.getLast?_cons_cons]
      simp only [List.head?_cons, Option.getD_some]
      omega

/-- Changes telescope when they are found from the front. -/
theorem telescopes_forward (totals : List Int) : Telescopes totals (forward totals) where
  length := length_forward totals
  -- All but the last change lead to the total behind them, and the last one has none to lead to.
  step i behind := by
    have within : i < (forward totals).length := by
      rw [length_forward]
      omega
    rw [List.getElem?_eq_getElem within, getElem_forward, dif_pos behind]
  last change isLast := by
    cases totals with
    | nil => cases isLast
    | cons first rest => simpa [forward] using isLast.symm
  sum := sum_forward totals

/-- In a series turned around the change between two neighbours is the opposite one. -/
theorem getElem?_forward_reverse (totals : List Int) (i : Nat) (behind : i + 1 < totals.length) :
    (forward totals.reverse)[totals.length - 2 - i]? = (forward totals)[i]?.map (- ·) := by
  -- The pair of neighbours is found in the other series, the other way round.
  have inReverse : totals.length - 2 - i + 1 < totals.reverse.length := by
    rw [List.length_reverse]
    omega
  rw [(telescopes_forward totals.reverse).step _ inReverse, (telescopes_forward totals).step i behind]
  -- The place of each neighbour is counted from the other end.
  have first : totals.length - 1 - (totals.length - 2 - i) = i + 1 := by omega
  have second : totals.length - 1 - (totals.length - 2 - i + 1) = i := by omega
  simp only [List.getElem_reverse, first, second, Option.map_some, Int.neg_sub]

/-- Along a timeline the changes are those of the totals turned around. -/
theorem timelineDeltas_eq_reverse (totals : List Int) :
    timelineDeltas totals .descending = (forward totals.reverse).reverse := by
  have turned := reverse_deltas_descending totals.reverse
  rw [List.reverse_reverse] at turned
  exact turned.symm

/-- Points carry changes when each shows the change at its place and is otherwise the point that it was before. -/
structure Notes (series annotated : List Chart) (changes : List Int) : Prop where
  length : annotated.length = series.length
  each : ∀ (i : Nat) (point : Chart), series[i]? = some point → ∃ noted change, annotated[i]? = some noted ∧
    changes[i]? = some change ∧ noted.value? key = some (Decimal.ofInt change) ∧ noted.bare = point.bare ∧
      ∀ name, name ≠ key → noted.value? name = point.value? name

/-- Writing as many changes as there are points notes each of them. -/
theorem notes_write {series : List Chart} {changes : List Int} (length : changes.length = series.length) :
    Notes series (write series changes) changes where
  length := by simp [write, length]
  each i point found := by
    -- The point and its change go side by side, and only the change is written.
    obtain ⟨inside, rfl⟩ := List.getElem?_eq_some_iff.1 found
    have inChanges : i < changes.length := by omega
    refine ⟨series[i].setInt key changes[i], changes[i], ?_, List.getElem?_eq_getElem inChanges, ?_, rfl, ?_⟩
    · rw [write, List.getElem?_eq_getElem (by simp [length, inside]), List.getElem_zipWith]
    · rw [Chart.setInt, Chart.value?_set, if_pos rfl]
    · intro name other
      rw [Chart.setInt, Chart.value?_set, if_neg other]

/-- The changes of totals are the same from the front and from the back, and they telescope. Turned around the totals
have the opposite changes, and along a timeline these are read from the back. A series is annotated with the changes of
the totals that it carries. -/
theorem deltas_telescope (totals : List Int) (direction : SortDirection) :
    deltas totals .ascending = deltas totals .descending ∧ Telescopes totals (deltas totals direction) ∧
    (∀ i, i + 1 < totals.length →
      (deltas totals.reverse direction)[totals.length - 2 - i]? = (deltas totals direction)[i]?.map (- ·)) ∧
    timelineDeltas totals .descending = (deltas totals.reverse direction).reverse ∧
    ∀ (series : List Chart) (totalKey : String), ∃ shown : List Int,
      List.Forall₂ (Chart.IsTotal totalKey) series shown ∧
      Notes series (annotate series totalKey direction) (deltas shown direction) ∧
      Notes series (annotateTimeline series totalKey direction) (timelineDeltas shown direction) := by
  simp only [deltas_eq_forward]
  -- Whichever scan is used, the changes are those that it finds from the front.
  refine ⟨trivial, telescopes_forward totals, getElem?_forward_reverse totals, timelineDeltas_eq_reverse totals,
    fun series totalKey => ⟨series.map (·.intValue totalKey), ?_, ?_, ?_⟩⟩
  · rw [List.forall₂_map_right_iff]
    exact List.forall₂_same.2 fun point _ => Chart.isTotal_intValue totalKey point
  · unfold annotate
    rw [deltas_eq_forward]
    exact notes_write (by simp)
  · exact notes_write (by simp)

/-- Points with a total behind a sign, one that is no number, one beyond the words, and none at all. -/
def mixedSeries : List Chart :=
  ["8", "+5", "5.0", "9223372036854775808"].map (Chart.set {} "total") ++ [({} : Chart)]

/-- Where a total cannot be read, zero is compared, and the change between two neighbours is the opposite one when they
are turned around. -/
theorem deltas_telescope_mixedSeries :
    Telescopes [8, 5, 0, 0, 0] (deltas [8, 5, 0, 0, 0] .ascending) ∧
    (deltas [0, 0, 0, 5, 8] .ascending)[2]? = (deltas [8, 5, 0, 0, 0] .ascending)[1]?.map (- ·) ∧
    (annotate mixedSeries "total" .ascending).map (·.value? key) = ["3", "5", "0", "0", "0"].map some ∧
    ∃ shown, List.Forall₂ (Chart.IsTotal "total") mixedSeries shown ∧
      Notes mixedSeries (annotate mixedSeries "total" .ascending) (deltas shown .ascending) := by
  obtain ⟨-, telescopes, opposite, -, annotated⟩ := deltas_telescope [8, 5, 0, 0, 0] .ascending
  obtain ⟨shown, carried, noted, -⟩ := annotated mixedSeries "total"
  exact ⟨telescopes, opposite 1 (by decide), by decide +kernel, shown, carried, noted⟩

end Delta
end Dashboard
