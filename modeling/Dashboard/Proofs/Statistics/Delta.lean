import Dashboard.Proofs.Content
import Dashboard.Statistics.Delta

/-! Changes of a series: from which texts the totals are read, and that the changes of a fetched series are, turned
around, those along a timeline. -/

namespace Dashboard

namespace Chart

/-- A point carries an integer under a name when the text there spells it and it fits a signed word. -/
def Carries (point : Chart) (name : String) (i : Int) : Prop :=
  ∃ text, point.value? name = some text ∧ Decimal.Spells text.toList i ∧
    Int64.minValue.toInt ≤ i ∧ i ≤ Int64.maxValue.toInt

/-- The total of a point is the integer that it carries, and zero where it carries none. -/
structure IsTotal (name : String) (point : Chart) (total : Int) : Prop where
  carried : ∀ i, point.Carries name i → total = i
  missing : (∀ i, ¬ point.Carries name i) → total = 0

/-- A carried integer is read as itself, and nothing else as anything but zero. -/
theorem isTotal_intValue (name : String) (point : Chart) : IsTotal name point (point.intValue name) := by
  have top : Int64.maxValue.toInt < 2 ^ 63 := by decide
  have read : ∀ i, point.Carries name i → (point.value? name).bind Word.readSigned? = some (Int64.ofInt i) := by
    -- A carried integer is spelled by the text and fits the word, which is what reading asks for.
    rintro i ⟨text, shown, spelled, low, high⟩
    rw [shown, Option.bind_some, Word.readSigned?, Decimal.readInt?_eq_some_iff.2 spelled]
    exact if_pos ⟨low, high⟩
  constructor
  · intro i carried
    have ⟨_, _, _, low, high⟩ := carried
    unfold intValue
    rw [read i carried]
    exact Int64.toInt_ofInt_of_le low (by omega)
  · intro missing
    unfold intValue
    cases found : (point.value? name).bind Word.readSigned? with
    | none => rfl
    | some word =>
      -- A text that is read would spell an integer.
      obtain ⟨text, shown, isWord⟩ := Option.bind_eq_some_iff.1 found
      obtain ⟨i, spelled, fits⟩ := Option.bind_eq_some_iff.1 isWord
      unfold Word.signed? at fits
      split at fits
      · rename_i range
        exact absurd ⟨text, shown, Decimal.readInt?_eq_some_iff.1 spelled, range.1, range.2⟩ (missing i)
      · cases fits

/-- An integer that fits a signed word is read as itself. -/
theorem intValue_of_value? {point : Chart} {name : String} {i : Int}
    (shown : point.value? name = some (Decimal.ofInt i)) (low : Int64.minValue.toInt ≤ i)
    (high : i ≤ Int64.maxValue.toInt) : point.intValue name = i := by
  refine (isTotal_intValue name point).carried i ⟨_, shown, ?_, low, high⟩
  -- A written integer is read back, so that its text spells it.
  rw [Decimal.ofInt, String.toList_ofList]
  exact Decimal.readInt?_eq_some_iff.1 (Decimal.readInt?_signedDigits i)

end Chart

namespace Delta

/-- There is a change for each total, found from the front. -/
@[simp] theorem length_forward (totals : List Int) : (forward totals).length = totals.length := by
  cases totals <;> simp [forward]

/-- There is a change for each total, found from the back. -/
@[simp] theorem length_backward (totals : List Int) : (backward totals).length = totals.length := by
  -- Each step of the scan puts one change in front.
  unfold backward
  induction totals with
  | nil => rfl
  | cons total rest ih => simp [backwardStep, ih]

/-- There is a change for each total, whichever scan finds it. -/
@[simp] theorem length_deltas (totals : List Int) (direction : SortDirection) :
    (deltas totals direction).length = totals.length := by
  cases direction <;> simp [deltas]

/-- Noting changes in points does not change whom they describe. -/
theorem map_bare_annotate (series : List Chart) (totalKey : String) (direction : SortDirection) :
    (annotate series totalKey direction).map Chart.bare = series.map Chart.bare := by
  -- Place by place, only the table of values has been changed.
  unfold annotate write
  apply List.ext_getElem <;> simp

/-- Each total is compared with the one behind it. -/
theorem getElem_forward (totals : List Int) (i : Nat) (within : i < (forward totals).length) :
    (forward totals)[i] = if behind : i + 1 < totals.length then
      totals[i] - totals[i + 1] else 0 := by
  have inside : i < totals.length := by simpa using within
  cases totals with
  | nil => simp at inside
  | cons total rest =>
    -- The change of the last total stands behind those of the pairs.
    simp only [forward, reduceCtorEq, if_false]
    by_cases behind : i + 1 < (total :: rest).length
    · rw [dif_pos behind, List.getElem_append_left (by simpa using behind), List.getElem_zipWith]
      rfl
    · rw [dif_neg behind, List.getElem_append_right (by simpa using behind)]
      simp

/-- Along a timeline there is a change for each total. -/
@[simp] theorem length_timelineDeltas_descending (totals : List Int) :
    (timelineDeltas totals .descending).length = totals.length := by
  cases totals with
  | nil => rfl
  | cons total rest =>
    simp [timelineDeltas]

/-- In either direction there is a change for each total along a timeline. -/
@[simp] theorem length_timelineDeltas (totals : List Int) (direction : SortDirection) :
    (timelineDeltas totals direction).length = totals.length := by
  cases direction with
  | ascending => exact length_backward totals
  | descending => exact length_timelineDeltas_descending totals

/-- Along a timeline each total is compared with the one before it. -/
theorem getElem_timelineDeltas_descending (totals : List Int) (i : Nat)
    (within : i < (timelineDeltas totals .descending).length) (inside : i < totals.length) :
    (timelineDeltas totals .descending)[i] = if first : i = 0 then 0 else totals[i] - totals[i - 1] := by
  cases totals with
  | nil => simp at inside
  | cons total rest =>
    -- The first change stands before those of the pairs.
    cases i with
    | zero => rfl
    | succ i =>
      simp only [timelineDeltas, Nat.add_eq_zero_iff, one_ne_zero, and_false, dif_neg, not_false_eq_true]
      simp

/-- Turned around, the changes in the order of fetching are those along a timeline. -/
theorem reverse_deltas_descending (totals : List Int) :
    (deltas totals .descending).reverse = timelineDeltas totals.reverse .descending := by
  show (forward totals).reverse = _
  -- Both lists have a change at each place, so they are compared place by place.
  apply List.ext_getElem
  · simp
  · intro i inReverse inTimeline
    have inside : i < totals.length := by simpa using inReverse
    have length := length_forward totals
    rw [List.getElem_reverse, getElem_forward, getElem_timelineDeltas_descending _ _ _ (by simpa using inside)]
    -- The point behind another one in the order of fetching is the one before it in time.
    by_cases first : i = 0
    · subst first
      rw [dif_neg (by omega), dif_pos rfl]
    · rw [dif_pos (by omega), dif_neg first, List.getElem_reverse, List.getElem_reverse]
      congr 2 <;> omega

/-- Turned around, a series annotated in the order of fetching is one annotated along its timeline. -/
theorem reverse_annotate_descending (series : List Chart) (totalKey : String) :
    (annotate series totalKey .descending).reverse = annotateTimeline series.reverse totalKey .descending := by
  -- The points are turned around together with their changes.
  unfold annotate annotateTimeline write
  rw [List.reverse_zipWith (by simp [deltas]), reverse_deltas_descending, List.map_reverse]

/-- Points in the order of time of which each carries its growth: the first one none, and each later one its total
less the total of the point before it. -/
structure Grows (name : String) (series : List Chart) : Prop where
  first : ∀ point, series[0]? = some point → point.integer? key = some 0
  later : ∀ (i : Nat) (before point : Chart), series[i]? = some before → series[i + 1]? = some point →
    ∃ earlier total : Int, before.integer? name = some earlier ∧ point.integer? name = some total ∧
      point.integer? key = some (total - earlier)

/-- Where points show some integers, each shows the integer at its place. -/
theorem exists_shown {series : List Chart} {name : String} {shown : List Int}
    (all : series.map (Chart.integer? · name) = shown.map some) {i : Nat} {point : Chart}
    (found : series[i]? = some point) : ∃ inside : i < shown.length, point.integer? name = some shown[i] := by
  -- The integers are compared with what the points show at the same place.
  have held : (series.map (Chart.integer? · name))[i]? = some (point.integer? name) := by simp [found]
  rw [all, List.getElem?_map] at held
  obtain ⟨value, there, same⟩ := Option.map_eq_some_iff.1 held
  obtain ⟨inside, rfl⟩ := List.getElem?_eq_some_iff.1 there
  exact ⟨inside, same.symm⟩

/-- Points that show some totals and the changes along their timeline carry their growth. -/
theorem grows_of_map {name : String} {series : List Chart} {totals : List Int}
    (total : series.map (Chart.integer? · name) = totals.map some)
    (change : series.map (Chart.integer? · key) = (timelineDeltas totals .descending).map some) :
    Grows name series := by
  constructor
  · intro point found
    obtain ⟨inside, shown⟩ := exists_shown change found
    rw [shown, getElem_timelineDeltas_descending _ _ _ (by simpa using inside), dif_pos rfl]
  · -- A later point stands behind another one, which has a total of its own.
    intro i before point foundBefore found
    obtain ⟨_, earlier⟩ := exists_shown total foundBefore
    obtain ⟨inside, shown⟩ := exists_shown total found
    obtain ⟨_, growth⟩ := exists_shown change found
    rw [getElem_timelineDeltas_descending _ _ _ inside, dif_neg (Nat.succ_ne_zero i)] at growth
    exact ⟨_, _, earlier, shown, growth⟩

end Delta
end Dashboard
