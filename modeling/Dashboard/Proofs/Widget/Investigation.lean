import Dashboard.Proofs.Statistics.Share
import Dashboard.Proofs.Widget.Trend

/-! The shares of investigated failures: which counters a point shows them of, and that they make a hundred. -/

namespace Dashboard.Share.Investigation

example : ofCounts Sample.leapRun.count = ⟨"33.33", "66.67"⟩ := by decide +kernel

/-- A point shows two shares when it has both under their names. -/
def ShownBy (shares : Investigation) (point : Chart) : Prop :=
  point.value? "investigated" = some shares.investigated ∧ point.value? "toInvestigate" = some shares.toInvestigate

/-- A point shows the shares that its values were set to. -/
theorem shownBy_setAll (shares : Investigation) (point : Chart) : shares.ShownBy (point.setAll shares.values) := by
  -- The second value is set under another name than the first.
  unfold ShownBy
  simp only [Chart.setAll, values, List.foldl_cons, List.foldl_nil, Chart.value?_set, if_true]
  exact ⟨rfl, trivial⟩

end Dashboard.Share.Investigation
