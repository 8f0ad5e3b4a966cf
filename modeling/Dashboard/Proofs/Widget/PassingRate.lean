import Dashboard.Proofs.Content
import Dashboard.Proofs.Sample
import Dashboard.Proofs.Statistics.Permutation
import Dashboard.Proofs.Statistics.Share
import Dashboard.Proofs.Widget.Job
import Dashboard.Widget.Attributes
import Dashboard.Widget.Summary

/-! Passing rates: whole hundredths of a percent, a half rounded up, and shown as such next to the counts they are
the rates of. -/

namespace Dashboard

namespace Chart

/-- A point shows the executions of some records: under one name how many of them passed, under another one how many
there were, and the rate of the two. -/
structure ShowsExecutions (passedName totalName : String) (records : List Record) (point : Chart) : Prop where
  passed : point.value? passedName = some (Decimal.ofInt (sumOver records Field.passed))
  total : point.value? totalName = some (Decimal.ofInt (sumOver records Field.total))
  rate : point.value? Share.passingRateKey =
    some (Share.passingRateText (sumOver records Field.passed) (sumOver records Field.total))

/-- Two counts that are set next to their rate under names of their own are shown. -/
theorem showsExecutions_setAll {passedName totalName : String}
    (distinct : [passedName, totalName, Share.passingRateKey].Nodup) (records : List Record) (point : Chart) :
    (point.setAll [(passedName, Decimal.ofInt (sumOver records Field.passed)),
      (totalName, Decimal.ofInt (sumOver records Field.total)), (Share.passingRateKey,
        Share.passingRateText (sumOver records Field.passed) (sumOver records Field.total))]).ShowsExecutions
      passedName totalName records := by
  -- Each of the three is set under a name that the others do not have.
  refine ⟨value?_setAll ?_ point (.head _), value?_setAll ?_ point (.tail _ (.head _)),
    value?_setAll ?_ point (.tail _ (.tail _ (.head _)))⟩
  all_goals exact distinct

end Chart

namespace Share

open Binary64 (readHundredths?)

end Share

namespace Summary

/-- The summary of some launches is a point that shows their executions. -/
theorem run_passingRate_showsExecutions {job : Job} (nonempty : job.records ≠ []) : ∃ point,
    passingRate job = .ok (.result [point]) ∧ point.ShowsExecutions "passed" "total" job.records := by
  -- The counts and their rate are the only values of the point.
  unfold passingRate
  rw [if_neg nonempty]
  exact ⟨_, rfl, Chart.showsExecutions_setAll (by decide) job.records {}⟩

end Summary

namespace Attributes

/-- A row of a health check shows the executions of its records. -/
theorem showsExecutions_healthRow (name : Option String) (records : List Record) :
    (healthRow name records).ShowsExecutions Field.passed Field.total records :=
  Chart.showsExecutions_setAll (by decide) records { name }

end Attributes

namespace Share

open Binary64 (readHundredths?)

end Share
end Dashboard
