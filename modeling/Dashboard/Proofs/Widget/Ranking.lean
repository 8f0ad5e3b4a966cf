import Dashboard.Proofs.Content
import Dashboard.Proofs.Sample
import Dashboard.Proofs.Statistics.Durations
import Dashboard.Proofs.Statistics.Failures
import Dashboard.Proofs.Widget.Job
import Dashboard.Widget.Ranking

/-! The widget of the items that took longest: which records of a launch are eligible, and what is shown of them. -/

namespace Dashboard

/-- The point of a timed item shows its duration. -/
theorem TimedItem.integer?_toChart (item : TimedItem) :
    item.toChart.integer? "duration" = some (item.duration : Int) := by
  refine Chart.integer?_of_value? ?_
  rw [Decimal.ofInt_natCast]
  -- A status is set under another name.
  unfold toChart
  dsimp only
  split
  · rw [Chart.value?_set, if_neg (by decide), Chart.value?_set, if_pos rfl]
  · rw [Chart.value?_set, if_pos rfl]

namespace Ranking

/-- A request counts methods when its option for them is one of three words, up to case and blanks at the ends. -/
def CountsMethods (request : Request) : Prop :=
  ∃ value, request.option? "includeMethods" = some value ∧
    ∃ word ∈ ["true", "yes", "on"], Text.sameUpToCase (Text.trim value) word = true

/-- A record is eligible for the ranking of a request when it has ended, is a step or one of the methods that count, and
has one of the statuses that the content fields ask for, if they ask for any. -/
structure Eligible (request : Request) (r : Record) : Prop where
  ended : r.finish ≠ none
  kind : r.itemType = none ∨ ∃ itemType, r.itemType = some itemType ∧ (Text.sameUpToCase itemType "STEP" = true ∨
    CountsMethods request ∧ ∃ method ∈ ["BEFORE_METHOD", "AFTER_METHOD"], Text.sameUpToCase itemType method = true)
  status : (∃ wanted, AsksFor request.contentFields wanted) → ∃ status wanted, r.status = some status ∧
    AsksFor request.contentFields wanted ∧ Text.sameUpToCase wanted status = true

/-- Where methods count no record is eligible no more. -/
theorem Eligible.of_countsMethods {request other : Request} {r : Record} (eligible : Eligible request r)
    (same : other.contentFields = request.contentFields) (counts : CountsMethods other) : Eligible other r where
  ended := eligible.ended
  kind := eligible.kind.imp_right fun ⟨itemType, isType, kind⟩ =>
    ⟨itemType, isType, kind.imp_right fun method => ⟨counts, method.2⟩⟩
  status := same ▸ eligible.status

/-- A job counts methods exactly when its request does. -/
theorem includeMethods_ofRequest {widget : Widget} {request : Request} {config : Config} :
    (Job.ofRequest widget request config).includeMethods = true ↔ CountsMethods request := by
  -- The option is trimmed and compared with the three words up to case.
  unfold Job.includeMethods CountsMethods
  rw [Option.any_eq_true]
  simp only [List.any_eq_true]
  rfl

/-- The eligible records are those that the ranking asks for. -/
theorem eligible_iff {request : Request} (widget : Widget) (config : Config)
    (valid : ∀ field ∈ request.contentFields, Field.isValid field = true) {r : Record} : Eligible request r ↔
      r.finish ≠ none ∧ r.isStep (Job.ofRequest widget request config).includeMethods = true ∧
        TimedItem.hasStatus (criteria (request.contentFields.map Field.internal)) r = true := by
  -- A step and a wanted status are described by their own lemmas, and the finish is looked at directly.
  rw [Record.isStep_iff, TimedItem.hasStatus_iff, includeMethods_ofRequest]
  simp only [mem_criteria_internal valid]
  exact ⟨fun ⟨ended, kind, status⟩ => ⟨ended, kind, status⟩, fun ⟨ended, kind, status⟩ => ⟨ended, kind, status⟩⟩

/-- Points show durations that do not rise when each of them is no longer than those before. -/
def ShowsFalling (series : List Chart) : Prop :=
  ∃ durations : List Int, series.map (·.integer? "duration") = durations.map some ∧ (∀ d ∈ durations, 0 ≤ d) ∧
    durations.Pairwise (· ≥ ·)

/-- Along a ranking by durations these do not rise. -/
theorem showsFalling_of_isRanking {qualifies : Record → Prop} {records : List Record} {ranking : List (TimedItem × Nat)}
    (isRanking : IsRanking qualifies TimedItem.Times (GreaterFirst TimedItem.duration (·.record.name)) records ranking)
    (limit : Nat) : ShowsFalling ((ranking.take limit).map (·.1.toChart)) := by
  -- The shown numbers are the durations of the items, which are ordered by them.
  refine ⟨(ranking.take limit).map fun entry => (entry.1.duration : Int), ?_, ?_, ?_⟩
  · simp [Function.comp_def, TimedItem.integer?_toChart]
  · intro d shown
    obtain ⟨entry, -, rfl⟩ := List.mem_map.1 shown
    exact Int.natCast_nonneg entry.1.duration
  · refine List.pairwise_map.2 ((isRanking.ordered.sublist (List.take_sublist _ _)).imp fun first => ?_)
    rcases first with longer | ⟨same, -⟩ <;> omega

/-- A ranking of some records by duration, for a request that names a launch and valid content fields, shows the first of
those that are eligible, as many as the settings say, longest first, then by their names and then in the order of the
batch. -/
theorem run_longest {request : Request} {config : Config} {name : String}
    (named : (Job.ofRequest .mostTimeConsuming request config).required Widget.launchOption = .ok name)
    (valid : ∀ field ∈ request.contentFields, Field.isValid field = true)
    (nonempty : request.limitedRecords ≠ []) : ∃ ranking series,
      IsRanking (Eligible request) TimedItem.Times (GreaterFirst TimedItem.duration (·.record.name))
        request.limitedRecords ranking ∧
      series = (ranking.take config.historyTopN.toNat).map (·.1.toChart) ∧
      longest (Job.ofRequest .mostTimeConsuming request config) = .ok (.result series) ∧
      ShowsFalling series ∧
      ∀ other : Request, other.contentFields = request.contentFields → CountsMethods other →
        ∀ r, Eligible request r → Eligible other r := by
  -- Behind the checks the criteria are those of the fields in the library's spelling.
  have checked : (Job.ofRequest .mostTimeConsuming request config).contentFields =
      .ok (request.contentFields.map Field.internal) := Job.contentFields_eq_ok_iff.2 ⟨valid, rfl⟩
  have someRecords : (Job.ofRequest .mostTimeConsuming request config).records ≠ [] := nonempty
  obtain ⟨ranking, isRanking, cut⟩ := TimedItem.exists_isRanking_rank
    (fun r => eligible_iff .mostTimeConsuming config valid) request.limitedRecords
  -- The points show the items that are kept, in the order of the ranking.
  have shown : (TimedItem.rank request.limitedRecords (criteria (request.contentFields.map Field.internal))
      (Job.ofRequest .mostTimeConsuming request config).includeMethods
      config.historyTopN.toNat).map TimedItem.toChart =
        (ranking.take config.historyTopN.toNat).map (·.1.toChart) := by
    rw [cut, List.map_map]
    rfl
  refine ⟨ranking, _, isRanking, rfl, ?_, showsFalling_of_isRanking isRanking _,
    fun other same counts r eligible => eligible.of_countsMethods same counts⟩
  simp only [longest, named, checked, if_neg someRecords, Bind.bind, Except.bind]
  exact congrArg (fun series => Except.ok (Content.result series)) shown

open Sample (leapDay leapHour midnight run)

/-- Items of a nightly run: two steps that failed, a method around them, a step that passed and one that has not
ended. -/
def nightlyItems : List Record :=
  [{ run "1" "login" (midnight leapDay) with finish := some (leapHour 1), status := some "failed" },
    { run "2" "order" (midnight leapDay) with
      finish := some (leapHour 2), status := some "FAILED", itemType := some "Step" },
    { run "3" "setup" (midnight leapDay) with
      finish := some (leapHour 3), status := some "FAILED", itemType := some "BEFORE_METHOD" },
    { run "4" "search" (midnight leapDay) with finish := some (leapHour 4), status := some "PASSED" },
    { run "5" "logout" (midnight leapDay) with status := some "FAILED" }]

/-- A request for the failed steps of the nightly run that took longest. -/
def nightly : Request :=
  ({ widget := "most_time_consuming", records := nightlyItems,
     contentFields := ["statistics$executions$failed"] } : Request).withOption Widget.launchOption "Nightly"

/-- Of the nightly run the two failed steps are shown, the longer one first, and they stay eligible with methods. -/
theorem run_longest_nightly : ∃ series,
    longest (Job.ofRequest .mostTimeConsuming nightly {}) = .ok (.result series) ∧
    series.map (·.id) = [some "2", some "1"] ∧ ShowsFalling series ∧
    ∀ r ∈ nightlyItems.take 2, Eligible (nightly.withOption "includeMethods" " Yes ") r := by
  -- The option with the launch is found, and the answer is computed with all others at their defaults.
  have named : (Job.ofRequest .mostTimeConsuming nightly {}).required Widget.launchOption = .ok "Nightly" := by
    decide +kernel
  obtain ⟨ranking, series, -, -, ran, falling, widened⟩ := run_longest named (by decide +kernel) (by decide)
  have shown : Except.ok (Content.result ((TimedItem.rank nightlyItems ["FAILED"] false 20).map TimedItem.toChart)) =
      Except.ok (Content.result series) := ran
  have same := congrArg Content.allPoints (Except.ok.inj shown)
  rw [Content.allPoints_result, Content.allPoints_result] at same
  -- Blanks around a word for yes do not matter, nor does its case.
  have counts : CountsMethods (nightly.withOption "includeMethods" " Yes ") := by
    refine ⟨" Yes ", by decide +kernel, "yes", by decide, by decide +kernel⟩
  have eligible : ∀ r ∈ nightlyItems.take 2, Eligible nightly r := by
    intro r member
    refine (eligible_iff .mostTimeConsuming {} (by decide +kernel)).2 ?_
    revert r
    decide +kernel
  refine ⟨series, ran, ?_, falling, fun r member => ?_⟩
  · rw [← same]
    cbv
  · exact widened (nightly.withOption "includeMethods" " Yes ") rfl counts r (eligible r member)

end Ranking
end Dashboard
