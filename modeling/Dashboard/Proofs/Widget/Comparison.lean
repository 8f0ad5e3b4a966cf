import Dashboard.Proofs.Calendar.Moment
import Dashboard.Proofs.Statistics.Ranking
import Dashboard.Proofs.Widget.Presentation

/-! The comparison of the newest launches: which launches of a batch they are when some start at the same moment, and in
what order they are shown. -/

namespace Dashboard

open Calendar (Moment)

namespace Record

/-- Of two records with their places in a batch the one that starts later is ahead, and of one moment the one in the
earlier place. -/
def NewerFirst (a b : Record × Nat) : Prop :=
  b.1.start < a.1.start ∨ a.1.start = b.1.start ∧ a.2 < b.2

/-- Records of a batch with their places are its newest, from the oldest of them to the newest, when there are as many
as a limit allows, each is ahead of those shown before it, and each is ahead of all that are left out. -/
structure ShowsNewest (records : List Record) (limit : Nat) (shown : List (Record × Nat)) : Prop where
  length : shown.length = min limit records.length
  stands : ∀ entry ∈ shown, records[entry.2]? = some entry.1
  distinct : (shown.map Prod.snd).Nodup
  ordered : shown.Pairwise fun a b => NewerFirst b a
  newest : ∀ r place, records[place]? = some r → place ∉ shown.map Prod.snd →
    ∀ entry ∈ shown, NewerFirst entry (r, place)

/-- The records of a batch, newest first, are a ranking of all of it. -/
theorem exists_isRanking_newestFirst (records : List Record) : ∃ ranking,
    IsRanking (fun _ => True) (fun r shown => shown = r) NewerFirst records ranking ∧
      ranking.map Prod.fst = newestFirst records := by
  -- A ranking is made of what a filter lets through, and here it lets everything through.
  have all : newestFirst records = (records.filterMap some).mergeSort fun a b => b.start ≤ a.start := by
    rw [List.filterMap_some]
    rfl
  rw [all]
  refine exists_isRanking (fun r _ => ⟨r, rfl⟩) ?described ?trans ?total ?ranked records
  case described =>
    rintro r shown ⟨⟩
    exact ⟨trivial, rfl⟩
  case trans =>
    intro a b c first second
    exact decide_eq_true (Std.le_trans (α := Moment) (of_decide_eq_true second) (of_decide_eq_true first))
  case total =>
    intro a b
    simpa using Std.le_total (α := Moment)
  case ranked =>
    intro a b order tied
    -- Unless the first one starts later the two tie, and then their places decide.
    by_cases same : a.1.start = b.1.start
    · exact .inr ⟨same, tied (decide_eq_true (Std.le_of_eq same))⟩
    · exact .inl (Std.lt_of_le_of_ne (of_decide_eq_true order) (Ne.symm same))

/-- Sorting a batch loses no record of it. -/
theorem length_newestFirst (records : List Record) : (newestFirst records).length = records.length :=
  List.length_mergeSort records

/-- The first records of a batch, newest first, are its newest when they are turned around. -/
theorem exists_showsNewest (records : List Record) (limit : Nat) : ∃ shown, ShowsNewest records limit shown ∧
    shown.map Prod.fst = ((newestFirst records).take limit).reverse := by
  obtain ⟨ranking, ranks, sorted⟩ := exists_isRanking_newestFirst records
  -- The ranking is cut behind the newest and then turned around, so that the oldest of them comes first.
  refine ⟨(ranking.take limit).reverse, ⟨?_, ?_, ?_, ?_, ?_⟩, ?_⟩
  · have whole : ranking.length = records.length := by
      rw [← length_newestFirst records, ← sorted, List.length_map]
    rw [List.length_reverse, List.length_take, whole]
  · intro entry member
    obtain ⟨r, stands, -, same⟩ := ranks.sound entry (List.mem_of_mem_take (List.mem_reverse.1 member))
    rw [stands, same]
  · rw [List.map_reverse, List.nodup_reverse, List.map_take]
    exact ranks.distinct.sublist (List.take_sublist _ _)
  · exact List.pairwise_reverse.2 (ranks.ordered.sublist (List.take_sublist _ _))
  · intro r place stands leftOut entry member
    -- The record has its place in the ranking, and so behind the cut.
    obtain ⟨other, listed, rfl⟩ := List.mem_map.1 (ranks.complete r place stands trivial)
    obtain ⟨itself, alsoStands, -, same⟩ := ranks.sound other listed
    obtain rfl : r = other.1 := by
      rw [same]
      exact Option.some.inj (stands.symm.trans alsoStands)
    rw [← List.take_append_drop limit ranking] at listed
    rcases List.mem_append.1 listed with kept | cut
    · exact absurd (List.mem_map_of_mem (List.mem_reverse.2 kept)) leftOut
    · exact ranks.before_of_cut limit entry (List.mem_reverse.1 member) other cut
  · rw [List.map_reverse, List.map_take, sorted]

end Record

namespace Summary

/-- The point of a launch in a comparison, with its shares for values. -/
def comparedPoint (r : Record) : Chart :=
  { Chart.ofRecord r with values := .ofList (Share.comparison r.count) }

/-- The shares that are set in the point of a launch are all its values. -/
theorem setAll_comparison (r : Record) :
    (Chart.ofRecord r).setAll (Share.comparison r.count) = comparedPoint r :=
  Chart.setAll_eq _ _

/-- A comparison is dispatched as it is built, with the caller's names. -/
theorem dispatch_eq_comparison {request : Request} (named : request.widget = Widget.launchesComparison.key)
    (config : Config) : Registry.standard.dispatch request config =
      (comparison (Job.ofRequest .launchesComparison request config)).map
        (Content.renameFields request.contentFields) := by
  -- The widget orders its points by itself, so that they are not turned around.
  have known : Widget.ofKey? request.widget = some .launchesComparison := by rw [named, Widget.ofKey?_key]
  rw [Registry.dispatch_standard_of_known known]
  exact congrArg (Except.map · _) (funext (present_of_ordersItself rfl request config))

/-- A comparison of some launches shows the newest of them, each with its shares, whatever order they were asked for
in. -/
theorem dispatch_launchesComparison {request : Request} {config : Config}
    (named : request.widget = Widget.launchesComparison.key) (nonempty : request.limitedRecords ≠ []) :
    ∃ shown, Record.ShowsNewest request.limitedRecords config.comparisonQuantity.toNat shown ∧
      comparison (Job.ofRequest .launchesComparison request config) =
        .ok (.result (shown.map fun entry => comparedPoint entry.1)) ∧
      Registry.standard.dispatch request config =
        .ok (.result (shown.map fun entry => (comparedPoint entry.1).renameFields request.contentFields)) ∧
      ∀ sort, Registry.standard.dispatch { request with sort } config =
        Registry.standard.dispatch request config := by
  obtain ⟨shown, newest, sorted⟩ := Record.exists_showsNewest request.limitedRecords config.comparisonQuantity.toNat
  have built : comparison (Job.ofRequest .launchesComparison request config) =
      .ok (.result (shown.map fun entry => comparedPoint entry.1)) := by
    -- The job has nothing to check, and there are records to build from.
    unfold comparison
    rw [Job.records_ofRequest, if_neg nonempty]
    simp only [setAll_comparison]
    have series : (((Record.newestFirst request.limitedRecords).take config.comparisonQuantity.toNat).reverse).map
        comparedPoint = shown.map fun entry => comparedPoint entry.1 := by
      rw [← sorted, List.map_map]
      rfl
    exact congrArg (fun series => Except.ok (Content.result series)) series
  refine ⟨shown, newest, built, ?_, fun sort => ?_⟩
  · rw [dispatch_eq_comparison named, built]
    exact congrArg (fun series => Except.ok (Content.result series)) List.map_map
  · -- The job of the other request differs in its direction, which a comparison does not read.
    have alsoNamed : { request with sort }.widget = Widget.launchesComparison.key := named
    rw [dispatch_eq_comparison named, dispatch_eq_comparison alsoNamed]
    rfl

open Sample (leapDay leapEve midnight run)

/-- A request to compare launches of two days, of which three start at the same moment. -/
def leapComparison : Request :=
  { widget := "launches_comparison",
    records := [run "1" "api" (midnight leapDay), run "2" "api" (midnight leapEve),
      run "3" "api" (midnight leapDay), run "4" "api" (midnight leapDay)] }

/-- Of the three newest launches the two that come first in the batch are shown, the second of them first. -/
theorem dispatch_leapComparison : ∃ content, Registry.standard.dispatch leapComparison {} = .ok content ∧
    content.allPoints.map (·.id) = [some "3", some "1"] ∧
    Registry.standard.dispatch { leapComparison with sort := { direction := .ascending } } {} = .ok content := by
  have named : leapComparison.widget = Widget.launchesComparison.key := rfl
  obtain ⟨shown, -, built, dispatched, unsorted⟩ := dispatch_launchesComparison named (by decide)
  refine ⟨_, dispatched, ?_, (unsorted _).trans dispatched⟩
  -- Without fields the points keep their names, so that they are those that were built.
  have same := congrArg Content.allPoints (Except.ok.inj built)
  rw [Content.allPoints_result, Content.allPoints_result] at same
  simp only [setAll_comparison] at same
  have ids : ((Record.newestFirst leapComparison.records).take 2).reverse.map (fun r => some r.id) =
      [some "3", some "1"] := by cbv
  calc (Content.allPoints (.result _)).map (·.id)
    _ = (shown.map fun entry => comparedPoint entry.1).map (·.id) := by rw [Content.allPoints_result]; rfl
    _ = _ := by rw [← same, List.map_map]; exact ids

end Summary
end Dashboard
