import Dashboard.Proofs.Sample
import Dashboard.Proofs.Statistics.Group
import Dashboard.Proofs.Statistics.Permutation
import Dashboard.Proofs.Widget.PassingRate

/-! The health check: a row for each value of an attribute, and a total over all launches that carry the attribute. -/

namespace Dashboard

/-- The exact sum over several groups is the sum of their exact sums. -/
theorem exactOver_flatten (groups : List (List Record)) (field : String) :
    exactOver groups.flatten field = (groups.map (exactOver · field)).sum := by
  -- Summing over a list of lists is summing the sums of the lists.
  unfold exactOver
  rw [List.map_flatten, List.sum_flatten, List.map_map]
  rfl

/-- The sum over several groups is the sum of their sums, wrapped. -/
theorem sumOver_flatten (groups : List (List Record)) (field : String) :
    sumOver groups.flatten field = Word.wrap (groups.map (sumOver · field)).sum := by
  rw [sumOver_eq_wrap, exactOver_flatten]
  -- Each group has been wrapped already, which makes no difference.
  induction groups with
  | nil => rfl
  | cons group rest ih =>
    rw [List.map_cons, List.sum_cons, List.map_cons, List.sum_cons, sumOver_eq_wrap, Word.wrap_wrap_add,
      ← Word.wrap_add_wrap, ih, Word.wrap_add_wrap]

/-- The executions of some records do not depend on their order. -/
theorem Chart.ShowsExecutions.of_perm {passedName totalName : String} {records others : List Record} {point : Chart}
    (shown : point.ShowsExecutions passedName totalName records) (perm : others.Perm records) :
    point.ShowsExecutions passedName totalName others := by
  obtain ⟨passed, total, rate⟩ := shown
  exact ⟨by rw [sumOver_perm perm, passed], by rw [sumOver_perm perm, total],
    by rw [sumOver_perm perm, sumOver_perm perm, rate]⟩

namespace Attributes

/-- The records that carry an attribute, in the order of the batch. -/
def carriers (records : List Record) (key : String) : List Record :=
  records.filter fun r => (r.attribute? key).isSome

/-- A row of a health check counts some records, all of which have the value that it is named after. -/
structure CountsGroup (key : String) (row : Chart) (group : List Record) : Prop where
  tagged : ∀ r ∈ group, r.attribute? key = row.name
  counted : row.ShowsExecutions Field.passed Field.total group

/-- The rows of a health check and its total: there is one row for each value of the attribute, in the order of first
mention; each record that carries the attribute is counted in one row; the counts of the total are the sums of those of
the rows, as words are added and exactly where they fit; and what the total shows is what a summary of the records that
carry the attribute shows. -/
structure IsHealthTable (records : List Record) (key : String) (rows : List Chart) (total : Chart) : Prop where
  values : rows.map (·.name) = (records.filterMap (·.attribute? key)).eraseDups.map some
  groups : ∃ groups : List (List Record), List.Forall₂ (CountsGroup key) rows groups ∧
    groups.flatten.Perm (carriers records key)
  counted : total.ShowsExecutions Field.passed Field.total (carriers records key)
  sums : ∀ field ∈ [Field.passed, Field.total],
    total.integer? field = ((Content.result rows).sum? field).map Word.wrap
  exact : ∀ field ∈ [Field.passed, Field.total], Word.Fits (exactOver (carriers records key) field) →
    (Content.result rows).sum? field = some (exactOver (carriers records key) field) ∧
      total.integer? field = some (exactOver (carriers records key) field)
  summary : ∀ job : Job, ∃ point,
    Summary.passingRate { job with records := carriers records key } = .ok (.result [point]) ∧
    total.value? Field.passed = point.value? "passed" ∧ total.value? Field.total = point.value? "total" ∧
    total.value? Share.passingRateKey = point.value? Share.passingRateKey

/-- Sums that are shown are read as themselves. -/
theorem integer?_healthRow (name : Option String) (records : List Record) :
    ∀ field ∈ [Field.passed, Field.total], (healthRow name records).integer? field = some (sumOver records field) := by
  -- Both counts are shown as the sums over the records of the row.
  have shown := showsExecutions_healthRow name records
  simp only [List.forall_mem_cons, List.not_mem_nil, false_imp_iff, implies_true, and_true]
  exact ⟨Chart.integer?_of_value? shown.passed, Chart.integer?_of_value? shown.total⟩

/-- The rows of some groups show sums whose sum is the exact one over all groups, as long as this is a word. -/
theorem sum?_healthRows (entries : List (String × List Record)) {field : String}
    (known : field ∈ [Field.passed, Field.total]) :
    (Content.result (entries.map fun (value, group) => healthRow (some value) group)).sum? field =
      some ((entries.map (·.2)).map (sumOver · field)).sum ∧
    (Word.Fits (exactOver (entries.flatMap (·.2)) field) →
      ((entries.map (·.2)).map (sumOver · field)).sum = exactOver (entries.flatMap (·.2)) field) := by
  constructor
  · rw [List.map_map]
    exact Content.sum?_eq (Content.allPoints_result _) fun entry _ => integer?_healthRow (some entry.1) entry.2 field known
  · intro fits
    rw [List.flatMap_def, exactOver_flatten] at fits ⊢
    -- No group has a greater sum than all of them together, so each of the sums is a word as well.
    refine congrArg List.sum (List.map_congr_left fun group member => sumOver_of_fits ?_)
    have nonneg := exactOver_nonneg group field
    refine Word.fits_of_nonneg nonneg (Int.le_trans ?_ fits.2)
    refine List.single_le_sum (fun count counted => ?_) _ (List.mem_map_of_mem member)
    obtain ⟨other, -, rfl⟩ := List.mem_map.1 counted
    exact exactOver_nonneg other field

/-- The rows of the groups of some records and the row of all groups together make a health check. -/
theorem isHealthTable_byAttribute {records : List Record} {key : String}
    (carried : ∃ r ∈ records, (r.attribute? key).isSome) : IsHealthTable records key
      ((RecordGroups.byAttribute records key).entries.map fun (value, group) => healthRow (some value) group)
      (healthRow none ((RecordGroups.byAttribute records key).entries.flatMap (·.2))) := by
  -- Side by side the groups hold the records that carry the attribute, in another order.
  have perm : ((RecordGroups.byAttribute records key).entries.flatMap (·.2)).Perm (carriers records key) :=
    RecordGroups.flatMap_byAttribute_perm records key
  have counted := (showsExecutions_healthRow none
    ((RecordGroups.byAttribute records key).entries.flatMap (·.2))).of_perm perm.symm
  constructor
  case values =>
    rw [RecordGroups.entries_byAttribute, List.map_map, List.map_map]
    rfl
  case groups =>
    -- The groups are those of the distinct values, and side by side they hold the records that carry the attribute.
    refine ⟨(RecordGroups.byAttribute records key).entries.map (·.2), ?_, ?_⟩
    · rw [List.forall₂_map_left_iff, List.forall₂_map_right_iff, List.forall₂_same]
      intro entry member
      rw [RecordGroups.entries_byAttribute] at member
      obtain ⟨value, -, rfl⟩ := List.mem_map.1 member
      exact ⟨fun r listed => of_decide_eq_true (List.mem_filter.1 listed).2, showsExecutions_healthRow _ _⟩
    · rwa [← List.flatMap_def]
  case counted => exact counted
  case sums =>
    intro field known
    rw [integer?_healthRow none _ field known, (sum?_healthRows _ known).1, List.flatMap_def, sumOver_flatten,
      Option.map_some]
  case exact =>
    intro field known fits
    rw [← exactOver_perm perm] at fits ⊢
    obtain ⟨shown, summed⟩ := sum?_healthRows (RecordGroups.byAttribute records key).entries known
    rw [shown, summed fits, integer?_healthRow none _ field known, sumOver_of_fits fits]
    exact ⟨rfl, rfl⟩
  case summary =>
    intro job
    have nonempty : carriers records key ≠ [] := by
      obtain ⟨r, member, tagged⟩ := carried
      exact List.ne_nil_of_mem (List.mem_filter.2 ⟨member, tagged⟩)
    obtain ⟨point, built, shown⟩ :=
      @Summary.run_passingRate_showsExecutions { job with records := carriers records key } nonempty
    exact ⟨point, built, counted.passed.trans shown.passed.symm, counted.total.trans shown.total.symm,
      counted.rate.trans shown.rate.symm⟩

/-- A health check that names an attribute which some of its launches carry is a table of the attribute's values and
their total. -/
theorem run_healthTable {request : Request} {config : Config} {key : String}
    (named : (Job.ofRequest .healthCheckTable request config).required Widget.healthOption = .ok key)
    (carried : ∃ r ∈ request.limitedRecords, (r.attribute? key).isSome) : ∃ content rows total,
      health (Job.ofRequest .healthCheckTable request config) = .ok content ∧
      content.entries = [(Content.resultKey, rows), (totalKey, [total])] ∧
      IsHealthTable request.limitedRecords key rows total := by
  refine ⟨_, _, _, ?_, rfl, isHealthTable_byAttribute carried⟩
  -- A launch that carries the attribute stands for a batch that is not empty, and for a group in it.
  obtain ⟨r, member, tagged⟩ := carried
  have someRecords : (Job.ofRequest .healthCheckTable request config).records ≠ [] := List.ne_nil_of_mem member
  have someGroups := RecordGroups.not_isEmpty_byAttribute ⟨r, member, tagged⟩
  simp only [health, named, if_neg someRecords, Bind.bind, Except.bind]
  exact if_neg someGroups

open Sample (leapDay leapEve midnight run)

/-- Launches of two components, and one of none. -/
def componentRuns : List Record :=
  [(run "1" "Smoke" (midnight leapEve) |>.withAttribute "component" "billing"
      |>.withCounter Field.total 3 |>.withCounter Field.passed 1),
    (run "2" "Smoke" (midnight leapEve)).withCounter Field.total 50,
    (run "3" "Smoke" (midnight leapDay) |>.withAttribute "component" "auth"
      |>.withCounter Field.total 4 |>.withCounter Field.passed 4)]

/-- A request for the health of the components. -/
def componentHealth : Request :=
  ({ widget := "health_check_table", records := componentRuns } : Request).withOption Widget.healthOption "component"

/-- The components have a row each, and the total counts the two launches that have a component. -/
theorem run_healthTable_components : ∃ content rows total,
    health (Job.ofRequest .healthCheckTable componentHealth {}) = .ok content ∧
    content.entries = [(Content.resultKey, rows), (totalKey, [total])] ∧
    IsHealthTable componentRuns "component" rows total ∧
    rows.map (·.name) = [some "billing", some "auth"] ∧
    total.value? Field.passed = some "5" ∧ total.value? Field.total = some "7" := by
  have named : (Job.ofRequest .healthCheckTable componentHealth {}).required Widget.healthOption = .ok "component" := by
    decide +kernel
  obtain ⟨content, rows, total, built, entries, isTable⟩ := run_healthTable named (by decide +kernel)
  -- What the table shows is known from its rows alone.
  refine ⟨content, rows, total, built, entries, isTable, ?_, ?_, ?_⟩
  · rw [isTable.values]
    decide +kernel
  · rw [isTable.counted.passed]
    decide +kernel
  · rw [isTable.counted.total]
    decide +kernel

end Attributes
end Dashboard
