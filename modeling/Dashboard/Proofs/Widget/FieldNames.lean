import Dashboard.Proofs.Record.Grammar
import Dashboard.Proofs.Sample
import Dashboard.Proofs.Widget.Job

/-! The names that may be asked for as content fields, and the spelling in which a job looks for their counters. -/

namespace Dashboard

namespace Field

/-- What becomes of a name that is made of some segments when it is respelled. -/
structure Respelled (name : String) (parts : List (List Char)) : Prop where
  /-- The library's spelling can name a counter, too. -/
  valid : isValid (internal name) = true
  /-- It has no dollar signs. -/
  dotted : '$' ∉ (internal name).toList
  /-- It is made of the same segments, without the first one if this is for statistics and there are others. -/
  joined : Joined (· ∈ segment) (internal name).toList (if Prefixed parts then parts.tail else parts)
  /-- A name without dollar signs comes back from the dashboards' spelling exactly when no segment is left out of it. -/
  back : '$' ∉ name.toList → (internal (external name) = name ↔ ¬ Prefixed parts)
  /-- Behind another segment for statistics it comes back with all of its segments. -/
  behind : '$' ∉ name.toList → internal ("statistics$" ++ external name) = name

/-- What is made of segments stays made of segments when it is respelled. -/
theorem respelled_of_joined {name : String} {parts : List (List Char)}
    (joined : Joined (· ∈ segment) name.toList parts) : Respelled name parts := by
  -- The segments of a name are determined by it, so that both spellings can be compared piece by piece.
  obtain ⟨valid, rfl⟩ := joined_segment_iff.1 joined
  have respelled := isValid_internal valid
  refine ⟨respelled, dollar_not_mem_internal name, ?_, fun dotted => ?_, internal_statistics_external⟩
  · exact joined_segment_iff.2 ⟨respelled, (segments_internal name).symm⟩
  · rw [internal_external]
    exact internal_eq_self_iff dotted

/-- The test for names accepts what is made of segments. -/
theorem isValid_iff_joined {name : String} :
    isValid name = true ↔ ∃ parts, Joined (· ∈ segment) name.toList parts := by
  -- A name is accepted exactly when it can be cut into segments, and then there is only one way to do so.
  simp [joined_segment_iff]

end Field

namespace Job

/-- The content fields of an accepted job are the requested ones, each in the library's spelling. -/
theorem forall₂_of_contentFields {job : Job} {fields : List String} (accepted : job.contentFields = .ok fields) :
    List.Forall₂ (fun asked field => Field.isValid asked = true ∧ field = Field.internal asked) job.request.contentFields fields := by
  -- Field by field, accepted fields are the valid ones under the library's spelling.
  obtain ⟨valid, rfl⟩ := contentFields_eq_ok_iff.1 accepted
  rw [List.forall₂_map_right_iff, List.forall₂_same]
  intro field asked
  exact ⟨valid field asked, rfl⟩

/-- Required content fields are content fields. -/
theorem contentFields_of_requiredFields {job : Job} {fields : List String}
    (accepted : job.requiredFields = .ok fields) : job.contentFields = .ok fields :=
  contentFields_eq_ok_iff.2 (requiredFields_eq_ok_iff.1 accepted).2

/-- Names are segments with single separators between them, and this is what they stay in the library's spelling, in
which every job that accepts its content fields has one name for each of them. -/
theorem names_and_respelled_fields :
    (∀ name, Field.isValid name = true ↔ name.toList ∈ Field.pattern) ∧
    (∀ name, Field.isValid name = true ↔ ∃ parts, Field.Joined (· ∈ Field.segment) name.toList parts) ∧
    (∀ name parts, Field.Joined (· ∈ Field.segment) name.toList parts → Field.Respelled name parts) ∧
    ∀ (job : Job) (fields : List String), job.contentFields = .ok fields ∨ job.requiredFields = .ok fields →
      List.Forall₂ (fun asked field => Field.isValid asked = true ∧ field = Field.internal asked ∧
        Field.isValid field = true ∧ '$' ∉ field.toList) job.request.contentFields fields := by
  -- All about names was shown for them alone; what is left is that a job asks for nothing but such names.
  refine ⟨fun name => ?_, fun _ => Field.isValid_iff_joined, fun _ _ => Field.respelled_of_joined, ?_⟩
  · rw [Field.isValid_iff_joined, Field.mem_pattern]
  · intro job fields accepted
    have given : job.contentFields = .ok fields := accepted.elim id contentFields_of_requiredFields
    refine (forall₂_of_contentFields given).imp fun asked field read => ?_
    obtain ⟨valid, rfl⟩ := read
    exact ⟨valid, rfl, Field.isValid_internal valid, Field.dollar_not_mem_internal asked⟩

/-- Dollar signs and a segment for statistics in front of others are left out, and a lone such segment stays. -/
theorem names_and_respelled_fields_twoSpellings :
    (Field.Joined (· ∈ Field.segment) "statistics$executions$total".toList
        ["statistics".toList, "executions".toList, "total".toList] ∧
      Field.Respelled "statistics$executions$total" ["statistics".toList, "executions".toList, "total".toList]) ∧
    (Field.Joined (· ∈ Field.segment) "statistics".toList ["statistics".toList] ∧
      Field.Respelled "statistics" ["statistics".toList]) ∧
    ((ofRequest .statisticTrend (Sample.trend Sample.twoSpellings) {}).requiredFields = .ok [Field.total, Field.total] ∧
      List.Forall₂ (fun asked field => Field.isValid asked = true ∧ field = Field.internal asked ∧
        Field.isValid field = true ∧ '$' ∉ field.toList) Sample.twoSpellings [Field.total, Field.total]) := by
  obtain ⟨-, -, respelled, accepted⟩ := names_and_respelled_fields
  -- The segments of the two names are found by cutting them at the dollar signs.
  have several : Field.Joined (· ∈ Field.segment) "statistics$executions$total".toList
      ["statistics".toList, "executions".toList, "total".toList] := Field.joined_segment_iff.2 ⟨by decide, by decide⟩
  have alone : Field.Joined (· ∈ Field.segment) "statistics".toList ["statistics".toList] :=
    Field.joined_segment_iff.2 ⟨by decide, by decide⟩
  have read : (ofRequest .statisticTrend (Sample.trend Sample.twoSpellings) {}).requiredFields =
      .ok [Field.total, Field.total] := requiredFields_eq_ok_iff.2 (by decide)
  exact ⟨⟨several, respelled _ _ several⟩, ⟨alone, respelled _ _ alone⟩, read, accepted _ _ (.inr read)⟩

end Job
end Dashboard
