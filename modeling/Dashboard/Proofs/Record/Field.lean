import Dashboard.Record.Field

/-! The segments that a name is made of, and what the library's spelling of a name makes of them. -/

namespace Dashboard.Field

/-- A text with dots in the place of its dollar signs. -/
def withDots (text : List Char) : List Char :=
  text.map fun c => if c = '$' then '.' else c

/-- The library's spelling has dots in the place of dollar signs, and then it leaves out a leading segment. -/
theorem toList_internal (name : String) : (internal name).toList =
    if leadingSegment.isPrefixOf (withDots name.toList) then (withDots name.toList).drop leadingSegment.length
    else withDots name.toList :=
  String.toList_ofList

/-- No dollar signs are left where dots take their places. -/
theorem dollar_not_mem_withDots (text : List Char) : '$' ∉ withDots text := by
  -- A dollar sign would have to come from a character that is kept, which is none.
  intro member
  obtain ⟨c, -, same⟩ := List.mem_map.1 member
  by_cases dollar : c = '$'
  · rw [if_pos dollar] at same
    exact absurd same (by decide)
  · rw [if_neg dollar] at same
    exact dollar same

/-- Without dollar signs a text stays as it is. -/
theorem withDots_of_dotted {text : List Char} (dotted : '$' ∉ text) : withDots text = text := by
  refine (List.map_congr_left fun c member => ?_).trans (List.map_id _)
  exact if_neg (ne_of_mem_of_not_mem member dotted)

/-- Dots are found again where dollar signs took their places. -/
theorem withDots_external (name : String) : withDots (external name).toList = withDots name.toList := by
  rw [external, String.toList_ofList, withDots, List.map_map]
  refine List.map_congr_left fun c _ => ?_
  by_cases dot : c = '.' <;> simp [dot]

/-- The library's spelling has no dollar signs. -/
theorem dollar_not_mem_internal (name : String) : '$' ∉ (internal name).toList := by
  -- Each of them was replaced by a dot, and leaving out a segment brings none back.
  rw [toList_internal]
  split
  · exact fun member => dollar_not_mem_withDots name.toList (List.mem_of_mem_drop member)
  · exact dollar_not_mem_withDots name.toList

/-- A name in the library's spelling that is respelled once more loses a leading segment. -/
theorem length_internal_lt {name : String} (respelled : internal (internal name) ≠ internal name) :
    (internal (internal name)).length < (internal name).length := by
  have again := toList_internal (internal name)
  rw [withDots_of_dotted (dollar_not_mem_internal name)] at again
  -- Without a leading segment there would be nothing to respell.
  by_cases leading : leadingSegment.isPrefixOf (internal name).toList = true
  · have segment := (List.isPrefixOf_iff_prefix.1 leading).length_le
    have letters : 0 < leadingSegment.length := by decide
    rw [if_pos leading] at again
    rw [← String.length_toList, ← String.length_toList, again, List.length_drop]
    omega
  · rw [if_neg leading] at again
    exact absurd (String.toList_inj.1 again) respelled

/-- Behind a segment for statistics a text only gets its dots back. -/
theorem toList_internal_statistics (text : String) :
    (internal ("statistics$" ++ text)).toList = withDots text.toList := by
  -- The dollar sign behind the segment becomes the dot that the leading segment ends with.
  have shape : withDots ("statistics$" ++ text).toList = leadingSegment ++ withDots text.toList := by
    rw [String.toList_append, withDots, List.map_append]
    rfl
  rw [toList_internal, shape, if_pos (List.isPrefixOf_iff_prefix.2 (List.prefix_append _ _)), List.drop_left]

/-- Dollar signs in the place of dots make no difference to the library's spelling. -/
theorem internal_external (name : String) : internal (external name) = internal name :=
  String.toList_inj.1 (by rw [toList_internal, toList_internal, withDots_external])

/-- A name without dollar signs is found behind a segment for statistics in the spelling of dashboards. -/
theorem internal_statistics_external {name : String} (dotted : '$' ∉ name.toList) :
    internal ("statistics$" ++ external name) = name :=
  String.toList_inj.1 (by rw [toList_internal_statistics, withDots_external, withDots_of_dotted dotted])

/-- A text that is made of some parts, in their order, with one separator between each two of them. -/
inductive Joined (part : List Char → Prop) : List Char → List (List Char) → Prop where
  | single {first : List Char} (whole : part first) : Joined part first [first]
  | cons {first rest : List Char} {parts : List (List Char)} {separator : Char} (whole : part first)
      (separates : isSeparator separator = true) (joined : Joined part rest parts) :
      Joined part (first ++ separator :: rest) (first :: parts)

/-- A text without any separator in it. -/
def Unseparated (text : List Char) : Prop :=
  ∀ c ∈ text, isSeparator c = false

namespace Joined

variable {part other : List Char → Prop} {text : List Char} {parts : List (List Char)}

/-- Each of the parts that a text is made of is one. -/
theorem forall_mem (joined : Joined part text parts) : ∀ piece ∈ parts, part piece := by
  induction joined with
  | single whole => simpa using whole
  | cons whole _ _ ih => exact List.forall_mem_cons.2 ⟨whole, ih⟩

/-- Parts are seen as parts of another kind when each of them is one. -/
theorem of_forall_mem (joined : Joined part text parts) (each : ∀ piece ∈ parts, other piece) :
    Joined other text parts := by
  induction joined with
  | single => exact .single (each _ List.mem_cons_self)
  | cons _ separates _ ih =>
    obtain ⟨whole, rest⟩ := List.forall_mem_cons.1 each
    exact .cons whole separates (ih rest)

end Joined

/-- A text without separators is its only segment. -/
theorem segments_of_unseparated {text : List Char} (unseparated : Unseparated text) : segments text = [text] := by
  -- No character closes a segment, so that all of them go to the one that was begun.
  induction text with
  | nil => rfl
  | cons c cs ih =>
    obtain ⟨head, rest⟩ := List.forall_mem_cons.1 unseparated
    simp [segments, head, ih rest]

/-- The first segment ends at the first separator. -/
theorem segments_append_separator {first : List Char} (unseparated : Unseparated first) {separator : Char}
    (separates : isSeparator separator = true) (rest : List Char) :
    segments (first ++ separator :: rest) = first :: segments rest := by
  -- The characters in front all go to the first segment, which the separator closes.
  induction first with
  | nil => simp [segments, separates]
  | cons c cs ih =>
    obtain ⟨head, others⟩ := List.forall_mem_cons.1 unseparated
    simp [segments, head, ih others]

/-- Every text is made of its segments. -/
theorem joined_segments (text : List Char) : Joined Unseparated text (segments text) := by
  induction text with
  | nil => exact .single nofun
  | cons c cs ih =>
    rw [segments]
    split
    · -- A separator ends the segment before it, which is empty so far.
      rename_i separates
      have empty : Unseparated [] := nofun
      exact .cons empty separates ih
    · -- The character goes in front of the first segment of the rest.
      rename_i head
      have head : isSeparator c = false := by simpa using head
      generalize segments cs = found at ih
      have longer {first : List Char} (whole : Unseparated first) : Unseparated (c :: first) :=
        List.forall_mem_cons.2 ⟨head, whole⟩
      cases ih with
      | single whole => exact .single (longer whole)
      | cons whole separates joined => exact .cons (longer whole) separates joined

/-- There is only one way to make a text of parts that have no separators in them. -/
theorem Joined.eq_segments {text : List Char} {parts : List (List Char)} (joined : Joined Unseparated text parts) :
    parts = segments text := by
  induction joined with
  | single whole => rw [segments_of_unseparated whole]
  | cons whole separates _ ih => rw [segments_append_separator whole separates, ih]

/-- A name has at least one segment. -/
theorem segments_ne_nil (cs : List Char) : segments cs ≠ [] := by
  -- Even an empty text has an empty segment.
  cases cs with
  | nil => exact List.cons_ne_nil _ _
  | cons c cs =>
    rw [segments]
    split
    · exact List.cons_ne_nil _ _
    · split <;> exact List.cons_ne_nil _ _

/-- Dots in the place of dollar signs separate the same segments. -/
theorem segments_withDots (text : List Char) : segments (withDots text) = segments text := by
  induction text with
  | nil => rfl
  | cons c cs ih =>
    -- Either sign separates, and no other character is changed.
    rw [withDots, List.map_cons, segments, segments, ← withDots, ih]
    by_cases dollar : c = '$'
    · simp [dollar, isSeparator]
    · rw [if_neg dollar]

/-- The leading segment stands before the segments of what is left without it. -/
theorem segments_leadingSegment_append (rest : List Char) :
    segments (leadingSegment ++ rest) = "statistics".toList :: segments rest := rfl

/-- Whether a segment for statistics stands in front of others. -/
def Prefixed (parts : List (List Char)) : Prop :=
  parts.head? = some "statistics".toList ∧ 1 < parts.length

instance (parts : List (List Char)) : Decidable (Prefixed parts) :=
  inferInstanceAs (Decidable (_ ∧ _))

/-- A text without dollar signs has a segment for statistics in front of others when it begins with this segment and a dot. -/
theorem prefixed_segments_iff {text : List Char} (dotted : '$' ∉ text) :
    Prefixed (segments text) ↔ leadingSegment.isPrefixOf text = true := by
  constructor
  · rintro ⟨leading, several⟩
    have joined := joined_segments text
    generalize segments text = parts at joined leading several
    cases joined with
    | single => simp at several
    | @cons first rest _ separator _ separates _ =>
      obtain rfl : first = "statistics".toList := by simpa using leading
      -- The separator behind the segment is no dollar sign.
      have dot : separator = '.' := by
        simp only [isSeparator, Bool.or_eq_true, beq_iff_eq] at separates
        refine separates.resolve_right fun dollar => dotted ?_
        simp [dollar]
      subst dot
      exact List.isPrefixOf_iff_prefix.2 ⟨rest, rfl⟩
  · -- The other way round, what stands behind the dot is made of one segment at least.
    intro leading
    obtain ⟨rest, rfl⟩ := List.isPrefixOf_iff_prefix.1 leading
    have behind := List.length_pos_iff.2 (segments_ne_nil rest)
    rw [segments_leadingSegment_append]
    exact ⟨rfl, by simpa using behind⟩

/-- Respelling a name leaves out its segment for statistics where it stands in front of others, and no other segment. -/
theorem segments_internal (name : String) : segments (internal name).toList =
    if Prefixed (segments name.toList) then (segments name.toList).tail else segments name.toList := by
  -- What the leading segment stands for is seen after the dots have been set.
  have leads := prefixed_segments_iff (dollar_not_mem_withDots name.toList)
  rw [segments_withDots] at leads
  rw [toList_internal]
  by_cases leading : leadingSegment.isPrefixOf (withDots name.toList) = true
  · obtain ⟨rest, shape⟩ := List.isPrefixOf_iff_prefix.1 leading
    rw [if_pos leading, if_pos (leads.2 leading), ← segments_withDots name.toList, ← shape, List.drop_left,
      segments_leadingSegment_append, List.tail_cons]
  · rw [if_neg leading, if_neg (mt leads.1 leading), segments_withDots]

/-- The library's spelling of a name ends in the same segment. -/
theorem getLast?_segments_internal (name : String) :
    (segments (internal name).toList).getLast? = (segments name.toList).getLast? := by
  rw [segments_internal]
  split
  · -- Other segments stand behind the one that is left out.
    rename_i prefixed
    rw [List.getLast?_tail, if_neg (Nat.ne_of_gt prefixed.2)]
  · rfl

/-- The library's spelling of a name is a name. -/
theorem isValid_internal {name : String} (valid : isValid name = true) : isValid (internal name) = true := by
  -- Its segments are those of the name, perhaps without the first.
  rw [isValid, List.all_eq_true] at valid ⊢
  rw [segments_internal]
  intro piece listed
  split at listed
  · exact valid piece (List.mem_of_mem_tail listed)
  · exact valid piece listed

/-- A name without dollar signs is its own spelling in the library unless a segment for statistics stands in front. -/
theorem internal_eq_self_iff {name : String} (dotted : '$' ∉ name.toList) :
    internal name = name ↔ ¬ Prefixed (segments name.toList) := by
  -- A segment that was left out would be missing in the count.
  constructor
  · intro same prefixed
    have shorter := congrArg List.length (segments_internal name)
    rw [same, if_pos prefixed, List.length_tail] at shorter
    have several := prefixed.2
    omega
  · intro unprefixed
    rw [prefixed_segments_iff dotted] at unprefixed
    rw [← String.toList_inj, toList_internal, withDots_of_dotted dotted, if_neg unprefixed]

/-- The last segment of a name. -/
def lastSegment (name : String) : String :=
  String.ofList ((segments name.toList).getLastD [])

/-- Two fields of a request, the first mentioned before the second, that do not take each other's values: they are
the same, or else they name different counters and the library's spelling of the second is not the first. -/
def Separate (first second : String) : Prop :=
  first = second ∨ (internal first ≠ internal second ∧ internal second ≠ first)

instance (first second : String) : Decidable (Separate first second) :=
  inferInstanceAs (Decidable (_ ∨ _))

end Dashboard.Field
