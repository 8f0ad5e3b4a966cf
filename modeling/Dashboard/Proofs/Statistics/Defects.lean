import Dashboard.Proofs.Statistics.Comparison

/-! The shares of defects in a comparison: four of them are rounded by themselves, and the fifth is what they leave of
a hundred, which is nothing where they were rounded up to more. -/

namespace Dashboard.Share

open Binary64 (hundredthsText readHundredths?)
open Rounding (nearest)

/-- Adding a count of hundredths to a double that is close to one makes a double close to their sum. -/
theorem add_hundredths_eq {m : Rat} {total h : Nat} {distance : Rat} (nonneg : 0 ≤ m) (small : m ≤ 9000)
    (near : |m * 100 - total| ≤ distance) (bound : h ≤ 10000) : ∃ sum : Rat,
      Binary64.finite false m + hundredths h = .finite false sum ∧ 0 ≤ sum ∧ sum ≤ m + 200 ∧
      |sum * 100 - (total + h : Nat)| ≤ distance + 1 / 32 := by
  have shareNear := near_hundredths bound
  have shareNonneg : 0 ≤ nearest ((h : Rat) / 100) :=
    Rounding.nearest_nonneg (div_nonneg (Nat.cast_nonneg h) (by norm_num))
  have hBound : (h : Rat) ≤ 10000 := by exact_mod_cast bound
  unfold hundredths
  -- What is needed of the share is only how near it is to its count.
  generalize nearest ((h : Rat) / 100) = share at shareNear shareNonneg
  obtain ⟨shareLow, shareHigh⟩ := abs_le.1 shareNear
  obtain ⟨low, high⟩ := abs_le.1 near
  have sumNonneg : 0 ≤ m + share := add_nonneg nonneg shareNonneg
  have sumSmall : m + share ≤ 10000 := by linarith
  -- The exact sum is as far away as both together, and is rounded once more.
  have exact : |(m + share) * 100 - (total + h : Nat)| ≤ distance + 1 / 64 := by
    rw [abs_le]
    push_cast
    constructor <;> linarith
  have rounded := Binary64.near_nearest sumNonneg (small_of_le sumSmall) exact
  have moved := abs_le.1 (abs_nearest_sub_le_of_le sumNonneg sumSmall)
  have tiny : (2 : Rat) ^ (-40 : Int) ≤ 1 := by norm_num
  refine ⟨nearest (m + share), Binary64.finite_add sumNonneg (le_top_of_le sumSmall),
    Rounding.nearest_nonneg sumNonneg, by linarith, rounded.trans (by linarith)⟩

/-- Adding some counts of hundredths one after another makes a double close to their sum. -/
theorem foldl_add_hundredths {shares : List Nat} (bound : ∀ h ∈ shares, h ≤ 10000) {m : Rat} {total : Nat}
    {distance : Rat} (nonneg : 0 ≤ m) (small : m + 200 * shares.length ≤ 9000) (near : |m * 100 - total| ≤ distance) :
    ∃ sum : Rat, (shares.map hundredths).foldl (· + ·) (.finite false m) = .finite false sum ∧ 0 ≤ sum ∧
      sum ≤ 9000 ∧ |sum * 100 - (total + shares.sum : Nat)| ≤ distance + shares.length / 32 := by
  -- The sum so far is close to a count, and each further share keeps it so.
  induction shares generalizing m total distance with
  | nil =>
    refine ⟨m, rfl, nonneg, by simpa using small, ?_⟩
    simpa using near
  | cons h rest ih =>
    simp only [List.length_cons, Nat.cast_add, Nat.cast_one] at small
    have restLength : (0 : Rat) ≤ rest.length := Nat.cast_nonneg _
    -- Each share adds its part to the distance.
    obtain ⟨next, added, nextNonneg, nextBound, nextNear⟩ :=
      add_hundredths_eq nonneg (by linarith) near (bound h List.mem_cons_self)
    obtain ⟨sum, summed, sumNonneg, sumBound, sumNear⟩ :=
      ih (fun other member => bound other (List.mem_cons_of_mem h member)) nextNonneg (by linarith) nextNear
    refine ⟨sum, by rw [List.map_cons, List.foldl_cons, added, summed], sumNonneg, sumBound, ?_⟩
    rw [List.sum_cons, ← Nat.add_assoc]
    refine sumNear.trans_eq ?_
    push_cast [List.length_cons]
    ring

/-- What at most four counts of hundredths leave of a hundred is shown as the rest, and as zero where they make more. -/
theorem twoDecimals_atLeastZero {shares : List Nat} (bound : ∀ h ∈ shares, h ≤ 10000) (few : shares.length ≤ 4) :
    (Binary64.ofInt 100 - (shares.map hundredths).foldl (· + ·) (.ofInt 0)).atLeastZero.twoDecimals =
      hundredthsText (10000 - shares.sum) := by
  have zero : Binary64.ofInt 0 = .finite false 0 := by
    have exact := @Binary64.ofInt_natCast 0 (by decide)
    rwa [Nat.cast_zero] at exact
  have length : (shares.length : Rat) ≤ 4 := by exact_mod_cast few
  -- The shares are added one after another, each with a rounding of its own.
  obtain ⟨sum, summed, nonneg, sumBound, near⟩ :=
    foldl_add_hundredths bound (le_refl (0 : Rat)) (by linarith) (show |(0 : Rat) * 100 - (0 : Nat)| ≤ 0 by simp)
  rw [Nat.zero_add, abs_le] at near
  rw [zero, summed, hundred_eq]
  generalize shares.sum = total at near ⊢
  obtain ⟨low, high⟩ := near
  -- All roundings together move by less than a hundredth, so that a whole one is never lost.
  rcases le_or_gt sum 100 with order | order
  · have rest : (total : Rat) < 10001 := by linarith
    have within : total ≤ 10000 := by
      have whole : total < 10001 := by exact_mod_cast rest
      omega
    rw [Binary64.finite_sub nonneg order (le_top_of_le (by norm_num))]
    refine twoDecimals_nearest (by linarith) (by linarith) ?_
    rw [Nat.cast_sub within, abs_le]
    push_cast
    constructor <;> linarith
  · -- Where the shares make more than a hundred, the rest is negative and shown as zero.
    have rest : (9999 : Rat) < total := by linarith
    have nothing : 10000 - total = 0 := by
      have whole : 9999 < total := by exact_mod_cast rest
      omega
    rw [Binary64.finite_sub_of_lt (by norm_num) order (le_top_of_le (by linarith)), nothing]
    exact Binary64.twoDecimals_of_near (by norm_num)

/-- The exact number of defects. -/
def allDefects (count : String → Int) : Int :=
  (Field.defects.map count).sum

/-- The defects of a launch: there are some, none of their counters is negative, and together they make a signed word. -/
structure Defective (count : String → Int) : Prop where
  positive : 0 < allDefects count
  nonneg : ∀ field ∈ Field.defects, 0 ≤ count field
  fits : allDefects count ≤ Int64.maxValue.toInt

/-- A number of defects that is a word is found by adding words. -/
theorem Defective.sumCounts_eq {count : String → Int} (defective : Defective count) :
    sumCounts count Field.defects = allDefects count := by
  -- The five counters together are a word, so wrapping their sum leaves it alone.
  rw [sumCounts, sumOf_eq_wrap]
  exact Word.wrap_of_fits (Word.fits_of_nonneg defective.positive.le defective.fits)

/-- The five counters of defects make their number. -/
theorem allDefects_eq (count : String → Int) :
    allDefects count = (roundedDefects.map count).sum + count Field.automationBug := by
  -- The defects of the tests come last, behind the four that are rounded.
  simp only [allDefects, Field.defects, roundedDefects, List.map_cons, List.map_nil, List.sum_cons, List.sum_nil]
  ring

/-- Each share of defects that is rounded by itself is a count of hundredths, by hardly more than a half away from the
exact number of hundredths. -/
theorem exists_defectShares {count : String → Int} (defective : Defective count) :
    ∃ shown : String → Nat, ∀ field ∈ roundedDefects, shown field ≤ 10000 ∧
      roundTwo (percent (count field) (allDefects count)) = hundredths (shown field) ∧
      |(shown field : Rat) - count field / allDefects count * 10000| ≤ 33 / 64 := by
  obtain ⟨positive, nonneg, fits⟩ := defective
  simp only [Field.defects, List.forall_mem_cons] at nonneg
  obtain ⟨bug, automation, issue, none_, untouched, -⟩ := nonneg
  have parts := allDefects_eq count
  simp only [roundedDefects, List.map_cons, List.map_nil, List.sum_cons, List.sum_nil] at parts
  have top : (allDefects count : Rat) ≤ Binary64.top := le_top_of_word fits
  -- A count is found for every field, as a function of fields is chosen; only those of the four defects matter.
  have each : ∀ field, ∃ h : Nat, field ∈ roundedDefects → h ≤ 10000 ∧
      roundTwo (percent (count field) (allDefects count)) = hundredths h ∧
      |(h : Rat) - count field / allDefects count * 10000| ≤ 33 / 64 := by
    intro field
    by_cases listed : field ∈ roundedDefects
    · -- Each of the four counters is a part of the sum.
      have part : 0 ≤ count field ∧ count field ≤ allDefects count := by
        simp only [roundedDefects, List.mem_cons, List.not_mem_nil, or_false] at listed
        rcases listed with rfl | rfl | rfl | rfl <;> omega
      obtain ⟨h, bound, share, near⟩ := exists_hundredths part.1 part.2 positive top
      exact ⟨h, fun _ => ⟨bound, share, near.trans_eq (by norm_num)⟩⟩
    · exact ⟨0, fun member => absurd member listed⟩
  choose shown held using each
  exact ⟨shown, held⟩

/-- No share of executions goes by the name of a defect. -/
theorem lookup_executionShares (count : String → Int) {field : String} (listed : field ∈ Field.defects) :
    (executionShares count).lookup field = none := by
  simp only [Field.defects, List.mem_cons, List.not_mem_nil, or_false] at listed
  -- The names of executions and of defects are all different.
  unfold executionShares
  dsimp only
  split <;> rcases listed with rfl | rfl | rfl | rfl | rfl <;> rfl

/-- A comparison shows the shares of defects. -/
theorem lookup_comparison_defects (count : String → Int) {field : String} (listed : field ∈ Field.defects) :
    (comparison count).lookup field = ((defectShares count).lookup field).map Binary64.twoDecimals := by
  have other : field ≠ Field.total := by
    rintro rfl
    revert listed
    decide
  -- The shares of executions come first and have other names.
  unfold comparison
  rw [Table.lookup_cons_eq, if_neg other]
  refine (Table.lookup_map_value Binary64.twoDecimals field _).trans ?_
  rw [List.lookup_append, lookup_executionShares count listed, Option.none_or]

/-- Where the four rounded shares are counts of hundredths, a comparison shows them as these counts, and the defects of
the tests as what they leave of a hundred, or as zero. -/
theorem lookup_comparison_of_shown {count : String → Int} (some_ : sumCounts count Field.defects ≠ 0)
    {shown : String → Nat} (bound : ∀ field ∈ roundedDefects, shown field ≤ 10000)
    (shares : ∀ field ∈ roundedDefects,
      roundTwo (percent (count field) (sumCounts count Field.defects)) = hundredths (shown field)) :
    (∀ field ∈ roundedDefects, (comparison count).lookup field = some (hundredthsText (shown field))) ∧
    (comparison count).lookup Field.automationBug =
      some (hundredthsText (10000 - (roundedDefects.map shown).sum)) := by
  -- Each of the four shares is replaced by its count, under the same name.
  have rounded : roundedDefects.map (fun field =>
      (field, roundTwo (percent (count field) (sumCounts count Field.defects)))) =
      roundedDefects.map fun field => (field, hundredths (shown field)) :=
    List.map_congr_left fun field member => by rw [shares field member]
  have assigned : (roundedDefects.map fun field => (field, hundredths (shown field))).foldl
      (fun total (entry : String × Binary64) => total + entry.2) (.ofInt 0) =
      ((roundedDefects.map shown).map hundredths).foldl (· + ·) (.ofInt 0) := by
    rw [List.foldl_map, List.map_map, List.foldl_map]
    rfl
  have all : defectShares count = roundedDefects.map (fun field => (field, hundredths (shown field))) ++
      [(Field.automationBug,
        (Binary64.ofInt 100 - ((roundedDefects.map shown).map hundredths).foldl (· + ·) (.ofInt 0)).atLeastZero)] := by
    unfold defectShares
    simp only [if_neg some_, rounded]
    rw [← assigned]
  constructor
  · intro field member
    have listed : field ∈ Field.defects := (show roundedDefects ⊆ Field.defects by decide) member
    rw [lookup_comparison_defects count listed, all, List.lookup_append, Table.lookup_map_named, if_pos member,
      Option.some_or, Option.map_some, twoDecimals_hundredths (bound field member)]
  · -- The last share has a name of its own.
    rw [lookup_comparison_defects count (by decide), all, List.lookup_append, Table.lookup_map_named,
      if_neg (by decide), Option.none_or, Table.lookup_cons_eq, if_pos rfl, Option.map_some]
    refine congrArg some (twoDecimals_atLeastZero ?_ (by simp [roundedDefects]))
    intro h member
    obtain ⟨field, listed, rfl⟩ := List.mem_map.1 member
    exact bound field listed

/-- A comparison shows counts of hundredths for its defects when each share is an unsigned number with two decimals, none
above a hundred, that is read as its count. -/
def ShowsDefects (count : String → Int) (shown : String → Nat) : Prop :=
  ∀ field ∈ Field.defects,
    ((comparison count).lookup field).bind readHundredths? = some (shown field) ∧ shown field ≤ 10000

/-- Four counts of hundredths that are rounded by hardly more than a half each make little more than the exact number of
hundredths, and no more than ten thousand where one in five thousand defects is none of theirs. -/
theorem sum_rounded_le {count : String → Int} (defective : Defective count) {shown : String → Nat}
    (near : ∀ field ∈ roundedDefects,
      |(shown field : Rat) - count field / allDefects count * 10000| ≤ 33 / 64) :
    (roundedDefects.map shown).sum ≤ 10002 ∧
    (allDefects count ≤ 5000 * count Field.automationBug → (roundedDefects.map shown).sum ≤ 10000) := by
  have parts := allDefects_eq count
  have positive : (0 : Rat) < allDefects count := by exact_mod_cast defective.positive
  have automation : (0 : Rat) ≤ count Field.automationBug := by
    exact_mod_cast defective.nonneg Field.automationBug (by decide)
  generalize allDefects count = whole at parts positive near ⊢
  -- The five exact shares make a whole, and each of the four counts is near its own.
  have exact : (count Field.toInvestigate + count Field.productBug + count Field.systemIssue +
      count Field.noDefect + count Field.automationBug : Rat) / whole = 1 := by
    rw [div_eq_one_iff_eq positive.ne', parts]
    simp only [roundedDefects, List.map_cons, List.map_nil, List.sum_cons, List.sum_nil]
    push_cast
    ring
  simp only [add_div] at exact
  simp only [roundedDefects, List.forall_mem_cons, abs_le] at near
  obtain ⟨⟨-, first⟩, ⟨-, second⟩, ⟨-, third⟩, ⟨-, fourth⟩, -⟩ := near
  have rest : (0 : Rat) ≤ count Field.automationBug / whole := div_nonneg automation positive.le
  simp only [roundedDefects, List.map_cons, List.map_nil, List.sum_cons, List.sum_nil]
  constructor
  · have below : (shown Field.toInvestigate + (shown Field.productBug + (shown Field.systemIssue +
        (shown Field.noDefect + 0))) : Rat) < 10003 := by linarith
    have cut : shown Field.toInvestigate + (shown Field.productBug + (shown Field.systemIssue +
        (shown Field.noDefect + 0))) < 10003 := by exact_mod_cast below
    omega
  · intro enough
    -- The fifth share is at least two hundredths, which makes up for what the others are rounded up by.
    have part : (1 / 5000 : Rat) ≤ count Field.automationBug / whole := by
      rw [div_le_div_iff₀ (by norm_num) positive, one_mul, mul_comm]
      exact_mod_cast enough
    have below : (shown Field.toInvestigate + (shown Field.productBug + (shown Field.systemIssue +
        (shown Field.noDefect + 0))) : Rat) < 10001 := by linarith
    have cut : shown Field.toInvestigate + (shown Field.productBug + (shown Field.systemIssue +
        (shown Field.noDefect + 0))) < 10001 := by exact_mod_cast below
    omega

/-- A comparison shows the shares of its defects as unsigned numbers: four that are rounded by themselves, and for the
defects of the tests what these leave of a hundred, or zero where they make more. All of them make exactly a hundred when
the four make no more than that, as they do where one in five thousand defects is a fault of the tests, and else a
hundredth or two more. -/
theorem exists_showsDefects {count : String → Int} (defective : Defective count) : ∃ shown : String → Nat,
    ShowsDefects count shown ∧
    (∀ field ∈ roundedDefects,
      |(shown field : Rat) - count field / allDefects count * 10000| ≤ 33 / 64) ∧
    shown Field.automationBug = 10000 - (roundedDefects.map shown).sum ∧
    ((Field.defects.map shown).sum = 10000 ↔ (roundedDefects.map shown).sum ≤ 10000) ∧
    10000 ≤ (Field.defects.map shown).sum ∧ (Field.defects.map shown).sum ≤ 10002 ∧
    (allDefects count ≤ 5000 * count Field.automationBug → (Field.defects.map shown).sum = 10000) := by
  obtain ⟨shares, held⟩ := exists_defectShares defective
  have bound : ∀ field ∈ roundedDefects, shares field ≤ 10000 := fun field member => (held field member).1
  have near := fun field (member : field ∈ roundedDefects) => (held field member).2.2
  have added := defective.sumCounts_eq
  obtain ⟨texts, restText⟩ := lookup_comparison_of_shown (added.trans_ne defective.positive.ne') bound
    fun field member => added.symm ▸ (held field member).2.1
  obtain ⟨most, enough⟩ := sum_rounded_le defective near
  -- The fifth count is the rest, and leaves the others as they are.
  let shown := Function.update shares Field.automationBug (10000 - (roundedDefects.map shares).sum)
  have kept : ∀ field ∈ roundedDefects, shown field = shares field := by
    intro field member
    refine Function.update_of_ne ?_ _ _
    rintro rfl
    revert member
    decide
  have rest : shown Field.automationBug = 10000 - (roundedDefects.map shares).sum := Function.update_self ..
  -- So the four shares add up as before, and all five to these and the rest.
  have four : roundedDefects.map shown = roundedDefects.map shares := List.map_congr_left kept
  have five : (Field.defects.map shown).sum = (roundedDefects.map shares).sum + shown Field.automationBug := by
    rw [← four]
    simp only [Field.defects, roundedDefects, List.map_cons, List.map_nil, List.sum_cons, List.sum_nil]
    omega
  have split : ∀ field ∈ Field.defects, field = Field.automationBug ∨ field ∈ roundedDefects := by decide
  refine ⟨shown, fun field listed => ?_, fun field member => ?_, by rw [rest, four], ?_⟩
  · rcases split field listed with rfl | member
    · rw [rest, restText, Option.bind_some, Binary64.readHundredths?_hundredthsText]
      exact ⟨rfl, Nat.sub_le _ _⟩
    · rw [kept field member, texts field member, Option.bind_some, Binary64.readHundredths?_hundredthsText]
      exact ⟨rfl, bound field member⟩
  · rw [kept field member]
    exact near field member
  · rw [five, four, rest]
    refine ⟨by omega, by omega, by omega, fun part => ?_⟩
    have within := enough part
    omega

/-- A launch with six defects and some faults of its tests. -/
def sixDefects (automation : Int64) : Record :=
  Sample.run "1" "Smoke" (Sample.midnight Sample.leapDay)
    |>.withCounter Field.toInvestigate 4
    |>.withCounter Field.productBug 1
    |>.withCounter Field.systemIssue 1
    |>.withCounter Field.automationBug automation

/-- With one fault of its tests the shares of the launch make a hundred. -/
theorem exists_showsDefects_oneAutomation : ∃ (count : String → Int) (shown : String → Nat), Defective count ∧
    ShowsDefects count shown ∧ (Field.defects.map shown).sum = 10000 := by
  have defective : Defective (sixDefects 1).count := ⟨by decide, by decide, by decide⟩
  -- The one fault is one of seven defects, and so at least one in five thousand.
  obtain ⟨shown, shows_, -, -, -, -, -, hundred⟩ := exists_showsDefects defective
  exact ⟨_, shown, defective, shows_, hundred (by decide)⟩

/-- Without a fault of its tests the shares of the launch make a hundredth more than a hundred: the others were rounded
up, and the faults of the tests are shown as zero. -/
theorem not_showsDefects_hundred : Defective (sixDefects 0).count ∧
    ¬ ∃ shown, ShowsDefects (sixDefects 0).count shown ∧ (Field.defects.map shown).sum = 10000 := by
  have read : Field.defects.map (fun field => ((comparison (sixDefects 0).count).lookup field).bind readHundredths?) =
      [1667, 0, 1667, 0, 6667].map some := by
    decide +kernel
  refine ⟨⟨by decide, by decide, by decide⟩, ?_⟩
  rintro ⟨shown, shows_, hundred⟩
  -- The texts are read as one count each, and these make 10001 hundredths.
  rw [List.map_congr_left fun field listed => (shows_ field listed).1, ← Function.comp_def, ← List.map_map] at read
  rw [List.map_injective_iff.2 (Option.some_injective _) read] at hundred
  revert hundred
  decide

end Dashboard.Share
