import Dashboard.Proofs.Sample
import Dashboard.Proofs.Statistics.Share
import Dashboard.Proofs.Table

/-! The shares of executions in a comparison: those that failed and those that were skipped are rounded by themselves,
and what they leave of a hundred can turn negative. -/

namespace Dashboard

namespace Binary64

/-- Whether a double has a sign. -/
def isNegative : Binary64 → Bool
  | .notANumber => false
  | .infinite negative | .finite negative _ => negative

/-- A number with a sign is none of hundredths. -/
theorem readHundredths?_minus (text : String) : readHundredths? ("-" ++ text) = none := by
  -- The sign is no digit, so there are no digits in front.
  have shape : ("-" ++ text).toList = '-' :: text.toList := by simp
  have parts : ("-" ++ text).toList.span Char.isDigit = ([], '-' :: text.toList) := by
    rw [shape, List.span_eq_takeWhile_dropWhile, List.takeWhile_cons, List.dropWhile_cons]
    simp [show Char.isDigit '-' = false by decide]
  unfold readHundredths?
  rw [parts]
  split
  · rename_i same
    cases (Prod.mk.inj same).2
  · rfl

end Binary64

namespace Share

open Binary64 (hundredthsText readHundredths?)
open Rounding (nearest)

/-- A rounded magnitude that was close to a count of hundredths is shown as that count. -/
theorem twoDecimals_nearest {m : Rat} {h : Nat} (nonneg : 0 ≤ m) (bound : m ≤ 10000) (near : |m * 100 - h| ≤ 1 / 4) :
    (Binary64.finite false (nearest m)).twoDecimals = hundredthsText h := by
  -- Rounding moves the hundredfold by less than the distance that is left to half a hundredth.
  have rounded := Binary64.near_nearest nonneg (small_of_le bound) near
  exact Binary64.twoDecimals_of_near (rounded.trans_lt (by norm_num))

/-- What two counts of hundredths leave of a hundred is shown as the rest, with a sign where the double has one; it has
one where the counts make more than a hundred, and none where they make less. -/
theorem sub_sub_hundredths_cases {f s : Nat} (fBound : f ≤ 10000) (sBound : s ≤ 10000) :
    let left := Binary64.ofInt 100 - hundredths f - hundredths s
    (left.isNegative = false ∧ f + s ≤ 10000 ∧ left.twoDecimals = hundredthsText (10000 - (f + s))) ∨
    (left.isNegative = true ∧ 10000 ≤ f + s ∧ left.twoDecimals = "-" ++ hundredthsText (f + s - 10000)) := by
  obtain ⟨d, first, dNonneg, dBound, dNear⟩ := sub_hundredths_eq fBound
  have sNear := near_hundredths sBound
  have sNonneg : 0 ≤ nearest ((s : Rat) / 100) :=
    Rounding.nearest_nonneg (div_nonneg (Nat.cast_nonneg s) (by norm_num))
  -- What is left after the first subtraction is within a small distance of its count, and so is the second share.
  rw [Nat.cast_sub fBound, abs_le] at dNear
  rw [abs_le] at sNear
  push_cast at dNear
  generalize share : nearest ((s : Rat) / 100) = b at sNear sNonneg
  have sCast : (s : Rat) ≤ 10000 := by exact_mod_cast sBound
  dsimp only
  rw [first, hundredths, share]
  -- All roundings together move by less than a tenth of a hundredth, so the sign decides which sums are possible.
  rcases le_or_gt b d with order | order
  · left
    have rest : (f : Rat) + s < 10001 := by linarith
    have total : f + s ≤ 10000 := by
      have whole : f + s < 10001 := by exact_mod_cast rest
      omega
    -- The subtraction has no sign, and what it leaves rounds to the rest of the count.
    rw [Binary64.finite_sub sNonneg order (le_top_of_le (by linarith))]
    refine ⟨rfl, total, twoDecimals_nearest (by linarith) (by linarith) ?_⟩
    rw [Nat.cast_sub total, abs_le]
    push_cast
    constructor <;> linarith
  · right
    have rest : (9999 : Rat) < f + s := by linarith
    have total : 10000 ≤ f + s := by
      have whole : 9999 < f + s := by exact_mod_cast rest
      omega
    -- Turned round, the subtraction is that of the smaller number, with a minus in front.
    rw [Binary64.finite_sub_of_lt dNonneg order (le_top_of_le (by linarith))]
    refine ⟨rfl, total, congrArg ("-" ++ ·) (twoDecimals_nearest (by linarith) (by linarith) ?_)⟩
    rw [Nat.cast_sub total, abs_le]
    push_cast
    constructor <;> linarith

/-- The executions of a launch: there are some, and those that failed or were skipped are among them. -/
structure Executed (count : String → Int) : Prop where
  positive : 0 < count Field.total
  failed : 0 ≤ count Field.failed
  skipped : 0 ≤ count Field.skipped
  within : count Field.failed + count Field.skipped ≤ count Field.total
  fits : count Field.total ≤ Int64.maxValue.toInt

/-- What the shares of failed and of skipped executions leave of a hundred. -/
def passedShare (count : String → Int) : Binary64 :=
  .ofInt 100 - roundTwo (percent (count Field.failed) (count Field.total)) -
    roundTwo (percent (count Field.skipped) (count Field.total))

/-- A comparison of a launch with executions shows its three shares. -/
theorem lookup_comparison {count : String → Int} (executed : 0 < count Field.total) :
    (comparison count).lookup Field.failed =
      some (roundTwo (percent (count Field.failed) (count Field.total))).twoDecimals ∧
    (comparison count).lookup Field.skipped =
      some (roundTwo (percent (count Field.skipped) (count Field.total))).twoDecimals ∧
    (comparison count).lookup Field.passed = some (passedShare count).twoDecimals := by
  -- The total stands in front of the three shares, and each of these has a name of its own.
  simp only [comparison, executionShares, executed.ne', if_false, List.cons_append, List.nil_append, List.map_cons,
    Table.lookup_cons_eq]
  exact ⟨rfl, rfl, rfl⟩

/-- A comparison makes a hundred when its three shares of executions are unsigned numbers with two decimals, none above
a hundred, that add up to exactly a hundred. -/
def MakesHundred (count : String → Int) : Prop :=
  ∃ failed skipped passed : Nat,
    ((comparison count).lookup Field.failed).bind readHundredths? = some failed ∧
    ((comparison count).lookup Field.skipped).bind readHundredths? = some skipped ∧
    ((comparison count).lookup Field.passed).bind readHundredths? = some passed ∧
    failed ≤ 10000 ∧ skipped ≤ 10000 ∧ passed ≤ 10000 ∧ failed + skipped + passed = 10000

/-- The shares of failed and of skipped executions are counts of hundredths that make a hundredth more than a hundred at
most, and less than a hundred where at least one execution in five thousand passed. -/
theorem exists_shares {count : String → Int} (executed : Executed count) : ∃ f s : Nat, f ≤ 10000 ∧ s ≤ 10000 ∧
    roundTwo (percent (count Field.failed) (count Field.total)) = hundredths f ∧
    roundTwo (percent (count Field.skipped) (count Field.total)) = hundredths s ∧ f + s ≤ 10001 ∧
    (count Field.total ≤ 5000 * (count Field.total - count Field.failed - count Field.skipped) → f + s < 10000) := by
  obtain ⟨positive, failed, skipped, within, fits⟩ := executed
  have fitsTop : (count Field.total : Rat) ≤ Binary64.top := le_top_of_word fits
  obtain ⟨f, fBound, fShare, fNear⟩ := exists_hundredths failed (by omega) positive fitsTop
  obtain ⟨s, sBound, sShare, sNear⟩ := exists_hundredths skipped (by omega) positive fitsTop
  have totalPositive : (0 : Rat) < count Field.total := by exact_mod_cast positive
  -- Each of the two shares was rounded by hardly more than a half of a hundredth.
  have sum : (f + s : Rat) ≤ (count Field.failed + count Field.skipped) / count Field.total * 10000 + 33 / 32 := by
    have fAbove := (abs_le.1 fNear).2
    have sAbove := (abs_le.1 sNear).2
    rw [add_div, add_mul]
    linarith
  refine ⟨f, s, fBound, sBound, fShare, sShare, ?_, fun passed => ?_⟩
  · -- The two kinds of executions make the whole at most, so that the counts exceed a hundred by two roundings at most.
    have ratio : (count Field.failed + count Field.skipped : Rat) / count Field.total ≤ 1 := by
      rw [div_le_one totalPositive]
      exact_mod_cast within
    have below : (f + s : Rat) < 10002 := by linarith
    have whole : f + s < 10002 := by exact_mod_cast below
    omega
  · -- One passed execution in five thousand leaves room for both roundings.
    have ratio : (count Field.failed + count Field.skipped : Rat) / count Field.total ≤ 4999 / 5000 := by
      rw [div_le_div_iff₀ totalPositive (by norm_num)]
      have missed : (count Field.failed + count Field.skipped) * 5000 ≤ 4999 * count Field.total := by omega
      exact_mod_cast missed
    have below : (f + s : Rat) < 10000 := by linarith
    exact_mod_cast below

/-- A comparison of executions shows two counts of hundredths, and the rest of a hundred with the sign of the double. -/
theorem comparison_cases {count : String → Int} (executed : Executed count) : ∃ f s : Nat, f ≤ 10000 ∧ s ≤ 10000 ∧
    f + s ≤ 10001 ∧
    (count Field.total ≤ 5000 * (count Field.total - count Field.failed - count Field.skipped) → f + s < 10000) ∧
    (comparison count).lookup Field.failed = some (hundredthsText f) ∧
    (comparison count).lookup Field.skipped = some (hundredthsText s) ∧
    (((passedShare count).isNegative = false ∧ f + s ≤ 10000 ∧
      (comparison count).lookup Field.passed = some (hundredthsText (10000 - (f + s)))) ∨
    ((passedShare count).isNegative = true ∧ 10000 ≤ f + s ∧
      (comparison count).lookup Field.passed = some ("-" ++ hundredthsText (f + s - 10000)))) := by
  obtain ⟨f, s, fBound, sBound, fShare, sShare, sum, passed⟩ := exists_shares executed
  obtain ⟨fText, sText, pText⟩ := lookup_comparison executed.positive
  -- What is left of a hundred behind two counts of hundredths is such a count again, or the opposite of one.
  have left : passedShare count = Binary64.ofInt 100 - hundredths f - hundredths s := by
    rw [passedShare, fShare, sShare]
  have rest := sub_sub_hundredths_cases fBound sBound
  dsimp only at rest
  rw [← left] at rest
  rw [fText, sText, pText, fShare, sShare, twoDecimals_hundredths fBound, twoDecimals_hundredths sBound]
  refine ⟨f, s, fBound, sBound, sum, passed, rfl, rfl, ?_⟩
  rcases rest with ⟨unsigned, total, text⟩ | ⟨signed, total, text⟩
  · exact .inl ⟨unsigned, total, congrArg some text⟩
  · exact .inr ⟨signed, total, congrArg some text⟩

/-- The shares of executions make a hundred exactly when the double that is left for the passed ones has no sign, which
is so where at least one execution in five thousand passed. Otherwise the other two shares are unsigned numbers that
make a hundred or a hundredth more, and the passed ones are shown as a negative zero or a negative hundredth. -/
theorem makesHundred_iff {count : String → Int} (executed : Executed count) :
    (MakesHundred count ↔ (passedShare count).isNegative = false) ∧
    (count Field.total ≤ 5000 * (count Field.total - count Field.failed - count Field.skipped) →
      MakesHundred count) ∧
    (¬ MakesHundred count → ∃ failed skipped : Nat, failed ≤ 10000 ∧ skipped ≤ 10000 ∧
      ((comparison count).lookup Field.failed).bind readHundredths? = some failed ∧
      ((comparison count).lookup Field.skipped).bind readHundredths? = some skipped ∧
      (failed + skipped = 10000 ∧ (comparison count).lookup Field.passed = some "-0.00" ∨
        failed + skipped = 10001 ∧ (comparison count).lookup Field.passed = some "-0.01")) := by
  obtain ⟨f, s, fBound, sBound, sum, somePassed, fText, sText, rest⟩ := comparison_cases executed
  have fRead : ((comparison count).lookup Field.failed).bind readHundredths? = some f := by
    rw [fText, Option.bind_some, Binary64.readHundredths?_hundredthsText]
  have sRead : ((comparison count).lookup Field.skipped).bind readHundredths? = some s := by
    rw [sText, Option.bind_some, Binary64.readHundredths?_hundredthsText]
  -- Without a sign the rest of a hundred is read, and with one it is not.
  rcases rest with ⟨unsigned, total, text⟩ | ⟨signed, total, text⟩
  · have makes : MakesHundred count := by
      refine ⟨f, s, 10000 - (f + s), fRead, sRead, ?_, fBound, sBound, by omega, by omega⟩
      rw [text, Option.bind_some, Binary64.readHundredths?_hundredthsText]
    exact ⟨iff_of_true makes unsigned, fun _ => makes, fun misses => absurd makes misses⟩
  · have misses : ¬ MakesHundred count := by
      rintro ⟨-, -, passed, -, -, read, -⟩
      rw [text, Option.bind_some, Binary64.readHundredths?_minus] at read
      cases read
    -- With a sign the counts make a hundred or more, which enough passed executions rule out.
    refine ⟨iff_of_false misses (by simp [signed]), fun enough => ?_, fun _ => ⟨f, s, fBound, sBound, fRead, sRead, ?_⟩⟩
    · have := somePassed enough
      omega
    · rcases Nat.lt_or_eq_of_le sum with whole | more
      · have exact_ : f + s = 10000 := by omega
        rw [text, exact_]
        exact .inl ⟨rfl, rfl⟩
      · rw [text, more]
        exact .inr ⟨rfl, rfl⟩

/-- A launch of which no execution passed. -/
def noneOf (failed skipped : Int64) : Record :=
  Sample.run "1" "Smoke" (Sample.midnight Sample.leapDay)
    |>.withCounter Field.total (failed + skipped)
    |>.withCounter Field.failed failed
    |>.withCounter Field.skipped skipped

/-- Of five thousand executions one passed, and the three shares make a hundred. -/
theorem makesHundred_onePassed : ∃ count : String → Int, Executed count ∧ MakesHundred count := by
  -- One in five thousand is exactly what keeps the two rounded shares below a hundred.
  have executed : Executed ((noneOf 4998 1).withCounter Field.total 5000).count :=
    ⟨by decide, by decide, by decide, by decide, by decide⟩
  exact ⟨_, executed, (makesHundred_iff executed).2.1 (by decide)⟩

/-- Of seven executions none passed, which is shown as a negative zero. -/
theorem not_makesHundred_fiveOfSeven : Executed (noneOf 5 2).count ∧
    (comparison (noneOf 5 2).count).lookup Field.passed = some "-0.00" ∧ ¬ MakesHundred (noneOf 5 2).count := by
  have text : (comparison (noneOf 5 2).count).lookup Field.passed = some "-0.00" := by decide +kernel
  -- The sign makes the text unreadable as a count of hundredths.
  have unread : readHundredths? "-0.00" = none := by decide
  refine ⟨⟨by decide, by decide, by decide, by decide, by decide⟩, text, ?_⟩
  rintro ⟨-, -, passed, -, -, read, -⟩
  rw [text, Option.bind_some, unread] at read
  cases read

end Share
end Dashboard
