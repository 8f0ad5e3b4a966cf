import Dashboard.Number.Fixed
import Dashboard.Record.Count

/-! Shares of counters in each other, in percent. -/

namespace Dashboard.Share

/-- A part in percent of a whole. -/
def percent (part whole : Int) : Binary64 :=
  .ofInt part / .ofInt whole * .ofInt 100

/-- A double to two decimals; a half of a hundredth goes away from zero. -/
def roundTwo (x : Binary64) : Binary64 :=
  (x * .ofInt 100).round / .ofInt 100

/-- A part in percent with two decimals; of nothing it is plain zero. -/
def percentage (part whole : Int) : String :=
  if whole = 0 then "0" else (percent part whole).twoDecimals

/-- The shares of looked-into and of untouched failures among those that may be defects. -/
structure Investigation where
  investigated : String
  toInvestigate : String
deriving DecidableEq

namespace Investigation

/-- The counters of failures that somebody has looked into. -/
def decidedFields : List String := [Field.productBug, Field.systemIssue, Field.automationBug]

/-- The shares of a set of counters; the untouched ones are what the others leave of a hundred. -/
def ofCounts (count : String → Int) : Investigation :=
  let decided := sumCounts count decidedFields
  let relevant := Word.add decided (count Field.toInvestigate)
  if relevant = 0 then ⟨"0", "0"⟩
  else
    let share := roundTwo (percent decided relevant)
    ⟨share.twoDecimals, (.ofInt 100 - share).twoDecimals⟩

/-- The values that the two shares make. -/
def values (shares : Investigation) : List (String × String) :=
  [("investigated", shares.investigated), ("toInvestigate", shares.toInvestigate)]

end Investigation

/-- The share of failed and skipped executions; where there are none it is plain zero. -/
def notPassed (count : String → Int) : String :=
  let missed := sumCounts count [Field.failed, Field.skipped]
  if missed = 0 then "0" else percentage missed (count Field.total)

/-- The name under which a point carries its share of executions that did not pass. -/
def notPassedKey : String := "notPassed"

/-- The shares of executions in their total: those that passed are what the others leave of a hundred. -/
def executionShares (count : String → Int) : List (String × Binary64) :=
  let total := count Field.total
  if total = 0 then [Field.passed, Field.failed, Field.skipped].map (·, .ofInt 0)
  else
    let failed := roundTwo (percent (count Field.failed) total)
    let skipped := roundTwo (percent (count Field.skipped) total)
    -- Each of the two differences is rounded to a double.
    [(Field.failed, failed), (Field.skipped, skipped), (Field.passed, .ofInt 100 - failed - skipped)]

/-- The counters of defects whose shares are rounded by themselves. -/
def roundedDefects : List String :=
  [Field.toInvestigate, Field.productBug, Field.systemIssue, Field.noDefect]

/-- The shares of defects in their sum: those of the tests are what the others leave of a hundred, if anything. -/
def defectShares (count : String → Int) : List (String × Binary64) :=
  let sum := sumCounts count Field.defects
  if sum = 0 then Field.defects.map (·, .ofInt 0)
  else
    let rounded := roundedDefects.map fun field => (field, roundTwo (percent (count field) sum))
    let assigned := rounded.foldl (fun total (_, share) => total + share) (.ofInt 0)
    -- Shares that were rounded up may add up to more than a hundred.
    rounded ++ [(Field.automationBug, (.ofInt 100 - assigned).atLeastZero)]

/-- The total and all shares of a launch, as it is compared with others. -/
def comparison (count : String → Int) : List (String × String) :=
  (Field.total, Decimal.ofInt (count Field.total)) ::
    (executionShares count ++ defectShares count).map fun (field, share) => (field, share.twoDecimals)

/-- The name under which a point carries its passing rate. -/
def passingRateKey : String := "passingRate"

/-- The passing rate in hundredths of a percent, a half rounded up. -/
def passingHundredths (passed total : Int) : Int :=
  -- Numerator and denominator are doubled, so that the half to be added is whole.
  Int.tdiv (passed * 20000 + total) (2 * total)

/-- The passing rate in percent, zero where nothing was executed. -/
def passingRate (passed total : Int) : Binary64 :=
  if total ≤ 0 then .ofInt 0 else .ofInt (passingHundredths passed total) / .ofInt 100

/-- The passing rate with two decimals. -/
def passingRateText (passed total : Int) : String :=
  (passingRate passed total).twoDecimals

/-- The average of some numbers, with at most two decimals. -/
def average (numbers : List Int) : String :=
  (Binary64.ofInt (sumOf numbers) / .ofInt numbers.length).compactText

end Dashboard.Share
