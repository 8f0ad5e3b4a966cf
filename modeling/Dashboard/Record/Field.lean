/-! Names of counters: the dotted spelling of the library, and the one with dollar signs that dashboards use. -/

namespace Dashboard.Field

/-- All executions of a launch. -/
def total : String := "executions.total"
/-- The executions that passed. -/
def passed : String := "executions.passed"
/-- The executions that failed. -/
def failed : String := "executions.failed"
/-- The executions that were skipped. -/
def skipped : String := "executions.skipped"

/-- Failures that showed a fault of the product. -/
def productBug : String := "issueCounter.productBug"
/-- Failures that showed a fault of the test. -/
def automationBug : String := "issueCounter.automationBug"
/-- Failures that showed a fault of the surroundings. -/
def systemIssue : String := "issueCounter.systemIssue"
/-- Failures that showed no fault. -/
def noDefect : String := "issueCounter.noDefect"
/-- Failures that nobody has looked into yet. -/
def toInvestigate : String := "issueCounter.toInvestigate"

/-- The counters of executions, in the order of display. -/
def executions : List String := [total, passed, failed, skipped]

/-- The counters of defects, in the order of display. -/
def defects : List String := [productBug, automationBug, systemIssue, noDefect, toInvestigate]

/-- The characters between the segments of a name. -/
def isSeparator (c : Char) : Bool :=
  c == '.' || c == '$'

/-- The segments of a name between its separators; a separator at an end leaves an empty segment there. -/
def segments : List Char → List (List Char)
  | [] => [[]]
  | c :: cs =>
    if isSeparator c then [] :: segments cs
    else
      match segments cs with
      | segment :: rest => (c :: segment) :: rest
      | [] => [[c]]

/-- A segment starts with a letter or an underscore and goes on with letters, digits and underscores. -/
def isSegment : List Char → Bool
  | [] => false
  | c :: cs => (c.isAlpha || c == '_') && cs.all fun c => c.isAlphanum || c == '_'

/-- Whether a text can name a counter, in either spelling. -/
def isValid (name : String) : Bool :=
  (segments name.toList).all isSegment

/-- The segment that a name may carry in front in the spelling of dashboards. -/
def leadingSegment : List Char := "statistics.".toList

/-- The library's spelling of a name: dots between the segments, and one leading segment for statistics left out. -/
def internal (name : String) : String :=
  let dotted := name.toList.map fun c => if c = '$' then '.' else c
  -- By now the leading segment ends in a dot in either spelling.
  String.ofList (if leadingSegment.isPrefixOf dotted then dotted.drop leadingSegment.length else dotted)

/-- The spelling of a name with dollar signs between its segments. -/
def external (name : String) : String :=
  String.ofList (name.toList.map fun c => if c = '.' then '$' else c)

end Dashboard.Field
