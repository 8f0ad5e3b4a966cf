import Dashboard.Proofs.Calendar.Label
import Dashboard.Proofs.Table
import Dashboard.Report

/-! When the tables of a report can be read as tables: a text in a cell must not have a bar or the end of a line. -/

namespace Dashboard

namespace Markdown

/-- The pieces of a line between its bars. A backslash escapes the character behind it, and a bar that is escaped
separates nothing. -/
def pieces (escaped : Bool) : List Char → List (List Char)
  | [] => [[]]
  | c :: cs =>
    if c = '|' ∧ escaped = false then [] :: pieces false cs
    else (pieces (c = '\\' && !escaped) cs).modifyHead (c :: ·)

/-- A line is a row of texts when they stand between its bars, each with a blank on either side. -/
def IsRow (texts : List String) (line : List Char) : Prop :=
  pieces false line = [] :: (texts.map fun text => ' ' :: text.toList ++ [' ']) ++ [[]]

/-- A line is a rule when there are dashes between its bars. -/
def IsRule (columns : Nat) (line : List Char) : Prop :=
  pieces false line = [] :: List.replicate columns "---".toList ++ [[]]

/-- The lines of a text in which each line is ended. -/
def lines (text : String) : List (List Char) :=
  (text.toList.splitOn '\n').dropLast

/-- A text that fits into one cell. -/
def FitsCell (text : String) : Prop :=
  '\n' ∉ text.toList ∧ (pieces false text.toList).length = 1

instance (text : String) : Decidable (FitsCell text) :=
  inferInstanceAs (Decidable (_ ∧ _))

/-- Every line has a piece. -/
theorem pieces_ne_nil (escaped : Bool) (cs : List Char) : pieces escaped cs ≠ [] := by
  -- A character that is no bar goes to the front of a piece that is there already.
  cases cs with
  | nil => exact List.cons_ne_nil _ _
  | cons c cs =>
    rw [pieces]
    split
    · exact List.cons_ne_nil _ _
    · simpa using pieces_ne_nil _ cs

/-- A line that is a single piece is this piece. -/
theorem pieces_eq_singleton {escaped : Bool} {cs : List Char} (single : (pieces escaped cs).length = 1) :
    pieces escaped cs = [cs] := by
  induction cs generalizing escaped with
  | nil => rfl
  | cons c cs ih =>
    rw [pieces] at single ⊢
    split
    · rename_i separator
      -- Behind a bar there is one more piece at least.
      rw [if_pos separator, List.length_cons] at single
      exact absurd (List.length_eq_zero_iff.1 (by omega)) (pieces_ne_nil false cs)
    · rename_i inside
      rw [if_neg inside, List.length_modifyHead] at single
      rw [ih single]
      rfl

/-- A line without bars is a single piece. -/
theorem pieces_of_not_mem {cs : List Char} (unbarred : '|' ∉ cs) (escaped : Bool) : pieces escaped cs = [cs] := by
  -- No character is a bar, so that none ends the piece.
  induction cs generalizing escaped with
  | nil => rfl
  | cons c cs ih =>
    obtain ⟨first, others⟩ := not_or.1 (List.mem_cons.not.1 unbarred)
    rw [pieces, if_neg fun separator => first separator.1.symm, ih others]
    rfl

/-- Changing the head of a list changes that of its front, if there is one. -/
theorem modifyHead_append {α : Type} {f : α → α} {front : List α} (nonempty : front ≠ []) (back : List α) :
    (front ++ back).modifyHead f = front.modifyHead f ++ back := by
  obtain ⟨head, rest, rfl⟩ := List.exists_cons_of_ne_nil nonempty
  rfl

/-- A bar behind a blank separates what is in front of it from what is behind it. -/
theorem pieces_append_bar (escaped : Bool) (cs rest : List Char) :
    pieces escaped (cs ++ ' ' :: '|' :: rest) = pieces escaped (cs ++ [' ']) ++ pieces false rest := by
  -- Whether the blank is escaped or not, the bar is not.
  induction cs generalizing escaped with
  | nil => simp [pieces]
  | cons c cs ih =>
    rw [List.cons_append, pieces, List.cons_append, pieces]
    split
    · rw [ih, List.cons_append]
    · rw [ih, modifyHead_append (pieces_ne_nil _ _)]

/-- Blanks around a text make no more pieces of it. -/
theorem length_pieces_blanks (cs : List Char) :
    (pieces false (' ' :: cs ++ [' '])).length = (pieces false cs).length := by
  -- The blank behind is put at the end of the last piece; the one in front at the start of the first.
  have behind : ∀ escaped, (pieces escaped (cs ++ [' '])).length = (pieces escaped cs).length := by
    induction cs with
    | nil => simp [pieces]
    | cons c cs ih =>
      intro escaped
      rw [List.cons_append, pieces, pieces]
      split
      · rw [List.length_cons, List.length_cons, ih]
      · rw [List.length_modifyHead, List.length_modifyHead, ih]
  simp [pieces, behind]

/-- A row of cells, without the end of its line. -/
def rowLine (texts : List String) : List Char :=
  '|' :: texts.flatMap fun text => ' ' :: text.toList ++ [' ', '|']

/-- A row is written as its line and the end of it. -/
theorem toList_tableRow {texts : List String} (nonempty : texts ≠ []) :
    (tableRow texts).toList = rowLine texts ++ ['\n'] := by
  -- What stands between two texts is the end of one cell and the start of the next.
  have joined : ∀ (text : String) (rest : List String),
      [' ', '|', ' '].intercalate ((text :: rest).map String.toList) ++ [' ', '|'] =
        text.toList ++ [' ', '|'] ++ rest.flatMap fun text => ' ' :: text.toList ++ [' ', '|'] := by
    intro text rest
    induction rest generalizing text with
    | nil => simp
    | cons next rest ih => simpa using ih next
  obtain ⟨text, rest, rfl⟩ := List.exists_cons_of_ne_nil nonempty
  have row := congrArg ('|' :: ' ' :: · ++ ['\n']) (joined text rest)
  simpa [tableRow, rowLine] using row

/-- The pieces of a row are those of its texts, between an empty one on either side. -/
theorem pieces_rowLine (texts : List String) : pieces false (rowLine texts) =
    [] :: (texts.flatMap fun text => pieces false (' ' :: text.toList ++ [' '])) ++ [[]] := by
  have behind : pieces false (texts.flatMap fun text => ' ' :: text.toList ++ [' ', '|']) =
      (texts.flatMap fun text => pieces false (' ' :: text.toList ++ [' '])) ++ [[]] := by
    -- Each cell ends in a blank and a bar, whatever its text is.
    induction texts with
    | nil => rfl
    | cons text rest ih =>
      rw [List.flatMap_cons, List.flatMap_cons, List.append_assoc, List.append_assoc, ← ih, ← pieces_append_bar]
      rfl
  rw [rowLine, pieces, if_pos ⟨rfl, rfl⟩, behind]
  rfl

section

variable {α β : Type} {f : α → List β} {items : List α} (nonempty : ∀ item ∈ items, f item ≠ [])
include nonempty

/-- Dividing items into parts makes no fewer parts than items. -/
theorem length_le_length_flatMap : items.length ≤ (items.flatMap f).length := by
  -- Each item adds at least one part.
  induction items with
  | nil => exact Nat.zero_le _
  | cons item rest ih =>
    obtain ⟨first, others⟩ := List.forall_mem_cons.1 nonempty
    have positive := List.length_pos_iff.2 first
    have behind := ih others
    rw [List.flatMap_cons, List.length_append, List.length_cons]
    omega

/-- Items that are divided into as many parts as they are have one part each. -/
theorem length_eq_one_of_flatMap (same : (items.flatMap f).length = items.length) :
    ∀ item ∈ items, (f item).length = 1 := by
  -- The first item has a part at least, and the others make no fewer parts than they are.
  induction items with
  | nil => exact nofun
  | cons item rest ih =>
    obtain ⟨first, others⟩ := List.forall_mem_cons.1 nonempty
    have positive := List.length_pos_iff.2 first
    have behind := length_le_length_flatMap others
    rw [List.flatMap_cons, List.length_append, List.length_cons] at same
    exact List.forall_mem_cons.2 ⟨by omega, ih others (by omega)⟩

end

/-- The line of a row has its texts between its bars exactly when each of them is a single piece. -/
theorem isRow_rowLine_iff {texts : List String} :
    IsRow texts (rowLine texts) ↔ ∀ text ∈ texts, (pieces false text.toList).length = 1 := by
  unfold IsRow
  rw [pieces_rowLine]
  constructor
  · -- A text of several pieces would leave more of them than there are texts.
    intro shape text listed
    have asMany : (texts.flatMap fun text => pieces false (' ' :: text.toList ++ [' '])).length = texts.length := by
      have lengths := congrArg List.length shape
      simp only [List.length_append, List.length_cons, List.length_map, List.length_nil] at lengths
      omega
    rw [← length_pieces_blanks]
    exact length_eq_one_of_flatMap (fun _ _ => pieces_ne_nil _ _) asMany text listed
  · intro single
    rw [List.map_eq_flatMap, List.flatMap_congr fun text listed => ?_]
    exact pieces_eq_singleton ((length_pieces_blanks _).trans (single text listed))

/-- The line between the heading of a table and its rows, without its end. -/
def ruleLine (columns : Nat) : List Char :=
  '|' :: (List.replicate columns "---|".toList).flatten

/-- A rule is written as its line and the end of it. -/
theorem toList_tableRule (columns : Nat) : (tableRule columns).toList = ruleLine columns ++ ['\n'] := by
  simp [tableRule, ruleLine, String.toList_join, List.flatMap_replicate]

/-- The line of a rule has dashes between its bars. -/
theorem isRule_ruleLine (columns : Nat) : IsRule columns (ruleLine columns) := by
  have behind : pieces false (List.replicate columns "---|".toList).flatten =
      -- Each column is three dashes and a bar.
      List.replicate columns "---".toList ++ [[]] := by
    induction columns with
    | zero => rfl
    | succ n ih =>
      rw [List.replicate_succ, List.flatten_cons, List.replicate_succ, List.cons_append, ← ih]
      rfl
  rw [IsRule, ruleLine, pieces, if_pos ⟨rfl, rfl⟩, behind, List.cons_append]

/-- Lines that are ended one after another are divided by themselves. -/
theorem splitOn_ended (ended : List (List Char)) : (ended.flatMap (· ++ ['\n'])).splitOn '\n' =
    ended.flatMap (·.splitOn '\n') ++ [[]] := by
  -- The end of the first line divides it from the others, however it is divided itself.
  induction ended with
  | nil => rfl
  | cons line rest ih =>
    rw [List.splitOn_eq_splitOnP] at ih ⊢
    rw [List.flatMap_cons, List.append_assoc, List.singleton_append, List.splitOnP_append_cons _ _ (by simp), ih,
      List.flatMap_cons, List.append_assoc, List.splitOn_eq_splitOnP]

/-- What a text with these lines is divided into. -/
theorem lines_eq {text : String} {ended : List (List Char)} (shape : text.toList = ended.flatMap (· ++ ['\n'])) :
    lines text = ended.flatMap (·.splitOn '\n') := by
  -- Behind the last end there is an empty line, which is dropped.
  rw [lines, shape, splitOn_ended, List.dropLast_concat]

/-- A line without a break is one line. -/
theorem splitOn_eq_singleton {line : List Char} (unbroken : '\n' ∉ line) : line.splitOn '\n' = [line] := by
  rw [List.splitOn_eq_splitOnP]
  exact List.splitOnP_eq_singleton fun c listed => beq_eq_false_iff_ne.2 (ne_of_mem_of_not_mem listed unbroken)

/-- A line that is divided into no more than one is not broken. -/
theorem not_mem_of_length_splitOn {line : List Char} (single : (line.splitOn '\n').length = 1) : '\n' ∉ line := by
  -- There would be a part in front of the break and one behind it.
  intro broken
  obtain ⟨front, behind, rfl⟩ := List.append_of_mem broken
  rw [List.splitOn_eq_splitOnP, List.splitOnP_append_cons _ _ (by simp), List.length_append] at single
  have first := List.length_pos_iff.2 (List.splitOnP_ne_nil (· == '\n') front)
  have second := List.length_pos_iff.2 (List.splitOnP_ne_nil (· == '\n') behind)
  omega

/-- The line of a row is unbroken exactly when its texts are. -/
theorem not_mem_rowLine {texts : List String} :
    '\n' ∉ rowLine texts ↔ ∀ text ∈ texts, '\n' ∉ text.toList := by
  simp [rowLine]

/-- The line of a rule is unbroken. -/
theorem not_mem_ruleLine (columns : Nat) : '\n' ∉ ruleLine columns := by
  simp [ruleLine]

/-- The lines of a series' table. -/
def tableLines (series : List Chart) : List (List Char) :=
  rowLine (["name", "number", "startTime"] ++ valueKeys series) :: ruleLine (3 + (valueKeys series).length) ::
    series.map fun point => rowLine (point.cells (valueKeys series))

/-- The table of a series is its lines, each with an end. -/
theorem toList_seriesTable (series : List Chart) :
    (seriesTable series).toList = (tableLines series).flatMap (· ++ ['\n']) := by
  -- Every row has texts, since there are three columns at least.
  have rows : (series.map fun point => tableRow (point.cells (valueKeys series))).flatMap String.toList =
      (series.map fun point => rowLine (point.cells (valueKeys series))).flatMap (· ++ ['\n']) := by
    rw [List.flatMap_map, List.flatMap_map]
    exact List.flatMap_congr fun point _ => toList_tableRow (List.cons_ne_nil _ _)
  have columns : (["name", "number", "startTime"] ++ valueKeys series).length = 3 + (valueKeys series).length :=
    List.length_append
  unfold seriesTable tableLines
  dsimp only
  rw [String.toList_append, String.toList_append, String.toList_join, rows, columns, toList_tableRule,
    toList_tableRow (List.append_ne_nil_of_left_ne_nil (List.cons_ne_nil _ _) _)]
  simp

/-- Lines without breaks in them are the lines of the text that they make. -/
theorem lines_seriesTable {series : List Chart} (unbroken : ∀ line ∈ tableLines series, '\n' ∉ line) :
    lines (seriesTable series) = tableLines series := by
  -- An unbroken line is divided into itself.
  have single : ∀ line ∈ tableLines series, line.splitOn '\n' = [line] := fun line listed =>
    splitOn_eq_singleton (unbroken line listed)
  rw [lines_eq (toList_seriesTable series), List.flatMap_congr single]
  exact List.flatMap_singleton' _

/-- The names of all values in a series, each once and in ascending order. -/
structure IsColumns (keys : List String) (series : List Chart) : Prop where
  ascending : keys.Pairwise (· < ·)
  mem_iff : ∀ key, key ∈ keys ↔ ∃ point ∈ series, key ∈ point.values.keys

/-- The columns of a table are the names of all values in its series. -/
theorem isColumns_valueKeys (series : List Chart) : IsColumns (valueKeys series) series where
  ascending := List.pairwise_map.2 (Table.ascending _)
  mem_iff key := by rw [valueKeys, ← List.map_flatMap, Table.mem_keys_ofList_const, List.mem_flatMap]

/-- There is only one way to list these names in order. -/
theorem IsColumns.unique {keys others : List String} {series : List Chart} (columns : IsColumns keys series)
    (otherColumns : IsColumns others series) : keys = others :=
  columns.ascending.eq_of_mem_iff otherColumns.ascending fun key =>
    (columns.mem_iff key).trans (otherColumns.mem_iff key).symm

/-- A line is the row of a point when it has its name, its number, its start and what it has under the name of each
further column, or nothing where it has none of these. -/
def IsRowOf (point : Chart) (keys : List String) (line : List Char) : Prop :=
  ∃ name number values, IsRow (name :: number :: point.startLabel :: values) line ∧ name = point.name.getD "" ∧
    number = (point.number.elim "" fun n => Decimal.ofNat n.toNat) ∧
    List.Forall₂ (fun key value => value = (point.value? key).getD "") keys values

/-- A text is a table for a series when its lines are a heading, a rule and a row for each point, all with the same
number of cells: the name, the number, the start and one for each name of a value. -/
def IsTable (series : List Chart) (text : String) : Prop :=
  ∃ keys heading rule rows, IsColumns keys series ∧ lines text = heading :: rule :: rows ∧
    IsRow (["name", "number", "startTime"] ++ keys) heading ∧ IsRule (3 + keys.length) rule ∧
    List.Forall₂ (fun point row => IsRowOf point keys row) series rows

/-- The row of a point has the texts that are written for it. -/
theorem isRowOf_iff {point : Chart} {keys : List String} {line : List Char} :
    IsRowOf point keys line ↔ IsRow (point.cells keys) line := by
  -- Both ways to write a row read the same three things of the point, and then its values.
  have number : (point.number.elim "" fun n => Decimal.ofNat n.toNat) =
      (point.number.map fun n => Decimal.ofNat n.toNat).getD "" := by
    cases point.number <;> rfl
  have values (texts : List String) : List.Forall₂ (fun key value => value = (point.value? key).getD "") keys texts ↔
      keys.map (fun key => (point.value? key).getD "") = texts := by
    rw [← List.forall₂_eq_eq_eq, List.forall₂_map_left_iff]
    simp only [eq_comm]
  unfold IsRowOf
  simp only [values, number]
  constructor
  · rintro ⟨_, _, _, isRow, rfl, rfl, rfl⟩
    exact isRow
  · exact fun isRow => ⟨_, _, _, isRow, rfl, rfl, rfl⟩

/-- A point fits into the row of a table when each text that it brings along fits into a cell. -/
structure FitsRow (point : Chart) : Prop where
  name : ∀ name ∈ point.name, FitsCell name
  keys : ∀ key ∈ point.values.keys, FitsCell key
  values : ∀ key, ∀ value ∈ point.value? key, FitsCell value

/-- A text without breaks and bars fits into one cell. -/
theorem fitsCell_of_not_mem {text : String} (unbroken : '\n' ∉ text.toList) (unbarred : '|' ∉ text.toList) :
    FitsCell text :=
  ⟨unbroken, by rw [pieces_of_not_mem unbarred]; rfl⟩

/-- The empty text fits into one cell. -/
theorem fitsCell_empty : FitsCell "" := by decide

/-- A number fits into one cell. -/
theorem fitsCell_ofNat (n : Nat) : FitsCell (Decimal.ofNat n) := by
  -- Digits are neither breaks nor bars.
  have digits : ∀ c ∈ (Decimal.ofNat n).toList, c.isDigit = true := by
    rw [Decimal.ofNat, String.toList_ofList]
    exact fun c => Decimal.isDigit_of_mem_digits
  exact fitsCell_of_not_mem (fun broken => absurd (digits _ broken) (by decide))
    fun barred => absurd (digits _ barred) (by decide)

/-- The start of a point is written in digits with signs between them. -/
theorem fitsCell_startLabel (point : Chart) : FitsCell point.startLabel := by
  -- What is written is digits, signs and the marks of dates, none of which breaks a line or ends a cell.
  have padded (width n : Nat) : '\n' ∉ Decimal.padded width n ∧ '|' ∉ Decimal.padded width n :=
    ⟨fun broken => absurd (Decimal.isDigit_of_mem_padded broken) (by decide),
      fun barred => absurd (Decimal.isDigit_of_mem_padded barred) (by decide)⟩
  have year (y : Int) : '\n' ∉ Calendar.yearDigits y ∧ '|' ∉ Calendar.yearDigits y := by
    rcases Calendar.yearDigits_cases y with ⟨-, -, digits⟩ | ⟨-, digits⟩ | ⟨-, digits⟩ <;> simp [digits, padded]
  unfold Chart.startLabel
  cases (point.startTime.map Int64.toInt).bind Calendar.Moment.ofMillis? with
  | none => exact fitsCell_empty
  | some m =>
    apply fitsCell_of_not_mem <;>
      simp [Calendar.Moment.minuteLabel, Calendar.Moment.minuteDigits, Calendar.Date.dayDigits,
        Calendar.Date.monthDigits, padded, year]

/-- All cells of a point that fits into a row have texts that fit. -/
theorem FitsRow.cells {point : Chart} (fits : FitsRow point) (keys : List String) :
    ∀ text ∈ point.cells keys, FitsCell text := by
  -- The first three cells are those of every point, and the others go by the names of its values.
  refine List.forall_mem_append.2 ⟨?_, List.forall_mem_map.2 fun key _ => ?_⟩
  · refine List.forall_mem_cons.2 ⟨?_, List.forall_mem_cons.2 ⟨?_, List.forall_mem_singleton.2 ?_⟩⟩
    · cases named : point.name with
      | none => exact fitsCell_empty
      | some name => exact fits.name name named
    · cases point.number with
      | none => exact fitsCell_empty
      | some number => exact fitsCell_ofNat _
    · exact fitsCell_startLabel point
  · cases shown : point.value? key with
    | none => exact fitsCell_empty
    | some value => exact fits.values key value shown

/-- A series whose texts fit into cells is written as a table for it. -/
theorem isTable_of_fitsRow {series : List Chart} (fits : ∀ point ∈ series, FitsRow point) :
    IsTable series (seriesTable series) := by
  -- The heading is made of three fixed texts and the names of values, and the other rows of what the points show.
  have heading : ∀ text ∈ ["name", "number", "startTime"] ++ valueKeys series, FitsCell text := by
    -- Each further column is named by the value of some point.
    refine List.forall_mem_append.2 ⟨by decide, fun key listed => ?_⟩
    obtain ⟨point, member, has⟩ := ((isColumns_valueKeys series).mem_iff key).1 listed
    exact (fits point member).keys key has
  have rows : ∀ point ∈ series, ∀ text ∈ point.cells (valueKeys series), FitsCell text := fun point listed =>
    (fits point listed).cells _
  refine ⟨valueKeys series, _, _, _, isColumns_valueKeys series, lines_seriesTable ?_, ?_, isRule_ruleLine _, ?_⟩
  · refine List.forall_mem_cons.2 ⟨?_, List.forall_mem_cons.2 ⟨not_mem_ruleLine _, List.forall_mem_map.2 ?_⟩⟩
    · exact not_mem_rowLine.2 fun text listed => (heading text listed).1
    · exact fun point listed => not_mem_rowLine.2 fun text shown => (rows point listed text shown).1
  · exact isRow_rowLine_iff.2 fun text listed => (heading text listed).2
  · refine List.forall₂_map_right_iff.2 (List.forall₂_same.2 fun point listed => ?_)
    exact isRowOf_iff.2 (isRow_rowLine_iff.2 fun text shown => (rows point listed text shown).2)

/-- Where what a series is written as is a table for it, no line of the table is broken. -/
theorem unbroken_of_isTable {series : List Chart} (isTable : IsTable series (seriesTable series)) :
    ∀ line ∈ tableLines series, '\n' ∉ line := by
  obtain ⟨keys, heading, rule, rows, -, divided, -, -, filled⟩ := isTable
  -- There are no more lines than were ended.
  have asMany : ((tableLines series).flatMap (·.splitOn '\n')).length = (tableLines series).length := by
    rw [← lines_eq (toList_seriesTable series), divided]
    simp [tableLines, filled.length_eq]
  exact fun line listed => not_mem_of_length_splitOn
    (length_eq_one_of_flatMap (fun line _ => List.splitOn_ne_nil _ line) asMany line listed)

/-- A point fits into a row when the names of its values fit and all of its cells do. -/
theorem fitsRow_of_cells {point : Chart} {keys : List String} (columns : ∀ key ∈ point.values.keys, key ∈ keys)
    (headings : ∀ key ∈ keys, FitsCell key) (cells : ∀ text ∈ point.cells keys, FitsCell text) : FitsRow point where
  name name named := cells name (by simp [Chart.cells, Option.mem_def.1 named])
  -- The cells of a point begin with its name, and its values follow them.
  keys key has := headings key (columns key has)
  values key value shown := by
    have has := columns key (Table.mem_keys.2 ⟨value, shown⟩)
    refine cells value (List.mem_append_right _ (List.mem_map.2 ⟨key, has, ?_⟩))
    rw [Option.mem_def.1 shown, Option.getD_some]

/-- Where what a series is written as is a table for it, each text of its points fits into a cell. -/
theorem fitsRow_of_isTable {series : List Chart} (isTable : IsTable series (seriesTable series)) :
    ∀ point ∈ series, FitsRow point := by
  have unbroken := unbroken_of_isTable isTable
  obtain ⟨keys, heading, rule, rows, columns, divided, headed, -, filled⟩ := isTable
  obtain rfl := columns.unique (isColumns_valueKeys series)
  -- So the lines that the text is divided into are those that were written.
  rw [lines_seriesTable unbroken, tableLines] at divided
  obtain ⟨rfl, -, rfl⟩ : _ ∧ _ ∧ _ := by simpa using divided
  obtain ⟨headingUnbroken, behind⟩ := List.forall_mem_cons.1 unbroken
  have rowsUnbroken := List.forall_mem_map.1 (List.forall_mem_cons.1 behind).2
  -- Each text of a point stands in its row or, as the name of a value, in the heading.
  intro point listed
  have filledRow := isRowOf_iff.1 (List.forall₂_same.1 (List.forall₂_map_right_iff.1 filled) point listed)
  refine fitsRow_of_cells (fun key has => (columns.mem_iff key).2 ⟨point, listed, has⟩) (fun key asked => ?_)
    fun text shown => ?_
  · have inHeading := List.mem_append_right ["name", "number", "startTime"] asked
    exact ⟨not_mem_rowLine.1 headingUnbroken key inHeading, isRow_rowLine_iff.1 headed key inHeading⟩
  · exact ⟨not_mem_rowLine.1 (rowsUnbroken point listed) text shown, isRow_rowLine_iff.1 filledRow text shown⟩

/-- What a series is written as is a table for it exactly when each text of its points fits into a cell. -/
theorem isTable_seriesTable_iff (series : List Chart) :
    IsTable series (seriesTable series) ↔ ∀ point ∈ series, FitsRow point :=
  ⟨fitsRow_of_isTable, isTable_of_fitsRow⟩

example : seriesTable [{ name := some "Smoke", values := .ofList [("b", "1")] }, { values := .ofList [("a", "2")] }] =
    "| name | number | startTime | a | b |\n|---|---|---|---|---|\n| Smoke |  |  |  | 1 |\n|  |  |  | 2 |  |\n" := by
  decide +kernel

/-- A bar in a name makes one piece more in the row than there are in the heading. -/
theorem not_isTable_of_bar :
    (lines (seriesTable [{ name := some "a|b" }])).map (fun line => (pieces false line).length) = [5, 5, 6] ∧
    ¬ IsTable [{ name := some "a|b" }] (seriesTable [{ name := some "a|b" }]) := by
  refine ⟨by decide +kernel, fun isTable => ?_⟩
  -- The name would have to fit into its cell.
  have fits := (fitsRow_of_isTable isTable _ (List.mem_singleton_self _)).name "a|b" rfl
  revert fits
  decide

end Markdown
end Dashboard
