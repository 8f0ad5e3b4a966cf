import Dashboard.Json.Document
import Dashboard.Proofs.Json.Literal
import Dashboard.Proofs.Number.Binary64

/-! Documents that were written are read back as the values they were written from. -/

namespace Dashboard.Json

/-- Blanks, as they may stand between the parts of a document. -/
def Blanks (cs : List Char) : Prop :=
  ∀ c ∈ cs, isSpace c = true

/-- No characters are blanks. -/
theorem blanks_nil : Blanks [] := nofun

/-- A space is a blank. -/
theorem blanks_space : Blanks [' '] := by
  simp [Blanks, isSpace]

/-- The end of a line and the spaces in front of the next one are blanks. -/
theorem blanks_newLine (level : Nat) : Blanks (newLine level) := by
  -- The line ends first, and then come the spaces of the level.
  intro c member
  rcases List.mem_cons.1 member with rfl | space
  · rfl
  · rw [List.eq_of_mem_replicate space]
    rfl

/-- Blanks in front are left out. -/
theorem skipSpace_append {blanks : List Char} (blank : Blanks blanks) (cs : List Char) :
    skipSpace (blanks ++ cs) = skipSpace cs :=
  List.dropWhile_append_of_pos blank

/-- Any other character is left in place. -/
theorem skipSpace_cons {c : Char} (inked : isSpace c = false) (cs : List Char) : skipSpace (c :: cs) = c :: cs :=
  List.dropWhile_cons_of_neg (by simp [inked])

/-- Blanks in front are passed over, whatever is read behind them. -/
theorem scanValue_append {blanks : List Char} (blank : Blanks blanks) (fuel : Nat) (cs : List Char) :
    scanValue fuel (blanks ++ cs) = scanValue fuel cs := by
  cases fuel with
  | zero => rfl
  | succ fuel => rw [scanValue, scanValue, skipSpace_append blank]

/-- Blanks in front of the first item are passed over. -/
theorem scanItems_append {blanks : List Char} (blank : Blanks blanks) (fuel : Nat) (cs : List Char) :
    scanItems fuel (blanks ++ cs) = scanItems fuel cs := by
  cases fuel with
  | zero => rfl
  | succ fuel => rw [scanItems, scanItems, scanValue_append blank]

/-- Blanks in front of the first member are passed over. -/
theorem scanMembers_append {blanks : List Char} (blank : Blanks blanks) (fuel : Nat) (cs : List Char) :
    scanMembers fuel (blanks ++ cs) = scanMembers fuel cs := by
  cases fuel with
  | zero => rfl
  | succ fuel => rw [scanMembers, scanMembers, skipSpace_append blank]

/-- A text from which a value is read: it starts with the value, and its length bounds the steps that the reader takes
until it stands behind the value. -/
structure Reads (text : List Char) (value : Json) : Prop where
  -- Behind an opening bracket this one would close the array.
  start : ∃ c cs, text = c :: cs ∧ isSpace c = false ∧ c ≠ ']'
  -- A value takes one step, and an item or a member that holds it another one.
  scan : ∀ fuel rest, 2 * text.length ≤ fuel → Ends rest → scanValue fuel (text ++ rest) = some (value, rest)

/-- The text of a value without parts is read in a single step. -/
theorem reads_of_step {c : Char} {cs : List Char} {value : Json} (inked : isSpace c = false) (opening : c ≠ ']')
    (step : ∀ fuel rest, Ends rest → scanValue (fuel + 1) (c :: (cs ++ rest)) = some (value, rest)) :
    Reads (c :: cs) value where
  start := ⟨c, cs, rfl, inked, opening⟩
  scan fuel rest enough ended := by
    -- The character gives enough fuel for the one step that is needed.
    rw [List.length_cons] at enough
    obtain ⟨steps, rfl⟩ : ∃ steps, fuel = steps + 1 := ⟨fuel - 1, by omega⟩
    exact step steps rest ended

/-- A word is recognized by what stands behind its first letter. -/
theorem scanWord_append (word : List Char) (value : Json) (rest : List Char) :
    scanWord word value (word ++ rest) = some (value, rest) := by
  unfold scanWord
  rw [if_pos (List.isPrefixOf_iff_prefix.2 (List.prefix_append word rest)), List.drop_left]

/-- The word for nothing is read. -/
theorem reads_null : Reads (compactChars null) null :=
  reads_of_step (c := 'n') rfl (by decide) fun _ rest _ => scanWord_append "ull".toList null rest

/-- The words for true and false are read. -/
theorem reads_bool (value : Bool) : Reads (compactChars (bool value)) (bool value) := by
  cases value with
  | true => exact reads_of_step (c := 't') rfl (by decide) fun _ rest _ => scanWord_append "rue".toList _ rest
  | false => exact reads_of_step (c := 'f') rfl (by decide) fun _ rest _ => scanWord_append "alse".toList _ rest

/-- A literal is read as the text that it was written for. -/
theorem reads_text (s : String) : Reads (compactChars (text s)) (text s) := by
  -- Behind the opening quote the literal is read up to the closing one.
  refine reads_of_step (c := '"') rfl (by decide) fun fuel rest _ => ?_
  have shape : (s.toList.flatMap escapeChar ++ ['"']) ++ rest = s.toList.flatMap escapeChar ++ '"' :: rest := by simp
  show (scanLiteral ((s.toList.flatMap escapeChar ++ ['"']) ++ rest)).map _ = _
  rw [shape, scanLiteral_escaped]
  simp [ofLiteral, textOfCodes?_toNat]

/-- No digit is a blank. -/
theorem isSpace_of_isDigit {c : Char} (digit : c.isDigit = true) : isSpace c = false := by
  by_contra space
  simp only [isSpace, Bool.or_eq_true, beq_iff_eq, Bool.not_eq_false] at space
  rcases space with ((rfl | rfl) | rfl) | rfl <;> cases digit

/-- Where a digit stands in front, a number is read. -/
theorem scanValue_of_isDigit {c : Char} (digit : c.isDigit = true) (fuel : Nat) (cs : List Char) :
    scanValue (fuel + 1) (c :: cs) = scanNumber false (c :: cs) := by
  rw [scanValue, skipSpace_cons (isSpace_of_isDigit digit)]
  -- None of the characters that start another value is a digit.
  split
  case h_8 => rfl
  all_goals
    rename_i shape
    cases shape
    cases digit

/-- An integer is read, with its sign. -/
theorem reads_integer (i : Int) : Reads (compactChars (integer i)) (integer i) := by
  show Reads (Decimal.signedDigits i) _
  unfold Decimal.signedDigits
  -- With a sign in front its character tells the number, and else its first digit does.
  by_cases negative : i < 0
  · rw [if_pos negative]
    refine reads_of_step (c := '-') rfl (by decide) fun fuel rest ended => ?_
    show scanNumber true (Decimal.digits i.natAbs ++ rest) = _
    rw [scanNumber_digits (fun _ => by omega) ended]
    simp only [if_true, Option.some.injEq, Prod.mk.injEq, integer.injEq, and_true]
    omega
  · rw [if_neg negative]
    -- An integer without a sign has a digit in front, which is neither a blank nor a sign.
    obtain ⟨c, cs, shape⟩ := List.exists_cons_of_ne_nil (Decimal.digits_ne_nil i.natAbs)
    have digit : c.isDigit = true := Decimal.isDigit_of_mem_digits (shape ▸ List.mem_cons_self)
    rw [shape]
    refine reads_of_step (isSpace_of_isDigit digit) ?_ fun fuel rest ended => ?_
    · rintro rfl
      cases digit
    · have read := @scanNumber_digits false i.natAbs (by simp) rest ended
      rw [scanValue_of_isDigit digit, ← List.cons_append, ← shape, read]
      simp only [Bool.false_eq_true, if_false, Option.some.injEq, Prod.mk.injEq, integer.injEq, and_true]
      omega

/-- What stands behind an item of an array: more items, each behind a comma, and the closing bracket. -/
inductive ReadsItems : List Char → List Json → Prop
  | closed {blanks : List Char} (blank : Blanks blanks) : ReadsItems (blanks ++ [']']) []
  | more {blanks text tail : List Char} {value : Json} {items : List Json} (blank : Blanks blanks)
    (reads : Reads text value) (behind : ReadsItems tail items) :
    ReadsItems (',' :: blanks ++ text ++ tail) (value :: items)

/-- What stands behind a member of an object: more members, each behind a comma, and the closing brace. -/
inductive ReadsMembers : List Char → List (String × Json) → Prop
  | closed {blanks : List Char} (blank : Blanks blanks) : ReadsMembers (blanks ++ ['\x7d']) []
  | more {blanks gap text tail : List Char} (key : String) {value : Json} {members : List (String × Json)}
    (blank : Blanks blanks) (gapBlank : Blanks gap) (reads : Reads text value) (behind : ReadsMembers tail members) :
    ReadsMembers (',' :: blanks ++ quoted key ++ ':' :: (gap ++ text) ++ tail) ((key, value) :: members)

/-- No number goes on with a blank. -/
theorem ends_append {blanks : List Char} (blank : Blanks blanks) {rest : List Char} (ended : Ends rest) :
    Ends (blanks ++ rest) := by
  -- Without blanks nothing changes, and a blank ends a number itself.
  cases blanks with
  | nil => exact ended
  | cons c cs =>
    rintro _ ⟨⟩
    have space := blank c List.mem_cons_self
    refine ⟨?_, ?_, ?_, ?_⟩
    · by_contra digit
      simp [isSpace_of_isDigit (Bool.not_eq_false _ ▸ digit)] at space
    all_goals
      rintro rfl
      cases space

/-- No number goes on with what stands behind an item. -/
theorem ReadsItems.ends {tail : List Char} {items : List Json} (behind : ReadsItems tail items) (rest : List Char) :
    Ends (tail ++ rest) := by
  -- It is a comma, or else blanks and a bracket.
  cases behind with
  | closed blank =>
    rw [List.append_assoc]
    exact ends_append blank (by simp [Ends])
  | more => simp [Ends]

/-- No number goes on with what stands behind a member. -/
theorem ReadsMembers.ends {tail : List Char} {members : List (String × Json)} (behind : ReadsMembers tail members)
    (rest : List Char) : Ends (tail ++ rest) := by
  -- It is a comma, or else blanks and a brace.
  cases behind with
  | closed blank =>
    rw [List.append_assoc]
    exact ends_append blank (by simp [Ends])
  | more => simp [Ends]

/-- An item and those behind it are read up to the closing bracket. -/
theorem ReadsItems.scan {tail : List Char} {items : List Json} (behind : ReadsItems tail items) :
    ∀ {text : List Char} {value : Json}, Reads text value → ∀ fuel rest, 2 * (text ++ tail).length ≤ fuel →
      scanItems fuel (text ++ (tail ++ rest)) = some (value :: items, rest) := by
  -- Each item behind is the one in front for those that follow it.
  induction behind with
  | @closed blanks blank =>
    intro text value reads fuel rest enough
    simp only [List.length_append, List.length_cons] at enough
    obtain ⟨steps, rfl⟩ : ∃ steps, fuel = steps + 1 := ⟨fuel - 1, by omega⟩
    rw [scanItems, reads.scan steps _ (by omega) (ReadsItems.ends (.closed blank) rest), List.append_assoc]
    simp only [skipSpace_append blank]
    rfl
  | @more blanks next tail _ items blank nextReads behind ih =>
    intro text value reads fuel rest enough
    simp only [List.length_append, List.length_cons] at enough
    obtain ⟨steps, rfl⟩ : ∃ steps, fuel = steps + 1 := ⟨fuel - 1, by omega⟩
    rw [scanItems, reads.scan steps _ (by omega) (ReadsItems.ends (.more blank nextReads behind) rest)]
    show (scanItems steps (blanks ++ next ++ tail ++ rest)).map _ = _
    -- One step for this item leaves enough of them for the others.
    rw [List.append_assoc, List.append_assoc, scanItems_append blank,
      ih nextReads steps rest (by simp only [List.length_append]; omega)]
    rfl

/-- A member is read, and then what stands behind it. -/
theorem scanMembers_step {gap text behind : List Char} {value : Json} {fuel : Nat} (gapBlank : Blanks gap)
    (read : scanValue fuel (text ++ behind) = some (value, behind)) (key : String) :
    scanMembers (fuel + 1) (quoted key ++ ':' :: (gap ++ text) ++ behind) =
      match skipSpace behind with
      | ',' :: rest => (scanMembers fuel rest).map fun (members, rest) => ((some key, value) :: members, rest)
      | '\x7d' :: rest => some ([(some key, value)], rest)
      | _ => none := by
  have shape : quoted key ++ ':' :: (gap ++ text) ++ behind =
      '"' :: (key.toList.flatMap escapeChar ++ '"' :: ':' :: (gap ++ (text ++ behind))) := by
    simp [quoted]
  rw [scanMembers, shape, skipSpace_cons rfl]
  simp only [scanLiteral_escaped, skipSpace_cons (show isSpace ':' = false from rfl), scanValue_append gapBlank,
    textOfCodes?_toNat]
  -- Both sides look at what stands behind the value as soon as it has been read.
  generalize scanValue fuel (text ++ behind) = scanned at read ⊢
  subst read
  rfl

/-- A member and those behind it are read up to the closing brace. -/
theorem ReadsMembers.scan {tail : List Char} {members : List (String × Json)} (behind : ReadsMembers tail members) :
    ∀ (key : String) {gap text : List Char} {value : Json}, Blanks gap → Reads text value →
      ∀ fuel rest, 2 * (text ++ tail).length ≤ fuel →
      scanMembers fuel (quoted key ++ ':' :: (gap ++ text) ++ (tail ++ rest)) =
        some ((some key, value) :: members.map (Prod.map some id), rest) := by
  -- As with items, each member behind is the one in front for those that follow it.
  induction behind with
  | @closed blanks blank =>
    intro key gap text value gapBlank reads fuel rest enough
    simp only [List.length_append, List.length_cons] at enough
    obtain ⟨steps, rfl⟩ : ∃ steps, fuel = steps + 1 := ⟨fuel - 1, by omega⟩
    rw [scanMembers_step gapBlank (reads.scan steps _ (by omega) (ReadsMembers.ends (.closed blank) rest)),
      List.append_assoc, skipSpace_append blank]
    rfl
  | @more blanks nextGap next tail nextKey nextValue members blank nextGapBlank nextReads behind ih =>
    intro key gap text value gapBlank reads fuel rest enough
    simp only [List.length_append, List.length_cons] at enough
    obtain ⟨steps, rfl⟩ : ∃ steps, fuel = steps + 1 := ⟨fuel - 1, by omega⟩
    rw [scanMembers_step gapBlank (reads.scan steps _ (by omega)
      (ReadsMembers.ends (.more nextKey blank nextGapBlank nextReads behind) rest))]
    -- Behind the comma the next member is read with the steps that are left.
    show (scanMembers steps (blanks ++ quoted nextKey ++ ':' :: (nextGap ++ next) ++ tail ++ rest)).map _ = _
    rw [List.append_assoc, List.append_assoc blanks, List.append_assoc blanks, scanMembers_append blank,
      ih nextKey nextGapBlank nextReads steps rest (by simp only [List.length_append]; omega)]
    rfl

/-- An array with items is read item by item behind its bracket. -/
theorem scanValue_bracket {cs rest : List Char} {c : Char} (inside : skipSpace cs = c :: rest) (opening : c ≠ ']')
    (fuel : Nat) : scanValue (fuel + 1) ('[' :: cs) =
      (scanItems fuel (c :: rest)).map fun (items, rest) => (array items, rest) := by
  -- The first character inside decides that the array is not empty.
  rw [scanValue, skipSpace_cons rfl]
  simp only [inside]
  split
  · rename_i closing
    exact absurd (List.cons.inj closing).1 opening
  · rfl

/-- An object with members is read member by member behind its brace. -/
theorem scanValue_brace {cs rest : List Char} (inside : skipSpace cs = '"' :: rest) (fuel : Nat) :
    scanValue (fuel + 1) ('\x7b' :: cs) =
      (scanMembers fuel ('"' :: rest)).map fun (members, rest) => (ofMembers members, rest) := by
  rw [scanValue, skipSpace_cons rfl]
  simp only [inside]
  rfl

/-- Items that are read back one by one are read back together. -/
theorem mapM_of_inverse {α β : Type} {encode : α → β} {decode : β → Option α} {items : List α}
    (inverse : ∀ item ∈ items, decode (encode item) = some item) : (items.map encode).mapM decode = some items := by
  -- Each item is read by itself, and the first one that could not be would stop the others.
  induction items with
  | nil => rfl
  | cons item rest ih =>
    have others := ih fun other member => inverse other (List.mem_cons_of_mem item member)
    simp [List.mapM_cons, inverse item List.mem_cons_self, others]

/-- Members with readable keys make an object. -/
theorem ofMembers_map_some (members : List (String × Json)) :
    ofMembers (members.map (Prod.map some id)) = object members := by
  rw [ofMembers, mapM_of_inverse ?_]
  exact fun _ _ => rfl

/-- The empty array is read. -/
theorem reads_array_nil : Reads "[]".toList (array []) :=
  reads_of_step (c := '[') rfl (by decide) fun _ _ _ => rfl

/-- The empty object is read. -/
theorem reads_object_nil : Reads "\x7b\x7d".toList (object []) :=
  reads_of_step (c := '\x7b') rfl (by decide) fun _ _ _ => rfl

/-- Blanks may stand between an opening bracket and the first item. -/
theorem reads_array {blanks text tail : List Char} {value : Json} {items : List Json} (blank : Blanks blanks)
    (reads : Reads text value) (behind : ReadsItems tail items) :
    Reads ('[' :: blanks ++ text ++ tail) (array (value :: items)) where
  start := ⟨'[', _, rfl, rfl, by decide⟩
  scan fuel rest enough _ := by
    simp only [List.cons_append, List.length_append, List.length_cons] at enough
    obtain ⟨steps, rfl⟩ : ∃ steps, fuel = steps + 1 := ⟨fuel - 1, by omega⟩
    -- The bracket itself takes a step.
    have read := behind.scan reads steps rest (by simp only [List.length_append]; omega)
    obtain ⟨c, cs, rfl, inked, opening⟩ := reads.start
    have inside : skipSpace (blanks ++ (c :: cs) ++ tail ++ rest) = c :: (cs ++ (tail ++ rest)) := by
      rw [List.append_assoc, List.append_assoc, skipSpace_append blank]
      exact skipSpace_cons inked _
    exact (scanValue_bracket inside opening steps).trans (congrArg (Option.map _) read)

/-- Blanks may stand between an opening brace and the first member, and between its key and its value. -/
theorem reads_object {blanks gap text tail : List Char} (key : String) {value : Json} {members : List (String × Json)}
    (blank : Blanks blanks) (gapBlank : Blanks gap) (reads : Reads text value) (behind : ReadsMembers tail members) :
    Reads ('\x7b' :: blanks ++ quoted key ++ ':' :: (gap ++ text) ++ tail) (object ((key, value) :: members)) where
  start := ⟨'\x7b', _, rfl, rfl, by decide⟩
  scan fuel rest enough _ := by
    simp only [List.cons_append, List.length_append, List.length_cons] at enough
    obtain ⟨steps, rfl⟩ : ∃ steps, fuel = steps + 1 := ⟨fuel - 1, by omega⟩
    -- Here, too, a step goes for the brace, and the key is passed before the value is read.
    have read := behind.scan key gapBlank reads steps rest (by simp only [List.length_append]; omega)
    have inside : skipSpace (blanks ++ quoted key ++ ':' :: (gap ++ text) ++ tail ++ rest) =
        quoted key ++ ':' :: (gap ++ text) ++ (tail ++ rest) := by
      rw [List.append_assoc, List.append_assoc blanks, List.append_assoc blanks, skipSpace_append blank]
      exact skipSpace_cons rfl _
    refine (scanValue_brace inside steps).trans ((congrArg (Option.map _) read).trans ?_)
    exact congrArg (fun value => some (value, rest)) (ofMembers_map_some ((key, value) :: members))

/-- Values that are written as they are and that can be held where so many levels are left: they have neither numbers with
a fraction or an exponent nor unreadable texts, their integers are finite as doubles, and each array or object takes a
level. -/
inductive Plain : Nat → Json → Prop
  | null {levels : Nat} : Plain levels null
  | bool {levels : Nat} (value : Bool) : Plain levels (bool value)
  | integer {levels : Nat} {value : Int} (finite : (Binary64.ofInt value).isFinite = true) :
    Plain levels (integer value)
  | text {levels : Nat} (value : String) : Plain levels (text value)
  | array {levels : Nat} {items : List Json} (each : ∀ item ∈ items, Plain levels item) :
    Plain (levels + 1) (array items)
  | object {levels : Nat} {members : List (String × Json)} (each : ∀ member ∈ members, Plain levels member.2) :
    Plain (levels + 1) (object members)

/-- On one line, the items behind the first one are read. -/
theorem readsItems_compact {items : List Json} (each : ∀ item ∈ items, Reads (compactChars item) item) :
    ReadsItems (compactItems false items) items := by
  -- The items are read from the front, each behind its comma, up to the bracket.
  induction items with
  | nil => exact (ReadsItems.closed blanks_nil : ReadsItems ([] ++ [']']) [])
  | cons item rest ih =>
    obtain ⟨first, others⟩ := List.forall_mem_cons.1 each
    show ReadsItems (',' :: [] ++ compactChars item ++ compactItems false rest) (item :: rest)
    exact .more blanks_nil first (ih others)

/-- On one line, the members behind the first one are read. -/
theorem readsMembers_compact {members : List (String × Json)}
    (each : ∀ member ∈ members, Reads (compactChars member.2) member.2) :
    ReadsMembers (compactMembers false members) members := by
  -- The members are read from the front, each behind its comma, up to the brace.
  induction members with
  | nil => exact (ReadsMembers.closed blanks_nil : ReadsMembers ([] ++ ['\x7d']) [])
  | cons member rest ih =>
    obtain ⟨first, others⟩ := List.forall_mem_cons.1 each
    show ReadsMembers (',' :: [] ++ quoted member.1 ++ ':' :: ([] ++ compactChars member.2) ++
      compactMembers false rest) (member :: rest)
    exact .more member.1 blanks_nil blanks_nil first (ih others)

/-- A value is read from its text on one line. -/
theorem reads_compactChars {levels : Nat} {value : Json} (plain : Plain levels value) : Reads (compactChars value) value := by
  -- The induction gives the texts of all parts at once; the first part stands apart from those behind a comma.
  induction plain with
  | null => exact reads_null
  | bool value => exact reads_bool value
  | @integer _ value _ => exact reads_integer value
  | text value => exact reads_text value
  | @array _ items _ ih =>
    cases items with
    | nil => exact reads_array_nil
    | cons item rest =>
      obtain ⟨first, others⟩ := List.forall_mem_cons.1 ih
      show Reads ('[' :: [] ++ compactChars item ++ compactItems false rest) (array (item :: rest))
      exact reads_array blanks_nil first (readsItems_compact others)
  | @object _ members _ ih =>
    cases members with
    | nil => exact reads_object_nil
    | cons member rest =>
      obtain ⟨first, others⟩ := List.forall_mem_cons.1 ih
      show Reads ('\x7b' :: [] ++ quoted member.1 ++ ':' :: ([] ++ compactChars member.2) ++
        compactMembers false rest) (object (member :: rest))
      exact reads_object member.1 blanks_nil blanks_nil first (readsMembers_compact others)

/-- With one item a line, those behind the first one are read. -/
theorem readsItems_pretty {items : List Json} {level : Nat}
    (each : ∀ item ∈ items, Reads (prettyChars (level + 1) item) item) :
    ReadsItems (prettyItems level items) items := by
  -- Each item stands behind a comma on a line of its own.
  induction items with
  | nil => exact .closed (blanks_newLine level)
  | cons item rest ih =>
    obtain ⟨first, others⟩ := List.forall_mem_cons.1 each
    exact .more (blanks_newLine (level + 1)) first (ih others)

/-- With one member a line, those behind the first one are read. -/
theorem readsMembers_pretty {members : List (String × Json)} {level : Nat}
    (each : ∀ member ∈ members, Reads (prettyChars (level + 1) member.2) member.2) :
    ReadsMembers (prettyMembers level members) members := by
  -- Each member stands behind a comma on a line of its own.
  induction members with
  | nil => exact .closed (blanks_newLine level)
  | cons member rest ih =>
    obtain ⟨first, others⟩ := List.forall_mem_cons.1 each
    show ReadsMembers (',' :: newLine (level + 1) ++ quoted member.1 ++
      ':' :: ([' '] ++ prettyChars (level + 1) member.2) ++ prettyMembers level rest) (member :: rest)
    exact .more member.1 (blanks_newLine (level + 1)) blanks_space first (ih others)

/-- A value is read from its text with one item a line. -/
theorem reads_prettyChars {levels : Nat} {value : Json} (plain : Plain levels value) (level : Nat) :
    Reads (prettyChars level value) value := by
  -- The parts of a value stand one level deeper than the value.
  induction plain generalizing level with
  | null => exact reads_null
  | bool value => exact reads_bool value
  | @integer _ value _ => exact reads_integer value
  | text value => exact reads_text value
  | @array _ items _ ih =>
    cases items with
    | nil => exact reads_array_nil
    | cons item rest =>
      obtain ⟨first, others⟩ := List.forall_mem_cons.1 ih
      exact reads_array (blanks_newLine (level + 1)) (first _) (readsItems_pretty fun item member => others item member _)
  | @object _ members _ ih =>
    cases members with
    | nil => exact reads_object_nil
    | cons member rest =>
      obtain ⟨first, others⟩ := List.forall_mem_cons.1 ih
      show Reads ('\x7b' :: newLine (level + 1) ++ quoted member.1 ++
        ':' :: ([' '] ++ prettyChars (level + 1) member.2) ++ prettyMembers level rest) (object (member :: rest))
      exact reads_object member.1 (blanks_newLine (level + 1)) blanks_space (first _)
        (readsMembers_pretty fun member listed => others member listed _)

/-- A document that starts with a value and has nothing behind it is scanned as this value. -/
theorem Reads.scan? {cs : List Char} {value : Json} (reads : Reads cs value) :
    scan? (String.ofList cs) = some value := by
  -- The reader starts with two steps for each character of the document, and more.
  have scanned := reads.scan (2 * cs.length + 2) [] (by omega) (by simp [Ends])
  rw [List.append_nil] at scanned
  unfold Json.scan?
  simp [scanned, skipSpace]

/-- The two ways to write a document. -/
inductive Layout where
  | oneLine
  | indented
deriving DecidableEq

/-- The document of a value in a layout. -/
def Layout.write : Layout → Json → String
  | oneLine => compact
  | indented => pretty

/-- Items that can be held one by one can be held together. -/
theorem areItemsHeld_of_each {levels : Nat} {items : List Json} (each : ∀ item ∈ items, isHeld levels item = true) :
    areItemsHeld levels items = true := by
  -- They are held from the front, with the same levels left to each.
  induction items with
  | nil => rfl
  | cons item rest ih =>
    obtain ⟨first, others⟩ := List.forall_mem_cons.1 each
    simp [areItemsHeld, first, ih others]

/-- So it is with the values of members. -/
theorem areMembersHeld_of_each {levels : Nat} {members : List (String × Json)}
    (each : ∀ member ∈ members, isHeld levels member.2 = true) : areMembersHeld levels members = true := by
  induction members with
  | nil => rfl
  | cons member rest ih =>
    obtain ⟨first, others⟩ := List.forall_mem_cons.1 each
    simp [areMembersHeld, first, ih others]

/-- A plain value can be held. -/
theorem isHeld_of_plain {levels : Nat} {value : Json} (plain : Plain levels value) : isHeld levels value = true := by
  -- An array or an object takes one of the levels that are left, and leaves the others to its parts.
  induction plain with
  | null => rfl
  | bool => rfl
  | integer finite => exact finite
  | text => rfl
  | array _ ih => simp [isHeld, areItemsHeld_of_each ih]
  | object _ ih => simp [isHeld, areMembersHeld_of_each ih]

/-- A plain value is read back from its document, however it is laid out. -/
theorem Layout.read?_write (layout : Layout) {value : Json} (plain : Plain maxNesting value) :
    Json.read? (layout.write value) = some value := by
  -- What is read is what is scanned, as long as it can be held.
  have scanned : Json.scan? (layout.write value) = some value := by
    cases layout with
    | oneLine => exact (reads_compactChars plain).scan?
    | indented => exact (reads_prettyChars plain 0).scan?
  rw [read?, scanned, Option.filter, if_pos (isHeld_of_plain plain)]

/-- A number beyond the doubles may stand in a document that is scanned, and not in one that is read. -/
example : (scan? "[1e999]").isSome ∧ (read? "[1e999]").isNone := by decide +kernel

end Dashboard.Json
