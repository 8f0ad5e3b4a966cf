import Dashboard.Content.Basic
import Dashboard.Proofs.Number.Decimal
import Dashboard.Proofs.Table
import Mathlib

/-! What the points of a content show under a name, and which groups a content is made of. -/

namespace Dashboard

namespace Chart

/-- After setting a value the point shows it under its name. -/
theorem value?_set (point : Chart) (key value k : String) :
    (point.set key value).value? k = if k = key then some value else point.value? k :=
  Table.get?_insert point.values key k value

/-- Values that are set under distinct names are all shown. -/
theorem value?_setAll {values : List (String × String)} (distinct : (values.map Prod.fst).Nodup) (point : Chart)
    {key value : String} (member : (key, value) ∈ values) : (point.setAll values).value? key = some value := by
  -- What is set first is not set again by the others.
  have kept : ∀ (rest : List (String × String)) (point : Chart), key ∉ rest.map Prod.fst →
      (point.setAll rest).value? key = point.value? key := by
    intro rest
    induction rest with
    | nil => intro point _; rfl
    | cons head rest ih =>
      intro point absent
      obtain ⟨other, further⟩ := not_or.1 (List.mem_cons.not.1 absent)
      refine (ih (point.set head.1 head.2) further).trans ?_
      rw [value?_set, if_neg other]
  -- The value that is looked for is either set first and kept, or set by one of the others.
  induction values generalizing point with
  | nil => cases member
  | cons head rest ih =>
    obtain ⟨fresh, restDistinct⟩ := List.nodup_cons.1 distinct
    rcases List.mem_cons.1 member with rfl | later
    · refine (kept rest _ fresh).trans ?_
      rw [value?_set, if_pos rfl]
    · exact ih restDistinct _ later

/-- Setting values changes nothing but the table of values. -/
theorem setAll_eq (values : List (String × String)) (point : Chart) : point.setAll values =
    { point with values := values.foldl (fun t (key, value) => t.insert key value) point.values } := by
  -- Each value is set in the table that the ones before it left.
  induction values generalizing point with
  | nil => rfl
  | cons head rest ih => exact ih (point.set head.1 head.2)

/-- A point apart from its values: whom it describes. -/
def bare (point : Chart) : Chart :=
  { point with values := .empty }

/-- Setting one number after another shows each of them under its name. -/
theorem value?_foldl_setInt (fields : List String) (count : String → Int) (point : Chart) (k : String) :
    (fields.foldl (fun point field => point.setInt field (count field)) point).value? k =
      if k ∈ fields then some (Decimal.ofInt (count k)) else point.value? k := by
  -- A field that is named again gets the same number again.
  induction fields generalizing point with
  | nil => simp
  | cons field rest ih =>
    rw [List.foldl_cons, ih, setInt, value?_set]
    by_cases here : k = field
    · subst here
      simp
    · simp [here]

/-- Setting numbers does not change whom the point describes. -/
theorem bare_foldl_setInt (fields : List String) (count : String → Int) (point : Chart) :
    (fields.foldl (fun point field => point.setInt field (count field)) point).bare = point.bare := by
  -- Only the values are ever set.
  induction fields generalizing point with
  | nil => rfl
  | cons field rest ih =>
    rw [List.foldl_cons, ih]
    rfl

/-- Setting a value does not change whom the point describes. -/
@[simp] theorem bare_set (point : Chart) (key value : String) : (point.set key value).bare = point.bare := rfl

/-- Setting a number does not change whom the point describes. -/
@[simp] theorem bare_setInt (point : Chart) (key : String) (i : Int) : (point.setInt key i).bare = point.bare := rfl

/-- Setting values does not change whom the point describes. -/
@[simp] theorem bare_setAll (values : List (String × String)) (point : Chart) :
    (point.setAll values).bare = point.bare := by
  -- Only the table of values is another.
  rw [setAll_eq]
  rfl

/-- A point made of a record has no values yet. -/
@[simp] theorem bare_ofRecord (r : Record) : (ofRecord r).bare = ofRecord r := rfl

/-- The integer that a point shows under a name. -/
def integer? (point : Chart) (name : String) : Option Int :=
  (point.value? name).bind fun text => Decimal.readInt? text.toList

/-- An integer that is shown is read as itself. -/
theorem integer?_of_value? {point : Chart} {name : String} {i : Int}
    (shown : point.value? name = some (Decimal.ofInt i)) : point.integer? name = some i := by
  -- Writing an integer and reading it gives it back.
  unfold integer?
  rw [shown, Option.bind_some, Decimal.ofInt, String.toList_ofList, Decimal.readInt?_signedDigits]

end Chart

/-- Where each item has a result, all of them together have these results. -/
theorem mapM_eq_pure {m : Type → Type} [Monad m] [LawfulMonad m] {α β : Type} {f : α → m β} {g : α → β}
    {items : List α} (each : ∀ item ∈ items, f item = pure (g item)) : items.mapM f = pure (items.map g) := by
  -- The head has its result, and the others have theirs by induction.
  induction items with
  | nil => rfl
  | cons item rest ih =>
    have others := ih fun other member => each other (List.mem_cons_of_mem item member)
    simp [List.mapM_cons, each item List.mem_cons_self, others]

namespace Content

/-- All points of a content. -/
def allPoints (content : Content) : List Chart :=
  content.entries.flatMap (·.2)

/-- The sum of the integers under a name over all points, none unless each point shows one. -/
def sum? (content : Content) (name : String) : Option Int :=
  (content.allPoints.mapM (Chart.integer? · name)).map List.sum

/-- Where each point shows an integer, their sum is found. -/
theorem sum?_eq {α : Type} {content : Content} {name : String} {items : List α} {point : α → Chart} {i : α → Int}
    (points : content.allPoints = items.map point)
    (shown : ∀ item ∈ items, (point item).integer? name = some (i item)) :
    content.sum? name = some (items.map i).sum := by
  -- Reading point by point succeeds throughout.
  have read : items.mapM ((Chart.integer? · name) ∘ point) = some (items.map i) := mapM_eq_pure shown
  unfold sum?
  rw [points, List.mapM_map, read]
  rfl

/-- A content with one series has the points of that series. -/
@[simp] theorem allPoints_result (series : List Chart) : (result series).allPoints = series := by
  -- The series is put into a content without any.
  simp [allPoints, result, Grouped.insert, Grouped.empty, Grouped.alterEntry]

/-- With a series put under a key each point is one from before or one of the series. -/
theorem mem_allPoints_insert {content : Content} {key : String} {series : List Chart} {point : Chart}
    (member : point ∈ allPoints (content.insert key series)) : point ∈ content.allPoints ∨ point ∈ series := by
  obtain ⟨entries⟩ := content
  -- The series stands where its key stood, or else at the end.
  unfold allPoints Grouped.insert at member
  unfold allPoints
  induction entries with
  | nil => simpa [Grouped.alterEntry] using member
  | cons head rest ih =>
    rw [Grouped.alterEntry] at member
    simp only [List.flatMap_cons, List.mem_append]
    split at member <;> rw [List.flatMap_cons, List.mem_append] at member
    · exact member.elim .inr (.inl ∘ .inr)
    · exact member.elim (.inl ∘ .inl) fun later => (ih later).imp_left .inr

/-- A content consists of its entries. -/
theorem eq_of_entries {content other : Content} (same : content.entries = other.entries) : content = other := by
  -- There is nothing in a content but its entries.
  cases content
  cases other
  cases same
  rfl

/-- A key that is mentioned for the first time goes to the end. -/
theorem alterEntry_of_not_mem {α : Type} {key : String} (change : List α → List α)
    {entries : List (String × List α)} (fresh : key ∉ entries.map Prod.fst) :
    Grouped.alterEntry key change entries = entries ++ [(key, change [])] := by
  -- No entry on the way has the key.
  induction entries with
  | nil => rfl
  | cons head rest ih =>
    obtain ⟨k, series⟩ := head
    simp only [List.map_cons, List.mem_cons, not_or] at fresh
    rw [Grouped.alterEntry, if_neg (Ne.symm fresh.1), ih fresh.2]
    rfl

/-- Points under distinct keys each make a group of their own. -/
theorem entries_ofPoints {points : List (String × Chart)} (distinct : (points.map Prod.fst).Nodup) :
    (ofPoints points).entries = points.map fun (key, point) => (key, [point]) := by
  -- The keys so far stay different from those that follow.
  have general : ∀ (rest : List (String × Chart)) (content : Content),
      (content.entries.map Prod.fst ++ rest.map Prod.fst).Nodup →
      (rest.foldl (fun content (entry : String × Chart) => content.push entry.1 entry.2) content).entries =
        content.entries ++ rest.map fun entry => (entry.1, [entry.2]) := by
    intro rest
    induction rest with
    | nil => intro content _; simp
    | cons head rest ih =>
      intro content distinct
      -- A key that comes later is not in use yet, so the point opens a series behind all others.
      have fresh : head.1 ∉ content.entries.map Prod.fst := by
        intro old
        exact (List.nodup_append.1 distinct).2.2 _ old _ List.mem_cons_self rfl
      have pushed : (content.push head.1 head.2).entries = content.entries ++ [(head.1, [head.2])] :=
        alterEntry_of_not_mem (· ++ [head.2]) fresh
      rw [List.foldl_cons, ih _ (by rw [pushed]; simpa using distinct), pushed]
      simp
  simpa [ofPoints, Grouped.empty] using general points .empty (by simpa [Grouped.empty] using distinct)

/-- A content with one point under each of some distinct keys has these keys. -/
theorem keys_ofPoints {points : List (String × Chart)} (distinct : (points.map Prod.fst).Nodup) :
    (ofPoints points).keys = points.map Prod.fst := by
  -- Each group is under its own key, and the keys stand in the order of the points.
  unfold Grouped.keys
  rw [entries_ofPoints distinct, List.map_map]
  rfl

/-- A content with one point under each of some distinct keys has these points. -/
theorem allPoints_ofPoints {points : List (String × Chart)} (distinct : (points.map Prod.fst).Nodup) :
    (ofPoints points).allPoints = points.map Prod.snd := by
  -- Each group holds a single point.
  unfold allPoints
  rw [entries_ofPoints distinct, List.flatMap_map, List.map_eq_flatMap]

end Content
end Dashboard
