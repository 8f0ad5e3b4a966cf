import Dashboard.Proofs.Calendar.Timestamp
import Dashboard.Proofs.Json.Decode
import Dashboard.Record.Json

/-! Records are read back from the JSON values that they are written as. -/

namespace Dashboard

open Calendar (Moment)

namespace Json

/-- A moment is read back from its timestamp. -/
theorem moment?_ofMoment (m : Moment) : moment? (ofMoment m) = some m := by
  unfold moment? ofMoment
  rw [text?_text, Option.bind_some, Moment.ofTimestamp?_timestamp]

/-- A counter is read back from its number. -/
theorem signed?_ofSigned (value : Int64) : signed? (ofSigned value) = some value := by
  show Word.signed? value.toInt = _
  -- The number is within the range of the counters.
  unfold Word.signed?
  rw [if_pos ⟨Int64.le_toInt value, Int64.toInt_le value⟩, Int64.ofInt_toInt]

/-- An unsigned number is read back. -/
theorem unsigned?_ofUnsigned (value : UInt64) : unsigned? (ofUnsigned value) = some value := by
  -- No unsigned word is below zero or as large as the number of such words.
  have small := value.toNat_lt_size
  show Word.unsigned? (value.toNat : Int) = _
  unfold Word.unsigned?
  rw [if_pos ⟨by omega, by omega⟩, Int.toNat_natCast, UInt64.ofNat_toNat]

/-- A number that may be left out is read back, or as left out. -/
theorem nullable?_ofOption_unsigned (value : Option UInt64) :
    nullable? unsigned? (ofOption ofUnsigned value) = some value :=
  nullable?_ofOption unsigned?_ofUnsigned (by simp [ofUnsigned, natural]) value

/-- A moment that may be left out is read back, or as left out. -/
theorem nullable?_ofOption_moment (value : Option Moment) :
    nullable? moment? (ofOption ofMoment value) = some value :=
  nullable?_ofOption moment?_ofMoment (by simp [ofMoment]) value

/-- A timestamp is a plain value. -/
theorem plain_ofMoment {levels : Nat} (m : Moment) : Plain levels (ofMoment m) := .text m.timestamp

/-- A counter is a plain value, since no counter lies beyond the doubles. -/
theorem plain_ofSigned {levels : Nat} (value : Int64) : Plain levels (ofSigned value) := by
  have least := Int64.le_toInt value
  have greatest := Int64.toInt_lt value
  exact .integer (Binary64.isFinite_ofInt (by omega))

/-- An unsigned number is a plain value, since none of them lies beyond the doubles. -/
theorem plain_ofUnsigned {levels : Nat} (value : UInt64) : Plain levels (ofUnsigned value) :=
  .integer (Binary64.isFinite_ofInt value.toNat_lt)

end Json

open Json (Fields Plain plain_map plain_ofMoment plain_ofOption plain_ofSigned plain_ofTable plain_ofUnsigned)

/-- An entry of a history is read back from its object. -/
theorem StatusEntry.ofJson?_toJson (entry : StatusEntry) : ofJson? entry.toJson = some entry := by
  unfold ofJson? toJson
  refine (Json.bind_fields?_object (by rfl) (by decide) _).trans ?_
  simp [Fields.required, List.lookup, Json.text?, Json.moment?_ofMoment]

/-- An attribute is read back from its object. -/
theorem Attribute.ofJson?_toJson (tag : Attribute) : ofJson? tag.toJson = some tag := by
  unfold ofJson? toJson
  -- No name comes twice in the object, and none is unknown.
  refine (Json.bind_fields?_object (by rfl) (by decide) _).trans ?_
  simp [Fields.required, Fields.optional, Fields.withDefault, List.lookup, Json.text?, Json.nullable?_ofOption_text]

/-- A reference to a launch is read back from its object. -/
theorem LaunchRef.ofJson?_toJson (launch : LaunchRef) : ofJson? launch.toJson = some launch := by
  unfold ofJson? toJson
  -- Each field is found under its own name and read by the decoder for what was written.
  refine (Json.bind_fields?_object (by rfl) (by decide) _).trans ?_
  simp [Fields.required, Fields.optional, Fields.withDefault, List.lookup, Json.text?, Json.nullable?_ofOption_text,
    Json.nullable?_ofOption_unsigned]

/-- A record is read back from its object. -/
theorem Record.ofJson?_toJson (r : Record) : ofJson? r.toJson = some r := by
  unfold ofJson? toJson
  refine (Json.bind_fields?_object (by rfl) (by decide) _).trans ?_
  -- Each field is read by a decoder that reads back what is written for it.
  simp [Fields.required, Fields.optional, Fields.withDefault, List.lookup, Json.text?, Json.moment?_ofMoment,
    Json.nullable?_ofOption_text, Json.nullable?_ofOption_unsigned, Json.nullable?_ofOption_moment,
    Json.table?_ofTable Json.signed?_ofSigned, Json.list?_map StatusEntry.ofJson?_toJson,
    Json.list?_map Attribute.ofJson?_toJson]

/-- An entry of a history is a plain value of one level. -/
theorem StatusEntry.plain_toJson {levels : Nat} (entry : StatusEntry) : Plain (levels + 1) entry.toJson :=
  .object (by simp [Plain.text, plain_ofMoment])

/-- An attribute is a plain value of one level. -/
theorem Attribute.plain_toJson {levels : Nat} (tag : Attribute) : Plain (levels + 1) tag.toJson :=
  .object (by simp [Plain.text, plain_ofOption])

/-- A reference to a launch is a plain value of one level. -/
theorem LaunchRef.plain_toJson {levels : Nat} (launch : LaunchRef) : Plain (levels + 1) launch.toJson :=
  .object (by simp [Plain.text, plain_ofOption, plain_ofUnsigned])

/-- A record is a plain value of three levels, of which lists and their objects take two. -/
theorem Record.plain_toJson {levels : Nat} (r : Record) : Plain (levels + 3) r.toJson :=
  .object (by simp [Plain.text, plain_ofMoment, plain_ofUnsigned, plain_ofSigned, plain_ofOption, plain_ofTable,
    plain_map, StatusEntry.plain_toJson, Attribute.plain_toJson])

end Dashboard
