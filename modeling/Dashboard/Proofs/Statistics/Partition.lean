import Dashboard.Proofs.Number.Word
import Dashboard.Record.Count
import Mathlib

/-! Sums of counters: what words make of them, and that records divided by a key lose nothing, since the sums over the
groups make the sum over all. -/

namespace Dashboard

/-- Adding counts as words, from a word on, gives their exact sum, wrapped. -/
theorem foldl_add_wrap (counts : List Int) (start : Int) :
    counts.foldl Word.add (Word.wrap start) = Word.wrap (start + counts.sum) := by
  -- Each addition wraps what the one before it has wrapped, which makes no difference.
  induction counts generalizing start with
  | nil => simp
  | cons count rest ih =>
    rw [List.foldl_cons, Word.add_eq_wrap, Word.wrap_wrap_add, ih, List.sum_cons, Int.add_assoc]

/-- A sum of counts is their exact sum, wrapped. -/
theorem sumOf_eq_wrap (counts : List Int) : sumOf counts = Word.wrap counts.sum := by
  -- Zero is a word, so the sum may start from it.
  have sum := foldl_add_wrap counts 0
  rwa [Word.wrap_zero, Int.zero_add] at sum

/-- The exact sum of one counter over several records, be it a word or not. -/
def exactOver (records : List Record) (field : String) : Int :=
  (records.map (·.count field)).sum

/-- The sum over several records is the exact one, wrapped. -/
theorem sumOver_eq_wrap (records : List Record) (field : String) :
    sumOver records field = Word.wrap (exactOver records field) :=
  sumOf_eq_wrap _

/-- An exact sum that is a word is not changed by adding words. -/
theorem sumOver_of_fits {records : List Record} {field : String} (fits : Word.Fits (exactOver records field)) :
    sumOver records field = exactOver records field := by
  rw [sumOver_eq_wrap, Word.wrap_of_fits fits]

/-- Among distinct keys a value that belongs to one of them is counted once. -/
theorem sum_map_ite_eq {α : Type} [AddCommMonoid α] {keys : List String} (distinct : keys.Nodup) {key : String}
    (listed : key ∈ keys) (value : α) : (keys.map fun k => if key = k then value else 0).sum = value := by
  -- The value is counted at its own key, and only zeros at the others.
  induction keys with
  | nil => cases listed
  | cons k rest ih =>
    obtain ⟨absent, restDistinct⟩ := List.nodup_cons.1 distinct
    rw [List.map_cons, List.sum_cons]
    by_cases here : key = k
    · have others : (rest.map fun k => if key = k then value else 0) = rest.map fun _ => 0 :=
        List.map_congr_left fun other member => if_neg fun same => absent (by rwa [← here, same])
      rw [if_pos here, others]
      simp
    · -- The key comes later, so nothing is counted here.
      have further : key ∈ rest := (List.mem_cons.1 listed).resolve_left here
      rw [if_neg here, ih restDistinct further, zero_add]

/-- The sums over the groups of some items make the sum over all of them. -/
theorem sum_map_sum_filter {α β : Type} [AddCommMonoid α] {keys : List String} (distinct : keys.Nodup)
    (keyOf : β → String) (items : List β) (covered : ∀ item ∈ items, keyOf item ∈ keys) (value : β → α) :
    (keys.map fun key => ((items.filter (keyOf · = key)).map value).sum).sum = (items.map value).sum := by
  -- Each item joins one group, so it adds its value once.
  induction items with
  | nil => simp
  | cons item rest ih =>
    have restCovered : ∀ other ∈ rest, keyOf other ∈ keys := fun other member =>
      covered other (List.mem_cons_of_mem item member)
    have apart : ∀ key, (((item :: rest).filter (keyOf · = key)).map value).sum =
        (if keyOf item = key then value item else 0) + ((rest.filter (keyOf · = key)).map value).sum := by
      intro key
      by_cases here : keyOf item = key <;> simp [here]
    simp only [apart]
    rw [List.sum_map_add, sum_map_ite_eq distinct (covered item List.mem_cons_self), ih restCovered,
      List.map_cons, List.sum_cons]

/-- The sizes of the groups of some items make their number. -/
theorem sum_map_length_filter {β : Type} {keys : List String} (distinct : keys.Nodup)
    (keyOf : β → String) (items : List β) (covered : ∀ item ∈ items, keyOf item ∈ keys) :
    (keys.map fun key => (items.filter (keyOf · = key)).length).sum = items.length := by
  -- Every item counts as one.
  have ones := sum_map_sum_filter distinct keyOf items covered fun _ => 1
  simpa using ones

end Dashboard
