import Dashboard.Proofs.Sample
import Dashboard.Proofs.Statistics.Ranking
import Dashboard.Statistics.Flakiness

/-! Flakiness: the switches of a history are at the places whose status is not that of the place before, and items are
ranked by the number of these places. -/

namespace Dashboard

open Calendar (Moment)

/-- The places of a history, from the second on, whose status differs from that of the place before. -/
def switchPlaces (history : List StatusEntry) : List Nat :=
  (List.range history.length).filter fun place =>
    0 < place ∧ history[place]?.map (·.status) ≠ history[place - 1]?.map (·.status)

/-- Behind the first entry of a history the switches are those of the rest and perhaps one more, the second entry. -/
theorem switchPlaces_cons_cons (first second : StatusEntry) (rest : List StatusEntry) :
    switchPlaces (first :: second :: rest) =
      (if first.status = second.status then [] else [1]) ++ (switchPlaces (second :: rest)).map (· + 1) := by
  -- No place of the rest is a switch because of an entry in front of it, except the first one.
  have shifted : switchPlaces (second :: rest) = (((List.range rest.length).map (· + 1)).filter fun place =>
      (second :: rest)[place]?.map (·.status) ≠ (second :: rest)[place - 1]?.map (·.status)) := by
    unfold switchPlaces
    rw [List.length_cons, List.range_succ_eq_map, List.filter_cons_of_neg (by simp)]
    simp [List.filter_map, Function.comp_def]
  rw [shifted]
  unfold switchPlaces
  rw [List.length_cons, List.range_succ_eq_map, List.filter_cons_of_neg (by simp), List.length_cons,
    List.range_succ_eq_map, List.map_cons, List.filter_cons]
  -- Only the second entry's own place depends on the first entry.
  by_cases same : first.status = second.status
  · simp [same, List.filter_map, Function.comp_def]
  · simp [same, Ne.symm same, List.filter_map, Function.comp_def]

/-- The entries of a history, from the second on, whose status differs from that of the entry before. -/
def switchesIn (history : List StatusEntry) : List StatusEntry :=
  ((history.zip history.tail).filter fun (before, entry) => before.status != entry.status).map (·.2)

/-- The second entry of a history is a switch when its status differs from the first one. -/
theorem switchesIn_cons_cons (first second : StatusEntry) (rest : List StatusEntry) :
    switchesIn (first :: second :: rest) =
      (if first.status = second.status then [] else [second]) ++ switchesIn (second :: rest) := by
  -- The first pair of neighbours decides about the second entry, and the other pairs are those of the rest.
  unfold switchesIn
  rw [List.tail_cons, List.zip_cons_cons, List.filter_cons]
  by_cases same : first.status = second.status <;> simp [same]

namespace HistoryWalk

/-- From an entry on, a walk that carries its status counts the switches behind it and keeps the time of the last one. -/
theorem foldl_step (entry : StatusEntry) (rest : List StatusEntry) (switches : Nat) (lastSwitch : Moment) :
    (rest.foldl step ⟨entry.status, switches, lastSwitch⟩).switches =
      switches + (switchesIn (entry :: rest)).length ∧
    (rest.foldl step ⟨entry.status, switches, lastSwitch⟩).lastSwitch =
      ((switchesIn (entry :: rest)).getLast?.map (·.time)).getD lastSwitch := by
  -- Whether the next entry is a switch or not, the walk then carries its status.
  induction rest generalizing entry switches lastSwitch with
  | nil => exact ⟨rfl, rfl⟩
  | cons next rest ih =>
    rw [List.foldl_cons, switchesIn_cons_cons]
    by_cases same : entry.status = next.status
    · have stepped : step ⟨entry.status, switches, lastSwitch⟩ next = ⟨next.status, switches, lastSwitch⟩ := by
        rw [step, if_pos same.symm, same]
      rw [stepped, if_pos same, List.nil_append]
      exact ih next switches lastSwitch
    · have stepped : step ⟨entry.status, switches, lastSwitch⟩ next = ⟨next.status, switches + 1, next.time⟩ := by
        rw [step, if_neg (Ne.symm same)]
      -- The switch counts at once, and its time is kept unless a later switch replaces it.
      obtain ⟨number, last⟩ := ih next (switches + 1) next.time
      rw [stepped, if_neg same, List.singleton_append, number, last, List.length_cons, List.getLast?_cons]
      refine ⟨by omega, ?_⟩
      cases (switchesIn (next :: rest)).getLast? <;> rfl

/-- The walk along a history counts its switches and finds the time of the last one, or else of the first entry. -/
theorem along_eq (first : StatusEntry) (rest : List StatusEntry) :
    (along first (first :: rest)).switches = (switchesIn (first :: rest)).length ∧
    (along first (first :: rest)).lastSwitch = (((switchesIn (first :: rest)).getLast?).getD first).time := by
  -- The first entry has the status that the walk starts with, so that it is no switch.
  have start : along first (first :: rest) = rest.foldl step ⟨first.status, 0, first.time⟩ := by
    rw [along, List.foldl_cons, step, if_pos rfl]
  obtain ⟨number, last⟩ := foldl_step first rest 0 first.time
  rw [start, number, last, Nat.zero_add]
  refine ⟨rfl, ?_⟩
  cases (switchesIn (first :: rest)).getLast? <;> rfl

end HistoryWalk

/-- The switches of a history are the entries at these places. -/
theorem map_getElem?_switchPlaces (history : List StatusEntry) :
    (switchPlaces history).map (history[·]?) = (switchesIn history).map some := by
  -- Each step along the history leaves its first entry behind.
  induction history with
  | nil => rfl
  | cons first rest ih =>
    cases rest with
    | nil => rfl
    | cons second rest =>
      rw [switchPlaces_cons_cons, switchesIn_cons_cons, List.map_append, List.map_append, List.map_map, ← ih]
      by_cases same : first.status = second.status <;> simp [same, Function.comp_def]

/-- The first entry of a history is no switch. -/
theorem length_switchesIn_le (history : List StatusEntry) : (switchesIn history).length ≤ history.length - 1 := by
  -- Every switch has an entry before it.
  have pairs : (history.zip history.tail).length = history.length - 1 := by simp
  rw [switchesIn, List.length_map, ← pairs]
  exact List.length_filter_le _ _

/-- The last switch of a history that begins with some entry, or else this entry, is at the last of these places or else
at the first place of all. -/
theorem getElem?_getLastD_switchPlaces (first : StatusEntry) (rest : List StatusEntry) :
    (first :: rest)[(switchPlaces (first :: rest)).getLastD 0]? =
      some (((switchesIn (first :: rest)).getLast?).getD first) := by
  have last := congrArg List.getLast? (map_getElem?_switchPlaces (first :: rest))
  rw [List.getLast?_map, List.getLast?_map] at last
  rw [List.getLastD_eq_getLast?]
  -- Either there is no switch and no place, or the last place is that of the last switch.
  cases found : (switchPlaces (first :: rest)).getLast? with
  | none =>
    rw [found, Option.map_none] at last
    rw [Option.map_eq_none_iff.1 last.symm]
    rfl
  | some place =>
    rw [found, Option.map_some] at last
    obtain ⟨switch, isLast, same⟩ := Option.map_eq_some_iff.1 last.symm
    -- The last place leads to the last switch, as the places lead to the switches one by one.
    simp [isLast, ← same]

namespace FlakyItem

/-- An item is the summary of a record with a history: its switches are counted where the status is not the one before,
and the last of them, or else the first entry, has the time of the last switch. -/
structure Summarizes (r : Record) (item : FlakyItem) : Prop where
  id : item.id = r.id
  name : item.name = r.name
  total : item.total = r.history.length
  statuses : item.statuses = r.history.map (·.status)
  switches : item.switches = (switchPlaces r.history).length
  fewer : item.switches ≤ item.total - 1
  lastSwitch : r.history[(switchPlaces r.history).getLastD 0]?.map (·.time) = some item.lastSwitch

/-- What is made of a record is the summary of its history, which is not empty. -/
theorem summarizes_of_ofHistory? {r : Record} {item : FlakyItem} (made : ofHistory? r.id r.name r.history = some item) :
    r.history ≠ [] ∧ Summarizes r item := by
  -- Only the history matters to the item, and with it its id and its name.
  obtain ⟨id, name, number, start, finish, counters, status, history, attributes, itemType⟩ := r
  cases history with
  | nil => cases made
  | cons first rest =>
    cases made
    have number := congrArg List.length (map_getElem?_switchPlaces (first :: rest))
    rw [List.length_map, List.length_map] at number
    obtain ⟨switches, lastSwitch⟩ := HistoryWalk.along_eq first rest
    -- What the walk has carried along is the number of switches and the time of the last one.
    refine ⟨List.cons_ne_nil first rest, rfl, rfl, rfl, rfl, switches.trans number.symm,
      switches.trans_le (length_switchesIn_le _), ?_⟩
    rw [getElem?_getLastD_switchPlaces, Option.map_some]
    exact congrArg some lastSwitch.symm

/-- An item with its place in the batch ranks before another one with more switches, and among equals by its place. -/
def FewerFirst (a b : FlakyItem × Nat) : Prop :=
  a.1.switches < b.1.switches ∨ a.1.switches = b.1.switches ∧ a.2 < b.2

/-- The items of a batch sorted by their switches are a ranking of the records with a history. -/
theorem exists_isRanking_mergeSort (records : List Record) : ∃ ranking,
    IsRanking (·.history ≠ []) Summarizes FewerFirst records ranking ∧
    ranking.map Prod.fst = (records.filterMap fun r => ofHistory? r.id r.name r.history).mergeSort
      fun a b => a.switches ≤ b.switches := by
  -- The sort only compares switches, so that the place decides where they are equal.
  refine exists_isRanking (fun r history => ?_) (fun r item => summarizes_of_ofHistory?) (fun a b c => ?_)
    (fun a b => ?_) (fun a b order tied => ?_) records
  · obtain ⟨first, rest, shape⟩ := List.exists_cons_of_ne_nil history
    rw [shape]
    exact ⟨_, rfl⟩
  · simpa using Nat.le_trans
  · simpa using Nat.le_total a.switches b.switches
  · simp only [decide_eq_true_eq] at order tied
    exact (Nat.lt_or_eq_of_le order).imp_right fun same => ⟨same, tied same.ge⟩

/-- The items with a history are ranked by their switches, fewest first and else in the order of the batch. What they are
cut to is the front of this ranking: a longer cut begins with it, and nothing that is left out has fewer switches. -/
theorem exists_ranking_bySwitches (records : List Record) : ∃ ranking,
    IsRanking (·.history ≠ []) Summarizes FewerFirst records ranking ∧
    ∀ limit, rank records limit = (ranking.take limit).map Prod.fst ∧
      (∀ more, limit ≤ more → rank records limit <+: rank records more) ∧
      ∀ kept ∈ ranking.take limit, ∀ leftOut ∈ ranking.drop limit, kept.1.switches ≤ leftOut.1.switches := by
  -- Each cut takes a part of one and the same ranking.
  obtain ⟨ranking, isRanking, sorted⟩ := exists_isRanking_mergeSort records
  have cut : ∀ limit, rank records limit = (ranking.take limit).map Prod.fst := by
    intro limit
    rw [List.map_take, sorted]
    rfl
  refine ⟨ranking, isRanking, fun limit => ⟨cut limit, fun more order => ?_, fun kept isKept leftOut isLeft => ?_⟩⟩
  · rw [cut, cut]
    exact (List.take_prefix_take_left order).map Prod.fst
  · rcases isRanking.before_of_cut limit kept isKept leftOut isLeft with fewer | ⟨same, -⟩ <;> omega

/-- Of the items that have not switched the first one in the batch comes first, and the one with most switches last. -/
theorem exists_ranking_bySwitches_testItems : (rank Sample.testItems 3).map (·.id) = ["2", "5", "4"] ∧
    rank Sample.testItems 2 <+: rank Sample.testItems 3 ∧
    ∃ ranking kept leftOut, IsRanking (·.history ≠ []) Summarizes FewerFirst Sample.testItems ranking ∧
      kept ∈ ranking.take 3 ∧ leftOut ∈ ranking.drop 3 ∧ kept.1.switches ≤ leftOut.1.switches := by
  obtain ⟨ranking, isRanking, cuts⟩ := exists_ranking_bySwitches Sample.testItems
  -- Four of the five items are ranked.
  have ranked : (rank Sample.testItems 5).length = 4 := by cbv
  rw [(cuts 5).1, List.length_map, List.length_take] at ranked
  obtain ⟨a, b, c, d, rfl⟩ := List.length_eq_four.1 (by omega : ranking.length = 4)
  refine ⟨by cbv, (cuts 2).2.1 3 (by decide), _, c, d, isRanking, by simp, by simp, ?_⟩
  exact (cuts 3).2.2 c (by simp) d (by simp)

end FlakyItem
end Dashboard
