import Dashboard.Content.Chart
import Dashboard.Statistics.Share

/-! How often test items switch between statuses, and their ranking by it. -/

namespace Dashboard

open Calendar (Moment)

/-- The history of a test item in brief. -/
structure FlakyItem where
  id : String
  name : String
  /-- The length of the history. -/
  total : Nat
  /-- The number of entries whose status differs from that of the entry before. -/
  switches : Nat
  /-- The time of the last switch, or of the first entry if there is none. -/
  lastSwitch : Moment
  statuses : List String
deriving DecidableEq

/-- What a walk along a history carries from entry to entry. -/
structure HistoryWalk where
  /-- The status of the entry before. -/
  previous : String
  switches : Nat
  lastSwitch : Moment

namespace HistoryWalk

/-- The walk goes by one entry, which is a switch unless it repeats the status of the entry before. -/
def step (walk : HistoryWalk) (entry : StatusEntry) : HistoryWalk :=
  if entry.status = walk.previous then walk
  else { previous := entry.status, switches := walk.switches + 1, lastSwitch := entry.time }

/-- The walk along a history that begins with some entry. -/
def along (first : StatusEntry) (history : List StatusEntry) : HistoryWalk :=
  -- Taken for its own predecessor, the first entry is no switch.
  history.foldl step { previous := first.status, switches := 0, lastSwitch := first.time }

end HistoryWalk

namespace FlakyItem

/-- The history of an item in brief, unless it is empty. -/
def ofHistory? (id name : String) (history : List StatusEntry) : Option FlakyItem :=
  match history with
  | [] => none
  | first :: _ =>
    let walk := HistoryWalk.along first history
    some {
      id, name
      total := history.length
      switches := walk.switches
      lastSwitch := walk.lastSwitch
      statuses := history.map (·.status) }

/-- The switches in percent of the length of the history. -/
def percent (item : FlakyItem) : String :=
  (Share.percent item.switches item.total).twoDecimals

/-- An item as a point. -/
def toChart (item : FlakyItem) : Chart :=
  { name := some item.name, id := some item.id : Chart }.setAll [
    ("total", Decimal.ofNat item.total),
    ("switched", Decimal.ofNat item.switches),
    ("percentage", item.percent),
    ("lastSwitch", Decimal.ofInt item.lastSwitch.millis),
    ("statuses", ", ".intercalate item.statuses)]

/-- The items with a history by their switches, fewest first, up to a limit. -/
def rank (records : List Record) (limit : Nat) : List FlakyItem :=
  let items := records.filterMap fun r => ofHistory? r.id r.name r.history
  (items.mergeSort fun a b => a.switches ≤ b.switches).take limit

end FlakyItem
end Dashboard
