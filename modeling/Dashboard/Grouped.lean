import Dashboard.Indexed

/-! Lists of items under keys, in the order in which the keys were first mentioned. -/

namespace Dashboard

/-- Series of items under keys; the order of the keys is part of the value. -/
structure Grouped (α : Type) where
  entries : List (String × List α)
deriving DecidableEq

namespace Grouped

variable {α β : Type}

/-- No groups. -/
def empty : Grouped α := ⟨[]⟩

instance : Inhabited (Grouped α) := ⟨empty⟩

/-- Changes the series under a key where it stands, or adds a changed empty series at the end. -/
def alterEntry (key : String) (change : List α → List α) : List (String × List α) → List (String × List α)
  -- A key that is mentioned for the first time goes behind all others.
  | [] => [(key, change [])]
  | (k, series) :: rest =>
    if k = key then (k, change series) :: rest else (k, series) :: alterEntry key change rest

/-- Puts a whole series under a key; a series it replaces leaves its place to it. -/
def insert (g : Grouped α) (key : String) (series : List α) : Grouped α :=
  ⟨alterEntry key (fun _ => series) g.entries⟩

/-- Appends an item to the series under a key. -/
def push (g : Grouped α) (key : String) (item : α) : Grouped α :=
  ⟨alterEntry key (· ++ [item]) g.entries⟩

/-- The series under a key. -/
def get? (g : Grouped α) (key : String) : Option (List α) :=
  g.entries.lookup key

/-- The keys in order. -/
def keys (g : Grouped α) : List String :=
  g.entries.map (·.1)

/-- Applies a function to every series. -/
def mapSeries (f : List α → List β) (g : Grouped α) : Grouped β :=
  ⟨g.entries.map fun (key, series) => (key, f series)⟩

/-- The number of groups. -/
def size (g : Grouped α) : Nat :=
  g.entries.length

/-- Whether there are no groups. -/
def isEmpty (g : Grouped α) : Bool :=
  g.entries.isEmpty

/-- The groups of a list of keyed series, where the last series under a key counts. -/
def ofList (entries : List (String × List α)) : Grouped α :=
  entries.foldl (fun g (key, series) => g.insert key series) empty

/-- Puts an item into the group in the slot of its key, or into a new group behind all others; an item without a key is
left out. -/
def place (key? : α → Option String) (groups : Indexed (String × List α)) (item : α) : Indexed (String × List α) :=
  match key? item with
  | some key => groups.upsert key (fun (k, group) => (k, group ++ [item])) (key, [item])
  | none => groups

/-- Groups items by their keys. -/
def groupBy (key? : α → Option String) (items : List α) : Grouped α :=
  ⟨(items.foldl (place key?) .empty).items⟩

end Grouped
end Dashboard
