import Acquisition.Json.Basic

/-!
# Tables of a TOML document

A document builds one table out of many headers and keys.  A table may be opened by a header once;
it may have come into being before as a part of the way to another one.  A table that dotted keys
made is closed to headers, and one that a header opened is closed to dotted keys.

## Main definitions

* `TomlItem`, `TomlTable`: what stands under a key.
* `TomlTable.assign?`, `TomlTable.open?`, `TomlTable.append?`: keys, headers, headers of arrays.
* `TomlTable.json`: the table as a value.
-/

namespace Acquisition

/-- How a table came into being. -/
inductive TomlOrigin
  /-- As a part of the way of a header. -/
  | passed
  /-- As a part of the way of a dotted key. -/
  | dotted
  /-- By a header of its own. -/
  | opened
  deriving DecidableEq, Repr, Inhabited

/-- What stands under a key: a value, a table, or an array of tables. -/
inductive TomlItem
  | value (value : Json)
  | table (origin : TomlOrigin) (entries : List (String × TomlItem))
  | tables (items : List (List (String × TomlItem)))
  deriving Inhabited

/-- The entries of a table. -/
abbrev TomlTable := List (String × TomlItem)

namespace TomlTable

/-- The item under a key. -/
def item? (table : TomlTable) (key : String) : Option TomlItem :=
  (table.find? (·.1 == key)).map (·.2)

/-- Puts an item under a key, in the place of one that stands there. -/
def set (table : TomlTable) (key : String) (item : TomlItem) : TomlTable :=
  match table with
  | [] => [(key, item)]
  | (other, first) :: rest =>
    if other == key then (key, item) :: rest else (other, first) :: set rest key item

/-- Changes the table at the end of a way of keys, where the last table of an array stands for the
array.  Tables that are missing on the way are made. -/
def alter? (origin : TomlOrigin) (change : TomlOrigin → TomlTable → Option TomlTable) :
    List String → TomlOrigin → TomlTable → Option TomlTable
  | [], found, table => change found table
  | key :: keys, _, table =>
    match table.item? key with
    | none => (alter? origin change keys origin []).map fun below => table.set key (.table origin below)
    | some (.value _) => none
    | some (.tables items) =>
      (alter? origin change keys .opened (items.getLast?.getD [])).map fun below =>
        table.set key (.tables (items.dropLast ++ [below]))
    | some (.table found inner) =>
      if origin == .dotted && found == .opened then none
      else
        (alter? origin change keys found inner).map fun below =>
          table.set key (.table found below)

/-- Puts a value under a dotted key, whose last part must be new. -/
def assign? (way : List String) (key : String) (value : Json) (found : TomlOrigin)
    (table : TomlTable) : Option TomlTable :=
  alter? .dotted (fun found table =>
    if (found == .dotted) == way.isEmpty || (table.item? key).isSome then none
    else some (table ++ [(key, .value value)])) way found table

/-- Opens a table by its header. -/
def open? (way : List String) (key : String) (table : TomlTable) : Option TomlTable :=
  alter? .passed (fun _ table =>
    match table.item? key with
    | none => some (table.set key (.table .opened []))
    | some (.table .passed inner) => some (table.set key (.table .opened inner))
    | some _ => none) way .opened table

/-- Appends a table to an array by its header. -/
def append? (way : List String) (key : String) (table : TomlTable) : Option TomlTable :=
  alter? .passed (fun _ table =>
    match table.item? key with
    | none => some (table.set key (.tables [[]]))
    | some (.tables items) => some (table.set key (.tables (items ++ [[]])))
    | some _ => none) way .opened table

mutual

/-- An item as a value. -/
def itemJson : TomlItem → Json
  | .value value => value
  | .table _ entries => .obj (entriesJson entries)
  | .tables items => .arr (tablesJson items)

/-- The entries of a table as fields. -/
def entriesJson : List (String × TomlItem) → List (String × Json)
  | [] => []
  | (key, item) :: rest => (key, itemJson item) :: entriesJson rest

/-- The tables of an array as values. -/
def tablesJson : List (List (String × TomlItem)) → List Json
  | [] => []
  | entries :: rest => .obj (entriesJson entries) :: tablesJson rest

end

/-- A table as a value. -/
def json (table : TomlTable) : Json := .obj (entriesJson table)

end TomlTable

end Acquisition
