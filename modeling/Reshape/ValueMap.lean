import Reshape.Json.Equality
import Reshape.Keyed

/-!
# Value maps

A finite table from values to values that answers for every value:

* `insert` replaces the entry whose key is the same value, or adds one at the end;
* `lookup` answers with the entry of the value, else with the entry of `null`, else with `null`;
* `chain` looks a value up in one table after another;
* `ofJson?` reads a table from an object or from a list of pairs.
-/

namespace Reshape

/-- A table from values to values. -/
structure ValueMap where
  entries : List (Json × Json)
deriving DecidableEq

namespace ValueMap

def empty : ValueMap := ⟨[]⟩

/-- Writes `target` under `source` into a list of entries. -/
def insertEntry (source target : Json) : List (Json × Json) → List (Json × Json)
  | [] => [(source, target)]
  | (key, value) :: rest =>
    if Json.Same key source then (key, target) :: rest
    else (key, value) :: insertEntry source target rest

/-- Adds an entry, or gives the entry with the same key another target. -/
def insert (table : ValueMap) (source target : Json) : ValueMap :=
  ⟨insertEntry source target table.entries⟩

/-- Adds the entry that answers for values without one of their own. -/
def withFallback (table : ValueMap) (target : Json) : ValueMap := table.insert .null target

/-- The table of the pairs, inserted in order. -/
def ofPairs (pairs : List (Json × Json)) : ValueMap :=
  pairs.foldl (fun table pair => table.insert pair.1 pair.2) empty

/-- The target of the entry with this key. -/
def get? (table : ValueMap) (key : Json) : Option Json :=
  (table.entries.find? fun entry => Json.Same entry.1 key).map Prod.snd

def lookup (table : ValueMap) (value : Json) : Json :=
  ((table.get? value).or (table.get? .null)).getD .null

/-- What tables make of a value one after another. -/
def chain (tables : List ValueMap) (value : Json) : Json :=
  tables.foldl (fun current table => table.lookup current) value

def size (table : ValueMap) : Nat := table.entries.length

/-- A list of exactly two items as a pair. -/
def pair? : Json → Option (Json × Json)
  | .array [source, target] => some (source, target)
  | _ => none

/-- The table that an object of string keys or a list of pairs spells. -/
def ofJson? : Json → Option ValueMap
  | .object members => some (ofPairs (members.map fun (key, value) => (.string key, value)))
  | .array items => ofPairs <$> items.mapM pair?
  | _ => none

end ValueMap

end Reshape
