import DatasetQuery.Binary
/-!
JSON values. Whole numbers that fit a word of 64 bits, signed or not, are integers; all others
are double precision numbers. Objects keep the order of their keys.
-/
namespace DatasetQuery.Json

inductive Value where
  | null
  | boolean (b : Bool)
  | integer (n : Int)
  | float (x : Binary64)
  | string (s : String)
  | array (items : List Value)
  | object (members : List (String × Value))

/-- The members of an object. -/
abbrev Row := List (String × Value)

namespace Row

/-- A key that is there keeps its place and takes the new value. -/
def insert (row : Row) (key : String) (value : Value) : Row :=
  if row.any (fun member => member.1 == key) then
    row.map fun member => if member.1 == key then (key, value) else member
  else row ++ [(key, value)]

def ofMembers (members : List (String × Value)) : Row :=
  members.foldl (fun row member => row.insert member.1 member.2) []

end Row

end DatasetQuery.Json
