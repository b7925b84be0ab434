import DatasetQuery.Text.Quoted
/-!
Structural descriptions: records with named parts, tagged values, options and lists on one line.
-/
namespace DatasetQuery.Text

def commaSeparated (parts : List String) : String := String.intercalate ", " parts

/-- A record with its parts in order. -/
def record (name : String) (parts : List (String × String)) : String :=
  name ++ " \x7b " ++ commaSeparated (parts.map fun p => p.1 ++ ": " ++ p.2) ++ " \x7d"

/-- A record that keeps some parts to itself. -/
def openRecord (name : String) (parts : List (String × String)) : String :=
  name ++ " \x7b " ++ commaSeparated (parts.map (fun p => p.1 ++ ": " ++ p.2) ++ [".."]) ++ " \x7d"

def tagged (name content : String) : String := name ++ "(" ++ content ++ ")"

def optional {α : Type} (describe : α → String) : Option α → String
  | none => "None"
  | some a => tagged "Some" (describe a)

def list {α : Type} (describe : α → String) (as : List α) : String :=
  "[" ++ commaSeparated (as.map describe) ++ "]"

end DatasetQuery.Text
