import DatasetQuery.Error
/-!
Closed sets of words. A word has a spelling, by which it is written and read, and a label, by
which it appears in structural descriptions.
-/
namespace DatasetQuery

class Vocabulary (α : Type) where
  /-- All words in the order of their declaration. -/
  all : List α
  text : α → String
  label : α → String

namespace Vocabulary

variable {α : Type} [Vocabulary α]

/-- The word with this exact spelling. -/
def find? (α : Type) [Vocabulary α] (spelling : String) : Option α :=
  (all : List α).find? fun word => text word == spelling

/-- Any other spelling is an unknown operator. -/
def read (α : Type) [Vocabulary α] (spelling : String) : Except Error α :=
  match find? α spelling with
  | some word => .ok word
  | none => .error (.unknownOperator spelling)

end Vocabulary

end DatasetQuery
