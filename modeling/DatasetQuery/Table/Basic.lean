import DatasetQuery.Agent.Config
import DatasetQuery.Expr.Basic
/-!
Queries over one table of a dataset. A table is never changed: selecting, filtering, ordering
and limiting each give a new table and replace that part as a whole. Names stand for declared
columns; an ordering may also name a selection by its alias.
-/
namespace DatasetQuery

inductive Direction where
  | ascending | descending
  deriving DecidableEq

namespace Direction

def default : Direction := descending

def all : List Direction := [ascending, descending]

def text : Direction → String
  | ascending => "ASC"
  | descending => "DESC"

def label : Direction → String
  | ascending => "Asc"
  | descending => "Desc"

/-- Only the exact text `ASC` sorts ascending. -/
def ofText (s : String) : Direction := if s = "ASC" then ascending else descending

end Direction

/-- What is picked: an expression as it is, or what stands under a name. -/
inductive Selector where
  | name (name : String)
  | expr (e : Expr)

/-- What rows are sorted by. -/
structure SortKey where
  expr : Expr
  direction : Direction

/-- What a table needs to run: the token and the deadline of its calls. -/
structure Backend where
  token : String
  timeout : Duration
  deriving DecidableEq

def Backend.ofConfig (c : Agent.Config) : Backend := ⟨c.token, c.timeout⟩

structure Table where
  backend : Option Backend
  packageId : String
  datasetName : String
  datasetVersion : String
  source : Option String
  name : String
  columns : List Column
  selection : List Expr
  filter : Option Predicate
  ordering : List SortKey
  /-- The most rows that are returned; zero sets no limit. -/
  limit : UInt64

namespace Table

/-- A table of that name with nothing declared and nothing asked. -/
def named (name : String) : Table :=
  { backend := none, packageId := "", datasetName := "", datasetVersion := "", source := none
    name, columns := [], selection := [], filter := none, ordering := [], limit := 0 }

/-- Declares further columns, after those there are. -/
def declare (t : Table) (columns : List Column) : Table :=
  { t with columns := t.columns ++ columns }

/-- The last declaration of a name counts. -/
def column? (t : Table) (name : String) : Option Column :=
  t.columns.reverse.find? fun c => c.name == name

/-- The first selection with that alias. -/
def aliased? (t : Table) (wanted : String) : Option Expr :=
  t.selection.find? fun e => e.alias? == some wanted

/-- What a name stands for in a selection. -/
def selectable? (t : Table) (name : String) : Option Expr := (t.column? name).map Expr.column

/-- What a name stands for in an ordering: a declared column before an alias. -/
def orderable? (t : Table) (name : String) : Option Expr :=
  t.selectable? name <|> t.aliased? name

/-- The expression of a selector, where names are looked up by `find?`. -/
def resolve (find? : String → Option Expr) : Selector → Except Error Expr
  | .expr e => .ok e
  | .name name =>
    match find? name with
    | some e => .ok e
    | none => .error (.unknownField name)

/-- The first selector that stands for nothing is the error. -/
def select (t : Table) (selectors : List Selector) : Except Error Table := do
  let selection ← selectors.mapM (resolve t.selectable?)
  return { t with selection }

/-- Replaces the filter; predicates are joined before. -/
def filterBy (t : Table) (p : Predicate) : Table := { t with filter := some p }

def orderBy (t : Table) (keys : List (Selector × Direction)) : Except Error Table := do
  let ordering ← keys.mapM fun key => do
    let expr ← resolve t.orderable? key.1
    return SortKey.mk expr key.2
  return { t with ordering }

def limitTo (t : Table) (limit : UInt64) : Table := { t with limit }

end Table

end DatasetQuery
