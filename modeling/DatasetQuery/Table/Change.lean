import DatasetQuery.Table.Basic
/-!
Changes to the query of a table, as values. Applying one gives the table with that part
replaced, or the reason why it cannot be replaced.
-/
namespace DatasetQuery

inductive Change where
  | select (selectors : List Selector)
  | filter (p : Predicate)
  | orderBy (keys : List (Selector × Direction))
  | limit (n : UInt64)

namespace Table

def apply (t : Table) : Change → Except Error Table
  | .select selectors => t.select selectors
  | .filter p => .ok (t.filterBy p)
  | .orderBy keys => t.orderBy keys
  | .limit n => .ok (t.limitTo n)

end Table

end DatasetQuery
