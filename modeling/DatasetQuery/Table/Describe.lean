import DatasetQuery.Expr.Describe
import DatasetQuery.Table.Basic
/-!
The structural description of a table, its backend left out.
-/
namespace DatasetQuery

open Text (quoted record openRecord optional list)

def SortKey.description (o : SortKey) : String :=
  record "Ordering" [("expr", o.expr.description), ("direction", o.direction.label)]

def Table.description (t : Table) : String :=
  openRecord "Table"
    [("package_id", quoted t.packageId), ("dataset_name", quoted t.datasetName),
      ("dataset_version", quoted t.datasetVersion), ("source", optional quoted t.source),
      ("name", quoted t.name), ("fields", list Column.description t.columns),
      ("selection", list Expr.description t.selection),
      ("filter_expr", optional Predicate.description t.filter),
      ("ordering", list SortKey.description t.ordering),
      ("limit_to", toString t.limit.toNat)]

end DatasetQuery
