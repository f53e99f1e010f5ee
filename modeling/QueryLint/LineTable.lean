/-! Tables from line numbers to entries, in increasing order of the lines. -/
namespace QueryLint

abbrev LineTable (α : Type) := List (Int × α)

namespace LineTable

/-- Changes the entry of a line; `update` is given the old entry, if there is one. -/
def modify {α : Type} (line : Int) (update : Option α → α) : LineTable α → LineTable α
  | [] => [(line, update none)]
  | (first, entry) :: table =>
    if line < first then (line, update none) :: (first, entry) :: table
    else if line = first then (first, update (some entry)) :: table
    else (first, entry) :: modify line update table

def get? {α : Type} (table : LineTable α) (line : Int) : Option α := table.lookup line

end LineTable

end QueryLint
