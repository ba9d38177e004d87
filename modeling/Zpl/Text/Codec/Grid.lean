import Zpl.Text.Basic

/-!
# Tables of numbered cells

Standards of East Asia number their characters by rows and cells. A table lists the characters that
stand in neighbouring cells; in most cells between such runs there is none.

## Main definitions

* `CellRun` — the characters of neighbouring cells.
* `Grid.cells` — the cells of a table with their characters.
-/

namespace Zpl

/-- The characters of neighbouring cells, the first of which has a number. -/
structure CellRun where
  first : Nat
  characters : String

namespace Grid

/-- The cells of a run with their characters. -/
def cellsOf (run : CellRun) : List (Nat × Char) :=
  run.characters.toList.zipIdx.map fun (c, n) => (run.first + n, c)

/-- A run fills as many cells as it has characters. -/
theorem length_cellsOf (run : CellRun) : (cellsOf run).length = run.characters.toList.length := by
  simp [cellsOf]

/-- The cells of a table with their characters. -/
def cells (table : List CellRun) : List (Nat × Char) := table.flatMap cellsOf

end Grid

end Zpl
