/-!
# Aligned columns

Help pages put a tab between an entry and its description. A column is a run of consecutive lines
with a cell there ended by a tab, padded to the widest cell plus two; a line without a tab stays
as it is.
-/
namespace PlatformLayer.Columns

def cells (line : String) : List String := line.splitOn "\t"

def hasColumn (j : Nat) (line : List String) : Bool := j + 1 < line.length

/-- The width each line's cell in column `j` is padded to: the widest cell of the run of lines
it stands in, plus two; `none` for a line without a cell there. -/
def columnWidths (j : Nat) (lines : List (List String)) : List (Option Nat) :=
  (lines.splitBy fun a b => hasColumn j a == hasColumn j b).flatMap fun run =>
    if run.all (hasColumn j) then
      let w := run.foldl (fun m l => max m ((l.getD j "").length + 2)) 1
      run.map fun _ => some w
    else run.map fun _ => none

def pad (w : Nat) (c : String) : String := c ++ String.ofList (List.replicate (w - c.length) ' ')

def align (text : String) : String :=
  let lines := (text.splitOn "\n").map cells
  let most := lines.foldl (fun m l => max m l.length) 0
  let table := (List.range most).map fun j => columnWidths j lines
  let render (line : List String) (i : Nat) : String :=
    String.join (line.zipIdx.map fun (c, j) =>
      if j + 1 < line.length then pad (((table.getD j []).getD i none).getD c.length) c else c)
  "\n".intercalate (lines.zipIdx.map fun (l, i) => render l i)

theorem pad_length (w : Nat) (c : String) : (pad w c).length = max w c.length := by
  simp only [pad, String.length_append, String.length_ofList, List.length_replicate]
  omega


end PlatformLayer.Columns
