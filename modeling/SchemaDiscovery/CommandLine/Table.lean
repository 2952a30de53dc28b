import SchemaDiscovery.Text.Columns
/-!
Tables for the terminal, drawn with rounded corners; the first row is the heading. A cell may have
several lines, and its row is then as high as its highest cell.
-/

namespace SchemaDiscovery

def cellLines (cell : String) : List String := cell.splitOn "\n"

def cellWidth (cell : String) : Nat := ((cellLines cell).map Text.columns).foldl max 0

def columnWidths : List (List String) → List Nat
  | [] => []
  | row :: rows =>
    let below := columnWidths rows
    (List.range (max row.length below.length)).map fun (i : Nat) =>
      max (row[i]?.elim 0 cellWidth) (below[i]?.getD 0)

def ruleLine (left between right : String) (widths : List Nat) : String :=
  left ++ between.intercalate (widths.map fun width => String.ofList (.replicate (width + 2) '─')) ++
    right

def padded (text : String) (width : Nat) : String :=
  " " ++ text ++ String.ofList (.replicate (width - Text.columns text + 1) ' ')

def rowLines (widths : List Nat) (row : List String) : List String :=
  let height := (row.map fun cell => (cellLines cell).length).foldl max 0
  (List.range height).map fun (i : Nat) =>
    "│" ++ "│".intercalate ((row.zip widths).map fun (cell, width) =>
      padded ((cellLines cell)[i]?.getD "") width) ++ "│"

/-- The lines of a table. Without rows below the heading, the line under the heading ends it. -/
def tableLines (rows : List (List String)) : List String :=
  let widths := columnWidths rows
  let top := ruleLine "╭" "┬" "╮" widths
  let middle := ruleLine "├" "┼" "┤" widths
  let bottom := ruleLine "╰" "┴" "╯" widths
  match rows with
  | [] => []
  | [heading] => top :: rowLines widths heading ++ [middle]
  | heading :: rows =>
    top :: rowLines widths heading ++ [middle] ++ rows.flatMap (rowLines widths) ++ [bottom]

end SchemaDiscovery
