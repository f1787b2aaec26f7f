/-!
# Tables in text

Cells stand left in columns that are as wide as their longest cell, with a blank on
either side. A double line goes below the titles.
-/
namespace VesselTraffic.Grid

/-- The width of every column, from that of its longest cell. -/
def widths (rows : List (List String)) : List Nat :=
  rows.foldl (fun ws row => (List.range (max ws.length row.length)).map fun i =>
    max (ws.getD i 0) (row.getD i "").length) []

def repeated (n : Nat) (c : Char) : String := String.ofList (List.replicate n c)

/-- A line across all columns. -/
def rule (widths : List Nat) (left fill cross right : Char) : String :=
  String.singleton left
    ++ (String.singleton cross).intercalate (widths.map fun w => repeated (w + 2) fill)
    ++ String.singleton right

def row (widths : List Nat) (cells : List String) : String :=
  let padded := List.zipWith (fun w cell => " " ++ cell ++ repeated (w - cell.length + 1) ' ') widths cells
  "|" ++ "|".intercalate padded ++ "|"

/-- The lines of a table. -/
def lines (titles : List String) (rows : List (List String)) : List String :=
  let ws := widths (titles :: rows)
  let edge := rule ws '+' '-' '+' '+'
  [edge, row ws titles, rule ws '+' '=' '=' '+']
    ++ (rows.map (row ws)).intersperse (rule ws '|' '-' '+' '|') ++ [edge]

example : lines ["A", "B"] [["1", "22"], ["333", ""]] =
    ["+-----+----+",
     "| A   | B  |",
     "+==========+",
     "| 1   | 22 |",
     "|-----+----|",
     "| 333 |    |",
     "+-----+----+"] := by decide +kernel

end VesselTraffic.Grid
