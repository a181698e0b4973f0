import ViewWeave.Compose.Registry
import ViewWeave.Data.Writer
import ViewWeave.Text.Pad
import ViewWeave.Text.Width

/-!
# Reports

What the program prints: counts, tables, and errors with what lies behind them.
-/

namespace ViewWeave.Report

/-! ## Errors -/

def hanging (indent : Nat) (s : String) : String :=
  ("\n" ++ String.ofList (List.replicate indent ' ')).intercalate
    ((Text.splitAt '\n' s.toList).map String.ofList)

def ordinal (n : Nat) : String := String.ofList (Text.padLeft ' ' 5 (Decimal.natText n))

/-- An error with its causes, outermost first. They are numbered if there are several. -/
def error (message : String) (causes : List String) : String :=
  let listed := match causes with
    | [] => []
    | [c] => ["", "Caused by:", "    " ++ hanging 4 c]
    | cs => "" :: "Caused by:" ::
        cs.zipIdx.map fun (c, i) => ordinal i ++ ": " ++ hanging 7 c
  "\n".intercalate (("Error: " ++ message) :: listed) ++ "\n"

/-! ## Tables -/

def rule (left middle right : String) (widths : List Nat) : String :=
  left ++ middle.intercalate
    (widths.map fun w => String.ofList (List.replicate (w + 2) '─')) ++ right

def cell (w : Nat) (s : String) : String :=
  " " ++ s ++ String.ofList (List.replicate (w - Text.width s) ' ') ++ " "

def row (widths : List Nat) (cells : List String) : String :=
  "│" ++ "│".intercalate (List.zipWith cell widths cells) ++ "│"

def widths (rows : List (List String)) : List Nat :=
  rows.foldl
    (fun ws cells =>
      cells.mapIdx fun i s => max (ws.getD i 0) (Text.width s))
    []

def table (head : List String) (body : List (List String)) : String :=
  let ws := widths (head :: body)
  "\n".intercalate
    ([rule "╭" "┬" "╮" ws, row ws head, rule "├" "┼" "┤" ws] ++ body.map (row ws) ++
      [rule "╰" "┴" "╯" ws])

/-! ## Registries -/

def countDistinct (xs : List String) : Nat := xs.eraseDups.length

def summary (r : Registry) (origin : String) : String :=
  let layouts := countDistinct (r.toList.map (·.name.layout))
  let pages := countDistinct (r.toList.map (·.name.page))
  let counts :=
    s!"✓ {r.size} templates composed from {layouts} layouts × {pages} pages ({origin})\n"
  if r.size = 0 then counts ++ "  no layout/page pairs found; nothing can be rendered\n" else counts

def listing (r : Registry) : String :=
  if r.size = 0 then "No templates registered.\n"
  else
    table ["name", "layout", "page", "bytes"]
      (r.toList.map fun t =>
        [t.name.text, t.layoutPath, t.pagePath, String.ofList (Decimal.natText t.bytes)]) ++ "\n"

def entry (t : ComposedTemplate) : Value :=
  .obj [("name", .str t.name.text), ("layout", .str t.layoutPath), ("page", .str t.pagePath),
    ("bytes", .ofInt t.bytes)]

def dataListing (r : Registry) : String := (Value.arr (r.toList.map entry)).indentedText ++ "\n"

end ViewWeave.Report
