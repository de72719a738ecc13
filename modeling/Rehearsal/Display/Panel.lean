import Rehearsal.Display.Markup
import Rehearsal.Display.Wrap

namespace Rehearsal.Display

def screenWidth : Nat := 80

def rule (length : Nat) : List Char := List.replicate length '─'

def screen (rows : List Row) : String :=
  String.ofList (rows.flatMap fun r => (r.cropped screenWidth).flatten ++ ['\n'])

def paragraph (markup : String) : Except Markup.Fault String :=
  (Markup.text markup).map fun s => screen ((wrap screenWidth .fold s).map Styled.row)

def titleLine (s : Styled) : Styled :=
  let line := { s with chars := s.chars.map fun c => if c == '\n' then ' ' else c }
  Styled.join [.plain [' '], line.expandTabs, .plain [' ']]

def innerWidth : Nat := screenWidth - 2

def bodyWidth : Nat := innerWidth - 2

def topEdge (title : Styled) : Row :=
  let shown := (titleLine title).truncate bodyWidth .fold
  let free := bodyWidth - cells shown.chars
  [['╭', '─'], rule (free / 2)] ++ shown.row ++ [rule (free - free / 2), ['─', '╮']]

def frame (title : Styled) (rows : List Row) : List Row :=
  [topEdge title] ++ rows.map (fun r => [['│']] ++ r.inset bodyWidth ++ [['│']]) ++
    [[['╰'] ++ rule innerWidth ++ ['╯']]]

def panel (title body : String) : Except Markup.Fault String := do
  let title ← Markup.text title
  let body ← Markup.text body
  return screen (frame title ((wrap bodyWidth .fold body).map Styled.row))

def nameWidth : Nat := 10

def valueWidth : Nat := 59

def endsLine (c : Char) : Bool :=
  [0x0A, 0x0B, 0x0C, 0x1C, 0x1D, 0x1E, 0x85, 0x2028, 0x2029].contains c.toNat

def measure (s : Styled) : Nat :=
  let ended := Styled.plain (s.chars.map fun c => if endsLine c then '\n' else c)
  (ended.lines.map fun line => cells line.chars).foldl max 0

/-- The rows of fields beside one another, each with its cells: as many as the highest field has.
`side` stands before the fields, between two of them, and behind them. -/
def rowsOf (side : Char) (fields : List (Nat × Styled)) : List Row :=
  let wrapped := fields.map fun (space, s) => (space, (wrap space .mark s).map Styled.row)
  let height := (wrapped.map fun field => field.2.length).foldl max 1
  (List.range height).map fun n =>
    let rows := wrapped.map fun (space, rows) => (rows[n]?.getD []).inset space
    [[side]] ++ [[side]].intercalate rows ++ [[side]]

def texts : List (String × String) → Except Markup.Fault (List (String × Styled))
  | [] => .ok []
  | (name, value) :: rest => do return (name, ← Markup.text value) :: (← texts rest)

/-- A panel with fields, each of a name and markup. Values are wrapped at the width of the widest
one. -/
def fieldPanel (title : String) (fields : List (String × String)) : Except Markup.Fault String := do
  let title ← Markup.text title
  let fields ← texts fields
  let space := min valueWidth ((fields.map fun field => measure field.2).foldl max 0)
  let rows := fields.flatMap fun (name, value) =>
    rowsOf ' ' [(nameWidth, .plain name.toList), (space, value)]
  return screen (frame title ([[]] ++ rows ++ [[]]))

def tableRule (left crossing right : Char) (spaces : List Nat) : List Char :=
  [left] ++ (([crossing].intercalate (spaces.map fun space => rule (space + 2))) ++ [right])

def centered (s : String) : List Char :=
  let free := screenWidth - s.length
  List.replicate (free / 2) ' ' ++ s.toList ++ List.replicate (free - free / 2) ' '

def table (title : String) (spaces : List Nat) (headings : List String)
    (rows : List (List Styled)) : String :=
  let rowsOf (fields : List Styled) := rowsOf '│' (spaces.zip fields)
  screen ([[centered title], [tableRule '╭' '┬' '╮' spaces]] ++
    rowsOf (headings.map fun heading => .plain heading.toList) ++
    [[tableRule '├' '┼' '┤' spaces]] ++ rows.flatMap rowsOf ++
    [[tableRule '╰' '┴' '╯' spaces]])

end Rehearsal.Display
