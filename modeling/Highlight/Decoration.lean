import Highlight.Failure
import Highlight.Style.Paint

namespace Highlight

inductive Slot
  | lineEnding
  | lineNumber
  | addition
  | modification
  | deletionAbove
  | deletionBelow
  | margin
  deriving DecidableEq, Repr

namespace Slot

def all : List Slot :=
  [lineEnding, lineNumber, addition, modification, deletionAbove, deletionBelow, margin]

def name : Slot → String
  | lineEnding => "line_ending"
  | lineNumber => "line_number"
  | addition => "vcs_addition"
  | modification => "vcs_modification"
  | deletionAbove => "vcs_deletion_above"
  | deletionBelow => "vcs_deletion_below"
  | margin => "margin"

-- The text of the slot where no other content is declared; a line number has none.
def text? : Slot → Option String
  | lineEnding => some "$"
  | lineNumber => none
  | addition => some "+"
  | modification => some "~"
  | deletionAbove => some "-"
  | deletionBelow => some "_"
  | margin => some " | "

def colour? : Slot → Option Colour
  | addition => some (.named (.plain .green))
  | modification => some (.named (.plain .yellow))
  | deletionAbove | deletionBelow => some (.named (.plain .red))
  | lineEnding | lineNumber | margin => none

def style (s : Slot) : Style :=
  { foreground := s.colour?.map fun c => { value := c }
    content := s.text?.map fun t => { value := t } }

def resolve (s : Slot) (sheet : Sheet) : Except QueryError Style :=
  return s.style.merge (← sheet.resolve [] [⟨s.name, 0⟩] none)

end Slot

structure Decorations where
  lineEnding : Style := Slot.lineEnding.style
  lineNumber : Style := Slot.lineNumber.style
  addition : Style := Slot.addition.style
  modification : Style := Slot.modification.style
  deletionAbove : Style := Slot.deletionAbove.style
  deletionBelow : Style := Slot.deletionBelow.style
  margin : Style := Slot.margin.style
  deriving DecidableEq, Repr

namespace Decorations

def get (d : Decorations) : Slot → Style
  | .lineEnding => d.lineEnding
  | .lineNumber => d.lineNumber
  | .addition => d.addition
  | .modification => d.modification
  | .deletionAbove => d.deletionAbove
  | .deletionBelow => d.deletionBelow
  | .margin => d.margin

def ofSheet (sheet : Sheet) : Except QueryError Decorations :=
  return {
    lineEnding := ← Slot.lineEnding.resolve sheet
    lineNumber := ← Slot.lineNumber.resolve sheet
    addition := ← Slot.addition.resolve sheet
    modification := ← Slot.modification.resolve sheet
    deletionAbove := ← Slot.deletionAbove.resolve sheet
    deletionBelow := ← Slot.deletionBelow.resolve sheet
    margin := ← Slot.margin.resolve sheet }

def painted (d : Decorations) (painter : Painter) (s : Slot) : String :=
  (d.get s).paint painter ((d.get s).content?.getD (s.text?.getD ""))

-- A number as it is shown, with blanks before it up to a width; content of the slot is not used.
def number (d : Decorations) (painter : Painter) (n : Int) (width : Nat) : String :=
  d.lineNumber.paint painter (String.ofList (List.leftpad width ' ' (toString n).toList))

-- The decorations under the sheet in a file, which need not exist.
def ofFile (fs : Files) (here : Location) (path : Path) : Logged Failure Decorations :=
  match fs.exist here path with
  | .error (e, p) => throw (.config (.file e p))
  | .ok false => pure {}
  | .ok true => do
    Logged.log (.loadingMeta path)
    let sheet ← (Sheet.ofFile fs here path).mapError .load
    Logged.ofExcept ((ofSheet sheet).mapError fun e => .walk (.query e))

end Decorations

end Highlight
