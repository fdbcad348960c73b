import Highlight.Text.Quoted

namespace Highlight

structure Position where
  line : Nat
  column : Nat
  deriving DecidableEq, Repr

namespace Position

def start : Position := ⟨1, 1⟩

def next (p : Position) (c : Char) : Position :=
  if c = '\n' then ⟨p.line + 1, 1⟩ else ⟨p.line, p.column + 1⟩

def advance (p : Position) (cs : List Char) : Position :=
  cs.foldl next p

end Position

namespace Text

-- The width of a line on which tabs reach to the next multiple of eight.
def expandedWidth (cs : List Char) : Nat :=
  (cs.foldl step (0, 0)).1
where
  -- The first number is the width so far, the second the column.
  step : Nat × Nat → Char → Nat × Nat
    | (width, column), '\t' => (width + (8 - column % 8), column + (8 - column % 8))
    | (width, _), '\n' | (width, _), '\r' => (width + 1, 0)
    | (width, column), _ => (width + 1, column + 1)

def excerptSpan : Nat := 40

-- The line around the place at `offset`, and below it a mark under the place.
def excerpt (text : List Char) (offset : Nat) : String :=
  let window := (text.take offset).drop (offset - excerptSpan)
  let before := (window.reverse.takeWhile (· ≠ '\n')).reverse
  let after := ((text.drop offset).take excerptSpan).takeWhile (· ≠ '\n')
  String.ofList (before ++ after ++ ['\n'] ++ List.replicate (expandedWidth before) ' ' ++ ['^', '\n'])

end Text

inductive Misread
  | token (label text : String) (place : Position)
  | character (c : Char) (place : Position) (excerpt : String)
  deriving DecidableEq, Repr

namespace Misread

-- The end of the text, reported where the last token starts.
def atEnd (last : Option Position) : Misread :=
  token "$END" "" (last.getD Position.start)

def position : Misread → Position
  | token _ _ p | character _ p _ => p

def message : Misread → String
  | token label text p =>
    "Unexpected token Token(" ++ Text.quoted label ++ ", " ++ Text.quoted text ++ ") at line " ++
      toString p.line ++ ", column " ++ toString p.column ++ ".\n"
  | character c p excerpt =>
    "No terminal matches '" ++ c.toString ++ "' in the current parser context, at line " ++
      toString p.line ++ " col " ++ toString p.column ++ "\n\n" ++ excerpt

end Misread

end Highlight
