import Highlight.Decoration
import Highlight.Span

namespace Highlight

-- Lines of painted pieces; the last line may be run on.
abbrev Lines := List (List String)

namespace Lines

def append : Lines → Lines → Lines
  | [], ys => ys
  | [x], [] => [x]
  | [x], y :: ys => (x ++ y) :: ys
  | x :: xs, ys => x :: append xs ys

def ofSpan (painter : Painter) (s : Span) : Lines :=
  (Text.splitOn '\n' s.shown.toList).map fun part =>
    if part = [] then [] else [s.style.paint painter (String.ofList part)]

def ofSpans (painter : Painter) (spans : List Span) : Lines :=
  spans.foldr (fun s lines => append (ofSpan painter s) lines) [[]]

-- A last line without pieces only says that the line before it was ended.
def isEnded (lines : Lines) : Bool :=
  lines.length > 1 && lines.getLast? = some []

end Lines

structure Layout where
  lineNumbers : Bool := false
  lineEndings : Bool := false
  deriving DecidableEq, Repr

namespace Layout

def line (o : Layout) (painter : Painter) (d : Decorations) (width number : Nat)
    (pieces : List String) : String :=
  (if o.lineNumbers then d.number painter number width ++ d.painted painter .margin else "") ++
    String.join pieces ++ (if o.lineEndings then d.painted painter .lineEnding else "")

def lines (o : Layout) (painter : Painter) (d : Decorations) (lines : Lines) : List String :=
  let width := (toString lines.length).length
  lines.zipIdx.map fun (pieces, i) => o.line painter d width (i + 1) pieces

def render (o : Layout) (painter : Painter) (d : Decorations) (spans : List Span) : String :=
  let all := Lines.ofSpans painter spans
  if all.isEnded then "\n".intercalate (o.lines painter d all.dropLast) ++ "\n"
  else "\n".intercalate (o.lines painter d all)

end Layout

end Highlight
