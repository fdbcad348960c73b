import Highlight.Sheet.Resolve
import Highlight.Tree

namespace Highlight

structure Span where
  text : String
  style : Style
  deriving DecidableEq, Repr

namespace Span

-- What is shown: the content that the style puts in its place, or the text itself.
def shown (s : Span) : String :=
  s.style.content?.getD s.text

end Span

inductive WalkError
  | query (e : QueryError)
  | record (e : RecordError)
  deriving DecidableEq, Repr

structure Walk where
  history : History := []
  offset : Nat := 0

namespace Walk

variable (sheet : Sheet) (source : List Char)

def slice (source : List Char) (start stop : Nat) : String :=
  String.ofList ((source.drop start).take (stop - start))

-- The span before a leaf, if there is text before it that no leaf has covered.
def gap (w : Walk) (l : Leaf) : List Span :=
  let start := l.start.getD w.offset
  if start > w.offset then [⟨slice source w.offset start, sheet.style⟩] else []

def step (w : Walk) (trail : Trail) (l : Leaf) : Except WalkError (List Span × Walk) := do
  let style ← (sheet.resolve w.history trail (some l.text)).mapError .query
  let history ← (w.history.record trail l.text).mapError .record
  return (w.gap sheet source l ++ [⟨l.text, style⟩],
    { history, offset := max w.offset (l.stop.getD w.offset) })

def run (w : Walk) : List (Trail × Leaf) → Except WalkError (List Span)
  | [] =>
    .ok (if w.offset < source.length then
      [⟨slice source w.offset source.length, sheet.style⟩] else [])
  | (trail, l) :: rest => do
    let (spans, w) ← w.step sheet source trail l
    return spans ++ (← run w rest)

end Walk

def Tree.spans (t : Tree) (sheet : Sheet) (source : String) : Except WalkError (List Span) :=
  Walk.run sheet source.toList {} t.leaves

end Highlight
