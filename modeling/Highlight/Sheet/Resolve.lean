import Highlight.Sheet.Basic
import Highlight.History

namespace Highlight

-- A match of a segment: either the nested sheet is resolved further on, or its base style alone
-- counts.
inductive Reach
  | further (history : History) (trail : Trail)
  | base

namespace Segment

-- The places in a trail where a node of the kind stands, the innermost first.
def occurrences (name : String) (trail : Trail) : List Nat :=
  (List.range trail.length).reverse.filter fun i => (trail[i]?).any (·.kind = name)

def reaches (history : History) (trail : Trail) (token : Option String) :
    Segment → Except QueryError (List Reach)
  | atom (.kind name) =>
    .ok ((occurrences name trail).map fun i =>
      .further (history.latest (i + 1)) (trail.drop (i + 1)))
  | atom (.lastKind name) =>
    .ok (if (trail.getLast?).any (·.kind = name) then [.base] else [])
  | child (.kind name) => .ok (match trail with
    | [] => []
    | s :: rest => if s.kind = name then [.further (history.latest 1) rest] else [])
  | child (.lastKind name) => .ok (match trail with
    | [s] => if s.kind = name then [.base] else []
    | _ => [])
  | atom a | child a =>
    .ok (if trail.isEmpty && token.any a.accepts then [.base] else [])
  | branch selector => do
    if ← history.satisfies selector then return [.further history trail] else return []
  | foreign f => .error (.foreign f)

end Segment

namespace Sheet

mutual

-- The style of the position at the end of `trail`, whose text is `token` if it is a leaf, after the
-- visits in `history`.
def resolve : Sheet → History → Trail → Option String → Except QueryError Style
  | node style scopes, history, trail, token => resolveScopes scopes history trail token style
termination_by structural s => s

def resolveScopes : List (Segment × Sheet) → History → Trail → Option String → Style →
    Except QueryError Style
  | [], _, _, _, style => .ok style
  | (segment, sheet) :: rest, history, trail, token, style => do
    let reaches ← segment.reaches history trail token
    let style ← reaches.foldlM (fun style reach => match reach with
      | .further history trail => do return style.merge (← sheet.resolve history trail token)
      | .base => return style.merge sheet.style) style
    resolveScopes rest history trail token style
termination_by structural s => s

end

end Sheet

end Highlight
