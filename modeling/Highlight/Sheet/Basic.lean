import Highlight.Style.Basic
import Highlight.Segment.Order

namespace Highlight

inductive Sheet
  | node (style : Style) (scopes : List (Segment × Sheet))

namespace Sheet

abbrev Scopes := List (Segment × Sheet)

def empty : Sheet := node ∅ []

instance : EmptyCollection Sheet := ⟨empty⟩

instance : Inhabited Sheet := ⟨empty⟩

def style : Sheet → Style
  | node style _ => style

def scopes : Sheet → Scopes
  | node _ scopes => scopes

def declare (s : Sheet) (style : Style) : Sheet :=
  node (s.style.merge style) s.scopes

namespace Scopes

-- Changes the sheet below a segment, which is put in its place if it is new.
def update (segment : Segment) (f : Sheet → Sheet) : Scopes → Scopes
  | [] => [(segment, f ∅)]
  | (s, sheet) :: rest => match segment.cmp s with
    | .lt => (segment, f ∅) :: (s, sheet) :: rest
    | .eq => (s, f sheet) :: rest
    | .gt => (s, sheet) :: update segment f rest

def get? (segment : Segment) (scopes : Scopes) : Option Sheet :=
  (List.find? (fun (s, _) => segment.cmp s == .eq) scopes).map (·.2)

end Scopes

def update (segment : Segment) (f : Sheet → Sheet) (s : Sheet) : Sheet :=
  node s.style (Scopes.update segment f s.scopes)

def updateAt : Selector → (Sheet → Sheet) → Sheet → Sheet
  | [], f, s => f s
  | segment :: rest, f, s => s.update segment (updateAt rest f)

def declareAt (selector : Selector) (style : Style) (s : Sheet) : Sheet :=
  s.updateAt selector (·.declare style)

-- A sheet of one level from a list of scopes; of two for one segment the last counts.
def ofScopes (style : Style) (scopes : Scopes) : Sheet :=
  scopes.foldl (fun s (segment, sheet) => s.update segment fun _ => sheet) (node style [])

mutual

def merge (s : Sheet) : Sheet → Sheet
  | node style scopes => mergeScopes (s.declare style) scopes
termination_by structural t => t

def mergeScopes (s : Sheet) : List (Segment × Sheet) → Sheet
  | [] => s
  | (segment, sheet) :: rest => mergeScopes (s.update segment fun d => d.merge sheet) rest
termination_by structural t => t

end

mutual

-- Every selector with its sheet, a sheet before the ones nested in it.
def walkFrom (before : Selector) : Sheet → List (Selector × Sheet)
  | node style scopes => (before, node style scopes) :: walkScopes before scopes
termination_by structural s => s

def walkScopes (before : Selector) : List (Segment × Sheet) → List (Selector × Sheet)
  | [] => []
  | (segment, sheet) :: rest => sheet.walkFrom (before ++ [segment]) ++ walkScopes before rest
termination_by structural s => s

end

def walk (s : Sheet) : List (Selector × Sheet) :=
  s.walkFrom []

end Sheet

end Highlight
