import Highlight.Segment.Printer

namespace Highlight

structure Step where
  kind : String
  index : Int
  deriving DecidableEq, Repr

abbrev Trail := List Step

inductive Visit
  | leaf (token : String)
  | node (kind : String) (below : List Visit)

abbrev History := List Visit

namespace Visit

def chain : Trail → String → Visit
  | [], token => leaf token
  | s :: rest, token => node s.kind [chain rest token]

mutual

def describe : Visit → String
  | leaf token => "TraceLeaf(" ++ Text.quoted token ++ ")"
  | node kind below =>
    "TraceNode(" ++ Text.quoted kind ++ ", Trace([" ++ ", ".intercalate (describeAll below) ++ "]))"
termination_by structural v => v

def describeAll : List Visit → List String
  | [] => []
  | v :: rest => v.describe :: describeAll rest
termination_by structural v => v

end

end Visit

inductive RecordError
  | beneathLeaf (token leaf : String)
  -- A position counted back beyond the first visit.
  | outOfRange
  deriving DecidableEq, Repr

namespace RecordError

def message : RecordError → String
  | beneathLeaf token leaf =>
    "Cannot record " ++ Text.quoted token ++ " beneath leaf " ++ Text.quoted leaf
  | outOfRange => "list index out of range"

end RecordError

inductive QueryError
  | dotted
  | foreign (f : Foreign)
  deriving DecidableEq, Repr

namespace History

-- The place that an index names among `length` visits; a negative one counts from the end.
def place? (length : Nat) (index : Int) : Option Nat :=
  if 0 ≤ index then some index.toNat
  else if 0 ≤ length + index then some (length + index).toNat
  else none

-- Records a leaf. An index of a visit that exists leads into it; any other index starts a new
-- branch at the end.
def record (h : History) : Trail → String → Except RecordError History
  | [], token => .ok (h ++ [.leaf token])
  | s :: rest, token =>
    if s.index < h.length then
      match place? h.length s.index with
      | none => .error .outOfRange
      | some i => match h[i]? with
        | none => .error .outOfRange
        | some (.leaf t) => .error (.beneathLeaf token t)
        | some (.node kind below) =>
          (record below rest token).map fun below => h.set i (.node kind below)
    else .ok (h ++ [Visit.chain (s :: rest) token])

-- The visits `depth` levels down, following the latest one at each level.
def latest? (h : History) : Nat → Option History
  | 0 => some h
  | depth + 1 => match h.getLast? with
    | some (.node _ below) => latest? below depth
    | _ => none

-- The visits `depth` levels down; nothing recorded there counts as no visits.
def latest (h : History) (depth : Nat) : History :=
  (h.latest? depth).getD []

def describe (h : History) : String :=
  "Trace([" ++ ", ".intercalate (Visit.describeAll h) ++ "])"

end History

abbrev Answer := Except QueryError Bool

namespace Segment

mutual

-- Whether a leaf satisfies a selector with this head; `rest` is the answer for what follows the
-- head. A token or a pattern decides by itself, whatever follows it.
def leafMeets (token : String) : Segment → (rest : Unit → Answer) → Answer
  | atom a, _ | child a, _ => match a with
    | .kind _ => .ok false
    | .lastKind _ => .error .dotted
    | .token _ | .pattern _ => .ok (a.accepts token)
  | branch selector, rest => do
    if ← leafSatisfies token selector then rest () else return false
  | foreign f, _ => .error (.foreign f)
termination_by structural s => s

def leafSatisfies (token : String) : List Segment → Answer
  | [] => .ok true
  | s :: rest => s.leafMeets token fun _ => leafSatisfies token rest
termination_by structural s => s

end

mutual

-- Whether a node satisfies a selector with this head and this `tail`. `below` answers for the
-- visits below the node and `rest` for the tail at the node itself.
def nodeMeets (kind : String) (below : List Segment → Answer) :
    Segment → (tail : List Segment) → (rest : Unit → Answer) → Answer
  | atom (.kind name), tail, _ => do
    if name = kind then
      if ← below tail then return true
    below (atom (.kind name) :: tail)
  | atom (.token t), tail, _ => below (atom (.token t) :: tail)
  | atom (.pattern p), tail, _ => below (atom (.pattern p) :: tail)
  | child (.kind name), tail, _ => if name = kind then below tail else .ok false
  | child (.token _), _, _ | child (.pattern _), _, _ => .ok false
  | atom (.lastKind _), _, _ | child (.lastKind _), _, _ => .error .dotted
  | branch selector, _, rest => do
    if ← nodeSatisfies kind below selector then rest () else return false
  | foreign f, _, _ => .error (.foreign f)
termination_by structural s => s

def nodeSatisfies (kind : String) (below : List Segment → Answer) : List Segment → Answer
  | [] => .ok true
  | s :: rest => s.nodeMeets kind below rest fun _ => nodeSatisfies kind below rest
termination_by structural s => s

end

end Segment

mutual

def Visit.satisfies : Visit → Selector → Answer
  | .leaf token, selector => Segment.leafSatisfies token selector
  | .node kind below, selector => Segment.nodeSatisfies kind (Visit.someSatisfies below) selector
termination_by structural v => v

-- Whether one of the visits satisfies a selector, tried in order. Every history satisfies the empty
-- selector.
def Visit.someSatisfies : List Visit → Selector → Answer
  | [], selector => .ok selector.isEmpty
  | v :: rest, selector => do
    if ← v.satisfies selector then return true else Visit.someSatisfies rest selector
termination_by structural v => v

end

namespace History

def satisfies (h : History) (selector : Selector) : Answer :=
  Visit.someSatisfies h selector

end History

end Highlight
