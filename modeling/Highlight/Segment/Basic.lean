import Highlight.Pattern

namespace Highlight

inductive Atom
  | kind (name : String)
  | token (literal : String)
  | pattern (p : Pattern)
  -- A kind with a dot: only as the last node of the path.
  | lastKind (name : String)
  deriving DecidableEq

-- What may stand in the place of a segment without having one of its forms.
inductive Foreign
  | bare
  | text (t : String)
  | nothing
  deriving DecidableEq, Repr

inductive Segment
  | atom (a : Atom)
  | child (a : Atom)
  | branch (selector : List Segment)
  -- No segment. It has no place in the order, and asking what it matches is an error.
  | foreign (f : Foreign)

abbrev Selector := List Segment

namespace Atom

-- Whether the atom is about leaves, which have nothing below them.
def isTerminal : Atom → Bool
  | kind _ => false
  | token _ | pattern _ | lastKind _ => true

def accepts (text : String) : Atom → Bool
  | token literal => text = literal
  | pattern p => p.occursIn text
  | kind _ | lastKind _ => false

end Atom

namespace Segment

def kind (name : String) : Segment := .atom (.kind name)

def token (literal : String) : Segment := .atom (.token literal)

def pattern (p : Pattern) : Segment := .atom (.pattern p)

def lastKind (name : String) : Segment := .atom (.lastKind name)

def isTerminal : Segment → Bool
  | atom a | child a => a.isTerminal
  | branch _ | foreign _ => false

def isDotted : Segment → Bool
  | atom (.lastKind _) | child (.lastKind _) => true
  | _ => false

mutual

-- Branch checks are not empty, use no dot, and hold nothing but segments.
def wellFormed : Segment → Bool
  | atom _ | child _ => true
  | branch selector => !selector.isEmpty && legalBranch selector
  | foreign _ => false
termination_by structural s => s

def legalBranch : List Segment → Bool
  | [] => true
  | s :: rest => s.wellFormed && !s.isDotted && legalBranch rest
termination_by structural s => s

end

end Segment

end Highlight
