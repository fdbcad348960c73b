import Highlight.History

namespace Highlight

structure Leaf where
  kind : String
  text : String
  start : Option Nat := none
  stop : Option Nat := none
  deriving DecidableEq, Repr

inductive Tree
  | node (kind : String) (children : List Tree)
  | leaf (l : Leaf)
  | absent

namespace Tree

-- How many places the tree takes among its siblings.
def places : Tree → Nat
  | node .. | leaf _ => 1
  | absent => 0

mutual

-- The leaves in order, each with the steps that lead to it; the tree stands at the place `index`
-- below `trail`.
def leavesFrom (trail : Trail) (index : Nat) : Tree → List (Trail × Leaf)
  | node kind children => leavesBelow (trail ++ [⟨kind, index⟩]) 0 children
  | leaf l => [(trail ++ [⟨l.kind, index⟩], l)]
  | absent => []
termination_by structural t => t

def leavesBelow (trail : Trail) (index : Nat) : List Tree → List (Trail × Leaf)
  | [] => []
  | t :: ts => t.leavesFrom trail index ++ leavesBelow trail (index + t.places) ts
termination_by structural t => t

end

-- A walk starts from a node, whose kind it asks for; that a file whose tree is no node ends the
-- program is said where files are printed.
def leaves (t : Tree) : List (Trail × Leaf) :=
  t.leavesFrom [] 0

end Tree

end Highlight
