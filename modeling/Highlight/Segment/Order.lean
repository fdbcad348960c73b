import Highlight.Segment.Basic

namespace Highlight

namespace Atom

def rank : Atom → Nat
  | kind _ => 0
  | token _ => 1
  | pattern _ => 2
  | lastKind _ => 3

def payload : Atom → String
  | kind name | lastKind name => name
  | token literal => literal
  | pattern p => p.source

def cmp (a b : Atom) : Ordering :=
  (compare a.rank b.rank).then (compare a.payload b.payload)

theorem eq_of_rank_payload {a b : Atom} (hr : a.rank = b.rank) (hp : a.payload = b.payload) :
    a = b := by
  cases a <;> cases b <;> simp_all [rank, payload, Pattern.source_inj]

end Atom

namespace Foreign

def cmp : Foreign → Foreign → Ordering
  | bare, bare => .eq
  | bare, _ => .lt
  | _, bare => .gt
  | text s, text t => compare s t
  | text _, _ => .lt
  | _, text _ => .gt
  | nothing, nothing => .eq

end Foreign

namespace Segment

mutual

def cmp : Segment → Segment → Ordering
  | foreign f, foreign g => f.cmp g
  | foreign _, _ => .lt
  | _, foreign _ => .gt
  | atom a, atom b => a.cmp b
  | atom _, _ => .lt
  | _, atom _ => .gt
  | child a, child b => a.cmp b
  | child _, _ => .lt
  | _, child _ => .gt
  | branch s, branch t => cmpList s t
termination_by structural s => s

-- Segment by segment; a proper beginning comes first.
def cmpList : List Segment → List Segment → Ordering
  | [], [] => .eq
  | [], _ :: _ => .lt
  | _ :: _, [] => .gt
  | a :: s, b :: t => (a.cmp b).then (cmpList s t)
termination_by structural s => s

end

end Segment

inductive Key
  | number (n : Nat)
  | text (s : String)
  | tuple (parts : List Key)

namespace Atom

def key : Atom → Key
  | lastKind name => .tuple [.number 3, .tuple [.number 0, .text name]]
  | a => .tuple [.number a.rank, .text a.payload]

end Atom

namespace Segment

mutual

-- The sort key, or the first thing in the segment that has none: what is no segment has no key.
-- That `cmp` compares it at all keeps the order total.
def key : Segment → Except Foreign Key
  | atom a => .ok a.key
  | child a => .ok (.tuple [.number 4, a.key])
  | branch selector => (keys selector).map fun ks => .tuple [.number 5, .tuple ks]
  | foreign f => .error f
termination_by structural s => s

def keys : List Segment → Except Foreign (List Key)
  | [] => .ok []
  | s :: rest => do return (← s.key) :: (← keys rest)
termination_by structural s => s

end

mutual

def holdsBare : Segment → Bool
  | foreign .bare => true
  | branch selector => someHoldsBare selector
  | _ => false
termination_by structural s => s

def someHoldsBare : List Segment → Bool
  | [] => false
  | s :: rest => s.holdsBare || someHoldsBare rest
termination_by structural s => s

end

-- Whether two segments are the same. One with something bare in it is the same as no other.
def same (s t : Segment) : Bool :=
  s.cmp t == .eq && !s.holdsBare

end Segment

end Highlight
