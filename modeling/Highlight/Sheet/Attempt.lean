import Highlight.Sheet.Basic

namespace Highlight

-- The sheet that a change leaves behind, and what stopped the change, if anything did.
structure Attempt where
  sheet : Sheet
  obstacle : Option Foreign := none

namespace Sheet

namespace Scopes

def obstacle? (scopes : Scopes) : Option Foreign :=
  match Segment.keys (scopes.map (·.1)) with
  | .ok _ => none
  | .error f => some f

def lookup? (segment : Segment) (scopes : Scopes) : Option Sheet :=
  (List.find? (fun (s, _) => s.same segment) scopes).map (·.2)

def replace (segment : Segment) (sheet : Sheet) (scopes : Scopes) : Scopes :=
  scopes.map fun (s, old) => (s, if s.same segment then sheet else old)

end Scopes

-- A new scope that cannot be put in its place stays at the end of its level, empty, and the change
-- stops there; all that was done before it remains.
def attempt (segment : Segment) (f : Sheet → Attempt) (s : Sheet) : Attempt :=
  match Scopes.lookup? segment s.scopes with
  | some sheet =>
    let a := f sheet
    ⟨node s.style (Scopes.replace segment a.sheet s.scopes), a.obstacle⟩
  | none =>
    let extended := s.scopes ++ [(segment, ∅)]
    match Scopes.obstacle? extended with
    | some o => ⟨node s.style extended, some o⟩
    | none =>
      let a := f ∅
      ⟨s.update segment fun _ => a.sheet, a.obstacle⟩

def attemptAt : Selector → (Sheet → Sheet) → Sheet → Attempt
  | [], f, s => ⟨f s, none⟩
  | segment :: rest, f, s => s.attempt segment (attemptAt rest f)

mutual

def attemptMerge (s : Sheet) : Sheet → Attempt
  | node style scopes => attemptScopes (s.declare style) scopes
termination_by structural t => t

def attemptScopes (s : Sheet) : List (Segment × Sheet) → Attempt
  | [] => ⟨s, none⟩
  | (segment, sheet) :: rest =>
    let a := s.attempt segment fun d => d.attemptMerge sheet
    if a.obstacle.isSome then a else attemptScopes a.sheet rest
termination_by structural t => t

end

-- A sheet of one level from a list of scopes, unless something in it has no place in the order.
def ofScopes? (style : Style) (scopes : Scopes) : Except Foreign Sheet :=
  match Scopes.obstacle? scopes with
  | some o => .error o
  | none => .ok (ofScopes style scopes)

end Sheet

end Highlight
