import Highlight.Regex.Test

namespace Highlight.Regex

-- Flags are gone from a program: every test knows how it treats case. A part that is tried by
-- itself, such as the body of a repetition, ends in done; everything else goes on with the
-- instruction after it.
inductive Code
  | done
  | fail
  | orElse (branch others : Code)
  | jump (next : Code)
  | mark (slot : Nat) (next : Code)
  | test (t : Test) (next : Code)
  | anchor (a : Anchor) (flags : Flags) (next : Code)
  | many (greed : Greed) (lo : Nat) (hi : Option Nat) (t : Test) (next : Code)
  | loop (greed : Greed) (lo : Nat) (hi : Option Nat) (body next : Code)
  | atomic (body next : Code)
  -- A look at what stands from `back` characters before here on.
  | look (negated : Bool) (back : Nat) (body next : Code)
  | ref (index : Nat) (flags : Flags) (next : Code)
  | cond (index : Nat) (yes no : Code)

namespace Code

def literal? : Code → Option Nat
  | test (.literal c) _ => some c
  | _ => none

-- Whether the first character already rules a branch out. Only exact tests are asked.
def excludes (first : Option Nat) : Code → Bool
  | test (.literal c) _ => !first.any (Test.literal c).accepts
  | test (.set unicode negated members) _ => !first.any (Test.set unicode negated members).accepts
  | _ => false

end Code

-- The slot that holds the place where a group starts; the one after it holds the end.
def startSlot (index : Nat) : Nat :=
  2 * (index - 1)

namespace Expr

def test? : Expr → Flags → Option Test
  | .char c negated, flags => some (.ofChar flags c negated)
  | .any, flags => some (.ofDot flags)
  | .set negated members, flags => some (.ofSet flags negated members)
  | .group on off a, flags => a.test? (flags.within on off)
  | .seq a .empty, flags => a.test? flags
  | _, _ => none

def compile : Expr → Flags → (next : Code) → Code
  | .empty, _, next => next
  | .seq a b, flags, next => a.compile flags (b.compile flags next)
  | .alt a b, flags, next =>
    .orElse (a.compile flags (.jump next))
      (if b.isAlt then b.compile flags next else .orElse (b.compile flags (.jump next)) .fail)
  | .char c negated, flags, next => .test (.ofChar flags c negated) next
  | .any, flags, next => .test (.ofDot flags) next
  | .set negated members, flags, next => .test (.ofSet flags negated members) next
  | .anchor a, flags, next => .anchor a flags next
  | .capture index a, flags, next =>
    .mark (startSlot index) (a.compile flags (.mark (startSlot index + 1) next))
  | .group on off a, flags, next => a.compile (flags.within on off) next
  | .atomic a, flags, next => .atomic (a.compile flags .done) next
  | .rep greed lo hi a, flags, next =>
    match a.test? flags with
    | some t => .many greed lo hi t next
    | none => .loop greed lo hi (a.compile flags .done) next
  | .ahead negated a, flags, next => .look negated 0 (a.compile flags .done) next
  | .behind negated width _ a, flags, next => .look negated width (a.compile flags .done) next
  | .ref index, flags, next => .ref index flags next
  | .cond index yes no, flags, next =>
    if no = .empty then .cond index (yes.compile flags next) next
    else .cond index (yes.compile flags (.jump next)) (no.compile flags next)

end Expr

def Flags.fixes (flags : Flags) (c : Nat) : Bool :=
  !flags.folding?.any (·.cased c)

namespace Expr

-- Whether an expression starts with a certain character; none if it starts with something else, and
-- `false` if it is empty.
def literalLead : Expr → Flags → Option Bool
  | .empty, _ => some false
  | .seq a b, flags => match a.literalLead flags with
    | some false => b.literalLead flags
    | lead => lead
  | .char c false, flags => if flags.fixes c then some true else none
  | .capture _ a, flags => a.literalLead flags
  | .group on off a, flags => a.literalLead (flags.within on off)
  | _, _ => none

def branchLeads : Expr → Flags → Option (List Member)
  | .alt a b, flags => do return (← a.branchLeads flags) ++ (← b.branchLeads flags)
  | .seq (.char c false) _, flags => if flags.fixes c then some [.single c] else none
  | _, _ => none

-- The set that the first character is taken from, and whether it is negated.
def setLead : Expr → Flags → Option (Bool × List Member)
  | .seq a _, flags => a.setLead flags
  | .capture _ a, flags => a.setLead flags
  | .group on off a, flags => a.setLead (flags.within on off)
  | .alt a b, flags => ((Expr.alt a b).branchLeads flags).map (false, ·)
  | .set negated members, flags =>
    if flags.folding?.any fun f => members.any (folds f) then none else some (negated, members)
  | _, _ => none
where
  folds (f : Folding) : Member → Bool
    | .single c => f.cased c
    | .range lo hi => f.casedIn lo hi || hi ≥ basicPlaneEnd
    | .category .. => false

end Expr

end Highlight.Regex

namespace Highlight

structure Regex where
  expr : Regex.Expr
  flags : Regex.Flags
  least : Nat
  deriving DecidableEq, Repr

namespace Regex

def program (r : Regex) : Code :=
  r.expr.compile r.flags .done

-- The places in a text where a match is looked for. An expression that matches at least one
-- character is not tried where its first character cannot stand; what a character set at its start
-- holds is judged by the flags for the whole expression.
def starts (r : Regex) (text : Array Nat) : List Nat :=
  if text.size < r.least then []
  else if r.least = 0 then List.range (text.size + 1)
  else if r.expr.literalLead r.flags = some true then List.range text.size
  else match r.expr.setLead r.flags with
    | some (negated, members) =>
      let lead := Test.set r.flags.isUnicode negated members
      (List.range text.size).filter fun i => (text[i]?).any lead.accepts
    | none => List.range (text.size - (r.least - 1) + 1)

end Regex

end Highlight
