import Highlight.Segment.Printer
import Highlight.Segment.Order
import Highlight.Journal

namespace Highlight

namespace Segment

inductive Error
  | dotAfter (shown : String)
  | childOfBranch
  | childTwice
  | childOf (shown : String)
  | emptyBranch
  | dotInBranch
  deriving DecidableEq, Repr

def Error.message : Error → String
  | dotAfter shown => "'.' can only follow a node kind, not " ++ shown
  | childOfBranch =>
    "'>' cannot be applied to a branch check; use `[> selector]` instead of `> [selector]` " ++
      "for the same effect"
  | childTwice => "'>' cannot be applied twice to the same segment"
  | childOf shown => "'>' cannot be applied to " ++ shown
  | emptyBranch => "A branch check must contain at least one segment"
  | dotInBranch => "'.' cannot be used in a branch check"

end Segment

namespace Segment

def dotted : Segment → Except Error Segment
  | atom (.kind name) => .ok (.lastKind name)
  | s => .error (.dotAfter s.text)

def asChild : Segment → Except Error Segment
  | atom a => .ok (.child a)
  | branch _ => .error .childOfBranch
  | child _ => .error .childTwice
  | foreign f => .error (.childOf f.describe)

def ofBranch (selector : List Segment) : Except Error Segment :=
  if selector.isEmpty then .error .emptyBranch
  else if selector.any isDotted then .error .dotInBranch
  else .ok (.branch selector)

end Segment

inductive Draft
  | kind (name : String)
  | token (literal : String)
  | pattern (source : String)
  | dotted (inner : Draft)
  | child (inner : Draft)
  | branch (selector : List Draft)
  | foreign (f : Foreign)

namespace Draft

inductive Error
  | segment (e : Segment.Error)
  | pattern (source : String) (e : Regex.Error)

mutual

-- Checks from the inside out.
def build : Draft → Logged Error Segment
  | kind name => pure (.kind name)
  | token literal => pure (.token literal)
  | pattern source =>
    match Pattern.compile source with
    | .error e => throw (.pattern source e)
    | .ok p => do
      Logged.log (.pattern p)
      return .pattern p
  | dotted inner => do Logged.ofExcept ((← build inner).dotted.mapError .segment)
  | child inner => do Logged.ofExcept ((← build inner).asChild.mapError .segment)
  | branch selector => do
    Logged.ofExcept ((Segment.ofBranch (← buildAll selector)).mapError .segment)
  | foreign f => pure (.foreign f)
termination_by structural d => d

def buildAll : List Draft → Logged Error (List Segment)
  | [] => pure []
  | d :: rest => do return (← build d) :: (← buildAll rest)
termination_by structural d => d

end

end Draft

end Highlight
