import Highlight.Segment.Basic

namespace Highlight

namespace Atom

def quoteLiteral (literal : String) : String :=
  let escape (c : Char) : List Char := if c = '\\' || c = '\"' then ['\\', c] else [c]
  "\"" ++ String.ofList (literal.toList.flatMap escape) ++ "\""

def text : Atom → String
  | kind name => name
  | token literal => quoteLiteral literal
  | pattern p => "/" ++ p.source ++ "/"
  | lastKind name => name ++ "."

def describe : Atom → String
  | kind name => "Kind(name=" ++ Text.quoted name ++ ")"
  | token literal => "Token(literal=" ++ Text.quoted literal ++ ")"
  | pattern p => "TokenPattern(pattern=" ++ Text.quoted p.source ++ ")"
  | lastKind name => "NoChildren(inner=Kind(name=" ++ Text.quoted name ++ "))"

end Atom

namespace Foreign

def shown : Foreign → String
  | bare => ""
  | text t => t
  | nothing => "None"

def describe : Foreign → String
  | bare => "Segment()"
  | text t => Text.quoted t
  | nothing => "None"

end Foreign

-- Elements between round brackets; a single one is followed by a comma.
def describeTuple : List String → String
  | [s] => "(" ++ s ++ ",)"
  | ss => "(" ++ ", ".intercalate ss ++ ")"

namespace Segment

mutual

def text : Segment → String
  | atom a => a.text
  | child a => "> " ++ a.text
  | branch selector => "[" ++ " ".intercalate (texts selector) ++ "]"
  | foreign f => f.shown
termination_by structural s => s

def texts : List Segment → List String
  | [] => []
  | s :: rest => s.text :: texts rest
termination_by structural s => s

end

mutual

def describe : Segment → String
  | atom a => a.describe
  | child a => "DirectChild(inner=" ++ a.describe ++ ")"
  | branch selector => "BranchCheck(selector=" ++ describeTuple (describeAll selector) ++ ")"
  | foreign f => f.describe
termination_by structural s => s

def describeAll : List Segment → List String
  | [] => []
  | s :: rest => s.describe :: describeAll rest
termination_by structural s => s

end

end Segment

namespace Selector

def text (selector : Selector) : String :=
  " ".intercalate (Segment.texts selector)

end Selector

end Highlight
