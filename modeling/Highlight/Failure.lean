import Highlight.Config
import Highlight.Import
import Highlight.Span

namespace Highlight

namespace QueryError

def message : QueryError → String
  | dotted => Segment.Error.dotInBranch.message
  | foreign f => "Unsupported selector segment: " ++ f.describe

end QueryError

namespace WalkError

def message : WalkError → String
  | query e => e.message
  | record e => e.message

end WalkError

inductive Failure
  | load (e : LoadError)
  | walk (e : WalkError)
  | config (e : Config.Error)
  | notText (e : Text.Utf8.Error)
  | library (name message : String)
  | noKind (type : String)

namespace Failure

def message : Failure → String
  | load e => e.message
  | walk e => e.message
  | config e => e.message
  | notText e => e.message
  | library _ message => message
  | noKind type => "'" ++ type ++ "' object has no attribute 'data'"

end Failure

end Highlight
