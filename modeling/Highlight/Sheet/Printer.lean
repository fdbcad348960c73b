import Highlight.Segment.Printer
import Highlight.Sheet.Basic
import Highlight.Style.Printer

namespace Highlight

namespace Sheet

def describe (s : Sheet) : String :=
  "Stylesheet(style=" ++ s.style.describe ++ ", scopes=[" ++
    ", ".intercalate (s.scopes.map fun (segment, _) => segment.describe) ++ "])"

end Sheet

end Highlight
