import Highlight.CommandLine.Outcome
import Highlight.Lint

namespace Highlight

namespace CommandLine

def findingsText (name : String) (found : List Diagnostic) : String :=
  if found.isEmpty then "OK: " ++ name ++ " is valid (0 diagnostics)\n"
  else
    let count (s : Severity) := toString (found.countP (·.severity = s))
    String.join (found.map fun d => d.text ++ "\n") ++ "\nSummary: " ++ count .error ++
      " error(s), " ++ count .warning ++ " warning(s), " ++ count .info ++ " info\n"

def check {Parser : Type} (host : Host Parser) (file : String) : Outcome :=
  let path := Path.ofText file
  let run := Lint.file host.files host.here path []
  let messages := run.events.map Message.event
  match run.result with
  | .error e => { status := 1, messages, failure := some (.load e) }
  | .ok found =>
    { status := if found.any (·.isError) then 1 else 0
      output := plain (findingsText path.name found)
      messages }

end CommandLine

end Highlight
