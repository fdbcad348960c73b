import Highlight.Import

namespace Highlight

inductive Severity
  | error
  | warning
  | info
  deriving DecidableEq, Repr

namespace Severity

def text : Severity → String
  | error => "ERROR"
  | warning => "WARNING"
  | info => "INFO"

end Severity

structure Diagnostic where
  rule : String
  severity : Severity
  message : String
  selector : Option String := none
  fix : Option String := none
  deriving DecidableEq, Repr

namespace Diagnostic

def isError (d : Diagnostic) : Bool := d.severity = .error

def isWarning (d : Diagnostic) : Bool := d.severity = .warning

def text (d : Diagnostic) : String :=
  let place := match d.selector with
    | none | some "" => ""
    | some s => " [" ++ s ++ "]"
  d.severity.text ++ place ++ ": " ++ d.message

end Diagnostic

namespace Lint

def unreachable (selector : Selector) (last nested : Segment) : Diagnostic :=
  let full := Selector.text (selector ++ [nested])
  { rule := "check_unreachable_scopes"
    severity := .warning
    message := "Selector '" ++ full ++ "' is never matched: '" ++ last.text ++
      "' only matches leaves."
    selector := some full
    fix := some ("Move the rule out of '" ++ Selector.text selector ++ "'.") }

def emptyRule (selector : Selector) : Diagnostic :=
  { rule := "check_empty_rules"
    severity := .info
    message := "Rule '" ++ Selector.text selector ++ "' declares no styles."
    selector := some (Selector.text selector) }

def unreachableScopes (sheet : Sheet) : List Diagnostic :=
  sheet.walk.flatMap fun (selector, node) => match selector.getLast? with
    | some last =>
      if last.isTerminal then node.scopes.map fun (nested, _) => unreachable selector last nested
      else []
    | none => []

def emptyRules (sheet : Sheet) : List Diagnostic :=
  sheet.walk.filterMap fun (selector, node) =>
    if selector ≠ [] ∧ node.style = ∅ ∧ node.scopes.isEmpty then some (emptyRule selector) else none

abbrev Rule := Sheet → List Diagnostic

def rules : List Rule := [unreachableScopes, emptyRules]

def findings (sheet : Sheet) (further : List Rule) : List Diagnostic :=
  (rules ++ further).flatMap fun rule => rule sheet

end Lint

namespace ProblemKind

def name : ProblemKind → String
  | sheet => "StylesheetError"
  | parse => "ParseError"
  | selector => "SelectorError"
  | pattern _ => "PatternError"

end ProblemKind

namespace Lint

def ofProblem (p : Problem) : Diagnostic :=
  { rule := p.kind.name, severity := .error, message := p.text }

-- Findings about the stylesheet in a file. One that cannot be loaded has its problem as the only
-- finding.
def file (fs : Files) (here : Location) (path : Path) (further : List Rule) :
    Logged LoadError (List Diagnostic) :=
  tryCatch
    (return findings (← Sheet.ofFile fs here path) further)
    fun
      | .problem p => return [ofProblem p]
      | e => throw e

end Lint

end Highlight
