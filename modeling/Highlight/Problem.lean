import Highlight.Segment.Draft
import Highlight.Style.Colour
import Highlight.Files.Basic
import Highlight.Text.Excerpt

namespace Highlight

inductive ProblemKind
  | sheet
  | parse
  | selector
  | pattern (source : String)
  deriving DecidableEq, Repr

inductive Expected
  | colour (property : String)
  | text
  | boolean (property : String)
  deriving DecidableEq, Repr

inductive Cause
  | misread (m : Misread)
  | segment (e : Segment.Error)
  | pattern (source : String) (e : Regex.Error)
  | colour (e : Colour.Error)
  | unexpected (expected : Expected) (got : String)
  | unknownProperty (name : String)
  | tooManyDigits (count : Nat)
  | unreadable (e : FileError) (path : Path)
  | circular (chain : List Location)
  | stated (kind : ProblemKind) (message : String)

namespace Expected

def message : Expected → String
  | colour p => "Expected a colour for '" ++ p ++ "', got "
  | text => "Expected a quoted string for 'content', got "
  | boolean p => "Expected true or false for '" ++ p ++ "', got "

end Expected

namespace Cause

def kind : Cause → ProblemKind
  | misread _ => .parse
  | segment _ => .selector
  | pattern source (.fault ..) => .pattern source
  | stated kind _ => kind
  | _ => .sheet

def message : Cause → String
  | misread m => "Invalid stylesheet syntax: " ++ m.message
  | segment e => e.message
  | pattern source e => Pattern.refusal source e
  | colour e => e.message
  | unexpected expected got => expected.message ++ got
  | unknownProperty name => "Unknown style property: '" ++ name ++ "'"
  | tooManyDigits n => Text.Decimal.tooManyDigits n
  | unreadable e path => "Cannot read stylesheet: " ++ e.message path.text
  | circular chain => "Circular stylesheet import: " ++ " -> ".intercalate (chain.map (·.text))
  | stated _ message => message

end Cause

structure Problem where
  cause : Cause
  line : Option Int := none
  column : Option Int := none
  path : Option Path := none

namespace Problem

def located (cause : Cause) (p : Position) : Problem :=
  { cause, line := some p.line, column := some p.column }

-- Attaches the file that the problem comes from, unless one is known.
def withPath (p : Problem) (path : Path) : Problem :=
  { p with path := p.path.or (some path) }

def kind (p : Problem) : ProblemKind := p.cause.kind

def message (p : Problem) : String := p.cause.message

-- File, line and column with colons between them; a column only follows a line.
def location (p : Problem) : String :=
  let path := (p.path.map (·.text)).getD ""
  match p.line, p.column with
  | none, _ => path
  | some l, none => path ++ ":" ++ toString l
  | some l, some c => path ++ ":" ++ toString l ++ ":" ++ toString c

def text (p : Problem) : String :=
  if p.location = "" then p.message else p.location ++ ": " ++ p.message

end Problem

end Highlight
