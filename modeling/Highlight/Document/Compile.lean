import Highlight.Document.Reader
import Highlight.Problem
import Highlight.Sheet.Basic

namespace Highlight

namespace Document

abbrev Checked := Logged Problem

def check {α : Type} (cause : α → Cause) (p : Position) : {β : Type} → Except α β → Checked β
  | _, .ok b => pure b
  | _, .error e => throw (Problem.located (cause e) p)

def unescape : Char → Char
  | 'n' => '\n'
  | 't' => '\t'
  | 'r' => '\r'
  | '0' => '\x00'
  | c => c

def unescapeAll : List Char → List Char
  | '\\' :: c :: cs => unescape c :: unescapeAll cs
  | c :: cs => c :: unescapeAll cs
  | [] => []

def inner (literal : String) : List Char :=
  (literal.toList.drop 1).dropLast

def unquote (literal : String) : String :=
  String.ofList (unescapeAll (inner literal))

-- Slashes lose the backslash before them.
def unescapeSlashes : List Char → List Char
  | '\\' :: '/' :: cs => '/' :: unescapeSlashes cs
  | c :: cs => c :: unescapeSlashes cs
  | [] => []

def patternSource (literal : String) : String :=
  String.ofList (unescapeSlashes (inner literal))

def compilePattern (p : Position) (source : String) : Checked Pattern := do
  let pattern ← check (.pattern source) p (Pattern.compile source)
  Logged.log (.pattern pattern)
  return pattern

def applyChild (child : Option Position) (s : Segment) : Checked Segment :=
  match child with
  | none => pure s
  | some p => check .segment p s.asChild

mutual

def Part.segment : Part Position → Checked Segment
  | .kind child n => applyChild child (.kind n)
  | .dotted child n => applyChild child (.lastKind n)
  | .token child t => applyChild child (.token (unquote t))
  | .pattern child mark t => do
    let pattern ← compilePattern mark (patternSource t)
    applyChild child (.pattern pattern)
  | .branch child mark first rest => do
    let s ← first.segment
    let selector := s :: (← segments rest)
    applyChild child (← check .segment mark (Segment.ofBranch selector))
termination_by structural p => p

def segments : List (Part Position) → Checked (List Segment)
  | [] => pure []
  | p :: ps => do
    let s ← p.segment
    return s :: (← segments ps)
termination_by structural p => p

end

def Chain.selector (c : Chain Position) : Checked Selector := do
  let s ← c.first.segment
  return s :: (← segments c.rest)

inductive Content
  | text (t : String)
  | number (n : Nat)
  | hex (t : String)
  | colour (c : Colour)
  | word (t : String)

def Content.describe : Content → String
  | text t | hex t | word t => Text.quoted t
  | number n => toString n
  | colour c => c.describe

def digitRuns : List Char → List (List Char)
  | [] => []
  | c :: cs =>
    if Text.isDigit c.toNat then
      match cs, digitRuns cs with
      | d :: _, run :: runs => if Text.isDigit d.toNat then (c :: run) :: runs else [c] :: run :: runs
      | _, runs => [c] :: runs
    else digitRuns cs

def readNumber (p : Position) (digits : List Char) : Checked Nat :=
  check .tooManyDigits p (Text.Decimal.read digits)

def Value.content (p : Position) : Value → Checked Content
  | .string t => pure (.text (unquote t))
  | .integer t => return .number (← readNumber p t.toList)
  | .hexColour t => pure (.hex t)
  | .name t => pure (.word t)
  | .rgb t => do
    let channels ← (digitRuns t.toList).mapM (readNumber p)
    match channels with
    | [r, g, b] => return .colour (← check .colour p (Colour.ofChannels r g b))
    | _ => pure (.word t)

structure Setup where
  target : Attribute
  setting : Setting target.Value

def Setup.style (s : Setup) : Style :=
  Style.single s.target s.setting

def isForeground (property : String) : Bool :=
  property = "color" || property = "colour" || property = "foreground"

def contentColour (property : String) : Content → Except Cause Colour
  | .colour c => .ok c
  | .number n => (Colour.ofIndex n).mapError .colour
  | .word t | .hex t => (Colour.ofText t).mapError .colour
  | .text t => .error (.unexpected (.colour property) (Text.quoted t))

def setup (property : String) (important : Bool) (content : Content) : Except Cause Setup :=
  if isForeground property then
    return ⟨.foreground, ← contentColour property content, important⟩
  else if property = "background" then
    return ⟨.background, ← contentColour property content, important⟩
  else if property = "content" then
    match content with
    | .text t => .ok ⟨.content, t, important⟩
    | _ => .error (.unexpected .text content.describe)
  else match Effect.ofName? property with
    | some e => match content with
      | .word "true" => .ok ⟨.effect e, true, important⟩
      | .word "false" => .ok ⟨.effect e, false, important⟩
      | _ => .error (.unexpected (.boolean property) content.describe)
    | none => .error (.unknownProperty property)

def Declaration.setup (d : Declaration Position) : Checked Setup := do
  let content ← d.value.content d.valueMark
  check id d.mark (Document.setup d.property d.important content)

inductive Rule
  | mk (selectors : List Selector) (setups : List Setup) (rules : List Rule)

inductive Statement
  | setup (s : Setup)
  | rule (r : Rule)

def Statement.setup? : Statement → Option Setup
  | .setup s => some s
  | .rule _ => none

def Statement.rule? : Statement → Option Rule
  | .rule r => some r
  | .setup _ => none

mutual

def Item.statement : Item Position → Checked Statement
  | .declaration d => return .setup (← d.setup)
  | .rule first rest body => do
    let selector ← first.selector
    let selectors ← rest.mapM Chain.selector
    let statements ← statements body
    return .rule ⟨selector :: selectors, statements.filterMap Statement.setup?,
      statements.filterMap Statement.rule?⟩
termination_by structural i => i

def statements : List (Item Position) → Checked (List Statement)
  | [] => pure []
  | i :: is => do
    let s ← i.statement
    return s :: (← statements is)
termination_by structural i => i

end

def styleOf (setups : List Setup) : Style :=
  setups.foldl (fun style s => style.merge s.style) ∅

mutual

-- Applies a rule below a sheet: for each selector its own style, then its nested rules.
def Rule.apply : Rule → Sheet → Sheet
  | .mk selectors setups rules, sheet =>
    selectors.foldl (fun sheet selector =>
      sheet.updateAt selector fun target => applyAll rules (target.declare (styleOf setups))) sheet
termination_by structural r => r

def applyAll : List Rule → Sheet → Sheet
  | [], sheet => sheet
  | r :: rs, sheet => applyAll rs (r.apply sheet)
termination_by structural r => r

end

def Statement.apply (sheet : Sheet) : Statement → Sheet
  | .setup s => sheet.declare s.style
  | .rule r => r.apply sheet

-- A document with its own rules compiled: the names of its imports in order, and its sheet.
structure Compiled where
  imports : List String
  sheet : Sheet

def TopItem.check : TopItem Position → Checked (String ⊕ Statement)
  | .imports t => pure (.inl (unquote t))
  | .item i => return .inr (← i.statement)

def compile (d : Document Position) : Checked Compiled := do
  let items ← d.mapM TopItem.check
  return {
    imports := items.filterMap Sum.getLeft?
    sheet := (items.filterMap Sum.getRight?).foldl Statement.apply ∅ }

def compileText (text : String) : Checked Compiled :=
  match parse text with
  | .ok d => compile d
  | .error m => throw (Problem.located (.misread m) m.position)

end Document

end Highlight
