import Highlight.Document.Basic

namespace Highlight

namespace Document

variable {α : Type}

-- An open bracket: the parts before it, last first, and the marks of its `>` and its own.
structure Bracket (α : Type) where
  before : List (Part α)
  child : Option α
  mark : α

structure Selecting (α : Type) where
  finished : List (Chain α)
  -- The open brackets, innermost first.
  brackets : List (Bracket α)
  parts : List (Part α)
  -- A `>` that waits for its atom.
  child : Option α
  -- The last part is a bare name, which a dot may follow.
  mayDot : Bool

inductive Focus (α : Type)
  | item
  | importPath
  | importEnd (literal : String)
  -- A name at the beginning of an item: a property or a kind.
  | named (mark : α) (name : String)
  | value (mark : α) (property : String)
  | valueEnd (mark : α) (property : String) (valueMark : α) (value : Value) (important : Bool)
  | selecting (s : Selecting α)

-- A rule whose brace is open; `items` holds its items, last first.
structure Block (α : Type) where
  first : Chain α
  rest : List (Chain α)
  items : List (Item α)

structure State (α : Type) where
  done : List (TopItem α)
  blocks : List (Block α)
  focus : Focus α

namespace Selecting

def start : Selecting α := ⟨[], [], [], none, false⟩

def push (s : Selecting α) (p : Part α) (mayDot : Bool) : Selecting α :=
  { s with parts := p :: s.parts, child := none, mayDot }

def chain? (s : Selecting α) : Option (Chain α) :=
  if s.child.isSome then none
  else match s.parts.reverse with
    | [] => none
    | p :: ps => some ⟨p, ps⟩

def finish? (s : Selecting α) : Option (Chain α × List (Chain α)) :=
  if s.brackets.isEmpty then do
    let last ← s.chain?
    match s.finished.reverse ++ [last] with
    | [] => none
    | c :: cs => some (c, cs)
  else none

def step (s : Selecting α) (l : Lexeme) (mark : α) : Option (Selecting α) :=
  match l with
  | .name n => some (s.push (.kind s.child n) true)
  | .string t => some (s.push (.token s.child t) false)
  | .regex t => some (s.push (.pattern s.child mark t) false)
  | .dot => match s.mayDot, s.parts with
    | true, .kind child n :: ps => some { s with parts := .dotted child n :: ps, mayDot := false }
    | _, _ => none
  | .greater => if s.child.isSome then none else some { s with child := some mark, mayDot := false }
  | .leftBracket =>
    some { s with
      brackets := ⟨s.parts, s.child, mark⟩ :: s.brackets
      parts := []
      child := none
      mayDot := false }
  | .rightBracket => match s.brackets, s.chain? with
    | b :: bs, some c => some { s with
        brackets := bs
        parts := .branch b.child b.mark c.first c.rest :: b.before
        child := none
        mayDot := false }
    | _, _ => none
  | .comma =>
    if s.brackets.isEmpty then
      s.chain?.map fun c => { start with finished := c :: s.finished }
    else none
  | _ => none

end Selecting

namespace State

def start : State α := ⟨[], [], .item⟩

def push (s : State α) (i : Item α) : State α :=
  match s.blocks with
  | [] => { s with done := .item i :: s.done, focus := .item }
  | b :: bs => { s with blocks := { b with items := i :: b.items } :: bs, focus := .item }

def stepSelecting (s : State α) (sel : Selecting α) (l : Lexeme) (mark : α) : Option (State α) :=
  match l with
  | .leftBrace => sel.finish?.map fun (first, rest) =>
    { s with blocks := ⟨first, rest, []⟩ :: s.blocks, focus := .item }
  | _ => (sel.step l mark).map fun sel => { s with focus := .selecting sel }

def step (s : State α) (l : Lexeme) (mark : α) : Option (State α) :=
  match s.focus with
  | .item => match l with
    | .importMark => if s.blocks.isEmpty then some { s with focus := .importPath } else none
    | .name n => some { s with focus := .named mark n }
    | .rightBrace => match s.blocks with
      | [] => none
      | b :: bs => some (push { s with blocks := bs } (.rule b.first b.rest b.items.reverse))
    | .string _ | .regex _ | .greater | .leftBracket => s.stepSelecting .start l mark
    | _ => none
  | .importPath => match l with
    | .string t => some { s with focus := .importEnd t }
    | _ => none
  | .importEnd t => match l with
    | .semicolon => some { s with done := .imports t :: s.done, focus := .item }
    | _ => none
  | .named m n => match l with
    | .colon => some { s with focus := .value m n }
    | _ => s.stepSelecting (Selecting.start.push (.kind none n) true) l mark
  | .value m n => (Value.ofLexeme? l).map fun v => { s with focus := .valueEnd m n mark v false }
  | .valueEnd m n vm v important => match l with
    | .important =>
      if important then none else some { s with focus := .valueEnd m n vm v true }
    | .semicolon => some (s.push (.declaration ⟨m, n, vm, v, important⟩))
    | _ => none
  | .selecting sel => s.stepSelecting sel l mark

def finish? (s : State α) : Option (Document α) :=
  match s.focus, s.blocks with
  | .item, [] => some s.done.reverse
  | _, _ => none

-- Reads words until one is out of place; then the words from that one on are left.
def run (s : State α) : List (Lexeme × α) → State α × List (Lexeme × α)
  | [] => (s, [])
  | (l, mark) :: rest => match s.step l mark with
    | some s => run s rest
    | none => (s, (l, mark) :: rest)

end State

def ofLexemes? (words : List (Lexeme × α)) : Option (Document α) :=
  match State.start.run words with
  | (s, []) => s.finish?
  | (_, _ :: _) => none

-- Reads a text. A word out of place is reported before a character that begins no word, and that
-- before an early end.
def parse (text : String) : Except Misread (Document Position) :=
  let scan := Scan.ofText text
  match State.start.run (scan.tokens.map fun t => (t.lexeme, t.place)) with
  | (_, (l, p) :: _) => .error (.token l.label l.text p)
  | (s, []) => match scan.stop with
    | some (offset, p) =>
      let cs := text.toList
      .error (.character ((cs[offset]?).getD '\x00') p (Text.excerpt cs offset))
    | none => match s.finish? with
      | some d => .ok d
      | none => .error (.atEnd (scan.tokens.getLast?.map (·.place)))

end Document

end Highlight
