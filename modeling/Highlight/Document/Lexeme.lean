import Highlight.Text.Delimited
import Highlight.Text.Excerpt
import Highlight.Text.Letter

namespace Highlight

inductive Lexeme
  | importMark
  | semicolon
  | leftBrace
  | rightBrace
  | comma
  | greater
  | dot
  | leftBracket
  | rightBracket
  | colon
  | important
  | hexColour (text : String)
  | rgb (text : String)
  | regex (text : String)
  | name (text : String)
  | integer (text : String)
  | string (text : String)
  deriving DecidableEq, Repr

namespace Lexeme

open Text (span escapedEnd?)

def text : Lexeme → String
  | importMark => "@import"
  | semicolon => ";"
  | leftBrace => "\x7b"
  | rightBrace => "\x7d"
  | comma => ","
  | greater => ">"
  | dot => "."
  | leftBracket => "["
  | rightBracket => "]"
  | colon => ":"
  | important => "!important"
  | hexColour t | rgb t | regex t | name t | integer t | string t => t

def label : Lexeme → String
  | importMark => "__ANON_0"
  | semicolon => "SEMICOLON"
  | leftBrace => "LBRACE"
  | rightBrace => "RBRACE"
  | comma => "COMMA"
  | greater => "MORETHAN"
  | dot => "DOT"
  | leftBracket => "LSQB"
  | rightBracket => "RSQB"
  | colon => "COLON"
  | important => "IMPORTANT"
  | hexColour _ => "HEX_COLOUR"
  | rgb _ => "RGB"
  | regex _ => "REGEX"
  | name _ => "NAME"
  | integer _ => "INT"
  | string _ => "STRING"

def isSpace (c : Char) : Bool :=
  c = ' ' || c = '\t' || c = '\x0c' || c = '\r' || c = '\n'

def isNameStart (c : Char) : Bool :=
  c = '_' || c.isAlpha

def isNamePart (c : Char) : Bool :=
  c = '_' || c.isAlphanum

def isHexDigit (c : Char) : Bool :=
  c.isDigit || ('a' ≤ c && c ≤ 'f') || ('A' ≤ c && c ≤ 'F')

-- Each of the following gives the number of characters of the word that the text begins with.

def blankWidth? (cs : List Char) : Option Nat :=
  match span isSpace cs with
  | 0 => none
  | n => some n

def commentEnd? : List Char → Option Nat
  | [] => none
  | '*' :: '/' :: _ => some 2
  | _ :: cs => (commentEnd? cs).map (· + 1)

def commentWidth? : List Char → Option Nat
  | '/' :: '*' :: cs => (commentEnd? cs).map (· + 2)
  | _ => none

def stringWidth? : List Char → Option Nat
  | '\"' :: cs => (escapedEnd? '\"' cs).map (· + 1)
  | _ => none

-- A pattern is not empty and does not begin with a star.
def regexWidth? : List Char → Option Nat
  | '/' :: c :: cs =>
    if c = '*' || c = '/' then none else (escapedEnd? '/' (c :: cs)).map (· + 1)
  | _ => none

def hexWidth? : List Char → Option Nat
  | '#' :: cs => if 6 ≤ span isHexDigit cs then some 7 else none
  | _ => none

-- A run of decimal digits of any script with blanks around it, up to and with `close`.
def channelWidth? (close : Char) (cs : List Char) : Option Nat :=
  let before := span (Text.isBlank ·.toNat) cs
  let digits := span (Text.isDigit ·.toNat) (cs.drop before)
  let after := span (Text.isBlank ·.toNat) (cs.drop (before + digits))
  if digits = 0 then none
  else match cs.drop (before + digits + after) with
    | c :: _ => if c = close then some (before + digits + after + 1) else none
    | [] => none

def rgbWidth? : List Char → Option Nat
  | 'r' :: 'g' :: 'b' :: '(' :: cs => do
    let red ← channelWidth? ',' cs
    let green ← channelWidth? ',' (cs.drop red)
    let blue ← channelWidth? ')' (cs.drop (red + green))
    return 4 + red + green + blue
  | _ => none

def nameWidth? : List Char → Option Nat
  | c :: cs => if isNameStart c then some (span isNamePart cs + 1) else none
  | [] => none

def integerWidth? (cs : List Char) : Option Nat :=
  match span Char.isDigit cs with
  | 0 => none
  | n => some n

def literalWidth? (literal : String) (cs : List Char) : Option Nat :=
  if literal.toList.isPrefixOf cs then some literal.length else none

def literals : List Lexeme :=
  [importMark, semicolon, leftBrace, rightBrace, comma, greater, dot, leftBracket, rightBracket,
    colon, important]

def first? (inValue : Bool) (cs : List Char) : Option (Lexeme × Nat) :=
  let take (make : String → Lexeme) (width? : Option Nat) : Option (Lexeme × Nat) :=
    width?.map fun n => (make (String.ofList (cs.take n)), n)
  let fixed (l : Lexeme) := (literalWidth? l.text cs).map fun n => (l, n)
  (if inValue then take rgb (rgbWidth? cs) else none)
    <|> take name (nameWidth? cs)
    <|> take integer (integerWidth? cs)
    <|> take string (stringWidth? cs)
    <|> take regex (regexWidth? cs)
    <|> take hexColour (hexWidth? cs)
    <|> literals.findSome? fixed

-- The colour rgb(1, 2, 3) is one word between a colon or an import mark and the next semicolon;
-- anywhere else rgb is a name.

-- Whether a value is being read after a word.
def inValueAfter (inValue : Bool) : Lexeme → Bool
  | colon | importMark => true
  | semicolon => false
  | _ => inValue

def gapWidth? (cs : List Char) : Option Nat :=
  blankWidth? cs <|> commentWidth? cs

end Lexeme

structure Token where
  lexeme : Lexeme
  place : Position
  deriving DecidableEq, Repr

structure Scan where
  tokens : List Token
  stop : Option (Nat × Position)
  deriving Repr

namespace Scan

def cons (t : Token) (s : Scan) : Scan := { s with tokens := t :: s.tokens }

def scanFrom (inValue : Bool) (offset : Nat) (p : Position) (text : List Char) : Scan :=
  match text with
  | [] => ⟨[], none⟩
  | c :: cs =>
    let move (n : Nat) := p.advance ((c :: cs).take n)
    match Lexeme.gapWidth? (c :: cs) with
    | some n => scanFrom inValue (offset + n) (move n) (cs.drop (n - 1))
    | none => match Lexeme.first? inValue (c :: cs) with
      | some (l, n) =>
        (scanFrom (l.inValueAfter inValue) (offset + n) (move n) (cs.drop (n - 1))).cons ⟨l, p⟩
      | none => ⟨[], some (offset, p)⟩
termination_by text.length
decreasing_by
  all_goals
    simp only [List.length_cons, List.length_drop]
    omega

def ofText (text : String) : Scan :=
  scanFrom false 0 Position.start text.toList

end Scan

end Highlight
