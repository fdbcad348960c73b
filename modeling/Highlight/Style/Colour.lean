import Highlight.Text.Quoted
import Highlight.Text.Case

namespace Highlight

inductive Hue
  | black
  | red
  | green
  | yellow
  | blue
  | magenta
  | cyan
  | white
  deriving DecidableEq, Repr

namespace Hue

def name : Hue → String
  | black => "black"
  | red => "red"
  | green => "green"
  | yellow => "yellow"
  | blue => "blue"
  | magenta => "magenta"
  | cyan => "cyan"
  | white => "white"

def index : Hue → Nat
  | black => 0
  | red => 1
  | green => 2
  | yellow => 3
  | blue => 4
  | magenta => 5
  | cyan => 6
  | white => 7

end Hue

structure Shade where
  hue : Hue
  bright : Bool
  deriving DecidableEq, Repr

namespace Shade

def name (s : Shade) : String :=
  if s.bright then "bright_" ++ s.hue.name else s.hue.name

end Shade

inductive ColourName
  | plain (hue : Hue)
  | bright (hue : Hue)
  | purple
  | brightPurple
  | gray
  | grey
  deriving DecidableEq, Repr

namespace ColourName

def text : ColourName → String
  | plain h => h.name
  | bright h => "br" ++ h.name
  | purple => "purple"
  | brightPurple => "brpurple"
  | gray => "gray"
  | grey => "grey"

def shade : ColourName → Shade
  | plain h => ⟨h, false⟩
  | bright h => ⟨h, true⟩
  | purple => ⟨.magenta, false⟩
  | brightPurple => ⟨.magenta, true⟩
  | gray | grey => ⟨.black, true⟩

def hues : List Hue :=
  [.black, .red, .green, .yellow, .blue, .magenta, .cyan, .white]

def all : List ColourName :=
  hues.map plain ++ hues.map bright ++ [purple, brightPurple, gray, grey]

def ofText? (s : String) : Option ColourName :=
  all.find? (·.text = s)

end ColourName

inductive Colour
  | named (name : ColourName)
  | palette (index : Fin 256)
  | rgb (red green blue : Fin 256)
  deriving DecidableEq, Repr

namespace Colour

inductive Error
  | unknownName (name : String)
  | paletteRange (index : Int)
  | channelRange (channel : Int)
  deriving DecidableEq, Repr

def Error.message : Error → String
  | unknownName n => "Unknown colour name: " ++ Text.quoted n
  | paletteRange i => "Palette colour out of range (0-255): " ++ toString i
  | channelRange c => "RGB channel out of range (0-255): " ++ toString c

def ofName (name : String) : Except Error Colour :=
  match ColourName.ofText? (Text.lowerText name) with
  | some n => .ok (.named n)
  | none => .error (.unknownName name)

def byte? (n : Int) : Option (Fin 256) :=
  if h : 0 ≤ n ∧ n < 256 then some ⟨n.toNat, by omega⟩ else none

def ofIndex (index : Int) : Except Error Colour :=
  match byte? index with
  | some i => .ok (.palette i)
  | none => .error (.paletteRange index)

def channel (n : Int) : Except Error (Fin 256) :=
  match byte? n with
  | some c => .ok c
  | none => .error (.channelRange n)

def ofChannels (red green blue : Int) : Except Error Colour :=
  return .rgb (← channel red) (← channel green) (← channel blue)

def hexDigit? (c : Char) : Option Nat :=
  if '0' ≤ c ∧ c ≤ '9' then some (c.toNat - 0x30)
  else if 'a' ≤ c ∧ c ≤ 'f' then some (c.toNat - 0x57)
  else if 'A' ≤ c ∧ c ≤ 'F' then some (c.toNat - 0x37)
  else none

def hexByte? (high low : Char) : Option (Fin 256) := do
  byte? (16 * (← hexDigit? high) + (← hexDigit? low) : Nat)

-- A number sign and six hexadecimal digits; one newline may follow.
def ofHex? : List Char → Option Colour
  | '#' :: a :: b :: c :: d :: e :: f :: rest =>
    if rest = [] ∨ rest = ['\n'] then
      return .rgb (← hexByte? a b) (← hexByte? c d) (← hexByte? e f)
    else none
  | _ => none

def ofText (text : String) : Except Error Colour :=
  match ofHex? text.toList with
  | some c => .ok c
  | none => ofName text

def describe : Colour → String
  | named n => "Colour(value=" ++ Text.quoted n.text ++ ")"
  | palette i => "Colour(value=" ++ toString i.val ++ ")"
  | rgb r g b =>
    "Colour(value=(" ++ toString r.val ++ ", " ++ toString g.val ++ ", " ++ toString b.val ++ "))"

end Colour

end Highlight
