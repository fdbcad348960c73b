import Highlight.Style.Ansi
import Highlight.Style.Paint

namespace Highlight

namespace Shade

def code (s : Shade) (background : Bool) : Nat :=
  (if s.bright then 90 else 30) + (if background then 10 else 0) + s.hue.index

end Shade

namespace Ink

def code (i : Ink) (background : Bool) : String :=
  let mode := if background then "48" else "38"
  match i with
  | shade s => toString (s.code background)
  | palette n => mode ++ ";5;" ++ toString n.val
  | rgb r g b => mode ++ ";2;" ++ toString r.val ++ ";" ++ toString g.val ++ ";" ++ toString b.val

end Ink

namespace Effect

-- The order in which effects are written.
def painted : List Effect :=
  [bold, dim, underline, italic, blink, reverse, strikethrough]

def code (e : Effect) (on : Bool) : Nat :=
  match e, on with
  | bold, true => 1
  | bold, false => 22
  | dim, true => 2
  | dim, false => 22
  | italic, true => 3
  | italic, false => 23
  | underline, true => 4
  | underline, false => 24
  | blink, true => 5
  | blink, false => 25
  | reverse, true => 7
  | reverse, false => 27
  | strikethrough, true => 9
  | strikethrough, false => 29

end Effect

namespace Rendition

-- The codes of what is set, in the order in which they are written.
def codes (r : Rendition) : List String :=
  (r.foreground.map (·.code false)).toList ++ (r.background.map (·.code true)).toList ++
    Effect.painted.filterMap fun e => (r.effects.lookup e).map fun on => toString (e.code on)

end Rendition

-- The painter of a terminal: a sequence for each code before the text, and after it the one that
-- resets them all.
def Painter.ansi : Painter := fun r text =>
  String.join (r.codes.map Ansi.sequence) ++ text ++ Ansi.reset

end Highlight
