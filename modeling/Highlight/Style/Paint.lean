import Highlight.Style.Basic

namespace Highlight

-- A colour as a painter takes it.
inductive Ink
  | shade (s : Shade)
  | palette (index : Fin 256)
  | rgb (red green blue : Fin 256)
  deriving DecidableEq, Repr

def Colour.ink : Colour → Ink
  | named n => .shade n.shade
  | palette i => .palette i
  | rgb r g b => .rgb r g b

-- What a painter is told: the colours and effects that are set, and nothing about the others.
structure Rendition where
  foreground : Option Ink := none
  background : Option Ink := none
  effects : List (Effect × Bool) := []
  deriving DecidableEq, Repr

namespace Rendition

def isEmpty (r : Rendition) : Bool :=
  r.foreground.isNone && r.background.isNone && r.effects.isEmpty

end Rendition

-- What puts a text into a rendition. The program takes it from a library.
abbrev Painter := Rendition → String → String

namespace Style

def build (s : Style) : Rendition where
  foreground := s.foreground.map (·.value.ink)
  background := s.background.map (·.value.ink)
  effects := Effect.all.filterMap fun e => (s.effect e).map fun v => (e, v.value)

-- An empty text is not painted, nor is any by a style that sets nothing a painter is told.
def paint (s : Style) (painter : Painter) (text : String) : String :=
  if s.build.isEmpty || text.isEmpty then text else painter s.build text

end Style

end Highlight
