import Highlight.Document.Lexeme

namespace Highlight

namespace Document

-- One part of a selector: an atom, with the mark of the `>` before it if there is one.
inductive Part (α : Type)
  | kind (child : Option α) (name : String)
  | dotted (child : Option α) (name : String)
  | token (child : Option α) (literal : String)
  | pattern (child : Option α) (mark : α) (literal : String)
  | branch (child : Option α) (mark : α) (first : Part α) (rest : List (Part α))

structure Chain (α : Type) where
  first : Part α
  rest : List (Part α)

inductive Value
  | string (literal : String)
  | integer (digits : String)
  | hexColour (text : String)
  | rgb (text : String)
  | name (text : String)
  deriving DecidableEq, Repr

structure Declaration (α : Type) where
  mark : α
  property : String
  valueMark : α
  value : Value
  important : Bool

inductive Item (α : Type)
  | declaration (d : Declaration α)
  | rule (first : Chain α) (rest : List (Chain α)) (body : List (Item α))

inductive TopItem (α : Type)
  | imports (literal : String)
  | item (i : Item α)

end Document

abbrev Document (α : Type) := List (Document.TopItem α)

namespace Document

variable {α : Type}

def Value.lexeme : Value → Lexeme
  | string t => .string t
  | integer t => .integer t
  | hexColour t => .hexColour t
  | rgb t => .rgb t
  | name t => .name t

def Value.ofLexeme? : Lexeme → Option Value
  | .string t => some (.string t)
  | .integer t => some (.integer t)
  | .hexColour t => some (.hexColour t)
  | .rgb t => some (.rgb t)
  | .name t => some (.name t)
  | _ => none

def arrow (child : Option α) : List Lexeme :=
  if child.isSome then [.greater] else []

mutual

def Part.lexemes : Part α → List Lexeme
  | .kind child n => arrow child ++ [.name n]
  | .dotted child n => arrow child ++ [.name n, .dot]
  | .token child t => arrow child ++ [.string t]
  | .pattern child _ t => arrow child ++ [.regex t]
  | .branch child _ first rest =>
    arrow child ++ .leftBracket :: (first.lexemes ++ partsLexemes rest ++ [.rightBracket])
termination_by structural p => p

def partsLexemes : List (Part α) → List Lexeme
  | [] => []
  | p :: ps => p.lexemes ++ partsLexemes ps
termination_by structural p => p

end

def Chain.lexemes (c : Chain α) : List Lexeme :=
  c.first.lexemes ++ partsLexemes c.rest

def Declaration.lexemes (d : Declaration α) : List Lexeme :=
  [.name d.property, .colon, d.value.lexeme] ++ (if d.important then [.important] else []) ++
    [.semicolon]

mutual

def Item.lexemes : Item α → List Lexeme
  | .declaration d => d.lexemes
  | .rule first rest body =>
    first.lexemes ++ rest.flatMap (fun c => .comma :: c.lexemes) ++
      .leftBrace :: (itemsLexemes body ++ [.rightBrace])
termination_by structural i => i

def itemsLexemes : List (Item α) → List Lexeme
  | [] => []
  | i :: is => i.lexemes ++ itemsLexemes is
termination_by structural i => i

end

def TopItem.lexemes : TopItem α → List Lexeme
  | .imports t => [.importMark, .string t, .semicolon]
  | .item i => i.lexemes

def lexemes (d : Document α) : List Lexeme :=
  d.flatMap TopItem.lexemes

end Document

end Highlight
