import Highlight.Text.CharacterName.Aliases
import Highlight.Text.CharacterName.Antiquity
import Highlight.Text.CharacterName.Asia
import Highlight.Text.CharacterName.Europe
import Highlight.Text.CharacterName.Family
import Highlight.Text.CharacterName.Pictures
import Highlight.Text.CharacterName.Syllables
import Highlight.Text.CharacterName.Symbols
import Highlight.Text.Delimited

namespace Highlight.Text

namespace CharacterName

-- Tables list names in the order of their code points, every entry followed by a comma: an equals
-- sign gives the code point of the next name, and each further name is that of the next character.
-- A name that begins or ends like the one before it is cut short. Line ends mean nothing.

-- How many words a small letter keeps: `a` stands for one.
def kept (mark : Char) : Nat :=
  if mark.isLower then mark.toNat - 0x60 else 0

-- The words of the name that an entry stands for. A small letter in front keeps words from the
-- beginning of the name before it, one behind keeps words from its end.
def expand (before : List (List Char)) (entry : List Char) : List (List Char) :=
  let (front, rest) := match entry with
    | c :: cs => if c.isLower then (kept c, cs) else (0, entry)
    | [] => (0, [])
  let back := (rest.getLast?.map kept).getD 0
  let middle := rest.filter (!·.isLower)
  let words := if middle.isEmpty then [] else splitOn ' ' middle
  before.take front ++ words ++ before.drop (before.length - back)

-- The code point of a name, searched for in a table. The characters of the current entry are
-- gathered in reverse; `code` is the code point of the next name and `before` holds the words of
-- the last one.
def find (wanted : List (List Char)) (entry : List Char) (code : Nat)
    (before : List (List Char)) : List Char → Option Nat
  | [] => none
  | '\n' :: cs => find wanted entry code before cs
  | ',' :: cs => match entry.reverse with
    | '=' :: digits => find wanted [] ((hexNumber? digits).getD 0) before cs
    | entry =>
      let name := expand before entry
      if name = wanted then some code else find wanted [] (code + 1) name cs
  | c :: cs => find wanted (c :: entry) code before cs

def tables : List String :=
  [europe, asia, symbols, syllables, antiquity, pictures, aliases]

end CharacterName

-- The code point that a name stands for. Case matters only in the names of ideographs and
-- syllables.
def namedCharacter? (name : String) : Option Nat :=
  let upper := name.toList.map Char.toUpper
  CharacterName.syllable? name.toList
    <|> CharacterName.ideograph? name.toList
    <|> CharacterName.families.findSome? (·.find? upper)
    <|> CharacterName.tables.findSome? fun table =>
      CharacterName.find (splitOn ' ' upper) [] 0 [] table.toList

end Highlight.Text
