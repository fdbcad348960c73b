namespace Highlight.Text

def splitOn (sep : Char) : List Char → List (List Char)
  | [] => [[]]
  | c :: cs =>
    if c = sep then [] :: splitOn sep cs
    else match splitOn sep cs with
      | [] => [[c]]
      | part :: rest => (c :: part) :: rest

def span (belongs : Char → Bool) (cs : List Char) : Nat :=
  (cs.takeWhile belongs).length

-- Up to and with the first `mark` that no backslash escapes, all on one line.
def escapedEnd? (mark : Char) : List Char → Option Nat
  | [] => none
  | '\n' :: _ => none
  | ['\\'] => none
  | '\\' :: c :: cs => if c = '\n' then none else (escapedEnd? mark cs).map (· + 2)
  | c :: cs => if c = mark then some 1 else (escapedEnd? mark cs).map (· + 1)

end Highlight.Text
