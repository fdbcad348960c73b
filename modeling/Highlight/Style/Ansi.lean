namespace Highlight

-- The escape sequences of a terminal.
namespace Ansi

def escape : Char := '\x1b'

-- The sequence that selects a rendition by its code.
def sequence (code : String) : String :=
  "\x1b[" ++ code ++ "m"

def reset : String := sequence "0"

-- The characters that may follow the bracket of an escape sequence.
def isParameter (c : Char) : Bool :=
  '0' ≤ c && c ≤ '?'

-- The characters that may stand after the parameters.
def isIntermediate (c : Char) : Bool :=
  ' ' ≤ c && c ≤ '/'

-- The characters that end an escape sequence.
def isFinal (c : Char) : Bool :=
  '@' ≤ c && c ≤ '~'

-- What follows the escape sequence that the text begins with, if it begins with one.
def afterSequence? : List Char → Option (List Char)
  | '\x1b' :: '[' :: cs =>
    match (cs.dropWhile isParameter).dropWhile isIntermediate with
    | c :: rest => if isFinal c then some rest else none
    | [] => none
  | _ => none

theorem afterSequence?_length {cs rest : List Char} (h : afterSequence? cs = some rest) :
    rest.length < cs.length := by
  unfold afterSequence? at h
  split at h
  · next tail =>
    have le := (List.dropWhile_sublist isParameter (l := tail)).length_le
    have le' := (List.dropWhile_sublist isIntermediate (l := tail.dropWhile isParameter)).length_le
    split at h
    · next heq =>
      split at h
      · cases h
        rw [heq] at le'
        simp at le' ⊢
        omega
      · cases h
    · cases h
  · cases h

-- The text without its escape sequences.
def strip (cs : List Char) : List Char :=
  match _h : afterSequence? cs with
  | some rest => strip rest
  | none => match cs with
    | [] => []
    | c :: cs => c :: strip cs
termination_by cs.length
decreasing_by
  · exact afterSequence?_length _h
  · simp

end Ansi

end Highlight
