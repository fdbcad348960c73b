import Highlight.Text.Letter

namespace Highlight.Text.Decimal

def maxDigits : Nat := 4300

def tooManyDigits (count : Nat) : String :=
  "Exceeds the limit (" ++ toString maxDigits ++
    " digits) for integer string conversion: value has " ++ toString count ++
    " digits; use sys.set_int_max_str_digits() to increase the limit"

-- The number that a run of digits denotes; a character that is no digit counts as zero.
def value (digits : List Char) : Nat :=
  digits.foldl (fun n c => 10 * n + (digitValue? c.toNat).getD 0) 0

-- The number that a run of digits denotes, or the length of a run that is too long.
def read (digits : List Char) : Except Nat Nat :=
  if digits.length ≤ maxDigits then .ok (value digits) else .error digits.length

def groupedDigits? : List Char → Option (List Char)
  | [] => none
  | [c] => if isDigit c.toNat then some [c] else none
  | c :: '_' :: cs => if isDigit c.toNat then (groupedDigits? cs).map (c :: ·) else none
  | c :: cs => if isDigit c.toNat then (groupedDigits? cs).map (c :: ·) else none

-- What may stand around a number: any blank but the four separators among the control characters.
def isMargin (c : Char) : Bool :=
  isBlank c.toNat && !('\x1c' ≤ c && c ≤ '\x1f')

def readSigned? (text : List Char) : Option Int :=
  let body := ((text.dropWhile isMargin).reverse.dropWhile isMargin).reverse
  let (sign, digits) := match body with
    | '-' :: cs => ((-1 : Int), cs)
    | '+' :: cs => (1, cs)
    | cs => (1, cs)
  match groupedDigits? digits with
  | none => none
  | some ds => match read ds with
    | .ok n => some (sign * n)
    | .error _ => none

end Highlight.Text.Decimal
