import Highlight.Text.Printable

namespace Highlight.Text

-- The lower-case hexadecimal digits of `n`, at least `width` of them.
def hexDigits (width n : Nat) : String :=
  let digits := Nat.toDigits 16 n
  String.ofList (List.replicate (width - digits.length) '0' ++ digits)

namespace Quoted

def escape (quote c : Char) : String :=
  if c = quote ∨ c = '\\' then String.ofList ['\\', c]
  else if c = '\n' then "\\n"
  else if c = '\r' then "\\r"
  else if c = '\t' then "\\t"
  else if isPrintable c.toNat then c.toString
  else if c.toNat ≤ 0xff then "\\x" ++ hexDigits 2 c.toNat
  else if c.toNat ≤ 0xffff then "\\u" ++ hexDigits 4 c.toNat
  else "\\U" ++ hexDigits 8 c.toNat

def mark (s : String) : Char :=
  if s.toList.contains '\x27' ∧ ¬s.toList.contains '\"' then '\"' else '\x27'

end Quoted

def quoted (s : String) : String :=
  let quote := Quoted.mark s
  quote.toString ++ String.join (s.toList.map (Quoted.escape quote)) ++ quote.toString

end Highlight.Text
