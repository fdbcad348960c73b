import Highlight.Text.Quoted

namespace Highlight.Text.Utf8

inductive Fault
  | startByte
  | continuationByte
  | endOfData
  deriving DecidableEq, Repr

-- The octets at fault: `count` of them from `start` on, the first being `octet`.
structure Error where
  fault : Fault
  octet : UInt8
  start : Nat
  count : Nat
  deriving DecidableEq, Repr

namespace Error

def reason (e : Error) : String :=
  match e.fault with
  | .startByte => "invalid start byte"
  | .continuationByte => "invalid continuation byte"
  | .endOfData => "unexpected end of data"

def message (e : Error) : String :=
  let place := if e.count = 1 then
      "byte 0x" ++ hexDigits 2 e.octet.toNat ++ " in position " ++ toString e.start
    else "bytes in position " ++ toString e.start ++ "-" ++ toString (e.start + e.count - 1)
  "'utf-8' codec can't decode " ++ place ++ ": " ++ e.reason

end Error

structure Pending where
  first : UInt8
  count : Nat
  owed : Nat
  low : Nat
  high : Nat
  value : Nat

-- What a leading octet begins: a whole character or one that owes octets.
def lead? (b : UInt8) : Option (Char ⊕ Pending) :=
  let n := b.toNat
  let owing (owed low high value : Nat) : Option (Char ⊕ Pending) :=
    some (.inr ⟨b, 1, owed, low, high, value⟩)
  if n < 0x80 then some (.inl (Char.ofNat n))
  else if n < 0xc2 then none
  else if n < 0xe0 then owing 1 0x80 0xbf (n - 0xc0)
  else if n = 0xe0 then owing 2 0xa0 0xbf 0
  else if n = 0xed then owing 2 0x80 0x9f 0xd
  else if n < 0xf0 then owing 2 0x80 0xbf (n - 0xe0)
  else if n = 0xf0 then owing 3 0x90 0xbf 0
  else if n = 0xf4 then owing 3 0x80 0x8f 4
  else if n < 0xf4 then owing 3 0x80 0xbf (n - 0xf0)
  else none

def decodeFrom (i : Nat) : Option Pending → List UInt8 → Except Error (List Char)
  | none, [] => .ok []
  | some p, [] => .error ⟨.endOfData, p.first, i - p.count, p.count⟩
  | none, b :: bs =>
    match lead? b with
    | none => .error ⟨.startByte, b, i, 1⟩
    | some (.inl c) => (decodeFrom (i + 1) none bs).map (c :: ·)
    | some (.inr p) => decodeFrom (i + 1) (some p) bs
  | some p, b :: bs =>
    let n := b.toNat
    if p.low ≤ n ∧ n ≤ p.high then
      let value := 0x40 * p.value + (n - 0x80)
      if p.owed = 1 then (decodeFrom (i + 1) none bs).map (Char.ofNat value :: ·)
      else decodeFrom (i + 1) (some ⟨p.first, p.count + 1, p.owed - 1, 0x80, 0xbf, value⟩) bs
    else .error ⟨.continuationByte, p.first, i - p.count, p.count⟩

def decode (octets : List UInt8) : Except Error (List Char) :=
  decodeFrom 0 none octets

end Highlight.Text.Utf8

namespace Highlight.Text

def normalNewlines : List Char → List Char
  | '\r' :: '\n' :: cs => '\n' :: normalNewlines cs
  | '\r' :: cs => '\n' :: normalNewlines cs
  | c :: cs => c :: normalNewlines cs
  | [] => []

end Highlight.Text
