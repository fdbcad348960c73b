namespace Highlight.Text.CharacterName

def after? (stem name : List Char) : Option (List Char) :=
  if stem.isPrefixOf name then some (name.drop stem.length) else none

structure Family where
  stem : String
  first : Nat
  last : Nat
  ending : Nat → List Char

namespace Family

def find? (f : Family) (name : List Char) : Option Nat := do
  let ending ← after? f.stem.toList name
  let i ← (List.range (f.last + 1 - f.first)).find? fun i => f.ending (f.first + i) = ending
  return f.first + i

end Family

def hexEnding (n : Nat) : List Char :=
  (Nat.toDigits 16 n).map Char.toUpper

-- Members counted in decimal from `start`, the number of the first one.
def countEnding (first start n : Nat) : List Char :=
  Nat.toDigits 10 (n - first + start)

-- Members counted from one with three digits each.
def longCountEnding (first n : Nat) : List Char :=
  let digits := countEnding first 1 n
  List.replicate (3 - digits.length) '0' ++ digits

-- The raised dots of a Braille pattern, whose code point has a bit for each of them.
def dotsEnding (n : Nat) : List Char :=
  match (List.range 8).filter fun i => n.testBit i with
  | [] => "BLANK".toList
  | dots => "DOTS-".toList ++ dots.flatMap fun i => Nat.toDigits 10 (i + 1)

def families : List Family := [
  ⟨"CJK COMPATIBILITY IDEOGRAPH-", 0xf900, 0xfa6d, hexEnding⟩,
  ⟨"CJK COMPATIBILITY IDEOGRAPH-", 0xfa70, 0xfad9, hexEnding⟩,
  ⟨"CJK COMPATIBILITY IDEOGRAPH-", 0x2f800, 0x2fa1d, hexEnding⟩,
  ⟨"KHITAN SMALL SCRIPT CHARACTER-", 0x18b00, 0x18cd5, hexEnding⟩,
  ⟨"NUSHU CHARACTER-", 0x1b170, 0x1b2fb, hexEnding⟩,
  ⟨"TANGUT COMPONENT-", 0x18800, 0x18aff, longCountEnding 0x18800⟩,
  ⟨"VARIATION SELECTOR-", 0xfe00, 0xfe0f, countEnding 0xfe00 1⟩,
  ⟨"VARIATION SELECTOR-", 0xe0100, 0xe01ef, countEnding 0xe0100 17⟩,
  ⟨"VS", 0xfe00, 0xfe0f, countEnding 0xfe00 1⟩,
  ⟨"VS", 0xe0100, 0xe01ef, countEnding 0xe0100 17⟩,
  ⟨"BRAILLE PATTERN ", 0x2800, 0x28ff, dotsEnding⟩]

def hexDigit? (c : Char) : Option Nat :=
  if '0' ≤ c ∧ c ≤ '9' then some (c.toNat - 0x30)
  else if 'A' ≤ c ∧ c ≤ 'F' then some (c.toNat - 0x37)
  else none

def hexNumber? (digits : List Char) : Option Nat :=
  digits.foldlM (fun n c => (hexDigit? c).map (16 * n + ·)) 0

def ideographBlocks : List (Nat × Nat) := [
  (0x3400, 0x4dbf), (0x4e00, 0x9fff), (0x20000, 0x2a6df), (0x2a700, 0x2b738), (0x2b740, 0x2b81d),
  (0x2b820, 0x2cea1), (0x2ceb0, 0x2ebe0), (0x30000, 0x3134a)]

-- An ideograph, called by its code point in four or five digits.
def ideograph? (name : List Char) : Option Nat := do
  let digits ← after? "CJK UNIFIED IDEOGRAPH-".toList name
  guard (digits.length = 4 ∨ digits.length = 5)
  let n ← hexNumber? digits
  guard (ideographBlocks.any fun (first, last) => first ≤ n && n ≤ last)
  return n

def leadLetters : List String :=
  ["G", "GG", "N", "D", "DD", "R", "M", "B", "BB", "S", "SS", "", "J", "JJ", "C", "K", "T", "P", "H"]

def vowelLetters : List String :=
  ["A", "AE", "YA", "YAE", "EO", "E", "YEO", "YE", "O", "WA", "WAE", "OE", "YO", "U", "WEO", "WE",
    "WI", "YU", "EU", "YI", "I"]

def tailLetters : List String :=
  ["", "G", "GG", "GS", "N", "NJ", "NH", "D", "L", "LG", "LM", "LB", "LS", "LT", "LP", "LH", "M",
    "B", "BS", "S", "SS", "NG", "J", "C", "K", "T", "P", "H"]

-- The longest of some letters that a name begins with, by its place among them, and the rest.
def takeLetter? (letters : List String) (name : List Char) : Option (Nat × List Char) :=
  let found := letters.zipIdx.filterMap fun (l, i) => (after? l.toList name).map fun r => (i, r)
  found.foldl (fun best (i, r) => match best with
    | some (j, s) => if r.length < s.length then some (i, r) else some (j, s)
    | none => some (i, r)) none

def syllable? (name : List Char) : Option Nat := do
  let name ← after? "HANGUL SYLLABLE ".toList name
  let (lead, name) ← takeLetter? leadLetters name
  let (vowel, name) ← takeLetter? vowelLetters name
  let (tail, name) ← takeLetter? tailLetters name
  guard name.isEmpty
  return 0xac00 + (21 * lead + vowel) * 28 + tail

end Highlight.Text.CharacterName
