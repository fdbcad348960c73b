import Highlight.Regex.Basic

namespace Highlight.Regex

open Text (lower upper asciiLower isCased casePartners raised casedBoundaries)

namespace Category

def holds (kind : Category) (unicode : Bool) (c : Nat) : Bool :=
  match kind, unicode with
  | .digit, true => Text.isDigit c
  | .digit, false => 0x30 ≤ c && c ≤ 0x39
  | .blank, true => Text.isBlank c
  | .blank, false => (0x9 ≤ c && c ≤ 0xd) || c == 0x20
  | .word, true => Text.isWordChar c
  | .word, false =>
    c == 0x5f || (0x30 ≤ c && c ≤ 0x39) || (0x41 ≤ c && c ≤ 0x5a) || (0x61 ≤ c && c ≤ 0x7a)

end Category

-- Where case is ignored, a set is tested on the lower case of a character. Of its members in the
-- basic plane it holds every case; a single character beyond is held only as it is written, and a
-- range that reaches beyond is asked for the upper case too.
structure Folding where
  fold : Nat → Nat
  cased : Nat → Bool
  casedIn : Nat → Nat → Bool
  partners : Nat → List Nat
  sources : Nat → List Nat

namespace Folding

def ascii : Folding where
  fold := asciiLower
  cased c := asciiLower c != c || (0x61 ≤ c && c ≤ 0x7a)
  casedIn lo hi := (lo ≤ 0x5a && 0x41 ≤ hi) || (lo ≤ 0x7a && 0x61 ≤ hi)
  partners _ := []
  sources c :=
    if 0x41 ≤ c && c ≤ 0x5a then [] else if 0x61 ≤ c && c ≤ 0x7a then [c, c - 0x20] else [c]

def unicode : Folding where
  fold := lower
  cased := isCased
  casedIn := Text.coversSome casedBoundaries
  partners := casePartners
  sources := raised

-- The folding for all letters, or for the letters from `a` to `z` only.
def ofAlphabet (unicode : Bool) : Folding :=
  if unicode then .unicode else .ascii

end Folding

namespace Flags

def isUnicode (flags : Flags) : Bool :=
  flags.contains .unicode

def folding? (flags : Flags) : Option Folding :=
  if flags.contains .ignoreCase then some (.ofAlphabet flags.isUnicode) else none

end Flags

def basicPlaneEnd : Nat := 0x10000

namespace Member

def holds (unicode : Bool) (x : Nat) : Member → Bool
  | single c => x == c
  | range lo hi => lo ≤ x && x ≤ hi
  | category kind negated => kind.holds unicode x != negated

def isCased (f : Folding) : Member → Bool
  | single c => f.cased c || f.fold c ≥ basicPlaneEnd
  | range lo hi => f.casedIn lo hi || hi ≥ basicPlaneEnd
  | category .. => false

def holdsFolded (f : Folding) (unicode : Bool) (x : Nat) : Member → Bool
  | single c =>
    if f.fold c ≥ basicPlaneEnd then x == c
    else x == f.fold c || (f.partners (f.fold c)).contains x
  | range lo hi =>
    let reached (l : Nat) := (f.sources l).any fun s => lo ≤ s && s ≤ hi && s < basicPlaneEnd
    reached x || (f.partners x).any reached ||
      (hi ≥ basicPlaneEnd && ((lo ≤ x && x ≤ hi) || (lo ≤ upper x && upper x ≤ hi)))
  | category kind negated => kind.holds unicode x != negated

end Member

def newline : Nat := 10

inductive Test
  | literal (c : Nat)
  | other (c : Nat)
  | any
  | notNewline
  | folded (unicode : Bool) (c : Nat) (negated : Bool)
  | set (unicode negated : Bool) (members : List Member)
  | foldedSet (unicode negated : Bool) (members : List Member)
  deriving DecidableEq, Repr

namespace Test

def accepts : Test → Nat → Bool
  | literal c, x => x == c
  | other c, x => x != c
  | any, _ => true
  | notNewline, x => x != newline
  | folded unicode c negated, x => ((Folding.ofAlphabet unicode).fold x == c) != negated
  | set unicode negated members, x => (members.any (·.holds unicode x)) != negated
  | foldedSet unicode negated members, x =>
    let f := Folding.ofAlphabet unicode
    (members.any (·.holdsFolded f unicode (f.fold x))) != negated

def ofChar (flags : Flags) (c : Nat) (negated : Bool) : Test :=
  let exact := if negated then other c else literal c
  match flags.folding? with
  | none => exact
  | some f =>
    if !f.cased c then exact
    else if (f.partners (f.fold c)).isEmpty then folded flags.isUnicode (f.fold c) negated
    else foldedSet flags.isUnicode negated [.single (f.fold c)]

def ofSet (flags : Flags) (negated : Bool) (members : List Member) : Test :=
  let folds := flags.folding?.any fun f => members.any (·.isCased f)
  if folds then foldedSet flags.isUnicode negated members
  else set flags.isUnicode negated members

def ofDot (flags : Flags) : Test :=
  if flags.contains .dotAll then any else notNewline

end Test

end Highlight.Regex
