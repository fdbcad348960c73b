import Highlight.Text.Letter
import Highlight.Text.Case

namespace Highlight.Regex

inductive Flag
  | ignoreCase
  | multiline
  | dotAll
  | verbose
  | ascii
  | unicode
  | locale
  | template
  deriving DecidableEq, Repr

namespace Flag

def ofChar? : Char → Option Flag
  | 'i' => some .ignoreCase
  | 'L' => some .locale
  | 'm' => some .multiline
  | 's' => some .dotAll
  | 'x' => some .verbose
  | 'a' => some .ascii
  | 't' => some .template
  | 'u' => some .unicode
  | _ => none

-- Flags that choose the alphabet; one of them replaces the others.
def IsAlphabet (f : Flag) : Bool :=
  f = .ascii || f = .unicode || f = .locale

end Flag

abbrev Flags := List Flag

namespace Flags

def within (flags on off : Flags) : Flags :=
  let kept := if on.any Flag.IsAlphabet then flags.filter (!·.IsAlphabet) else flags
  (kept ++ on).filter fun f => f ∉ off

end Flags

inductive Anchor
  | lineStart
  | lineEnd
  | textStart
  | textEnd
  | wordEdge
  | notWordEdge
  deriving DecidableEq, Repr

inductive Category
  | digit
  | blank
  | word
  deriving DecidableEq, Repr

inductive Member
  | single (c : Nat)
  | range (lo hi : Nat)
  | category (kind : Category) (negated : Bool)
  deriving DecidableEq, Repr

inductive Greed
  | greedy
  | lazy
  | possessive
  deriving DecidableEq, Repr

-- An expression is an item or a sequence of items; a sequence is `empty`, or `seq` of an item and
-- the sequence after it. The branches of an alternative are sequences.
inductive Expr
  | empty
  | seq (item rest : Expr)
  -- The first branch and the others, of which the last is a sequence.
  | alt (first others : Expr)
  | char (c : Nat) (negated : Bool)
  | any
  | set (negated : Bool) (members : List Member)
  | anchor (a : Anchor)
  | capture (index : Nat) (body : Expr)
  | group (on off : Flags) (body : Expr)
  | atomic (body : Expr)
  | rep (greed : Greed) (lo : Nat) (hi : Option Nat) (body : Expr)
  | ahead (negated : Bool) (body : Expr)
  | behind (negated : Bool) (lo hi : Nat) (body : Expr)
  | ref (index : Nat)
  -- `yes` if group `index` has matched, else `no`.
  | cond (index : Nat) (yes no : Expr)
  deriving DecidableEq, Repr

def maxRepeat : Nat := 0xffffffff

def maxGroups : Nat := 0x3fffffff

def maxLookbehind : Nat := 0x7fffffff

structure Width where
  least : Nat
  greatest : Nat
  deriving DecidableEq, Repr

namespace Width

-- Long widths are not told apart: each of the two numbers stops at a bound of its own.
def ofBounds (least greatest : Nat) : Width :=
  ⟨min least (maxRepeat - 1), min greatest maxRepeat⟩

def zero : Width := ⟨0, 0⟩

def one : Width := ⟨1, 1⟩

instance : Add Width := ⟨fun v w => ofBounds (v.least + w.least) (v.greatest + w.greatest)⟩

def either (v w : Width) : Width :=
  ⟨min v.least w.least, max v.greatest w.greatest⟩

def times (w : Width) (lo : Nat) (hi : Option Nat) : Width :=
  ofBounds (w.least * lo) (w.greatest * hi.getD maxRepeat)

end Width

namespace Expr

def width (groups : Nat → Width) : Expr → Width
  | .empty | .anchor _ | .ahead .. | .behind .. => .zero
  | .char .. | .any | .set .. => .one
  | .seq a b => a.width groups + b.width groups
  | .alt a b | .cond _ a b => (a.width groups).either (b.width groups)
  | .capture _ a | .group _ _ a | .atomic a => a.width groups
  | .rep _ lo hi a => (a.width groups).times lo hi
  | .ref i => groups i

def ofList : List Expr → Expr
  | [] => .empty
  | e :: es => .seq e (ofList es)

def toList : Expr → List Expr
  | .empty => []
  | .seq e es => e :: es.toList
  | e => [e]

def ofBranches : List Expr → Expr
  | [] => .empty
  | [e] => e
  | e :: es => .alt e (ofBranches es)

def isAlt : Expr → Bool
  | .alt .. => true
  | _ => false

def isPlain : Expr → Bool
  | .char .. | .any | .set .. | .anchor _ | .ref _ => true
  | _ => false

end Expr

end Highlight.Regex
