import Highlight.Regex.Program

namespace Highlight.Regex

namespace Anchor

def holds (text : Array Nat) (flags : Flags) (i : Nat) : Anchor → Bool
  | textStart => i == 0
  | textEnd => i == text.size
  | lineStart =>
    i == 0 || (flags.contains .multiline && text[i - 1]? == some newline)
  | lineEnd =>
    i == text.size || (text[i]? == some newline &&
      (flags.contains .multiline || i + 1 == text.size))
  | wordEdge => text.size != 0 && edge
  | notWordEdge => text.size != 0 && !edge
where
  edge : Bool :=
    let word (c? : Option Nat) := c?.any (Category.word.holds flags.isUnicode)
    (i != 0 && word text[i - 1]?) != word text[i]?

end Anchor

-- The memory outlives a failed attempt: the slots of the groups, and a cursor, which is moved to
-- wherever an attempt starts and to where a part ends that is tried by itself. What was tried last
-- is seen by possessive repetitions only, which go on from the cursor, also if their last round has
-- failed. Slots are put back after a failed attempt, inside loops all of them, elsewhere the ones
-- that were filled since.
structure Memory where
  cursor : Nat
  slots : List (Option Nat) := []
  deriving DecidableEq, Repr

namespace Memory

def moveTo (m : Memory) (cursor : Nat) : Memory :=
  { m with cursor }

def fill (m : Memory) (slot i : Nat) : Memory :=
  { m with slots :=
      if slot < m.slots.length then m.slots.set slot (some i)
      else m.slots ++ List.replicate (slot - m.slots.length) none ++ [some i] }

def back (m before : Memory) (inLoop : Bool) : Memory :=
  { m with slots := if inLoop then before.slots else m.slots.take before.slots.length }

def group? (m : Memory) (index : Nat) : Option (Nat × Nat) :=
  match m.slots[startSlot index]?, m.slots[startSlot index + 1]? with
  | some (some s), some (some e) => if s ≤ e then some (s, e) else none
  | _, _ => none

end Memory

inductive Outcome
  | matched (m : Memory)
  | failed (m : Memory)
  deriving DecidableEq, Repr

namespace Outcome

def orElse (o : Outcome) (retry : Memory → Outcome) : Outcome :=
  match o with
  | matched m => .matched m
  | failed m => retry m

end Outcome

-- What is left to match after a place has been reached.
abbrev Rest := Nat → Memory → Outcome

def Rest.none : Rest :=
  fun i m => .matched (m.moveTo i)

abbrev Part := Nat → Memory → Rest → Outcome

def runLength (text : Array Nat) (t : Test) (i : Nat) : (limit : Nat) → Nat
  | 0 => 0
  | limit + 1 =>
    if (text[i]?).any t.accepts then runLength text t (i + 1) limit + 1 else 0

def Test.cursorAfter (t : Test) (i count : Nat) : Nat :=
  match t with
  | .foldedSet .. => i + count
  | _ => i

-- Tries what follows a repetition of single characters after `lo + extra` of them, then after one
-- less, down to `lo`. Only places where the character `literal` stands are tried, if one is given.
def shrink (text : Array Nat) (inLoop : Bool) (next : Part) (literal : Option Nat) (i lo : Nat)
    (before : Memory) (rest : Rest) : (extra : Nat) → Memory → Outcome
  | extra, m =>
    let place := i + lo + extra
    let tried := if literal.all fun c => text[place]? == some c
      then (next place (m.moveTo place) rest).orElse fun m => .failed (m.back before inLoop)
      else .failed m
    match extra with
    | 0 => tried
    | extra + 1 => tried.orElse (shrink text inLoop next literal i lo before rest extra)

def grow (text : Array Nat) (inLoop : Bool) (next : Part) (t : Test) (hi : Option Nat)
    (before : Memory) (rest : Rest) : (fuel count place : Nat) → Memory → Outcome
  | 0, _, _, m => .failed m
  | fuel + 1, count, place, m =>
    if hi.all (count ≤ ·) then
      (next place (m.moveTo place) rest).orElse fun m =>
        let m := (m.back before inLoop).moveTo place
        if (text[place]?).any t.accepts then
          grow text inLoop next t hi before rest fuel (count + 1) (place + 1)
            (m.moveTo (t.cursorAfter place 1))
        else .failed m
    else .failed m

def many (text : Array Nat) (inLoop : Bool) (greed : Greed) (lo : Nat) (hi : Option Nat) (t : Test)
    (next : Part) (literal : Option Nat) (i : Nat) (m : Memory) (rest : Rest) : Outcome :=
  let left := text.size - i
  if left < lo then .failed m
  else
    let limit := match greed with
      | .lazy => lo
      | _ => hi.elim left (min · left)
    let count := runLength text t i limit
    let m := m.moveTo (t.cursorAfter i count)
    if count < lo then .failed m
    else match greed with
      | .greedy => shrink text inLoop next literal i lo m rest (count - lo) m
      | .lazy => grow text inLoop next t hi m rest (left + 1) lo (i + lo) m
      | .possessive => next (i + count) m rest

-- Rounds of `body` from place `i` on, as many as possible, and then `next`; `last` is where the
-- last optional round started, and a round that matched nothing is the last one.
def greedyRounds (body next : Part) (lo : Nat) (hi : Option Nat) (rest : Rest) :
    (fuel count : Nat) → (last : Option Nat) → Nat → Memory → Outcome
  | 0, _, _, _, m => .failed m
  | fuel + 1, count, last, i, m =>
    let m := m.moveTo i
    let stop (m : Memory) := (next i m rest).orElse fun m => .failed (m.moveTo i)
    if count < lo then
      (body i m (greedyRounds body next lo hi rest fuel (count + 1) last)).orElse fun m =>
        .failed (m.moveTo i)
    else if hi.all (count < ·) && last != some i then
      (body i m (greedyRounds body next lo hi rest fuel (count + 1) (some i))).orElse fun failed =>
        stop ((failed.back m true).moveTo i)
    else stop m

def lazyRounds (inLoop : Bool) (body next : Part) (lo : Nat) (hi : Option Nat) (rest : Rest) :
    (fuel count : Nat) → (last : Option Nat) → Nat → Memory → Outcome
  | 0, _, _, _, m => .failed m
  | fuel + 1, count, last, i, m =>
    let m := m.moveTo i
    let more (last : Option Nat) (m : Memory) :=
      (body i m (lazyRounds inLoop body next lo hi rest fuel (count + 1) last)).orElse fun m =>
        .failed (m.moveTo i)
    if count < lo then more last m
    else (next i m rest).orElse fun failed =>
      let m := (failed.back m inLoop).moveTo i
      if hi.all (count < ·) && last != some i then more (some i) m else .failed m

-- Rounds of `body`, each from the cursor on, none of which is taken back. A failed round ends them;
-- it leaves the cursor where it is.
def possessiveRounds (body : Part) (lo : Nat) (hi : Option Nat) :
    (fuel count : Nat) → (last : Option Nat) → Memory → Outcome
  | 0, _, _, m => .matched m
  | fuel + 1, count, last, m =>
    if count < lo then
      match body m.cursor m .none with
      | .matched m => possessiveRounds body lo hi fuel (count + 1) last m
      | .failed m => .failed m
    else if hi.all (count < ·) && last != some m.cursor then
      match body m.cursor m .none with
      | .matched m' => possessiveRounds body lo hi fuel (count + 1) (some m.cursor) m'
      | .failed m' => .matched (m'.back m true)
    else .matched m

def matchRef (text : Array Nat) (flags : Flags) (s e i : Nat) : Option Nat :=
  let fold : Nat → Nat := flags.folding?.elim id (·.fold)
  let width := e - s
  if i + width ≤ text.size &&
      (List.range width).all fun k => text[s + k]?.map fold == text[i + k]?.map fold
  then some (i + width) else none

namespace Code

def run (text : Array Nat) : Code → (inLoop : Bool) → Part
  | done, _, i, m, rest => rest i m
  | fail, _, _, m, _ => .failed m
  | orElse branch others, inLoop, i, m, rest =>
    if branch.excludes text[i]? then others.run text inLoop i m rest
    else (branch.run text inLoop i (m.moveTo i) rest).orElse fun failed =>
      others.run text inLoop i (failed.back m inLoop) rest
  | jump next, inLoop, i, m, rest => next.run text inLoop i m rest
  | mark slot next, inLoop, i, m, rest => next.run text inLoop i (m.fill slot i) rest
  | test t next, inLoop, i, m, rest =>
    if (text[i]?).any t.accepts then next.run text inLoop (i + 1) m rest else .failed m
  | anchor a flags next, inLoop, i, m, rest =>
    if a.holds text flags i then next.run text inLoop i m rest else .failed m
  | many greed lo hi t next, inLoop, i, m, rest =>
    Regex.many text inLoop greed lo hi t (next.run text inLoop) next.literal? i m rest
  | loop greed lo hi body next, inLoop, i, m, rest =>
    let fuel := lo + (text.size - i) + 2
    match greed with
    | .greedy =>
      greedyRounds (body.run text true) (next.run text inLoop) lo hi rest fuel 0 none i m
    | .lazy =>
      lazyRounds inLoop (body.run text true) (next.run text inLoop) lo hi rest fuel 0 none i m
    | .possessive =>
      match possessiveRounds (body.run text inLoop) lo hi fuel 0 none (m.moveTo i) with
      | .matched m => next.run text inLoop m.cursor m rest
      | .failed m => .failed (m.moveTo i)
  | atomic body next, inLoop, i, m, rest =>
    match body.run text inLoop i (m.moveTo i) .none with
    | .matched m => next.run text inLoop m.cursor m rest
    | .failed m => .failed (m.moveTo i)
  | look false back body next, inLoop, i, m, rest =>
    if i < back then .failed m
    else match body.run text inLoop (i - back) (m.moveTo (i - back)) .none with
      | .matched m => next.run text inLoop i m rest
      | .failed m => .failed m
  | look true back body next, inLoop, i, m, rest =>
    if i < back then next.run text inLoop i m rest
    else match body.run text inLoop (i - back) (m.moveTo (i - back)) .none with
      | .matched m => .failed m
      | .failed failed => next.run text inLoop i (failed.back m inLoop) rest
  | ref index flags next, inLoop, i, m, rest =>
    match (m.group? index).bind fun (s, e) => matchRef text flags s e i with
    | some j => next.run text inLoop j m rest
    | none => .failed m
  | cond index yes no, inLoop, i, m, rest =>
    if (m.group? index).isSome then yes.run text inLoop i m rest
    else no.run text inLoop i m rest

end Code

structure Match where
  start : Nat
  stop : Nat
  slots : List (Option Nat)
  deriving DecidableEq, Repr

namespace Match

-- Whether some group ends before it starts. A possessive repetition may leave a group behind that
-- its last round has entered and not left.
def isTwisted (m : Match) : Bool :=
  crossed m.slots
where
  crossed : List (Option Nat) → Bool
    | some s :: some e :: rest => e < s || crossed rest
    | _ :: _ :: rest => crossed rest
    | _ => false

end Match

def matchAt? (r : Regex) (text : Array Nat) (i : Nat) : Option Match :=
  match r.program.run text false i ⟨i, []⟩ .none with
  | .matched m => some ⟨i, m.cursor, m.slots⟩
  | .failed _ => none

def codePoints (s : String) : Array Nat :=
  (s.toList.map Char.toNat).toArray

def search (r : Regex) (s : String) : Option Match :=
  let text := codePoints s
  (r.starts text).findSome? (r.matchAt? text)

def occursIn (r : Regex) (s : String) : Bool :=
  (r.search s).isSome

end Highlight.Regex
