import Highlight.Regex.Program
import Highlight.Regex.Fault
import Highlight.Text.Identifier
import Highlight.Text.CharacterName

namespace Highlight.Regex

-- A character of the pattern, or a backslash with the character after it.
inductive Tok
  | char (c : Char)
  | escape (c : Char)
  deriving DecidableEq, Repr

namespace Tok

def length : Tok → Nat
  | char _ => 1
  | escape _ => 2

def totalLength (ts : List Tok) : Nat :=
  ts.foldl (fun n t => n + t.length) 0

def chars : Tok → List Char
  | char c => [c]
  | escape c => ['\\', c]

def text (t : Tok) : String :=
  String.ofList t.chars

-- The tokens of a pattern, and whether a lone backslash ends it.
def split : List Char → List Tok × Bool
  | [] => ([], false)
  | ['\\'] => ([], true)
  | '\\' :: c :: cs => let (ts, lone) := split cs; (.escape c :: ts, lone)
  | c :: cs => let (ts, lone) := split cs; (.char c :: ts, lone)

end Tok

structure Reading where
  rest : List Tok
  position : Nat
  -- A lone backslash follows `rest`.
  lone : Bool
  flags : Flags := []
  -- The width of each group, by index from 1; none while the group is open.
  groups : List (Option Width) := []
  names : List (String × Nat) := []
  -- The number of groups before the outermost look-behind that is being read.
  lookbehind : Option Nat := none
  -- Groups that conditions refer to, with the place of the first reference.
  conditions : List (Nat × Nat) := []

abbrev Reader := StateT Reading (Except Error)

namespace Reader

def failBack {α : Type} (cause : Fault) (back : Nat) : Reader α := do
  throw (.fault cause (some ((← get).position - back)))

def fail {α : Type} (cause : Fault) : Reader α :=
  failBack cause 0

def moveTo (rest : List Tok) (count : Nat) : Reader Unit := do
  let r ← get
  if rest.isEmpty && r.lone then throw (.fault .danglingEscape (some (r.position + count)))
  set { r with rest, position := r.position + count }

def peek : Reader (Option Tok) :=
  return (← get).rest.head?

def position : Reader Nat :=
  return (← get).position

def next : Reader (Option Tok) := do
  match (← get).rest with
  | [] => return none
  | t :: ts => do
    moveTo ts t.length
    return some t

def accept (c : Char) : Reader Bool := do
  if (← peek) = some (.char c) then
    discard next
    return true
  else return false

def takeWhile (limit : Nat) (belongs : Char → Bool) : Reader (List Char) := do
  match limit with
  | 0 => return []
  | limit + 1 =>
    match ← peek with
    | some (.char c) =>
      if belongs c then
        discard next
        return c :: (← takeWhile limit belongs)
      else return []
    | _ => return []

def takeDigits : Reader (List Char) := do
  takeWhile (← get).rest.length Char.isDigit

-- The text up to the character `close`, which is read too.
def upTo (close : Char) (what : String) : Reader String := do
  let rest := (← get).rest
  let name := rest.takeWhile (· ≠ .char close)
  let chars := name.flatMap Tok.chars
  match rest.drop name.length with
  | [] =>
    moveTo [] chars.length
    if chars.isEmpty then fail (.missing what) else failBack (.unterminatedName close) chars.length
  | _ :: after =>
    moveTo after (chars.length + 1)
    if chars.isEmpty then failBack (.missing what) 1 else return String.ofList chars

def groupName (close : Char) : Reader String := do
  let name ← upTo close "group name"
  if Text.isIdentifier name then return name else failBack (.badGroupName name) (name.length + 1)

end Reader

open Reader

def isOctal (c : Char) : Bool :=
  '0' ≤ c && c ≤ '7'

def isHex (c : Char) : Bool :=
  c.isDigit || ('a' ≤ c && c ≤ 'f') || ('A' ≤ c && c ≤ 'F')

def isAsciiLetter (c : Char) : Bool :=
  ('a' ≤ c && c ≤ 'z') || ('A' ≤ c && c ≤ 'Z')

def hexValue (c : Char) : Nat :=
  if c.isDigit then c.toNat - 0x30 else Text.asciiLower c.toNat - 0x57

def number (base : Nat) (digits : List Char) : Nat :=
  digits.foldl (fun n c => base * n + hexValue c) 0

inductive Meaning
  | literal (c : Nat)
  | category (kind : Category) (negated : Bool)
  | anchor (a : Anchor)
  | ref (index : Nat)

def categoryOf? : Char → Option (Category × Bool)
  | 'd' => some (.digit, false)
  | 'D' => some (.digit, true)
  | 's' => some (.blank, false)
  | 'S' => some (.blank, true)
  | 'w' => some (.word, false)
  | 'W' => some (.word, true)
  | _ => none

def anchorOf? : Char → Option Anchor
  | 'A' => some .textStart
  | 'b' => some .wordEdge
  | 'B' => some .notWordEdge
  | 'Z' => some .textEnd
  | _ => none

def controlOf? : Char → Option Nat
  | 'a' => some 7
  | 'b' => some 8
  | 'f' => some 12
  | 'n' => some 10
  | 'r' => some 13
  | 't' => some 9
  | 'v' => some 11
  | '\\' => some 92
  | _ => none

def hexEscape (c : Char) (count : Nat) : Reader Nat := do
  let digits ← takeWhile count isHex
  let escape := String.ofList ('\\' :: c :: digits)
  if digits.length ≠ count then failBack (.incompleteEscape escape) escape.length
  let n := number 16 digits
  if n ≥ 0x80000000 then throw .codeTooLarge
  if n < 0x110000 then return n else failBack (.badEscape escape) escape.length

def namedEscape : Reader Nat := do
  if !(← accept '\x7b') then fail (.missing "\x7b")
  let name ← upTo '\x7d' "character name"
  if let some n := Text.namedCharacter? name then return n
  failBack (.unknownCharacter name) (name.length + 4)

def otherEscape (c : Char) : Reader Nat := do
  if isAsciiLetter c || c.isDigit then failBack (.badEscape (String.ofList ['\\', c])) 2
  else return c.toNat

def codePointEscape? (c : Char) : Option (Reader Nat) :=
  match c with
  | 'x' => some (hexEscape c 2)
  | 'u' => some (hexEscape c 4)
  | 'U' => some (hexEscape c 8)
  | 'N' => some namedEscape
  | _ => none

def octalEscape (c : Char) (digits : List Char) : Reader Nat := do
  let n := number 8 (c :: digits)
  let escape := String.ofList ('\\' :: c :: digits)
  if n > 0o377 then failBack (.octalTooLarge escape) escape.length else return n

def setEscape (c : Char) : Reader Meaning := do
  if let some n := controlOf? c then return .literal n
  if let some (kind, negated) := categoryOf? c then return .category kind negated
  if let some read := codePointEscape? c then return .literal (← read)
  if isOctal c then return .literal (← octalEscape c (← takeWhile 2 isOctal))
  return .literal (← otherEscape c)

-- A reference to a group is allowed once the group is closed, and inside a look-behind only if the
-- group lies outside of it.
def checkLookbehind (index : Nat) : Reader Unit := do
  let r ← get
  if let some outer := r.lookbehind then
    if (r.groups[index - 1]?).join.isNone then fail .openGroup
    if index > outer then fail .lookbehindGroup

def groupRef (index back : Nat) : Reader Unit := do
  if ((← get).groups[index - 1]?).join.isNone then failBack .openGroup back
  checkLookbehind index

def digitEscape (c : Char) : Reader Meaning := do
  let second ← takeWhile 1 Char.isDigit
  if isOctal c && !second.isEmpty && second.all isOctal then
    let third ← takeWhile 1 isOctal
    if !third.isEmpty then return .literal (← octalEscape c (second ++ third))
  let index := number 10 (c :: second)
  if index ≤ (← get).groups.length then
    groupRef index (2 + second.length)
    return .ref index
  else failBack (.invalidReference index) (1 + second.length)

def escapeOutside (c : Char) : Reader Meaning := do
  if let some (kind, negated) := categoryOf? c then return .category kind negated
  if let some a := anchorOf? c then return .anchor a
  if let some n := controlOf? c then return .literal n
  if let some read := codePointEscape? c then return .literal (← read)
  if c = '0' then return .literal (number 8 (← takeWhile 2 isOctal))
  if c.isDigit then digitEscape c
  else return .literal (← otherEscape c)

def Meaning.expr : Meaning → Expr
  | .literal c => .char c false
  | .category kind negated => .set false [.category kind negated]
  | .anchor a => .anchor a
  | .ref i => .ref i

def Meaning.member : Meaning → Member
  | .category kind negated => .category kind negated
  | .literal c => .single c
  | .anchor _ | .ref _ => .single 0

def setItem (t : Tok) : Reader Meaning :=
  match t with
  | .char c => return .literal c.toNat
  | .escape c => setEscape c

-- One member of a set that starts with `t`, or the end of the set after `x-`.
def setMember (start : Nat) (t : Tok) : Reader (List Member × Bool) := do
  let low ← setItem t
  if !(← accept '-') then return ([low.member], false)
  match ← next with
  | none => failBack .unterminatedSet ((← position) - start)
  | some (.char ']') => return ([low.member, .single '-'.toNat], true)
  | some u => do
    let high ← setItem u
    let bad : Reader (List Member × Bool) :=
      failBack (.badRange t.text u.text) (t.length + 1 + u.length)
    match low, high with
    | .literal lo, .literal hi => if hi < lo then bad else return ([.range lo hi], false)
    | _, _ => bad

def setMembers (start : Nat) : Nat → List Member → Reader (List Member)
  | 0, read => return read
  | fuel + 1, read => do
    match ← next with
    | none => failBack .unterminatedSet ((← position) - start)
    | some t =>
      if t = .char ']' && !read.isEmpty then return read
      else
        let (members, ended) ← setMember start t
        if ended then return read ++ members else setMembers start fuel (read ++ members)

def charSet : Reader Expr := do
  let start := (← position) - 1
  let negated ← accept '^'
  let members ← setMembers start ((← get).rest.length + 1) []
  match members.eraseDups with
  | [.single c] => return .char c negated
  | members => return .set negated members

-- The bounds of a repetition that starts with `c`; none if a brace opens no repetition.
def repeatBounds (c : Char) : Reader (Option (Nat × Option Nat)) := do
  match c with
  | '?' => return some (0, some 1)
  | '*' => return some (0, none)
  | '+' => return some (1, none)
  | _ =>
    if (← peek) = some (.char '\x7d') then return none
    let before ← get
    let low ← takeDigits
    let high ← if ← accept ',' then takeDigits else pure low
    if !(← accept '\x7d') then
      set before
      return none
    let bound (digits : List Char) : Reader (Option Nat) := do
      if digits.isEmpty then return none
      match Text.Decimal.read digits with
      | .error n => throw (.tooManyDigits n)
      | .ok n => if n ≥ maxRepeat then throw .repeatTooLarge else return some n
    let lo ← bound low
    let hi ← bound high
    if let some h := hi then
      if h < lo.getD 0 then failBack .repeatOrder ((← position) - before.position)
    return some (lo.getD 0, hi)

def greed : Reader Greed := do
  if ← accept '?' then return .lazy
  if ← accept '+' then return .possessive
  return .greedy

def quantified (c : Char) (items : List Expr) : Reader (List Expr) := do
  let here ← position
  match ← repeatBounds c with
  | none => return .char c.toNat false :: items
  | some (lo, hi) =>
    let back := (← position) - here + 1
    match items with
    | [] | .anchor _ :: _ => failBack .nothingToRepeat back
    | .rep .. :: _ => failBack .multipleRepeat back
    | .group [] [] body :: before => return .rep (← greed) lo hi body :: before
    | item :: before => return .rep (← greed) lo hi (.seq item .empty) :: before

-- Reads flags from `t` on, up to a character in `stops`.
def readFlags (stops : List Char) (what : String) (check : Flag → Flags → Reader Unit) :
    Nat → Tok → Flags → Reader (Flags × Char)
  | 0, _, _ => fail .unknownFlag
  | fuel + 1, t, read => do
    let flag? := match t with
      | .char c => Flag.ofChar? c
      | .escape _ => none
    match flag? with
    | none =>
      let letter := match t with
        | .char c => Text.isLetter c.toNat
        | .escape _ => false
      failBack (if letter then .unknownFlag else .missing what) t.length
    | some flag =>
      check flag read
      match ← next with
      | none => fail (.missing what)
      | some u =>
        match stops.find? fun c => u = .char c with
        | some c => return (flag :: read, c)
        | none => readFlags stops what check fuel u (flag :: read)

def checkOn (flag : Flag) (read : Flags) : Reader Unit := do
  if flag = .locale then fail .localeFlag
  if flag.IsAlphabet && read.any fun f => f.IsAlphabet && f ≠ flag then fail .alphabetFlags

def checkOff (flag : Flag) (_ : Flags) : Reader Unit := do
  if flag.IsAlphabet then fail .alphabetFlagOff

-- The flags that a group turns on and off; none if they hold for the whole expression.
def groupFlags (first : Char) : Reader (Option (Flags × Flags)) := do
  let fuel := (← get).rest.length + 1
  let (on, stop) ← if first = '-' then pure ([], '-')
    else readFlags [')', '-', ':'] "-, : or )" checkOn fuel (.char first) []
  if stop = ')' then
    modify fun r => { r with flags := r.flags ++ on }
    return none
  if on.contains .template then failBack .globalFlagOn 1
  let off ← if stop = ':' then pure [] else do
    match ← next with
    | none => fail (.missing "flag")
    | some t =>
      let known := match t with
        | .char c => (Flag.ofChar? c).isSome
        | .escape _ => false
      if known then pure (← readFlags [':'] ":" checkOff fuel t []).1
      else
        let letter := match t with
          | .char c => Text.isLetter c.toNat
          | .escape _ => false
        failBack (if letter then .unknownFlag else .missing "flag") t.length
  if off.contains .template then failBack .globalFlagOff 1
  if on.any off.contains then failBack .flagOnAndOff 1
  return some (on, off)

inductive Content
  | item (e : Expr)
  | comment
  | flags

inductive Opening
  | capture (name : Option String)
  | group (on off : Flags)
  | atomic
  | ahead (negated : Bool)
  | behind (negated : Bool)
  | condition (index : Nat)
  | done (content : Content)

def namedReference : Reader Opening := do
  let name ← groupName ')'
  match (← get).names.lookup name with
  | none => failBack (.unknownGroup name) (name.length + 1)
  | some index =>
    groupRef index (name.length + 1)
    return .done (.item (.ref index))

def condition : Reader Opening := do
  let name ← upTo ')' "group name"
  let back := name.length + 1
  let index ← if Text.isIdentifier name then
      match (← get).names.lookup name with
      | none => failBack (.unknownGroup name) back
      | some index => pure index
    else
      match Text.Decimal.readSigned? name.toList with
      | some (.ofNat 0) => failBack .badGroupNumber back
      | some (.ofNat index) =>
        if index ≥ maxGroups then failBack (.invalidReference index) back
        let place := (← position) - back
        modify fun r =>
          if (r.conditions.lookup index).isSome then r
          else { r with conditions := r.conditions ++ [(index, place)] }
        pure index
      | _ => failBack (.badGroupName name) back
  checkLookbehind index
  return .condition index

def skipComment (start : Nat) : Reader Opening := do
  let rest := (← get).rest
  let comment := rest.takeWhile (· ≠ .char ')')
  let count := Tok.totalLength comment
  match rest.drop comment.length with
  | [] =>
    moveTo [] count
    failBack .unterminatedComment ((← position) - start)
  | _ :: after =>
    moveTo after (count + 1)
    return .done .comment

-- Reads what follows an opening parenthesis. Flags for the whole expression may only stand at its
-- very start.
def opening (start : Nat) (atStart : Bool) : Reader Opening := do
  if !(← accept '?') then return .capture none
  match ← next with
  | none => fail .unexpectedEnd
  | some (.char 'P') =>
    if ← accept '<' then return .capture (some (← groupName '>'))
    else if ← accept '=' then namedReference
    else match ← next with
      | none => fail .unexpectedEnd
      | some t => failBack (.unknownExtension ("?P" ++ t.text)) (t.length + 2)
  | some (.char ':') => return .group [] []
  | some (.char '#') => skipComment start
  | some (.char '=') => return .ahead false
  | some (.char '!') => return .ahead true
  | some (.char '<') =>
    match ← next with
    | none => fail .unexpectedEnd
    | some (.char '=') => return .behind false
    | some (.char '!') => return .behind true
    | some t => failBack (.unknownExtension ("?<" ++ t.text)) (t.length + 2)
  | some (.char '(') => condition
  | some (.char '>') => return .atomic
  | some t =>
    match t with
    | .char c =>
      if c = '-' || (Flag.ofChar? c).isSome then
        match ← groupFlags c with
        | some (on, off) => return .group on off
        | none =>
          if atStart then return .done .flags
          else failBack .flagsNotAtStart ((← position) - start)
      else failBack (.unknownExtension ("?" ++ t.text)) (t.length + 1)
    | .escape _ => failBack (.unknownExtension ("?" ++ t.text)) (t.length + 1)

def close (start : Nat) : Reader Unit := do
  if !(← accept ')') then failBack .unterminatedGroup ((← position) - start)

def openGroup (name : Option String) : Reader Nat := do
  let r ← get
  let index := r.groups.length + 1
  match name with
  | none => pure ()
  | some n =>
    if let some previous := r.names.lookup n then
      failBack (.redefinedGroup n index previous) (n.length + 1)
  set { r with
    groups := r.groups ++ [none]
    names := match name with
      | none => r.names
      | some n => r.names ++ [(n, index)] }
  return index

def groupWidth (r : Reading) (index : Nat) : Width :=
  (r.groups[index - 1]?).join.getD .zero

def closeGroup (index : Nat) (body : Expr) : Reader Unit :=
  modify fun r => { r with groups := r.groups.set (index - 1) (some (body.width (groupWidth r))) }

def skipLine : Reader Unit := do
  let rest := (← get).rest
  let line := rest.takeWhile (· ≠ .char '\n')
  let count := Tok.totalLength line
  match rest.drop line.length with
  | [] => moveTo [] count
  | _ :: after => moveTo after (count + 1)

-- The items of a sequence. A group that changes nothing stands for what it holds.
def spliced (items : List Expr) : List Expr :=
  items.flatMap fun
    | .group [] [] body => body.toList
    | e => [e]

-- The item that all sequences start with, if they start with the same one and it has no parts.
def commonHead? : List (List Expr) → Option Expr
  | [] => none
  | first :: others => first.head?.filter fun e => e.isPlain && others.all (·.head? = some e)

-- The beginning that all sequences share, and what is left of them; `fuel` bounds its length.
def factored : (fuel : Nat) → List (List Expr) → List Expr × List (List Expr)
  | 0, branches => ([], branches)
  | fuel + 1, branches => match commonHead? branches with
    | none => ([], branches)
    | some e =>
      let (common, rest) := factored fuel (branches.map List.tail)
      (e :: common, rest)

def memberBranch? : List Expr → Option (List Member)
  | [.char c false] => some [.single c]
  | [.set false members] => some members
  | _ => none

-- The items for an alternative of sequences. What they start with in common comes before it, and an
-- alternative of single characters is a set.
def merged (branches : List (List Expr)) : List Expr :=
  match branches with
  | [items] => items
  | _ =>
    let (common, rest) := factored branches.flatten.length branches
    match rest.mapM memberBranch? with
    | some members => common ++ [.set false members.flatten.eraseDups]
    | none => common ++ [.ofBranches (rest.map Expr.ofList)]

-- Every call below reads a token or goes one level deeper at a place where a token has just been
-- read, so three calls for each token of the pattern bound their depth.
mutual

def branches : (fuel : Nat) → (verbose top first : Bool) → Reader (List (List Expr))
  | 0, _, _, _ => fail .unexpectedEnd
  | fuel + 1, verbose, top, first => do
    let item ← items fuel verbose (top && first) []
    if ← accept '|' then
      let verbose ← if top then pure ((← get).flags.contains .verbose) else pure verbose
      return item :: (← branches fuel verbose top false)
    else return [item]

-- Items up to a bar, a closing parenthesis or the end; `read` holds those read, last first.
def items : (fuel : Nat) → (verbose first : Bool) → (read : List Expr) → Reader (List Expr)
  | 0, _, _, _ => fail .unexpectedEnd
  | fuel + 1, verbose, first, read => do
    match ← peek with
    | none | some (.char '|') | some (.char ')') => return spliced read.reverse
    | some t => do
      discard next
      match t with
      | .escape c => items fuel verbose first ((← escapeOutside c).expr :: read)
      | .char c =>
        if verbose && (c = ' ' || ('\t' ≤ c && c ≤ '\r')) then items fuel verbose first read
        else if verbose && c = '#' then
          skipLine
          items fuel verbose first read
        else match c with
          | '[' => items fuel verbose first ((← charSet) :: read)
          | '?' | '*' | '+' | '\x7b' => items fuel verbose first (← quantified c read)
          | '.' => items fuel verbose first (.any :: read)
          | '^' => items fuel verbose first (.anchor .lineStart :: read)
          | '$' => items fuel verbose first (.anchor .lineEnd :: read)
          | '(' => do
            match ← parenthesis fuel verbose (first && read.isEmpty) with
            | .item e => items fuel verbose first (e :: read)
            | .comment => items fuel verbose first read
            | .flags => items fuel ((← get).flags.contains .verbose) first read
          | _ => items fuel verbose first (.char c.toNat false :: read)

def parenthesis : (fuel : Nat) → (verbose atStart : Bool) → Reader Content
  | 0, _, _ => fail .unexpectedEnd
  | fuel + 1, verbose, atStart => do
    let start := (← position) - 1
    let body (verbose : Bool) : Reader Expr :=
      return .ofList (merged (← branches fuel verbose false false))
    match ← opening start atStart with
    | .done content => return content
    | .capture name => do
      let index ← openGroup name
      let body ← body verbose
      close start
      closeGroup index body
      return .item (.capture index body)
    | .group on off => do
      let body ← body ((verbose || on.contains .verbose) && !off.contains .verbose)
      close start
      return .item (.group on off body)
    | .atomic => do
      let body ← body verbose
      close start
      return .item (.atomic body)
    | .ahead negated => do
      let body ← body verbose
      close start
      return .item (.ahead negated body)
    | .behind negated => do
      let outer := (← get).lookbehind
      if outer.isNone then modify fun r => { r with lookbehind := some r.groups.length }
      let body ← body verbose
      if outer.isNone then modify fun r => { r with lookbehind := none }
      close start
      let width := body.width (groupWidth (← get))
      return .item (.behind negated width.least width.greatest body)
    | .condition index => do
      let yes ← items fuel verbose false []
      let no ← if ← accept '|' then
          let no ← items fuel verbose false []
          if (← peek) = some (.char '|') then fail .tooManyBranches
          pure no
        else pure []
      close start
      return .item (.cond index (.ofList yes) (.ofList no))

end

-- Faults that show only once the whole expression is known.
def Expr.check (flags : Flags) : Expr → Option Fault
  | .empty | .char .. | .any | .set .. | .anchor _ | .ref _ => none
  | .seq a b | .alt a b | .cond _ a b => (a.check flags).or (b.check flags)
  | .capture _ a | .atomic a | .ahead _ a => a.check flags
  | .group on off a => a.check (flags.within on off)
  | .rep greed _ _ a =>
    if flags.contains .template then
      some (.templateRepeat (match greed with
        | .greedy => "MAX_REPEAT"
        | .lazy => "MIN_REPEAT"
        | .possessive => "POSSESSIVE_REPEAT"))
    else a.check flags
  | .behind _ lo hi a => if lo ≠ hi then some .variableLookbehind else a.check flags

def Expr.looksTooFar : Expr → Bool
  | .empty | .char .. | .any | .set .. | .anchor _ | .ref _ => false
  | .seq a b | .alt a b | .cond _ a b => a.looksTooFar || b.looksTooFar
  | .capture _ a | .atomic a | .ahead _ a | .group _ _ a | .rep _ _ _ a => a.looksTooFar
  | .behind _ width _ a => width > maxLookbehind || a.looksTooFar

def parse (pattern : String) : Except Error Regex := do
  let chars := pattern.toList
  let (tokens, lone) := Tok.split chars
  if lone && tokens.isEmpty then throw (.fault .danglingEscape (some 0))
  let start : Reading := { rest := tokens, position := 0, lone }
  let (read, r) ← (branches (3 * tokens.length + 3) false true true).run start
  let expr := Expr.ofList (merged read)
  let flags ← if !r.flags.contains .ascii then pure (.unicode :: r.flags)
    else if r.flags.contains .unicode then throw .alphabetClash
    else pure r.flags
  if !r.rest.isEmpty then throw (.fault .unbalanced (some r.position))
  if let some (index, place) := r.conditions.find? fun (index, _) => index > r.groups.length then
    throw (.fault (.invalidReference index) (some place))
  if let some cause := expr.check flags then throw (.fault cause none)
  if expr.looksTooFar then throw .lookbehindTooLong
  return { expr, flags, least := (expr.width (groupWidth r)).least }

end Highlight.Regex
