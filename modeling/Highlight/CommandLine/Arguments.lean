import Highlight.Text.Similarity

namespace Highlight

namespace CommandLine

inductive Fault
  | noSuchOption (name : String) (similar : List String)
  | needsArgument (name : String)
  | takesNoValue (name : String)
  deriving DecidableEq, Repr

structure Options (α : Type) where
  names : List (String × α)
  takesValue : α → Bool

structure Given (α : Type) where
  option : α
  value : Option String
  deriving Repr

variable {α : Type}

namespace Options

def find? (o : Options α) (name : String) : Option α :=
  o.names.lookup name

def longNames (o : Options α) : List String :=
  (o.names.map (·.1)).filter (·.startsWith "--")

def fromNext (a : α) (name : String) (next : Option String) :
    Except Fault (List (Given α) × Bool) :=
  match next with
  | some v => .ok ([⟨a, some v⟩], true)
  | none => .error (.needsArgument name)

def readLong (o : Options α) (a : α) (name : String) (value : Option String)
    (next : Option String) : Except Fault (List (Given α) × Bool) :=
  if o.takesValue a then
    match value with
    | some v => .ok ([⟨a, some v⟩], false)
    | none => fromNext a name next
  else match value with
    | some _ => .error (.takesNoValue name)
    | none => .ok ([⟨a, none⟩], false)

-- Letters after one dash; the first that takes a value takes all that follows.
def readLetters (o : Options α) (next : Option String) :
    List Char → Except Fault (List (Given α) × Bool)
  | [] => .ok ([], false)
  | c :: cs =>
    let name := String.ofList ['-', c]
    match o.find? name with
    | none => .error (.noSuchOption name [])
    | some a =>
      if o.takesValue a then
        if cs.isEmpty then fromNext a name next
        else .ok ([⟨a, some (String.ofList cs)⟩], false)
      else do
        let (given, used) ← readLetters o next cs
        return (⟨a, none⟩ :: given, used)

-- Reads an argument that begins with a dash; the flag says whether the next one was used up.
def readArgument (o : Options α) (arg : String) (next : Option String) :
    Except Fault (List (Given α) × Bool) :=
  let name := arg.toList.takeWhile (· ≠ '=')
  let value := match arg.toList.dropWhile (· ≠ '=') with
    | _ :: v => some (String.ofList v)
    | [] => none
  match arg.toList with
  | '-' :: '-' :: _ =>
    let name := String.ofList name
    match o.find? name with
    | some a => o.readLong a name value next
    | none => .error (.noSuchOption name (Text.suggestions name o.longNames))
  | _ :: letters => o.readLetters next letters
  | [] => .ok ([], false)

def isOption (arg : String) : Bool :=
  match arg.toList with
  | '-' :: _ :: _ => true
  | _ => false

-- The options given, in order, and the other arguments. Unless these are `mixed` with options, the
-- first of them ends the options.
def read (o : Options α) (mixed : Bool) (args : List String) :
    Except Fault (List (Given α) × List String) :=
  match args with
  | [] => .ok ([], [])
  | arg :: rest =>
    if arg = "--" then .ok ([], rest)
    else if isOption arg then do
      let (given, used) ← o.readArgument arg rest.head?
      let (more, others) ← read o mixed (if used then rest.tail else rest)
      return (given ++ more, others)
    else if mixed then do
      let (given, others) ← read o mixed rest
      return (given, arg :: others)
    else .ok ([], arg :: rest)
termination_by args.length
decreasing_by
  · split <;> simp only [List.length_cons, List.length_tail] <;> omega
  · simp

end Options

end CommandLine

end Highlight
