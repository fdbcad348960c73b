import Highlight.Text.Delimited

namespace Highlight

structure Path where
  -- Nothing, one slash, or exactly two slashes.
  root : String
  parts : List String
  deriving DecidableEq, Repr

namespace Path

def ofText (text : String) : Path :=
  let cs := text.toList
  let root := match (cs.takeWhile (· = '/')).length with
    | 0 => ""
    | 2 => "//"
    | _ => "/"
  let parts := (Text.splitOn '/' cs).map String.ofList
  ⟨root, parts.filter fun p => p ≠ "" ∧ p ≠ "."⟩

def text (p : Path) : String :=
  if p.root = "" ∧ p.parts = [] then "." else p.root ++ "/".intercalate p.parts

def isAbsolute (p : Path) : Bool :=
  p.root ≠ ""

def join (p q : Path) : Path :=
  if q.isAbsolute then q else ⟨p.root, p.parts ++ q.parts⟩

def name (p : Path) : String :=
  p.parts.getLast?.getD ""

-- The last dot of the name and what follows it; nothing if the dot is at either end.
def suffix (p : Path) : String :=
  let name := p.name.toList
  let after := (name.reverse.takeWhile (· ≠ '.')).reverse
  let before := name.length - after.length
  if after = [] ∨ before ≤ 1 then "" else String.ofList ('.' :: after)

def expandHome (homes : String → Option String) (p : Path) : Option Path :=
  match p.root, p.parts with
  | "", part :: rest =>
    match part.toList with
    | '~' :: user => (homes (String.ofList user)).map fun home =>
      let base := ofText home
      ⟨base.root, base.parts ++ rest⟩
    | _ => some p
  | _, _ => some p

end Path

structure Location where
  parts : List String
  plain : ".." ∉ parts

namespace Location

instance : DecidableEq Location := fun a b =>
  if h : a.parts = b.parts then isTrue (by cases a; cases b; cases h; rfl)
  else isFalse fun e => h (e ▸ rfl)

def text (l : Location) : String :=
  "/" ++ "/".intercalate l.parts

def path (l : Location) : Path :=
  ⟨"/", l.parts⟩

-- Follows parts down from a list of plain ones; a double dot goes up.
def descend (done : List String) : List String → List String
  | [] => done
  | p :: ps => descend (if p = ".." then done.dropLast else done ++ [p]) ps

theorem descend_plain {done : List String} (h : ".." ∉ done) (parts : List String) :
    ".." ∉ descend done parts := by
  induction parts generalizing done with
  | nil => exact h
  | cons p ps ih =>
    apply ih
    split
    · exact fun m => h ((List.dropLast_sublist _).subset m)
    · next hp => simpa [h] using Ne.symm hp

def root : Location := ⟨[], by simp⟩

def resolve (l : Location) (p : Path) : Location :=
  if p.isAbsolute then ⟨descend [] p.parts, descend_plain (by simp) _⟩
  else ⟨descend l.parts p.parts, descend_plain l.plain _⟩

def parent (l : Location) : Location :=
  ⟨l.parts.dropLast, fun m => l.plain ((List.dropLast_sublist _).subset m)⟩

end Location

end Highlight
