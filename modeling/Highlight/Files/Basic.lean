import Highlight.Files.Path
import Highlight.Text.Utf8

namespace Highlight

inductive Entry
  | directory
  | file (octets : List UInt8)
  deriving DecidableEq

inductive FileError
  | missing
  | notDirectory
  | isDirectory
  | nameTooLong
  deriving DecidableEq, Repr

namespace FileError

def number : FileError → Nat
  | missing => 2
  | notDirectory => 20
  | isDirectory => 21
  | nameTooLong => 36

def reason : FileError → String
  | missing => "No such file or directory"
  | notDirectory => "Not a directory"
  | isDirectory => "Is a directory"
  | nameTooLong => "File name too long"

def message (e : FileError) (path : String) : String :=
  "[Errno " ++ toString e.number ++ "] " ++ e.reason ++ ": " ++ Text.quoted path

end FileError

structure Files where
  entries : List (List String × Entry)

namespace Files

def maxName : Nat := 255

def pathLimit : Nat := 4096

def entry? (fs : Files) (place : List String) : Option Entry :=
  if place = [] then some .directory else fs.entries.lookup place

def find (fs : Files) (done : List String) : List String → Except FileError (List String × Entry)
  | [] => match fs.entry? done with
    | some e => .ok (done, e)
    | none => .error .missing
  | p :: ps => match fs.entry? done with
    | none => .error .missing
    | some (.file _) => .error .notDirectory
    | some .directory =>
      if p = ".." then fs.find done.dropLast ps
      else if p.utf8ByteSize > maxName then .error .nameTooLong
      else fs.find (done ++ [p]) ps

theorem entry?_of_find {fs : Files} {done parts place : List String} {e : Entry}
    (h : fs.find done parts = .ok (place, e)) : fs.entry? place = some e := by
  induction parts generalizing done with
  | nil =>
    unfold find at h
    split at h <;> cases h
    assumption
  | cons p ps ih =>
    unfold find at h
    split at h
    · cases h
    · cases h
    · split at h
      · exact ih h
      · split at h
        · cases h
        · exact ih h

-- Without double dots, following parts ends at the place they spell.
theorem place_of_find {fs : Files} {done parts place : List String} {e : Entry}
    (plain : ".." ∉ parts) (h : fs.find done parts = .ok (place, e)) : place = done ++ parts := by
  induction parts generalizing done with
  | nil =>
    unfold find at h
    split at h <;> cases h
    simp
  | cons p ps ih =>
    simp only [List.mem_cons, not_or] at plain
    unfold find at h
    split at h
    · cases h
    · cases h
    · rw [if_neg (Ne.symm plain.1)] at h
      split at h
      · cases h
      · simpa using ih plain.2 h

-- What a path names, seen from the directory `here`. Nothing has a name with a null character.
def stat (fs : Files) (here : Location) (p : Path) : Except FileError Entry :=
  if p.text.toList.contains '\x00' then .error .missing
  else if p.text.utf8ByteSize ≥ pathLimit then .error .nameTooLong
  else (fs.find (if p.isAbsolute then [] else here.parts) p.parts).map (·.2)

theorem find_of_stat {fs : Files} {here : Location} {p : Path} {e : Entry}
    (h : fs.stat here p = .ok e) :
    ∃ place, fs.find (if p.isAbsolute then [] else here.parts) p.parts = .ok (place, e) := by
  unfold stat at h
  split at h
  · cases h
  split at h
  · cases h
  · cases hf : fs.find (if p.isAbsolute then [] else here.parts) p.parts with
    | error e' => rw [hf] at h; cases h
    | ok r => rw [hf] at h; cases h; exact ⟨r.1, rfl⟩

-- Whether a text asks for a directory: it ends in a slash or a single dot.
def asksDirectory (text : String) : Bool :=
  match (Text.splitOn '/' text.toList).getLast? with
  | some [] | some ['.'] => true
  | _ => false

def statText (fs : Files) (here : Location) (text : String) : Except FileError Entry :=
  if text.isEmpty then .error .missing
  else match fs.stat here (Path.ofText text) with
    | .ok (.file octets) =>
      if asksDirectory text then .error .notDirectory else .ok (.file octets)
    | r => r

inductive ReadError
  | file (e : FileError) (path : Path)
  | notText (e : Text.Utf8.Error)

namespace ReadError

def message : ReadError → String
  | file e p => e.message p.text
  | notText e => e.message

end ReadError

-- The text in octets: strict UTF-8, every way to end a line read as a newline.
def decodeText (octets : List UInt8) : Except Text.Utf8.Error String :=
  (Text.Utf8.decode octets).map fun cs => String.ofList (Text.normalNewlines cs)

def read (fs : Files) (here : Location) (p : Path) : Except ReadError String :=
  match fs.stat here p with
  | .error e => .error (.file e p)
  | .ok .directory => .error (.file .isDirectory p)
  | .ok (.file octets) => (decodeText octets).mapError .notText

-- Whether a path names something that satisfies `test`; a missing thing does not, but a name that
-- is too long is an error.
def holds (fs : Files) (here : Location) (p : Path) (test : Entry → Bool) :
    Except (FileError × Path) Bool :=
  match fs.stat here p with
  | .ok e => .ok (test e)
  | .error .nameTooLong => .error (.nameTooLong, p)
  | .error _ => .ok false

def isFile (fs : Files) (here : Location) (p : Path) : Except (FileError × Path) Bool :=
  fs.holds here p fun
    | .file _ => true
    | .directory => false

def exist (fs : Files) (here : Location) (p : Path) : Except (FileError × Path) Bool :=
  fs.holds here p fun _ => true

end Files

end Highlight
