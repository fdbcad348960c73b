import Highlight.Document.Compile

namespace Highlight

inductive LoadError
  | problem (p : Problem)
  | notText (e : Text.Utf8.Error)
  | nullCharacter

namespace LoadError

def message : LoadError → String
  | problem p => p.text
  | notText e => e.message
  | nullCharacter => "embedded null byte"

end LoadError

namespace Files

def readAt (fs : Files) (place : Location) : Except ReadError String :=
  fs.read Location.root place.path

-- How many entries lie at places not in `seen`.
def unseen (fs : Files) (seen : List Location) : Nat :=
  fs.entries.countP fun (place, _) => place ∉ seen.map (·.parts)

theorem mem_entries_of_readAt {fs : Files} {place : Location} {text : String}
    (h : fs.readAt place = .ok text) : ∃ e, (place.parts, e) ∈ fs.entries := by
  unfold readAt read at h
  split at h
  · cases h
  · cases h
  · next octets hs =>
    obtain ⟨key, hf⟩ := find_of_stat hs
    have start : (if place.path.isAbsolute then [] else Location.root.parts) = [] := by
      simp [Location.root]
    rw [start] at hf
    have hkey : key = place.parts := by simpa using place_of_find place.plain hf
    subst hkey
    have he := entry?_of_find hf
    unfold entry? at he
    split at he
    · cases he
    · obtain ⟨l₁, l₂, hl, _⟩ := List.lookup_eq_some_iff.mp he
      exact ⟨.file octets, by rw [hl]; simp⟩

theorem countP_lt {α : Type} {p q : α → Bool} {l : List α} {a : α} (le : ∀ b, q b → p b)
    (ha : a ∈ l) (hp : p a) (hq : ¬ q a) : l.countP q < l.countP p := by
  induction l with
  | nil => cases ha
  | cons b l ih =>
    have mono : l.countP q ≤ l.countP p := List.countP_mono_left fun b _ => le b
    rw [List.countP_cons, List.countP_cons]
    rcases List.mem_cons.mp ha with rfl | hmem
    · rw [if_pos hp, if_neg hq]
      omega
    · have lt := ih hmem
      have step : (if q b then 1 else 0) ≤ (if p b then 1 else 0) := by
        by_cases hb : q b
        · simp [hb, le b hb]
        · simp [hb]
      omega

-- Reading a file that has not been seen leaves fewer files unseen.
theorem unseen_lt {fs : Files} {seen : List Location} {place : Location} {text : String}
    (fresh : place ∉ seen) (h : fs.readAt place = .ok text) :
    fs.unseen (seen ++ [place]) < fs.unseen seen := by
  obtain ⟨e, he⟩ := mem_entries_of_readAt h
  have fresh' : place.parts ∉ seen.map (·.parts) := by
    intro m
    obtain ⟨q, hq, hp⟩ := List.mem_map.mp m
    have : q = place := by
      cases q; cases place; cases hp; rfl
    exact fresh (this ▸ hq)
  refine countP_lt ?_ he ?_ ?_
  · intro b hb
    simp only [List.map_append, List.mem_append, decide_eq_true_eq, not_or] at hb ⊢
    exact hb.1
  · simpa using fresh'
  · simp

end Files

namespace Document.Compiled

-- The sheet of a document: its imports merged in order, then its own rules. `load` loads the file
-- at a place and `base` is the directory from which names are resolved.
def sheetWith (c : Compiled) (base : Location) (load : Location → Logged LoadError Sheet) :
    Logged LoadError Sheet :=
  if c.imports.isEmpty then pure c.sheet
  else do
    let imported ← c.imports.foldlM (fun (sheet : Sheet) name => do
      if name.toList.contains '\x00' then throw .nullCharacter
      let place := base.resolve (Path.ofText name)
      Logged.log (.importing place)
      return sheet.merge (← load place)) ∅
    return imported.merge c.sheet

end Document.Compiled

namespace Sheet

-- Loads the file at a place; `seen` holds the files that are being loaded, outermost first.
def load (fs : Files) (seen : List Location) (place : Location) : Logged LoadError Sheet :=
  if _fresh : place ∈ seen then
    throw (.problem { cause := .circular (seen ++ [place]), path := some place.path })
  else match _hread : fs.readAt place with
    | .error (.file e path) =>
      throw (.problem { cause := .unreadable e path, path := some place.path })
    | .error (.notText e) => throw (.notText e)
    | .ok text => do
      let compiled ← (Document.compileText text).mapError fun p => .problem (p.withPath place.path)
      compiled.sheetWith place.parent fun target => load fs (seen ++ [place]) target
termination_by fs.unseen seen
decreasing_by exact Files.unseen_lt _fresh _hread

def ofText (fs : Files) (base : Location) (text : String) : Logged LoadError Sheet := do
  let compiled ← (Document.compileText text).mapError .problem
  compiled.sheetWith base (load fs [])

def ofFile (fs : Files) (here : Location) (path : Path) : Logged LoadError Sheet := do
  if path.text.toList.contains '\x00' then throw .nullCharacter
  let place := here.resolve path
  Logged.log (.loading place)
  load fs [] place

end Sheet

end Highlight
