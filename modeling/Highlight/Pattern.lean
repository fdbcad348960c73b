import Highlight.Regex.Parser
import Highlight.Regex.Search

namespace Highlight

structure Pattern where
  source : String
  regex : Regex
  parses : Regex.parse source = .ok regex

namespace Pattern

def compile (source : String) : Except Regex.Error Pattern :=
  match h : Regex.parse source with
  | .ok regex => .ok ⟨source, regex, h⟩
  | .error e => .error e

-- A pattern is determined by its source.
theorem eq_of_source_eq {p q : Pattern} (h : p.source = q.source) : p = q := by
  obtain ⟨s, r, hp⟩ := p
  obtain ⟨t, r', hq⟩ := q
  subst h
  have : r = r' := by simpa [hp] using hq
  subst this
  rfl

theorem source_inj {p q : Pattern} : p.source = q.source ↔ p = q :=
  ⟨eq_of_source_eq, fun h => h ▸ rfl⟩

instance : DecidableEq Pattern := fun _ _ => decidable_of_iff _ source_inj

theorem compile_source (p : Pattern) : compile p.source = .ok p := by
  unfold compile
  split
  · next r h =>
    congr 1
    exact eq_of_source_eq rfl
  · next e h => simp [p.parses] at h

theorem source_of_compile {source : String} {p : Pattern} (h : compile source = .ok p) :
    p.source = source := by
  unfold compile at h
  split at h
  · cases h; rfl
  · cases h

def occursIn (p : Pattern) (text : String) : Bool :=
  p.regex.occursIn text

def refusal (source : String) (e : Regex.Error) : String :=
  match e with
  | .fault .. => "Invalid token pattern /" ++ source ++ "/: " ++ e.message source
  | _ => e.message source

end Pattern

structure PatternStore where
  patterns : List Pattern := []
  compilations : Nat := 0

namespace PatternStore

def size (store : PatternStore) : Nat :=
  store.patterns.length

def find? (store : PatternStore) (source : String) : Option Pattern :=
  store.patterns.find? (·.source = source)

-- Keeps a pattern unless one with its source is there, and returns the one that is there then.
def keep (p : Pattern) : StateM PatternStore Pattern :=
  modifyGet fun store => match store.find? p.source with
    | some q => (q, store)
    | none => (p, { store with patterns := store.patterns ++ [p] })

-- The section under the lock: a second look, and on a miss a compilation, which is counted before
-- the pattern is kept. What has been changed before an error would remain.
def compileLocked (source : String) : StateM PatternStore (Except Regex.Error Pattern) := do
  match (← get).find? source with
  | some p => return .ok p
  | none => match Pattern.compile source with
    | .error e => return .error e
    | .ok p =>
      modify fun store => { store with compilations := store.compilations + 1 }
      return .ok (← keep p)

-- The compiled form of a pattern, compiled on first use.
def fetch (source : String) : StateM PatternStore (Except Regex.Error Pattern) := do
  match (← get).find? source with
  | some p => return .ok p
  | none => compileLocked source

def clear (_ : PatternStore) : PatternStore := {}

end PatternStore

end Highlight
