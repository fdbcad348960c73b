import Highlight.Files.Path
import Highlight.Pattern

namespace Highlight

inductive Event
  -- A pattern was found to be well formed.
  | pattern (p : Pattern)
  | loading (place : Location)
  | importing (place : Location)
  | loadingMeta (path : Path)
  | styling (files workers : Nat)
  | styled (tokens : Nat)

def PatternStore.absorb (store : PatternStore) (events : List Event) : PatternStore :=
  events.foldl keep store
where
  keep (store : PatternStore) : Event → PatternStore
    | .pattern p => ((fetch p.source).run store).2
    | _ => store

structure Logged (ε α : Type) where
  events : List Event
  result : Except ε α

namespace Logged

variable {ε α β : Type}

protected def bind (x : Logged ε α) (f : α → Logged ε β) : Logged ε β :=
  match x.result with
  | .error e => ⟨x.events, .error e⟩
  | .ok a => ⟨x.events ++ (f a).events, (f a).result⟩

instance : Monad (Logged ε) where
  pure a := ⟨[], .ok a⟩
  bind := Logged.bind

instance : MonadExceptOf ε (Logged ε) where
  throw e := ⟨[], .error e⟩
  tryCatch x handle := match x.result with
    | .error e => ⟨x.events ++ (handle e).events, (handle e).result⟩
    | .ok a => ⟨x.events, .ok a⟩

def log (e : Event) : Logged ε Unit :=
  ⟨[e], .ok ()⟩

def ofExcept (r : Except ε α) : Logged ε α :=
  ⟨[], r⟩

def mapError {δ : Type} (f : ε → δ) (x : Logged ε α) : Logged δ α :=
  ⟨x.events, x.result.mapError f⟩

theorem ext {x y : Logged ε α} (events : x.events = y.events) (result : x.result = y.result) :
    x = y := by
  cases x; cases y; cases events; cases result; rfl

protected theorem bind_assoc {γ : Type} (x : Logged ε α) (f : α → Logged ε β)
    (g : β → Logged ε γ) : (x.bind f).bind g = x.bind fun a => (f a).bind g := by
  rcases x with ⟨_, _ | a⟩
  · rfl
  · rcases hf : f a with ⟨_, _ | _⟩ <;> simp [Logged.bind, hf]

protected theorem bind_pure (x : Logged ε α) : (x.bind fun a => ⟨[], .ok a⟩) = x := by
  rcases x with ⟨_, _ | _⟩ <;> simp [Logged.bind]

instance : LawfulMonad (Logged ε) :=
  LawfulMonad.mk' _ Logged.bind_pure (fun _ _ => rfl) Logged.bind_assoc

@[simp] theorem result_pure (a : α) : (pure a : Logged ε α).result = .ok a := rfl

@[simp] theorem result_throw (e : ε) : (throw e : Logged ε α).result = .error e := rfl

@[simp] theorem result_log (e : Event) : (log e : Logged ε Unit).result = .ok () := rfl

@[simp] theorem result_ofExcept (r : Except ε α) : (ofExcept r).result = r := rfl

@[simp] theorem result_bind (x : Logged ε α) (f : α → Logged ε β) :
    (x >>= f).result = x.result.bind fun a => (f a).result := by
  show (Logged.bind x f).result = _
  unfold Logged.bind
  cases x.result <;> rfl

end Logged

end Highlight
