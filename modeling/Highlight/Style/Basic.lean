import Highlight.Style.Colour

namespace Highlight

structure Setting (α : Type) where
  value : α
  important : Bool := false
  deriving DecidableEq, Repr

namespace Setting

-- The setting that holds after `later` is declared over `earlier`.
def cascade {α : Type} (earlier later : Option (Setting α)) : Option (Setting α) :=
  match earlier, later with
  | e, none => e
  | none, some l => some l
  | some e, some l => if e.important && !l.important then some e else some l

variable {α : Type}

@[simp] theorem cascade_none (e : Option (Setting α)) : cascade e none = e := by
  cases e <;> rfl

@[simp] theorem none_cascade (l : Option (Setting α)) : cascade none l = l := by
  cases l <;> rfl

theorem cascade_assoc (a b c : Option (Setting α)) :
    cascade (cascade a b) c = cascade a (cascade b c) := by
  rcases a with _ | ⟨_, _ | _⟩ <;> rcases b with _ | ⟨_, _ | _⟩ <;> rcases c with _ | ⟨_, _ | _⟩ <;>
    simp [cascade]

def overrides (later : Setting α) (earlier : Option (Setting α)) : Bool :=
  later.important || !earlier.any (·.important)

theorem cascade_eq_or (e l : Option (Setting α)) :
    cascade e l = (l.filter (·.overrides e)).or e := by
  rcases e with _ | ⟨_, _ | _⟩ <;> rcases l with _ | ⟨_, _ | _⟩ <;> rfl

end Setting

inductive Effect
  | bold
  | dim
  | italic
  | underline
  | strikethrough
  | blink
  | reverse
  deriving DecidableEq, Repr

namespace Effect

def all : List Effect :=
  [bold, dim, italic, underline, strikethrough, blink, reverse]

def name : Effect → String
  | bold => "bold"
  | dim => "dim"
  | italic => "italic"
  | underline => "underline"
  | strikethrough => "strikethrough"
  | blink => "blink"
  | reverse => "reverse"

def ofName? (s : String) : Option Effect :=
  all.find? (·.name = s)

theorem mem_all (e : Effect) : e ∈ all := by
  cases e <;> decide

end Effect

inductive Attribute
  | foreground
  | background
  | content
  | effect (e : Effect)
  deriving DecidableEq, Repr

namespace Attribute

def all : List Attribute :=
  [foreground, background, content] ++ Effect.all.map effect

def name : Attribute → String
  | foreground => "foreground"
  | background => "background"
  | content => "content"
  | effect e => e.name

abbrev Value : Attribute → Type
  | foreground | background => Colour
  | content => String
  | effect _ => Bool

theorem mem_all (a : Attribute) : a ∈ all := by
  rcases a with _ | _ | _ | e
  case effect => exact List.mem_append_right _ <| List.mem_map_of_mem e.mem_all
  all_goals decide

end Attribute

@[ext]
structure Style where
  foreground : Option (Setting Colour) := none
  background : Option (Setting Colour) := none
  content : Option (Setting String) := none
  bold : Option (Setting Bool) := none
  dim : Option (Setting Bool) := none
  italic : Option (Setting Bool) := none
  underline : Option (Setting Bool) := none
  strikethrough : Option (Setting Bool) := none
  blink : Option (Setting Bool) := none
  reverse : Option (Setting Bool) := none
  deriving DecidableEq, Repr

namespace Style

instance : EmptyCollection Style := ⟨{}⟩

def effect (s : Style) : Effect → Option (Setting Bool)
  | .bold => s.bold
  | .dim => s.dim
  | .italic => s.italic
  | .underline => s.underline
  | .strikethrough => s.strikethrough
  | .blink => s.blink
  | .reverse => s.reverse

def get (s : Style) : (a : Attribute) → Option (Setting a.Value)
  | .foreground => s.foreground
  | .background => s.background
  | .content => s.content
  | .effect e => s.effect e

def single : (a : Attribute) → Setting a.Value → Style
  | .foreground, v => { foreground := some v }
  | .background, v => { background := some v }
  | .content, v => { content := some v }
  | .effect .bold, v => { bold := some v }
  | .effect .dim, v => { dim := some v }
  | .effect .italic, v => { italic := some v }
  | .effect .underline, v => { underline := some v }
  | .effect .strikethrough, v => { strikethrough := some v }
  | .effect .blink, v => { blink := some v }
  | .effect .reverse, v => { reverse := some v }

-- The settings of `t` that take the place of what `s` has.
def updates (s t : Style) (a : Attribute) : Option (Setting a.Value) :=
  (t.get a).filter (·.overrides (s.get a))

def replace (s : Style) (updates : (a : Attribute) → Option (Setting a.Value)) : Style where
  foreground := (updates .foreground).or s.foreground
  background := (updates .background).or s.background
  content := (updates .content).or s.content
  bold := (updates (.effect .bold)).or s.bold
  dim := (updates (.effect .dim)).or s.dim
  italic := (updates (.effect .italic)).or s.italic
  underline := (updates (.effect .underline)).or s.underline
  strikethrough := (updates (.effect .strikethrough)).or s.strikethrough
  blink := (updates (.effect .blink)).or s.blink
  reverse := (updates (.effect .reverse)).or s.reverse

-- The style that holds after `t` is declared over `s`. Where nothing takes the place of what `s`
-- has, that is `s` itself.
def merge (s t : Style) : Style :=
  if Attribute.all.all fun a => (s.updates t a).isNone then s else s.replace (s.updates t)

def isEmpty (s : Style) : Bool :=
  s = ∅

def content? (s : Style) : Option String :=
  s.content.map (·.value)

theorem ext_get {s t : Style} (h : ∀ a, s.get a = t.get a) : s = t := by
  ext1
  · exact h .foreground
  · exact h .background
  · exact h .content
  · exact h (.effect .bold)
  · exact h (.effect .dim)
  · exact h (.effect .italic)
  · exact h (.effect .underline)
  · exact h (.effect .strikethrough)
  · exact h (.effect .blink)
  · exact h (.effect .reverse)

@[simp] theorem get_empty (a : Attribute) : (∅ : Style).get a = none := by
  rcases a with _ | _ | _ | e
  · rfl
  · rfl
  · rfl
  · cases e <;> rfl

@[simp] theorem get_replace (s : Style) (updates : (a : Attribute) → Option (Setting a.Value))
    (a : Attribute) : (s.replace updates).get a = (updates a).or (s.get a) := by
  rcases a with _ | _ | _ | e
  · rfl
  · rfl
  · rfl
  · cases e <;> rfl

-- The case in which `s` itself is returned needs no treatment of its own: to replace nothing leaves
-- every attribute as it was.
theorem merge_eq_replace (s t : Style) : s.merge t = s.replace (s.updates t) := by
  rw [merge]
  split
  case isTrue h =>
    refine ext_get fun a => ?_
    have hn := List.all_eq_true.mp h a a.mem_all
    rw [get_replace, Option.isNone_iff_eq_none.mp hn, Option.none_or]
  case isFalse => rfl

@[simp] theorem get_merge (s t : Style) (a : Attribute) :
    (s.merge t).get a = Setting.cascade (s.get a) (t.get a) := by
  rw [merge_eq_replace, get_replace, updates, Setting.cascade_eq_or]

@[simp] theorem content_merge (s t : Style) :
    (s.merge t).content = Setting.cascade s.content t.content :=
  get_merge s t .content

end Style

end Highlight
