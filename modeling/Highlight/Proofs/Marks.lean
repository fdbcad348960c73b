import Highlight.Document.Compile

namespace Highlight

namespace Logged

variable {ε α β : Type}

-- What a computation yields, whatever the reason if it yields nothing.
def value? (x : Logged ε α) : Option α :=
  x.result.toOption

@[simp] theorem value?_pure (a : α) : (pure a : Logged ε α).value? = some a := rfl

@[simp] theorem value?_bind (x : Logged ε α) (f : α → Logged ε β) :
    (x >>= f).value? = x.value?.bind fun a => (f a).value? := by
  rw [value?, value?, result_bind]
  cases x.result <;> rfl

@[simp] theorem value?_map (f : α → β) (x : Logged ε α) : (f <$> x).value? = x.value?.map f := by
  rw [map_eq_pure_bind, value?_bind]
  cases x.value? <;> rfl

theorem toOption_eq_some {x : Except ε α} {a : α} : x.toOption = some a ↔ x = .ok a := by
  cases x <;> simp [Except.toOption]

theorem value?_eq_some {x : Logged ε α} {a : α} : x.value? = some a ↔ x.result = .ok a :=
  toOption_eq_some

theorem value?_mapM_congr {f g : α → Logged ε β} (h : ∀ a, (f a).value? = (g a).value?)
    (l : List α) : (l.mapM f).value? = (l.mapM g).value? := by
  induction l
  case nil => rfl
  case cons a l hi =>
    simp only [List.mapM_cons, value?_bind, value?_pure, h a, hi]

end Logged

namespace Document

variable {α β γ : Type}

mutual

-- The same part with each mark exchanged for another one.
def Part.map (f : α → β) : Part α → Part β
  | .kind child n => .kind (child.map f) n
  | .dotted child n => .dotted (child.map f) n
  | .token child t => .token (child.map f) t
  | .pattern child m t => .pattern (child.map f) (f m) t
  | .branch child m first rest => .branch (child.map f) (f m) (first.map f) (mapParts f rest)
termination_by structural p => p

def mapParts (f : α → β) : List (Part α) → List (Part β)
  | [] => []
  | p :: ps => p.map f :: mapParts f ps
termination_by structural ps => ps

end

def Chain.map (f : α → β) (c : Chain α) : Chain β :=
  ⟨c.first.map f, mapParts f c.rest⟩

def Declaration.map (f : α → β) (d : Declaration α) : Declaration β :=
  { d with mark := f d.mark, valueMark := f d.valueMark }

mutual

def Item.map (f : α → β) : Item α → Item β
  | .declaration d => .declaration (d.map f)
  | .rule first rest body => .rule (first.map f) (rest.map (Chain.map f)) (mapItems f body)
termination_by structural i => i

def mapItems (f : α → β) : List (Item α) → List (Item β)
  | [] => []
  | i :: is => i.map f :: mapItems f is
termination_by structural is => is

end

-- An item without its marks.
def Item.unmarked (i : Item α) : Item Unit :=
  i.map fun _ => ()

theorem mapItems_eq_map (f : α → β) (is : List (Item α)) : mapItems f is = is.map (Item.map f) := by
  induction is
  case nil => rfl
  case cons i is hi => rw [mapItems, hi, List.map_cons]

mutual

theorem Part.map_map (g : β → γ) (f : α → β) : (p : Part α) → (p.map f).map g = p.map (g ∘ f)
  | .kind .. | .dotted .. | .token .. | .pattern .. => by simp [Part.map]
  | .branch _ _ first rest => by simp [Part.map, Part.map_map g f first, mapParts_map g f rest]
termination_by structural p => p

theorem mapParts_map (g : β → γ) (f : α → β) : (ps : List (Part α)) →
    mapParts g (mapParts f ps) = mapParts (g ∘ f) ps
  | [] => rfl
  | p :: ps => by rw [mapParts, mapParts, mapParts, Part.map_map g f p, mapParts_map g f ps]
termination_by structural ps => ps

end

theorem Chain.map_map (g : β → γ) (f : α → β) (c : Chain α) :
    (c.map f).map g = c.map (g ∘ f) := by
  simp [Chain.map, Part.map_map, mapParts_map]

mutual

theorem Item.map_map (g : β → γ) (f : α → β) : (i : Item α) → (i.map f).map g = i.map (g ∘ f)
  | .declaration _ => rfl
  | .rule first rest body => by
    simp [Item.map, Chain.map_map, mapItems_map g f body]
termination_by structural i => i

theorem mapItems_map (g : β → γ) (f : α → β) : (is : List (Item α)) →
    mapItems g (mapItems f is) = mapItems (g ∘ f) is
  | [] => rfl
  | i :: is => by rw [mapItems, mapItems, mapItems, Item.map_map g f i, mapItems_map g f is]
termination_by structural is => is

end

variable (f : Position → Position)

@[simp] theorem value?_check {ε δ : Type} (cause : ε → Cause) (m : Position) (r : Except ε δ) :
    (check cause m r).value? = r.toOption := by
  cases r <;> rfl

theorem value?_applyChild_map (child : Option Position) (s : Segment) :
    (applyChild (child.map f) s).value? = (applyChild child s).value? := by
  cases child <;> simp [applyChild]

mutual

theorem Part.value?_segment_map : (p : Part Position) →
    (p.map f).segment.value? = p.segment.value?
  | .kind .. | .dotted .. | .token .. => value?_applyChild_map f _ _
  | .pattern .. => by
    simp [Part.map, Part.segment, compilePattern, value?_applyChild_map]
  | .branch _ _ first rest => by
    simp [Part.map, Part.segment, value?_applyChild_map, Part.value?_segment_map first,
      value?_segments_map rest]
termination_by structural p => p

theorem value?_segments_map : (ps : List (Part Position)) →
    (segments (mapParts f ps)).value? = (segments ps).value?
  | [] => rfl
  | p :: ps => by
    simp [mapParts, segments, Part.value?_segment_map p, value?_segments_map ps]
termination_by structural ps => ps

end

theorem Chain.value?_selector_map (c : Chain Position) :
    (c.map f).selector.value? = c.selector.value? := by
  simp [Chain.map, Chain.selector, Part.value?_segment_map, value?_segments_map]

theorem value?_readNumber (m n : Position) (digits : List Char) :
    (readNumber m digits).value? = (readNumber n digits).value? := by
  simp [readNumber]

theorem Value.value?_content (m n : Position) (v : Value) :
    (v.content m).value? = (v.content n).value? := by
  cases v
  case string | hexColour | name => rfl
  case integer t => simp [Value.content, value?_readNumber m n t.toList]
  case rgb t =>
    have h := Logged.value?_mapM_congr (value?_readNumber m n) (digitRuns t.toList)
    simp only [Value.content, Logged.value?_bind, h]
    refine congrArg _ (funext fun channels => ?_)
    split <;> simp

theorem Declaration.value?_setup_map (d : Declaration Position) :
    (d.map f).setup.value? = d.setup.value? := by
  simp [Declaration.map, Declaration.setup, Value.value?_content (f d.valueMark) d.valueMark]

mutual

theorem Item.value?_statement_map : (i : Item Position) →
    (i.map f).statement.value? = i.statement.value?
  | .declaration d => by simp [Item.map, Item.statement, Declaration.value?_setup_map]
  | .rule first rest body => by
    have hr := Logged.value?_mapM_congr (Chain.value?_selector_map f) rest
    simp [Item.map, Item.statement, Chain.value?_selector_map, value?_statements_map body,
      Function.comp_def, hr]
termination_by structural i => i

theorem value?_statements_map : (is : List (Item Position)) →
    (statements (mapItems f is)).value? = (statements is).value?
  | [] => rfl
  | i :: is => by
    simp [mapItems, statements, Item.value?_statement_map i, value?_statements_map is]
termination_by structural is => is

end

-- All marks can be exchanged for one, so they have no part in what is stated.
theorem value?_statements_of_unmarked {is js : List (Item Position)}
    (h : is.map Item.unmarked = js.map Item.unmarked) :
    (statements is).value? = (statements js).value? := by
  have hmap (is : List (Item Position)) : mapItems (fun _ => Position.start) is =
      mapItems (fun _ => Position.start) (is.map Item.unmarked) := by
    rw [mapItems_eq_map, mapItems_eq_map, List.map_map]
    congr
    funext i
    exact (Item.map_map (fun _ => Position.start) (fun _ => ()) i).symm
  rw [← value?_statements_map (fun _ => Position.start) is, hmap, h, ← hmap, value?_statements_map]

end Document

end Highlight
