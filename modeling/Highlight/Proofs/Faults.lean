import Highlight.Proofs.Legality

namespace Highlight

namespace Logged

variable {ε α β : Type} {x : Logged ε α}

-- What a computation ends with instead of a value.
def error? (x : Logged ε α) : Option ε :=
  match x.result with
  | .error e => some e
  | .ok _ => none

theorem error?_eq_some {e : ε} : x.error? = some e ↔ x.result = .error e := by
  unfold error?
  cases x.result <;> simp

theorem isSome_error? : x.error?.isSome ↔ ∃ e, x.result = .error e := by
  rw [Option.isSome_iff_exists]
  simp only [error?_eq_some]

@[simp] theorem error?_pure (a : α) : (pure a : Logged ε α).error? = none := rfl

-- A computation that goes on fails with its first error. What it fails with later may depend on the
-- value before, but not on which of the possible values that is.
theorem error?_bind {f : α → Logged ε β} {later : Option ε}
    (h : ∀ a, x.result = .ok a → (f a).error? = later) :
    (x >>= f).error? = x.error?.or later := by
  cases hx : x.result
  case error e => simp [error?, hx, Except.bind]
  case ok a =>
    rw [← h a hx]
    simp [error?, hx, Except.bind]

theorem error?_bind_pure {f : α → β} : (x >>= fun a => pure (f a)).error? = x.error? := by
  rw [error?_bind fun a _ => error?_pure (f a), Option.or_none]

theorem error?_mapM {γ : Type} {f : α → Logged ε β} {parts : α → List γ} {fault : γ → Option ε}
    {l : List α} (h : ∀ a ∈ l, (f a).error? = (parts a).findSome? fault) :
    (l.mapM f).error? = (l.flatMap parts).findSome? fault := by
  induction l
  case nil => rfl
  case cons a l hi =>
    have ⟨ha, hl⟩ := List.forall_mem_cons.mp h
    rw [List.mapM_cons, error?_bind fun _ _ => error?_bind_pure, ha, hi hl, List.flatMap_cons,
      List.findSome?_append]

end Logged

namespace Document

variable {α : Type}

-- What can be at fault by itself.
inductive Construct (α : Type)
  | pattern (mark : α) (literal : String)
  -- A part of a selector with a `>` before it.
  | child (mark : α) (part : Part α)
  | branch (mark : α) (parts : List (Part α))
  | value (mark : α) (v : Value)
  | declaration (d : Declaration α)

def Part.isDotted : Part α → Bool
  | .dotted .. => true
  | _ => false

def Part.isBranch : Part α → Bool
  | .branch .. => true
  | _ => false

-- What a value stands for, or what is wrong with it wherever it stands.
def Value.meaning : Value → Except Cause Content
  | .string t => .ok (.text (unquote t))
  | .integer t => ((Text.Decimal.read t.toList).mapError .tooManyDigits).map .number
  | .hexColour t => .ok (.hex t)
  | .name t => .ok (.word t)
  | .rgb t => ((digitRuns t.toList).mapM Text.Decimal.read).mapError .tooManyDigits >>= fun
    | [r, g, b] => ((Colour.ofChannels r g b).mapError .colour).map .colour
    | _ => .ok (.word t)

def faultOf {β : Type} : Except Cause β → Option Cause
  | .error cause => some cause
  | .ok _ => none

namespace Construct

-- Where the construct starts.
def mark : Construct α → α
  | pattern m _ | child m _ | branch m _ | value m _ => m
  | declaration d => d.mark

def lexemes : Construct α → List Lexeme
  | pattern _ t => [.regex t]
  | child _ p => p.lexemes
  | branch _ ps => .leftBracket :: (partsLexemes ps ++ [.rightBracket])
  | value _ v => [v.lexeme]
  | declaration d => d.lexemes

-- What is wrong with the construct itself. A value at fault is no fault of its declaration.
def fault? : Construct α → Option Cause
  | pattern _ t => faultOf ((Pattern.compile (patternSource t)).mapError (.pattern (patternSource t)))
  | child _ p => if p.isBranch then some (.segment .childOfBranch) else none
  | branch _ ps => if ps.any Part.isDotted then some (.segment .dotInBranch) else none
  | value _ v => faultOf v.meaning
  | declaration d => match d.value.meaning with
    | .ok content => faultOf (setup d.property d.important content)
    | .error _ => none

def problem? (c : Construct Position) : Option Problem :=
  c.fault?.map (Problem.located · c.mark)

end Construct

-- The constructs of each phrase, each after those inside it.

def childConstructs (child : Option α) (p : Part α) : List (Construct α) :=
  (child.map (.child · p)).toList

mutual

def Part.constructs : Part α → List (Construct α)
  | .kind child n => childConstructs child (.kind child n)
  | .dotted child n => childConstructs child (.dotted child n)
  | .token child t => childConstructs child (.token child t)
  | .pattern child mark t => [.pattern mark t] ++ childConstructs child (.pattern child mark t)
  | .branch child mark first rest =>
    first.constructs ++ (partsConstructs rest ++
      ([.branch mark (first :: rest)] ++ childConstructs child (.branch child mark first rest)))
termination_by structural p => p

def partsConstructs : List (Part α) → List (Construct α)
  | [] => []
  | p :: ps => p.constructs ++ partsConstructs ps
termination_by structural ps => ps

end

def Chain.constructs (c : Chain α) : List (Construct α) :=
  c.first.constructs ++ partsConstructs c.rest

def Declaration.constructs (d : Declaration α) : List (Construct α) :=
  [.value d.valueMark d.value, .declaration d]

mutual

def Item.constructs : Item α → List (Construct α)
  | .declaration d => d.constructs
  | .rule first rest body =>
    first.constructs ++ (rest.flatMap Chain.constructs ++ itemsConstructs body)
termination_by structural i => i

def itemsConstructs : List (Item α) → List (Construct α)
  | [] => []
  | i :: is => i.constructs ++ itemsConstructs is
termination_by structural is => is

end

def TopItem.constructs : TopItem α → List (Construct α)
  | .imports _ => []
  | .item i => i.constructs

def constructs (d : Document α) : List (Construct α) :=
  d.flatMap TopItem.constructs

theorem result_check {ε β : Type} {cause : ε → Cause} {m : Position} {r : Except ε β} :
    (check cause m r).result = (r.mapError cause).mapError (Problem.located · m) := by
  cases r <;> rfl

theorem error?_check {ε β : Type} {cause : ε → Cause} {m : Position} {r : Except ε β} :
    (check cause m r).error? = (faultOf (r.mapError cause)).map (Problem.located · m) := by
  cases r <;> rfl

theorem error?_compilePattern (m : Position) (t : String) :
    (compilePattern m (patternSource t)).error? = (Construct.pattern m t).problem? := by
  have kept (p : Pattern) : (do Logged.log (.pattern p); pure p : Checked Pattern).error? = none :=
    rfl
  rw [compilePattern, Logged.error?_bind fun p _ => kept p, error?_check, Option.or_none]
  rfl

theorem error?_applyChild_atom (child : Option Position) (a : Atom) :
    (applyChild child (.atom a)).error? = none := by
  cases child <;> rfl

theorem findSome?_childConstructs (child : Option Position) {p : Part Position}
    (hp : p.isBranch = false) :
    (childConstructs child p).findSome? Construct.problem? = none := by
  cases child <;> simp [childConstructs, Construct.problem?, Construct.fault?, hp]

theorem isDotted_of_applyChild {child : Option Position} {s t : Segment}
    (h : (applyChild child s).result = .ok t) : t.isDotted = s.isDotted := by
  obtain ⟨-, rfl⟩ | ⟨_, a, -, rfl, rfl⟩ := applyChild_eq_ok.mp h
  · rfl
  · cases a <;> rfl

-- Whether a segment has a dot is seen from how it is written.
theorem Part.isDotted_of_segment {p : Part Position} {s : Segment}
    (h : p.segment.result = .ok s) : s.isDotted = p.isDotted := by
  cases p <;> rw [Part.segment] at h
  case kind | dotted | token => exact isDotted_of_applyChild h
  case pattern =>
    obtain ⟨p, _, h⟩ := Logged.bind_eq_ok.mp h
    exact isDotted_of_applyChild h
  case branch =>
    obtain ⟨_, _, h⟩ := Logged.bind_eq_ok.mp h
    obtain ⟨_, _, h⟩ := Logged.bind_eq_ok.mp h
    obtain ⟨_, hb, h⟩ := Logged.bind_eq_ok.mp h
    obtain ⟨_, _, rfl⟩ := Segment.ofBranch_eq_ok.mp (check_eq_ok.mp hb)
    exact isDotted_of_applyChild h

theorem any_isDotted_of_segments {ps : List (Part Position)} {ss : List Segment}
    (h : List.Forall₂ (fun p s => p.segment.result = .ok s) ps ss) :
    ss.any Segment.isDotted = ps.any Part.isDotted := by
  induction h
  case nil => rfl
  case cons hs _ hi => rw [List.any_cons, List.any_cons, hi, Part.isDotted_of_segment hs]

theorem error?_ofBranch {m : Position} {p : Part Position} {ps : List (Part Position)}
    {ss : List Segment} (h : List.Forall₂ (fun p s => p.segment.result = .ok s) (p :: ps) ss) :
    (check .segment m (Segment.ofBranch ss)).error? = (Construct.branch m (p :: ps)).problem? := by
  have hne : ss.isEmpty = false := by
    cases h
    rfl
  rw [error?_check, Segment.ofBranch, any_isDotted_of_segments h, hne, Construct.problem?,
    Construct.fault?]
  cases (p :: ps).any Part.isDotted <;> rfl

theorem error?_applyChild_branch {child : Option Position} {p : Part Position} {ss : List Segment}
    (hp : p.isBranch) : (applyChild child (.branch ss)).error? =
      (childConstructs child p).findSome? Construct.problem? := by
  cases child
  case none => rfl
  case some m =>
    rw [applyChild, error?_check]
    simp [childConstructs, Construct.problem?, Construct.fault?, hp, Construct.mark, faultOf,
      Segment.asChild, Except.mapError]

mutual

theorem Part.error?_segment : (p : Part Position) →
    p.segment.error? = p.constructs.findSome? Construct.problem?
  | .kind child n | .dotted child n | .token child t => by
    rw [Part.segment, Part.constructs, findSome?_childConstructs child rfl]
    exact error?_applyChild_atom child _
  | .pattern child mark t => by
    rw [Part.segment, Part.constructs, List.findSome?_append, List.findSome?_singleton,
      findSome?_childConstructs child rfl, ← error?_compilePattern]
    exact Logged.error?_bind fun p _ => error?_applyChild_atom child (.pattern p)
  | .branch child mark first rest => by
    rw [Part.segment, Part.constructs, List.findSome?_append, List.findSome?_append,
      List.findSome?_append, List.findSome?_singleton, ← first.error?_segment,
      ← error?_segments rest]
    -- Where nothing inside is at fault there are segments, with dots as their parts have them.
    refine Logged.error?_bind fun s hs => Logged.error?_bind fun ss hss => ?_
    rw [← error?_ofBranch (.cons hs (segments_eq_ok.mp hss))]
    refine Logged.error?_bind fun t ht => ?_
    obtain ⟨_, _, rfl⟩ := Segment.ofBranch_eq_ok.mp (check_eq_ok.mp ht)
    exact error?_applyChild_branch rfl
termination_by structural p => p

theorem error?_segments : (ps : List (Part Position)) →
    (segments ps).error? = (partsConstructs ps).findSome? Construct.problem?
  | [] => rfl
  | p :: ps => by
    rw [segments, partsConstructs, List.findSome?_append,
      Logged.error?_bind fun _ _ => Logged.error?_bind_pure, p.error?_segment, error?_segments ps]
termination_by structural ps => ps

end

theorem Chain.error?_selector (c : Chain Position) :
    c.selector.error? = c.constructs.findSome? Construct.problem? := by
  rw [Chain.selector, Chain.constructs, List.findSome?_append,
    Logged.error?_bind fun _ _ => Logged.error?_bind_pure, c.first.error?_segment,
    error?_segments c.rest]

theorem result_mapM_readNumber (m : Position) (runs : List (List Char)) :
    (runs.mapM (readNumber m)).result =
      ((runs.mapM Text.Decimal.read).mapError .tooManyDigits).mapError (Problem.located · m) := by
  induction runs
  case nil => rfl
  case cons run runs hi =>
    rw [List.mapM_cons, List.mapM_cons, Logged.result_bind, readNumber, result_check]
    cases Text.Decimal.read run
    case error => rfl
    case ok n =>
      show ((runs.mapM (readNumber m)) >>= _).result = _
      rw [Logged.result_bind, hi]
      cases runs.mapM Text.Decimal.read <;> rfl

theorem Value.result_content (m : Position) (v : Value) :
    (v.content m).result = v.meaning.mapError (Problem.located · m) := by
  cases v <;> rw [Value.content, Value.meaning]
  case string | hexColour | name => rfl
  case integer t =>
    rw [Logged.result_bind, readNumber, result_check]
    cases Text.Decimal.read t.toList <;> rfl
  case rgb t =>
    rw [Logged.result_bind, result_mapM_readNumber]
    cases (digitRuns t.toList).mapM Text.Decimal.read
    case error => rfl
    case ok channels =>
      obtain _ | ⟨r, _ | ⟨g, _ | ⟨b, _ | _⟩⟩⟩ := channels
      case cons.cons.cons.nil =>
        simp only [Except.mapError, Except.bind, Logged.result_bind, result_check]
        cases hc : Colour.ofChannels r g b <;> simp [Except.map, bind, Except.bind, hc]
      all_goals rfl

theorem Value.error?_content (m : Position) (v : Value) :
    (v.content m).error? = (Construct.value m v).problem? := by
  rw [Logged.error?, v.result_content, Construct.problem?, Construct.fault?]
  cases v.meaning <;> rfl

theorem Declaration.error?_setup (d : Declaration Position) :
    d.setup.error? = d.constructs.findSome? Construct.problem? := by
  rw [Declaration.setup, Declaration.constructs, ← List.singleton_append, List.findSome?_append,
    List.findSome?_singleton, List.findSome?_singleton, ← Value.error?_content]
  refine Logged.error?_bind fun content hc => ?_
  rw [Value.result_content, mapError_eq_ok] at hc
  rw [error?_check, Construct.problem?, Construct.fault?, hc]
  dsimp only
  cases Document.setup d.property d.important content <;> rfl

mutual

theorem Item.error?_statement : (i : Item Position) →
    i.statement.error? = i.constructs.findSome? Construct.problem?
  | .declaration d => by
    rw [Item.statement, Item.constructs, Logged.error?_bind_pure, d.error?_setup]
  | .rule first rest body => by
    rw [Item.statement, Item.constructs, List.findSome?_append, List.findSome?_append,
      ← first.error?_selector, ← error?_statements body,
      ← Logged.error?_mapM fun c _ => c.error?_selector]
    exact Logged.error?_bind fun _ _ => Logged.error?_bind fun _ _ => Logged.error?_bind_pure
termination_by structural i => i

theorem error?_statements : (is : List (Item Position)) →
    (statements is).error? = (itemsConstructs is).findSome? Construct.problem?
  | [] => rfl
  | i :: is => by
    rw [statements, itemsConstructs, List.findSome?_append,
      Logged.error?_bind fun _ _ => Logged.error?_bind_pure, i.error?_statement,
      error?_statements is]
termination_by structural is => is

end

-- Compiling reports the first construct that is at fault.
theorem error?_compile (d : Document Position) :
    (compile d).error? = d.constructs.findSome? Construct.problem? := by
  rw [compile, Logged.error?_bind_pure]
  refine Logged.error?_mapM fun i _ => ?_
  cases i
  case imports => rfl
  case item i _ =>
    rw [TopItem.check, Logged.error?_bind_pure]
    exact i.error?_statement

theorem faultOf_eq_some {β : Type} {x : Except Cause β} {cause : Cause} :
    faultOf x = some cause ↔ x = .error cause := by
  cases x <;> simp [faultOf]

theorem Value.kind_of_meaning {v : Value} {cause : Cause} (h : v.meaning = .error cause) :
    cause.kind = .sheet := by
  cases v <;> rw [Value.meaning] at h
  case string | hexColour | name => cases h
  case integer t =>
    cases hd : Text.Decimal.read t.toList <;> rw [hd] at h <;> cases h
    rfl
  case rgb t =>
    cases hd : (digitRuns t.toList).mapM Text.Decimal.read <;> rw [hd] at h
    case error => cases h; rfl
    case ok channels =>
      dsimp only [Except.mapError, bind, Except.bind] at h
      split at h
      case h_1 r g b =>
        cases hc : Colour.ofChannels r g b <;> rw [hc] at h <;> cases h
        rfl
      case h_2 => cases h

-- No fault of a construct is taken for one of the grammar.
theorem Construct.kind_of_fault? {c : Construct α} {cause : Cause} (h : c.fault? = some cause) :
    cause.kind ≠ .parse := by
  cases c <;> rw [fault?] at h
  case pattern m t =>
    obtain ⟨e, -, rfl⟩ := mapError_eq_error.mp (faultOf_eq_some.mp h)
    cases e <;> simp [Cause.kind]
  case child | branch =>
    split at h <;> cases h
    simp [Cause.kind]
  case value m v => simp [Value.kind_of_meaning (faultOf_eq_some.mp h)]
  case declaration d =>
    split at h
    case h_1 =>
      obtain ⟨_, rfl⟩ | ⟨_, _, rfl⟩ | rfl := setup_inversion (faultOf_eq_some.mp h) <;>
        simp [Cause.kind]
    case h_2 => cases h

end Document

end Highlight
