import Highlight.Proofs.Marks
import Highlight.Proofs.Merging
import Highlight.Proofs.Resolution
import Mathlib.Data.List.Forall2

namespace Highlight

namespace Logged

variable {ε α β : Type}

theorem result_map (f : α → β) (x : Logged ε α) : (f <$> x).result = x.result.map f := by
  rw [map_eq_pure_bind, result_bind]
  cases x.result <;> rfl

theorem bind_eq_ok {x : Logged ε α} {f : α → Logged ε β} {b : β} :
    (x >>= f).result = .ok b ↔ ∃ a, x.result = .ok a ∧ (f a).result = .ok b := by
  rw [result_bind]
  cases x.result <;> simp [Except.bind]

theorem mapM_eq_ok {f : α → Logged ε β} {l : List α} {bs : List β} :
    (l.mapM f).result = .ok bs ↔ List.Forall₂ (fun a b => (f a).result = .ok b) l bs := by
  induction l generalizing bs
  case nil => simp [eq_comm]
  case cons a l hi =>
    rw [List.mapM_cons, bind_eq_ok]
    simp only [bind_eq_ok, hi, result_pure, Except.ok.injEq, List.forall₂_cons_left_iff]
    constructor
    case mp => exact fun ⟨b, hb, bs, hbs, h⟩ => ⟨b, bs, hb, hbs, h.symm⟩
    case mpr => exact fun ⟨b, bs, hb, hbs, h⟩ => ⟨b, hb, bs, hbs, h.symm⟩

theorem filterMap_eq_of_forall₂ {f : α → Logged ε β} {l : List α} {bs : List β}
    (h : List.Forall₂ (fun a b => (f a).result = .ok b) l bs) :
    l.filterMap (fun a => (f a).value?) = bs := by
  induction h
  case nil => rfl
  case cons hb _ hi => rw [List.filterMap_cons, value?_eq_some.mpr hb, hi]

end Logged

namespace Document

open Sheet (Additive)

-- The items of a document that are no imports, in order.
def items (d : Document Position) : List (Item Position) :=
  d.filterMap fun
    | .item i => some i
    | .imports _ => none

-- The names that a document imports, in order.
def imports (d : Document Position) : List String :=
  d.filterMap fun
    | .imports t => some (unquote t)
    | .item _ => none

@[simp] theorem items_cons_item (i : Item Position) (d : Document Position) :
    items (.item i :: d) = i :: items d := rfl

@[simp] theorem items_cons_imports (t : String) (d : Document Position) :
    items (.imports t :: d) = items d := rfl

@[simp] theorem imports_cons_item (i : Item Position) (d : Document Position) :
    imports (.item i :: d) = imports d := rfl

@[simp] theorem imports_cons_imports (t : String) (d : Document Position) :
    imports (.imports t :: d) = unquote t :: imports d := rfl

theorem items_map_item (is : List (Item Position)) : items (is.map .item) = is := by
  simp [items, List.filterMap_map]

theorem imports_map_item (is : List (Item Position)) : imports (is.map .item) = [] := by
  simp [imports, List.filterMap_map]

-- The selector that is written, if nothing in it is at fault.
def Chain.selector? (c : Chain Position) : Option Selector :=
  c.selector.value?

-- What is declared, if it is not at fault.
def Declaration.setup? (d : Declaration Position) : Option Setup :=
  d.setup.value?

-- What the declarations of a body declare. Nested rules are passed over.
def setups (body : List (Item Position)) : List Setup :=
  body.filterMap fun
    | .declaration d => d.setup?
    | .rule .. => none

-- A declaration with the full selector that it is for.
abbrev Op := Selector × Setup

mutual

-- The full selectors of a rule that stands below `before`, and of the rules nested in it.
def Item.paths : Item Position → Selector → List Selector
  | .declaration _, _ => []
  | .rule first rest body, before =>
    ((first :: rest).filterMap Chain.selector?).flatMap fun s =>
      (before ++ s) :: bodyPaths body (before ++ s)
termination_by structural i => i

def bodyPaths : List (Item Position) → Selector → List Selector
  | [], _ => []
  | i :: is, before => i.paths before ++ bodyPaths is before
termination_by structural is => is

end

mutual

-- The declarations of a rule that stands below `before`: for each of its selectors its own ones,
-- and then those of the rules nested in it.
def Item.ruleOps : Item Position → Selector → List Op
  | .declaration _, _ => []
  | .rule first rest body, before =>
    ((first :: rest).filterMap Chain.selector?).flatMap fun s =>
      (setups body).map (before ++ s, ·) ++ bodyOps body (before ++ s)
termination_by structural i => i

def bodyOps : List (Item Position) → Selector → List Op
  | [], _ => []
  | i :: is, before => i.ruleOps before ++ bodyOps is before
termination_by structural is => is

end

-- An item of the outermost level laid out flat. A declaration there is for the empty selector.
def Item.ops : Item Position → List Op
  | .declaration d => (d.setup?.map (([], ·))).toList
  | .rule first rest body => (Item.rule first rest body).ruleOps []

-- What is declared for a selector, in order.
def declaredAt (ops : List Op) (path : Selector) : List Setup :=
  ops.filterMap fun op => if op.1 = path then some op.2 else none

-- The setting that a declaration makes of an attribute.
def Setup.setting? (s : Setup) (a : Attribute) : Option (Setting a.Value) :=
  if h : s.target = a then some (h ▸ s.setting) else none

mutual

-- All selectors and declarations of an item are in order.
def Item.Sound : Item Position → Prop
  | .declaration d => ∃ s, d.setup.result = .ok s
  | .rule first rest body => (∀ c ∈ first :: rest, ∃ s, c.selector.result = .ok s) ∧ AllSound body
termination_by structural i => i

def AllSound : List (Item Position) → Prop
  | [] => True
  | i :: is => i.Sound ∧ AllSound is
termination_by structural is => is

end

theorem allSound_iff (is : List (Item Position)) : AllSound is ↔ ∀ i ∈ is, i.Sound := by
  induction is
  case nil => simp [AllSound]
  case cons i is hi => simp [AllSound, hi]

theorem Setup.get_style (s : Setup) (a : Attribute) : s.style.get a = s.setting? a := by
  obtain ⟨target, setting⟩ := s
  unfold style setting?
  split
  case isTrue h =>
    cases h
    rcases target with _ | _ | _ | _ | _ | _ | _ | _ | _ | _ <;> rfl
  case isFalse h =>
    rcases target with _ | _ | _ | _ | _ | _ | _ | _ | _ | _ <;>
      rcases a with _ | _ | _ | _ | _ | _ | _ | _ | _ | _ <;> first | rfl | exact absurd rfl h

theorem get_styleOf (setups : List Setup) (a : Attribute) :
    (styleOf setups).get a = Setting.prevailing (setups.filterMap (·.setting? a)) := by
  have h : styleOf setups = (setups.map Setup.style).foldl Style.merge ∅ := by
    rw [styleOf, List.foldl_map]
  rw [h, Style.get_foldl_merge_empty, List.filterMap_map]
  simp only [Function.comp_def, Setup.get_style]

theorem styleOf_append (s t : List Setup) : styleOf (s ++ t) = (styleOf s).merge (styleOf t) := by
  have h (setups : List Setup) (style : Style) :
      setups.foldl (fun style s => style.merge s.style) style = style.merge (styleOf setups) := by
    have hm := Style.foldl_merge (setups.map Setup.style) style ∅
    rw [Style.merge_empty, List.foldl_map, List.foldl_map] at hm
    exact hm
  rw [styleOf, List.foldl_append, h]
  rfl

theorem declaredAt_append (ops more : List Op) (path : Selector) :
    declaredAt (ops ++ more) path = declaredAt ops path ++ declaredAt more path :=
  List.filterMap_append

theorem statements_eq_mapM (is : List (Item Position)) :
    statements is = is.mapM Item.statement := by
  induction is
  case nil => rfl
  case cons i is hi => rw [statements, hi, List.mapM_cons]

theorem statements_eq_ok {is : List (Item Position)} {sts : List Statement} :
    (statements is).result = .ok sts ↔
      List.Forall₂ (fun i s => i.statement.result = .ok s) is sts := by
  rw [statements_eq_mapM, Logged.mapM_eq_ok]

theorem Item.statement_rule {first : Chain Position} {rest : List (Chain Position)}
    {body : List (Item Position)} {s : Statement} :
    (Item.rule first rest body).statement.result = .ok s ↔
      ∃ selectors sts,
        List.Forall₂ (fun c s => c.selector.result = .ok s) (first :: rest) selectors ∧
        (statements body).result = .ok sts ∧
        s = .rule ⟨selectors, sts.filterMap Statement.setup?, sts.filterMap Statement.rule?⟩ := by
  rw [Item.statement, Logged.bind_eq_ok]
  simp only [Logged.bind_eq_ok, Logged.mapM_eq_ok, Logged.result_pure, Except.ok.injEq,
    List.forall₂_cons_left_iff]
  constructor
  case mp =>
    exact fun ⟨s, hs, ss, hss, sts, hsts, h⟩ => ⟨_, sts, ⟨s, ss, hs, hss, rfl⟩, hsts, h.symm⟩
  case mpr =>
    rintro ⟨_, sts, ⟨s, ss, hs, hss, rfl⟩, hsts, h⟩
    exact ⟨s, hs, ss, hss, sts, hsts, h.symm⟩

theorem Item.statement_declaration {d : Declaration Position} {s : Statement} :
    (Item.declaration d).statement.result = .ok s ↔
      ∃ setup, d.setup.result = .ok setup ∧ s = .setup setup := by
  rw [Item.statement, Logged.bind_eq_ok]
  simp [eq_comm]

theorem filterMap_setup? {body : List (Item Position)} {sts : List Statement}
    (h : (statements body).result = .ok sts) : sts.filterMap Statement.setup? = setups body := by
  rw [statements_eq_ok] at h
  induction h
  case nil => rfl
  case cons i s is sts hs _ hi =>
    cases i
    case declaration d =>
      obtain ⟨setup, hd, he⟩ := Item.statement_declaration.mp hs
      subst he
      simp only [setups, List.filterMap_cons, Statement.setup?, Declaration.setup?,
        Logged.value?_eq_some.mpr hd] at hi ⊢
      rw [hi]
    case rule =>
      obtain ⟨_, _, _, _, he⟩ := Item.statement_rule.mp hs
      subst he
      simp only [setups, List.filterMap_cons, Statement.setup?] at hi ⊢
      rw [hi]

theorem exists_forall₂_iff {α β : Type} {R : α → β → Prop} {l : List α} :
    (∃ bs, List.Forall₂ R l bs) ↔ ∀ a ∈ l, ∃ b, R a b := by
  induction l
  case nil => simp
  case cons a l hi =>
    rw [List.forall_mem_cons, ← hi]
    constructor
    case mp =>
      rintro ⟨_, h⟩
      cases h
      case cons hb hbs => exact ⟨⟨_, hb⟩, _, hbs⟩
    case mpr => exact fun ⟨⟨b, hb⟩, bs, hbs⟩ => ⟨b :: bs, .cons hb hbs⟩

mutual

-- A document fails to compile only where one of its own selectors or declarations is at fault.
theorem Item.statement_ok_iff : (i : Item Position) →
    ((∃ s, i.statement.result = .ok s) ↔ i.Sound)
  | .declaration d => by
    simp only [Item.statement_declaration, Item.Sound]
    exact ⟨fun ⟨_, s, hs, _⟩ => ⟨s, hs⟩, fun ⟨s, hs⟩ => ⟨_, s, hs, rfl⟩⟩
  | .rule first rest body => by
    rw [Item.Sound, ← exists_forall₂_iff, ← statements_ok_iff body]
    simp only [Item.statement_rule]
    exact ⟨fun ⟨_, ss, sts, hss, hsts, _⟩ => ⟨⟨ss, hss⟩, sts, hsts⟩,
      fun ⟨⟨ss, hss⟩, sts, hsts⟩ => ⟨_, ss, sts, hss, hsts, rfl⟩⟩
termination_by structural i => i

theorem statements_ok_iff : (is : List (Item Position)) →
    ((∃ sts, (statements is).result = .ok sts) ↔ AllSound is)
  | [] => by simp [statements, AllSound]
  | i :: is => by
    rw [AllSound, ← Item.statement_ok_iff i, ← statements_ok_iff is]
    simp only [statements_eq_ok]
    constructor
    case mp =>
      rintro ⟨_, h⟩
      cases h
      case cons hs hsts => exact ⟨⟨_, hs⟩, _, hsts⟩
    case mpr => exact fun ⟨⟨s, hs⟩, sts, hsts⟩ => ⟨s :: sts, .cons hs hsts⟩
termination_by structural is => is

end

-- Imports pass every check, so they may stand anywhere between the other items.
theorem result_mapM_check (d : Document Position) :
    (d.mapM TopItem.check).result.map (fun xs =>
      (xs.filterMap Sum.getLeft?, xs.filterMap Sum.getRight?)) =
      (statements d.items).result.map fun sts => (d.imports, sts) := by
  induction d
  case nil => rfl
  case cons i d hi =>
    rw [List.mapM_cons, Logged.result_bind]
    cases i
    case imports t =>
      rw [items_cons_imports, imports_cons_imports]
      cases hd : (List.mapM TopItem.check d).result <;> cases hs : (statements (items d)).result <;>
        simp_all [TopItem.check, Logged.result_map, Except.map, Except.bind, List.filterMap_cons]
    case item i =>
      rw [items_cons_item, imports_cons_item, statements, TopItem.check]
      cases hs : i.statement.result
      case error e => simp [hs, Logged.result_map, Except.map, Except.bind]
      case ok s =>
        cases hd : (List.mapM TopItem.check d).result <;>
          cases hs' : (statements (items d)).result <;>
          simp_all [Logged.result_map, Except.map, Except.bind, List.filterMap_cons]

theorem result_compile (d : Document Position) :
    (compile d).result = (statements d.items).result.map fun sts =>
      ⟨d.imports, sts.foldl Statement.apply ∅⟩ := by
  have h := congrArg (Except.map fun (p : List String × List Statement) =>
    (⟨p.1, p.2.foldl Statement.apply ∅⟩ : Compiled)) (result_mapM_check d)
  rw [compile, Logged.result_bind]
  cases hd : (d.mapM TopItem.check).result <;> cases hs : (statements d.items).result <;>
    simp_all [Except.map, Except.bind]

mutual

theorem Rule.additive : (r : Rule) → Additive r.apply
  | .mk _ setups rules =>
    .foldl fun selector _ =>
      ((applyAll_additive rules).comp (.declare (styleOf setups))).updateAt selector
termination_by structural r => r

theorem applyAll_additive : (rs : List Rule) → Additive (applyAll rs)
  | [] => .id
  | r :: rs => (applyAll_additive rs).comp (Rule.additive r)
termination_by structural rs => rs

end

theorem Statement.additive (s : Statement) : Additive (Statement.apply · s) := by
  cases s
  case setup s => exact .declare s.style
  case rule r => exact r.additive

-- One of the full selectors leads through the place, which may be the outermost one.
def Leads (paths : List Selector) (path : Selector) : Prop :=
  path = [] ∨ ∃ full ∈ paths, path <+: full

theorem leads_append {paths more : List Selector} {path : Selector} :
    Leads (paths ++ more) path ↔ Leads paths path ∨ Leads more path := by
  simp only [Leads, List.mem_append, or_and_right, exists_or]
  exact or_or_distrib_left

theorem leads_map_cons {paths : List Selector} {segment q : Segment} {rest : Selector}
    (hp : paths ≠ []) : Leads (paths.map (segment :: ·)) (q :: rest) ↔
      q = segment ∧ Leads paths rest := by
  have ⟨full, hf⟩ := List.exists_mem_of_ne_nil paths hp
  simp only [Leads, List.mem_map, reduceCtorEq, false_or, exists_exists_and_eq_and,
    List.cons_prefix_cons]
  constructor
  case mp => exact fun ⟨full, hm, hq, hr⟩ => ⟨hq, .inr ⟨full, hm, hr⟩⟩
  case mpr =>
    rintro ⟨hq, rfl | ⟨full, hm, hr⟩⟩
    · exact ⟨full, hf, hq, List.nil_prefix⟩
    · exact ⟨full, hm, hq, hr⟩

theorem declaredAt_map_cons (ops : List Op) (segment : Segment) (rest : Selector) :
    declaredAt (ops.map fun op => (segment :: op.1, op.2)) (segment :: rest) =
      declaredAt ops rest := by
  simp [declaredAt, List.filterMap_map]

-- A sheet is what flat declarations make of it: there is a scope where a full selector leads
-- through, and its style is the cascade of what is declared for the place.
structure Laid (s : Sheet) (paths : List Selector) (ops : List Op) : Prop where
  ordered : s.Ordered
  within : ∀ op ∈ ops, Leads paths op.1
  some : ∀ path, Leads paths path → s.styleAt path = some (styleOf (declaredAt ops path))
  none : ∀ path, ¬Leads paths path → s.styleAt path = none

namespace Laid

variable {s t : Sheet} {paths more : List Selector} {ops ops' : List Op} {path : Selector}

theorem empty : Laid ∅ [] [] := by
  refine ⟨.empty, by simp, fun path h => ?_, fun path h => ?_⟩
  case refine_1 =>
    have : path = [] := by simpa [Leads] using h
    rw [this]
    rfl
  case refine_2 =>
    cases path
    case nil => exact absurd (.inl rfl) h
    case cons => rfl

theorem declare (setups : List Setup) :
    Laid ((∅ : Sheet).declare (styleOf setups)) [] (setups.map (([], ·))) := by
  have hd : declaredAt (setups.map (([], ·))) [] = setups := by
    simp [declaredAt, List.filterMap_map]
  refine ⟨Sheet.Ordered.empty.declare _, by simp [Leads], fun path h => ?_, fun path h => ?_⟩
  case refine_1 =>
    have : path = [] := by simpa [Leads] using h
    rw [this, hd]
    exact congrArg Option.some (Style.empty_merge _)
  case refine_2 =>
    cases path
    case nil => exact absurd (.inl rfl) h
    case cons => rfl

theorem declaredAt_eq_nil (h : Laid s paths ops) (hp : ¬Leads paths path) :
    declaredAt ops path = [] := by
  refine List.filterMap_eq_nil_iff.mpr fun op hm => if_neg fun he => hp ?_
  exact he ▸ h.within op hm

theorem merge (hs : Laid s paths ops) (ht : Laid t more ops') :
    Laid (s.merge t) (paths ++ more) (ops ++ ops') := by
  refine ⟨hs.ordered.merge ht.ordered, fun op hm => ?_, fun path h => ?_, fun path h => ?_⟩
  case refine_1 =>
    rw [leads_append]
    exact (List.mem_append.mp hm).imp (hs.within op) (ht.within op)
  case refine_2 =>
    rw [Sheet.styleAt_merge hs.ordered ht.ordered, declaredAt_append, styleOf_append]
    -- Where only one of the two has a scope, the other one declares nothing.
    by_cases hp : Leads paths path <;> by_cases hq : Leads more path
    · simp [hs.some path hp, ht.some path hq]
    · simp [hs.some path hp, ht.none path hq, ht.declaredAt_eq_nil hq, styleOf]
    · simp [hs.none path hp, ht.some path hq, hs.declaredAt_eq_nil hp, styleOf]
    · exact absurd (leads_append.mp h) (by simp [hp, hq])
  case refine_3 =>
    rw [leads_append, not_or] at h
    simp [Sheet.styleAt_merge hs.ordered ht.ordered, hs.none path h.left, ht.none path h.right]

theorem nest (h : Laid s paths ops) (hp : paths ≠ []) (segment : Segment) :
    Laid (.node ∅ [(segment, s)]) (paths.map (segment :: ·))
      (ops.map fun op => (segment :: op.1, op.2)) := by
  have hat (q : Segment) (rest : Selector) : Sheet.styleAt (.node ∅ [(segment, s)]) (q :: rest) =
      if q = segment then s.styleAt rest else .none := by
    rw [Sheet.styleAt_cons, Sheet.scopes, Sheet.Scopes.get?_cons]
    split <;> rfl
  refine ⟨.node (List.pairwise_singleton _ _) (by simpa using h.ordered), ?_, fun path hl => ?_,
    fun path hl => ?_⟩
  case refine_1 =>
    simp only [List.mem_map, forall_exists_index, and_imp]
    rintro _ op hm rfl
    exact (leads_map_cons hp).mpr ⟨rfl, h.within op hm⟩
  case refine_2 =>
    cases path
    case nil =>
      have hd : declaredAt (ops.map fun op => (segment :: op.1, op.2)) [] = [] := by
        simp [declaredAt, List.filterMap_map]
      rw [hd]
      rfl
    case cons q rest =>
      obtain ⟨hq, hr⟩ := (leads_map_cons hp).mp hl
      rw [hat, if_pos hq, h.some rest hr, hq, declaredAt_map_cons]
  case refine_3 =>
    cases path
    case nil => exact absurd (.inl rfl) hl
    case cons q rest =>
      rw [hat]
      split
      case isTrue hq => exact h.none rest fun hr => hl <| (leads_map_cons hp).mpr ⟨hq, hr⟩
      case isFalse => rfl

theorem updateAt {f : Sheet → Sheet} (h : Laid (f ∅) paths ops) (selector : Selector) :
    Laid (Sheet.updateAt selector f ∅) (selector :: paths.map (selector ++ ·))
      (ops.map fun op => (selector ++ op.1, op.2)) := by
  induction selector
  case nil =>
    have hl (path : Selector) : Leads ([] :: paths) path ↔ Leads paths path := by simp [Leads]
    simp only [List.nil_append, List.map_id']
    exact ⟨h.ordered, fun op hm => (hl _).mpr (h.within op hm),
      fun path hp => h.some path ((hl _).mp hp), fun path hp => h.none path (mt (hl _).mpr hp)⟩
  case cons segment rest hi =>
    have hn := hi.nest (List.cons_ne_nil _ _) segment
    simp only [List.map_cons, List.map_map, Function.comp_def] at hn
    exact hn

-- Changes that merge something into a sheet lay out one after the other.
theorem foldl {α : Type} {f : Sheet → α → Sheet} {l : List α} {p : α → List Selector}
    {o : α → List Op} (add : ∀ a ∈ l, Additive (f · a)) (h : ∀ a ∈ l, Laid (f ∅ a) (p a) (o a)) :
    Laid (l.foldl f ∅) (l.flatMap p) (l.flatMap o) := by
  induction l
  case nil => exact .empty
  case cons a l hi =>
    have ⟨_, hadd⟩ := List.forall_mem_cons.mp add
    have ⟨ha, hl⟩ := List.forall_mem_cons.mp h
    rw [List.foldl_cons, (Additive.foldl hadd).eq_merge ha.ordered]
    exact ha.merge (hi hadd hl)

theorem exists_at?_iff (h : Laid s paths ops) :
    (∃ t, s.at? path = .some t) ↔ Leads paths path := by
  rw [← Option.isSome_iff_exists, ← Option.isSome_map (f := Sheet.style)]
  show (s.styleAt path).isSome ↔ _
  by_cases hp : Leads paths path
  case pos => simp [h.some path hp, hp]
  case neg => simp [h.none path hp, hp]

theorem get_of_at? (h : Laid s paths ops) (ht : s.at? path = .some t) (a : Attribute) :
    t.style.get a = Setting.prevailing ((declaredAt ops path).filterMap (·.setting? a)) := by
  have hs := h.some path (h.exists_at?_iff.mp ⟨t, ht⟩)
  rw [Sheet.styleAt, ht] at hs
  rw [← get_styleOf, ← Option.some.inj hs]

theorem ext (hs : Laid s paths ops) (ht : Laid t more ops')
    (hp : ∀ full, full ∈ paths ↔ full ∈ more)
    (hd : ∀ path, declaredAt ops path = declaredAt ops' path) : s = t := by
  refine hs.ordered.ext ht.ordered fun path => ?_
  have hl : Leads paths path ↔ Leads more path := by simp only [Leads, hp]
  by_cases hm : Leads more path
  case pos => rw [hs.some path (hl.mpr hm), ht.some path hm, hd]
  case neg => rw [hs.none path (mt hl.mp hm), ht.none path hm]

end Laid

mutual

theorem Item.paths_eq_map : (i : Item Position) → (before : Selector) →
    i.paths before = (i.paths []).map (before ++ ·)
  | .declaration _, _ => rfl
  | .rule first rest body, before => by
    simp only [Item.paths, List.map_flatMap, List.nil_append, List.map_cons]
    congr
    funext s
    rw [bodyPaths_eq_map body (before ++ s), bodyPaths_eq_map body s, List.map_map]
    simp [Function.comp_def]
termination_by structural i => i

theorem bodyPaths_eq_map : (is : List (Item Position)) → (before : Selector) →
    bodyPaths is before = (bodyPaths is []).map (before ++ ·)
  | [], _ => rfl
  | i :: is, before => by
    rw [bodyPaths, bodyPaths, List.map_append, ← Item.paths_eq_map i, ← bodyPaths_eq_map is]
termination_by structural is => is

end

mutual

theorem Item.ruleOps_eq_map : (i : Item Position) → (before : Selector) →
    i.ruleOps before = (i.ruleOps []).map fun op => (before ++ op.1, op.2)
  | .declaration _, _ => rfl
  | .rule first rest body, before => by
    simp only [Item.ruleOps, List.map_flatMap, List.nil_append, List.map_append, List.map_map]
    congr
    funext s
    rw [bodyOps_eq_map body (before ++ s), bodyOps_eq_map body s, List.map_map]
    simp [Function.comp_def]
termination_by structural i => i

theorem bodyOps_eq_map : (is : List (Item Position)) → (before : Selector) →
    bodyOps is before = (bodyOps is []).map fun op => (before ++ op.1, op.2)
  | [], _ => rfl
  | i :: is, before => by
    rw [bodyOps, bodyOps, List.map_append, ← Item.ruleOps_eq_map i, ← bodyOps_eq_map is]
termination_by structural is => is

end

mutual

-- A rule makes of the empty sheet what it is when laid out flat.
theorem Item.laid_rule : (i : Item Position) → (r : Rule) → i.statement.result = .ok (.rule r) →
    Laid (r.apply ∅) (i.paths []) (i.ruleOps [])
  | .declaration d, r, h => by
    have ⟨_, _, he⟩ := Item.statement_declaration.mp h
    cases he
  | .rule first rest body, r, h => by
    have ⟨selectors, sts, hs, hsts, he⟩ := Item.statement_rule.mp h
    cases he
    have hadd := applyAll_additive (sts.filterMap Statement.rule?)
    have hb : Laid (applyAll (sts.filterMap Statement.rule?)
        ((∅ : Sheet).declare (styleOf (setups body)))) (bodyPaths body [])
        ((setups body).map (([], ·)) ++ bodyOps body []) := by
      rw [hadd.eq_merge (Sheet.Ordered.empty.declare _)]
      exact (Laid.declare (setups body)).merge (laid_body body sts hsts)
    have hsel : (first :: rest).filterMap Chain.selector? = selectors :=
      Logged.filterMap_eq_of_forall₂ hs
    rw [Item.paths, Item.ruleOps, hsel, filterMap_setup? hsts]
    refine Laid.foldl (fun s _ => ((hadd.comp (.declare _)).updateAt s)) fun s _ => ?_
    have hu := Laid.updateAt (f := fun t => applyAll (sts.filterMap Statement.rule?)
      (t.declare (styleOf (setups body)))) hb s
    rw [List.nil_append, bodyPaths_eq_map, bodyOps_eq_map]
    simpa [Function.comp_def] using hu
termination_by structural i => i

theorem laid_body : (is : List (Item Position)) → (sts : List Statement) →
    (statements is).result = .ok sts →
    Laid (applyAll (sts.filterMap Statement.rule?) ∅) (bodyPaths is []) (bodyOps is [])
  | [], sts, h => by
    cases statements_eq_ok.mp h
    exact .empty
  | i :: is, sts, h => by
    cases statements_eq_ok.mp h
    case cons s sts hs hsts =>
      have hb := laid_body is sts (statements_eq_ok.mpr hsts)
      cases s
      case setup =>
        cases i
        case declaration => exact hb
        case rule =>
          have ⟨_, _, _, _, he⟩ := Item.statement_rule.mp hs
          cases he
      case rule r =>
        have hr := Item.laid_rule i r hs
        have hadd := applyAll_additive (sts.filterMap Statement.rule?)
        rw [bodyPaths, bodyOps, List.filterMap_cons]
        show Laid (applyAll (sts.filterMap Statement.rule?) (r.apply ∅)) _ _
        rw [hadd.eq_merge hr.ordered]
        exact hr.merge hb
termination_by structural is => is

end

-- A document of the given items laid out flat.
def flatten (is : List (Item Position)) : List Op :=
  is.flatMap Item.ops

-- The full selectors of all rules of a document.
def paths (is : List (Item Position)) : List Selector :=
  bodyPaths is []

theorem laid_compiled {is : List (Item Position)} {sts : List Statement}
    (h : (statements is).result = .ok sts) :
    Laid (sts.foldl Statement.apply ∅) (paths is) (flatten is) := by
  rw [statements_eq_ok] at h
  induction h
  case nil => exact .empty
  case cons i s is sts hs hsts hi =>
    have hadd : Additive (List.foldl Statement.apply · sts) := .foldl fun s _ => s.additive
    have hlaid : Laid (Statement.apply ∅ s) (i.paths []) i.ops := by
      cases i
      case declaration d =>
        have ⟨setup, hd, he⟩ := Item.statement_declaration.mp hs
        subst he
        have ho : (Item.declaration d).ops = [([], setup)] := by
          simp [Item.ops, Declaration.setup?, Logged.value?_eq_some.mpr hd]
        have hstyle : styleOf [setup] = setup.style := Style.empty_merge _
        have hl := Laid.declare [setup]
        rw [hstyle] at hl
        rw [ho]
        exact hl
      case rule =>
        have ⟨_, _, _, _, he⟩ := Item.statement_rule.mp hs
        subst he
        exact Item.laid_rule _ _ hs
    rw [List.foldl_cons, hadd.eq_merge hlaid.ordered]
    exact hlaid.merge hi

theorem laid_of_compile {is : List (Item Position)} {c : Compiled}
    (h : (compile (is.map .item)).result = .ok c) :
    c.imports = [] ∧ Laid c.sheet (paths is) (flatten is) := by
  rw [result_compile, items_map_item, imports_map_item] at h
  cases hs : (statements is).result <;> rw [hs] at h <;> cases h
  exact ⟨rfl, laid_compiled hs⟩

-- A document without imports compiles if its selectors and declarations are in order. The sheet has
-- a scope at every beginning of a full selector and nowhere else. The style there sets an attribute
-- to the last important setting that is declared for the selector, or else to the last one. So two
-- documents with the same full selectors, and the same declarations for each of them in the same
-- order, compile to one sheet.
theorem compile_flatten (is : List (Item Position)) :
    ((∃ c, (compile (is.map .item)).result = .ok c) ↔ ∀ i ∈ is, i.Sound) ∧
    ∀ c, (compile (is.map .item)).result = .ok c →
      c.imports = [] ∧
      (∀ path, (∃ t, c.sheet.at? path = some t) ↔
        path = [] ∨ ∃ full ∈ paths is, path <+: full) ∧
      (∀ path t, c.sheet.at? path = some t → ∀ a, t.style.get a =
        Setting.prevailing ((declaredAt (flatten is) path).filterMap (·.setting? a))) ∧
      ∀ is' c', (compile (is'.map .item)).result = .ok c' →
        (∀ full, full ∈ paths is ↔ full ∈ paths is') →
        (∀ path, declaredAt (flatten is) path = declaredAt (flatten is') path) →
        c.sheet = c'.sheet ∧ c.sheet.walk = c'.sheet.walk ∧
          ∀ history trail token,
            c.sheet.resolve history trail token = c'.sheet.resolve history trail token := by
  refine ⟨?_, fun c h => ?_⟩
  case refine_1 =>
    rw [← allSound_iff, ← statements_ok_iff, result_compile, items_map_item]
    cases (statements is).result <;> simp [Except.map]
  case refine_2 =>
    have ⟨hi, hl⟩ := laid_of_compile h
    refine ⟨hi, fun path => hl.exists_at?_iff, fun path t ht => hl.get_of_at? ht, ?_⟩
    intro is' c' h' hp hd
    have he := hl.ext (laid_of_compile h').right hp hd
    exact ⟨he, by rw [he], fun _ _ _ => by rw [he]⟩

-- Rules for two selectors at once, with a rule nested in them and a later rule for one of the two.
def nested : List (Item Position) := [
  .rule ⟨.kind none "call", []⟩ [⟨.kind none "word", []⟩] [
    .declaration ⟨.start, "bold", .start, .name "true", true⟩,
    .rule ⟨.kind none "name", []⟩ [] [.declaration ⟨.start, "dim", .start, .name "true", false⟩]],
  .rule ⟨.kind none "call", []⟩ [] [.declaration ⟨.start, "bold", .start, .name "false", false⟩]]

-- The same without nesting, in another order.
def spelledOut : List (Item Position) := [
  .rule ⟨.kind none "word", [.kind none "name"]⟩ [⟨.kind none "call", [.kind none "name"]⟩] [
    .declaration ⟨.start, "dim", .start, .name "true", false⟩],
  .rule ⟨.kind none "word", []⟩ [] [.declaration ⟨.start, "bold", .start, .name "true", true⟩],
  .rule ⟨.kind none "call", []⟩ [] [
    .declaration ⟨.start, "bold", .start, .name "true", true⟩,
    .declaration ⟨.start, "bold", .start, .name "false", false⟩]]

theorem compile_flatten_spelledOut : ∃ c c', (compile (nested.map .item)).result = .ok c ∧
    (compile (spelledOut.map .item)).result = .ok c' ∧ c.sheet = c'.sheet ∧
    ∀ t, c.sheet.at? [.kind "call"] = some t → t.style.get (.effect .bold) = some ⟨true, true⟩ := by
  refine ⟨_, _, rfl, rfl, ?_⟩
  have ⟨_, _, hget, hsame⟩ := (compile_flatten nested).right _ rfl
  refine ⟨(hsame spelledOut _ rfl ?_ ?_).left, fun t ht => (hget _ t ht _).trans rfl⟩
  case refine_1 =>
    show ∀ full, full ∈ [[Segment.kind "call"], [.kind "call", .kind "name"], [.kind "word"],
      [.kind "word", .kind "name"], [.kind "call"]] ↔
      full ∈ [[Segment.kind "word", .kind "name"], [.kind "call", .kind "name"], [.kind "word"],
        [.kind "call"]]
    simp only [List.mem_cons]
    grind
  case refine_2 =>
    intro path
    have hn : flatten nested = [
      ([.kind "call"], ⟨.effect .bold, ⟨true, true⟩⟩),
      ([.kind "call", .kind "name"], ⟨.effect .dim, ⟨true, false⟩⟩),
      ([.kind "word"], ⟨.effect .bold, ⟨true, true⟩⟩),
      ([.kind "word", .kind "name"], ⟨.effect .dim, ⟨true, false⟩⟩),
      ([.kind "call"], ⟨.effect .bold, ⟨false, false⟩⟩)] := rfl
    have hs : flatten spelledOut = [
      ([.kind "word", .kind "name"], ⟨.effect .dim, ⟨true, false⟩⟩),
      ([.kind "call", .kind "name"], ⟨.effect .dim, ⟨true, false⟩⟩),
      ([.kind "word"], ⟨.effect .bold, ⟨true, true⟩⟩),
      ([.kind "call"], ⟨.effect .bold, ⟨true, true⟩⟩),
      ([.kind "call"], ⟨.effect .bold, ⟨false, false⟩⟩)] := rfl
    rw [hn, hs]
    by_cases hp : path ∈ [[Segment.kind "call"], [.kind "call", .kind "name"], [.kind "word"],
      [.kind "word", .kind "name"]]
    case pos =>
      simp only [List.mem_cons, List.not_mem_nil, or_false] at hp
      rcases hp with rfl | rfl | rfl | rfl <;> rfl
    case neg =>
      simp only [List.mem_cons, List.not_mem_nil, or_false, not_or, ← ne_eq] at hp
      simp [declaredAt, hp.1.symm, hp.2.1.symm, hp.2.2.1.symm, hp.2.2.2.symm]

end Document

end Highlight
