import Highlight.Proofs.Wording

namespace Highlight

open Document (Chain Item Declaration Setup Statement Op)

theorem Setting.eq_some_of_cascade {α : Type} {earlier later : Option (Setting α)} {v : Setting α}
    (h : cascade earlier later = some v) : earlier = some v ∨ later = some v := by
  cases earlier <;> cases later
  case none.none => cases h
  case none.some | some.none => simpa using h
  case some.some e l =>
    rw [cascade] at h
    split at h <;> simp [h]

-- A word that stands in some text.
def Lexeme.Scanned (l : Lexeme) : Prop :=
  ∃ v cs, first? v (l.text.toList ++ cs) = some (l, l.text.length)

theorem Spells.scanned {v : Bool} {cs : List Char} {ls : List Lexeme} (h : Spells v cs ls) :
    ∀ l ∈ ls, l.Scanned := by
  induction h
  case nil => simp
  case blank hi => exact hi
  case comment hi => exact hi
  case word v l cs ls hf _ hi => exact List.forall_mem_cons.mpr ⟨⟨v, cs, hf⟩, hi⟩

namespace Document

-- The words of a text write the segment out.
def Written (s : Segment) : Prop :=
  ∃ p : Part Position, p.segment.result = .ok s ∧ ∀ l ∈ p.lexemes, l.Scanned

-- A declaration that passes its check makes the setting.
def Setup.Checked (s : Setup) : Prop :=
  ∃ d : Declaration Position, d.setup.result = .ok s

theorem segments_eq_mapM (ps : List (Part Position)) : segments ps = ps.mapM Part.segment := by
  induction ps
  case nil => rfl
  case cons p ps hi => rw [segments, hi, List.mapM_cons]

theorem segments_eq_ok {ps : List (Part Position)} {ss : List Segment} :
    (segments ps).result = .ok ss ↔
      List.Forall₂ (fun p s => p.segment.result = .ok s) ps ss := by
  rw [segments_eq_mapM, Logged.mapM_eq_ok]

theorem Chain.selector_eq_ok {c : Chain Position} {selector : Selector} :
    c.selector.result = .ok selector ↔
      List.Forall₂ (fun p s => p.segment.result = .ok s) (c.first :: c.rest) selector := by
  rw [← segments_eq_ok]
  rfl

theorem partsLexemes_eq_flatMap (ps : List (Part Position)) :
    partsLexemes ps = ps.flatMap Part.lexemes := by
  induction ps
  case nil => rfl
  case cons p ps hi => rw [partsLexemes, hi, List.flatMap_cons]

theorem itemsLexemes_eq_flatMap (is : List (Item Position)) :
    itemsLexemes is = is.flatMap Item.lexemes := by
  induction is
  case nil => rfl
  case cons i is hi => rw [itemsLexemes, hi, List.flatMap_cons]

theorem written_of_parts {ps : List (Part Position)} {ss : List Segment}
    (h : List.Forall₂ (fun p s => p.segment.result = .ok s) ps ss)
    (hl : ∀ l ∈ partsLexemes ps, l.Scanned) : ∀ s ∈ ss, Written s := by
  intro s hs
  have ⟨p, hp, he⟩ := Sheet.exists_of_forall₂ h hs
  refine ⟨p, he, fun l hm => hl l ?_⟩
  rw [partsLexemes_eq_flatMap]
  exact List.mem_flatMap_of_mem hp hm

theorem Chain.written {c : Chain Position} {selector : Selector}
    (h : c.selector? = some selector) (hl : ∀ l ∈ c.lexemes, l.Scanned) :
    ∀ s ∈ selector, Written s :=
  written_of_parts (selector_eq_ok.mp (Logged.value?_eq_some.mp h)) hl

mutual

theorem Item.paths_written : (i : Item Position) → (before : Selector) →
    (∀ l ∈ i.lexemes, l.Scanned) → (∀ s ∈ before, Written s) →
    ∀ full ∈ i.paths before, ∀ s ∈ full, Written s
  | .declaration _, _, _, _ => by simp [Item.paths]
  | .rule first rest body, before, hl, hb => by
    intro full hf
    rw [Item.paths] at hf
    have ⟨selector, hs, hf⟩ := List.mem_flatMap.mp hf
    have ⟨c, hc, hcs⟩ := List.mem_filterMap.mp hs
    have hw : ∀ s ∈ before ++ selector, Written s := by
      refine List.forall_mem_append.mpr ⟨hb, c.written hcs fun l hm => hl l ?_⟩
      rw [Item.lexemes]
      cases hc
      case head => simp [hm]
      case tail hc =>
        refine List.mem_append_left _ (List.mem_append_right _ ?_)
        exact List.mem_flatMap.mpr ⟨c, hc, List.mem_cons_of_mem _ hm⟩
    cases hf
    case head => exact hw
    case tail hf =>
      refine bodyPaths_written body (before ++ selector) (fun l hm => hl l ?_) hw full hf
      simp [Item.lexemes, hm]
termination_by structural i => i

theorem bodyPaths_written : (is : List (Item Position)) → (before : Selector) →
    (∀ l ∈ itemsLexemes is, l.Scanned) → (∀ s ∈ before, Written s) →
    ∀ full ∈ bodyPaths is before, ∀ s ∈ full, Written s
  | [], _, _, _ => by simp [bodyPaths]
  | i :: is, before, hl, hb => by
    have ⟨hi, his⟩ := List.forall_mem_append.mp hl
    exact List.forall_mem_append.mpr
      ⟨i.paths_written before hi hb, bodyPaths_written is before his hb⟩
termination_by structural is => is

end

theorem setups_checked (body : List (Item Position)) : ∀ s ∈ setups body, s.Checked := by
  intro s hs
  obtain ⟨i, -, hi⟩ := List.mem_filterMap.mp hs
  cases i
  case declaration d => exact ⟨d, Logged.value?_eq_some.mp hi⟩
  case rule => cases hi

mutual

theorem Item.ruleOps_checked : (i : Item Position) → (before : Selector) →
    ∀ op ∈ i.ruleOps before, op.2.Checked
  | .declaration _, _ => by simp [Item.ruleOps]
  | .rule first rest body, before => by
    intro op ho
    rw [Item.ruleOps] at ho
    have ⟨selector, _, ho⟩ := List.mem_flatMap.mp ho
    cases List.mem_append.mp ho
    case inl ho =>
      have ⟨s, hs, he⟩ := List.mem_map.mp ho
      exact he ▸ setups_checked body s hs
    case inr ho => exact bodyOps_checked body (before ++ selector) op ho
termination_by structural i => i

theorem bodyOps_checked : (is : List (Item Position)) → (before : Selector) →
    ∀ op ∈ bodyOps is before, op.2.Checked
  | [], _ => by simp [bodyOps]
  | i :: is, before =>
    List.forall_mem_append.mpr ⟨i.ruleOps_checked before, bodyOps_checked is before⟩
termination_by structural is => is

end

theorem flatten_checked (is : List (Item Position)) : ∀ op ∈ flatten is, op.2.Checked := by
  intro op ho
  obtain ⟨i, -, ho⟩ := List.mem_flatMap.mp ho
  cases i
  case rule => exact Item.ruleOps_checked _ [] op ho
  case declaration d =>
    have ⟨s, hs, he⟩ := Option.map_eq_some_iff.mp (Option.mem_toList.mp ho)
    exact he ▸ ⟨d, Logged.value?_eq_some.mp hs⟩

theorem Setup.eq_of_setting? {s : Setup} {a : Attribute} {v : Setting a.Value}
    (h : s.setting? a = some v) : s = ⟨a, v⟩ := by
  obtain ⟨target, setting⟩ := s
  rw [setting?] at h
  split at h
  case isTrue ht =>
    cases ht
    cases h
    rfl
  case isFalse => cases h

end Document

namespace Style

-- Every setting is made by a declaration that passes its check.
def Checked (style : Style) : Prop :=
  ∀ a v, style.get a = some v → Setup.Checked ⟨a, v⟩

theorem Checked.styleOf {setups : List Setup} (h : ∀ s ∈ setups, s.Checked) :
    (Document.styleOf setups).Checked := by
  intro a v hv
  rw [Document.get_styleOf, Setting.prevailing, Option.or_eq_some_iff] at hv
  have hm : v ∈ setups.filterMap (·.setting? a) := by
    cases hv
    case inl hv => exact (List.mem_filter.mp (List.mem_of_getLast? hv)).left
    case inr hv => exact List.mem_of_getLast? hv.right
  obtain ⟨s, hs, he⟩ := List.mem_filterMap.mp hm
  exact s.eq_of_setting? he ▸ h s hs

theorem Checked.merge {s t : Style} (hs : s.Checked) (ht : t.Checked) : (s.merge t).Checked := by
  intro a v hv
  rw [get_merge] at hv
  obtain hv | hv := Setting.eq_some_of_cascade hv
  · exact hs a v hv
  · exact ht a v hv

end Style

namespace Document

theorem items_scanned {d : Document Position} (h : ∀ l ∈ d.lexemes, l.Scanned) :
    ∀ l ∈ itemsLexemes d.items, l.Scanned := by
  intro l hl
  rw [itemsLexemes_eq_flatMap] at hl
  have ⟨i, hi, hl⟩ := List.mem_flatMap.mp hl
  have ⟨top, ht, he⟩ := List.mem_filterMap.mp hi
  refine h l (List.mem_flatMap.mpr ⟨top, ht, ?_⟩)
  cases top
  case imports => cases he
  case item => cases he; exact hl

end Document

open Document (Written)

namespace Files

variable {fs : Files} {place base : Location} {names : List String}
  {own is : List (Item Position)} {d : Document Position}

theorem Holds.scanned (h : fs.Holds place d) : ∀ l ∈ d.lexemes, l.Scanned := by
  have ⟨_, _, hp⟩ := h
  exact (Document.spells_of_parse hp).scanned

theorem Expands.scanned (h : fs.Expands base names own is)
    (ho : ∀ l ∈ Document.itemsLexemes own, l.Scanned) :
    ∀ l ∈ Document.itemsLexemes is, l.Scanned := by
  induction h
  case own => exact ho
  case imported hd _ _ hi hr =>
    rw [Document.itemsLexemes_eq_flatMap, List.flatMap_append, List.forall_mem_append,
      ← Document.itemsLexemes_eq_flatMap, ← Document.itemsLexemes_eq_flatMap]
    exact ⟨hi (Document.items_scanned hd.scanned), hr ho⟩

end Files

namespace Sheet

variable {fs : Files} {s t : Sheet}

theorem Scopes.Sorted.get?_of_mem {scopes : Scopes} {segment : Segment} (h : scopes.Sorted)
    (hm : (segment, t) ∈ scopes) : Scopes.get? segment scopes = some t := by
  induction scopes
  case nil => cases hm
  case cons scope rest hi =>
    have ⟨hlt, hr⟩ := List.pairwise_cons.mp h
    rw [get?_cons]
    cases hm
    case head => exact if_pos rfl
    case tail hm =>
      have hn : segment ≠ scope.1 := by
        intro he
        have := hlt _ hm
        simp [he, Segment.cmp_self] at this
      rw [if_neg hn, hi hr hm]

mutual

-- The places that a sheet is walked through are the places where it has a style.
theorem at?_of_mem_walkFrom : (s : Sheet) → s.Ordered → (before : Selector) →
    ∀ entry ∈ s.walkFrom before, ∃ path, entry.1 = before ++ path ∧ s.at? path = some entry.2
  | .node style scopes, .node sorted nested, before => by
    rw [walkFrom, List.forall_mem_cons]
    refine ⟨⟨[], by simp, rfl⟩, fun entry hm => ?_⟩
    have ⟨scope, hs, path, hp, ht⟩ := at?_of_mem_walkScopes scopes nested before entry hm
    refine ⟨scope.1 :: path, hp, ?_⟩
    rw [at?, Sheet.scopes, sorted.get?_of_mem hs]
    exact ht
termination_by structural s => s

theorem at?_of_mem_walkScopes : (scopes : List (Segment × Sheet)) →
    (∀ scope ∈ scopes, scope.2.Ordered) → (before : Selector) →
    ∀ entry ∈ walkScopes before scopes, ∃ scope ∈ scopes, ∃ path,
      entry.1 = before ++ scope.1 :: path ∧ scope.2.at? path = some entry.2
  | [], _, _ => by simp [walkScopes]
  | (segment, sheet) :: rest, nested, before => by
    have ⟨hn, hns⟩ := List.forall_mem_cons.mp nested
    rw [walkScopes, List.forall_mem_append]
    refine ⟨fun entry hm => ?_, fun entry hm => ?_⟩
    case refine_1 =>
      have ⟨path, hp, ht⟩ := at?_of_mem_walkFrom sheet hn (before ++ [segment]) entry hm
      exact ⟨(segment, sheet), List.mem_cons_self, path, by simpa using hp, ht⟩
    case refine_2 =>
      have ⟨scope, hs, h⟩ := at?_of_mem_walkScopes rest hns before entry hm
      exact ⟨scope, List.mem_cons_of_mem _ hs, h⟩
termination_by structural scopes => scopes

end

theorem at?_append (s : Sheet) (path more : Selector) :
    s.at? (path ++ more) = (s.at? path).bind (·.at? more) := by
  induction path generalizing s
  case nil => rfl
  case cons segment path hi => simp only [List.cons_append, at?, hi, Option.bind_assoc]

theorem walkFrom_eq (s : Sheet) (before : Selector) :
    s.walkFrom before = (before, s) :: walkScopes before s.scopes := by
  cases s
  rfl

theorem mem_walkScopes {scopes : Scopes} {scope : Segment × Sheet} (hs : scope ∈ scopes)
    {before : Selector} {entry : Selector × Sheet}
    (hm : entry ∈ scope.2.walkFrom (before ++ [scope.1])) : entry ∈ walkScopes before scopes := by
  induction scopes
  case nil => cases hs
  case cons first rest hi =>
    rw [walkScopes, List.mem_append]
    cases hs
    case head    => exact .inl hm
    case tail hs => exact .inr (hi hs)

theorem mem_walkFrom_of_at? {path : Selector} (h : s.at? path = some t) (before : Selector) :
    (before ++ path, t) ∈ s.walkFrom before := by
  induction path generalizing s before
  case nil =>
    cases h
    simp [walkFrom_eq]
  case cons segment path hi =>
    have ⟨e, he, hd⟩ := Option.bind_eq_some_iff.mp h
    have := hi hd (before ++ [segment])
    rw [walkFrom_eq]
    refine List.mem_cons_of_mem _ (mem_walkScopes (Scopes.mem_of_get? he) ?_)
    simpa using this

-- What stands above a scope of a sheet is a scope of it as well.
theorem exists_mem_walk_of_append (h : s.Ordered) {path more : Selector}
    (hm : (path ++ more, t) ∈ s.walk) : ∃ e, (path, e) ∈ s.walk := by
  have ⟨full, he, hf⟩ := at?_of_mem_walkFrom s h [] _ hm
  obtain rfl : path ++ more = full := he
  rw [at?_append] at hf
  have ⟨e, hp, _⟩ := Option.bind_eq_some_iff.mp hf
  exact ⟨e, mem_walkFrom_of_at? hp []⟩

theorem styleAt_of_mem_walk (h : s.Ordered) {entry : Selector × Sheet} (hm : entry ∈ s.walk) :
    s.styleAt entry.1 = some entry.2.style := by
  have ⟨path, hp, ht⟩ := at?_of_mem_walkFrom s h [] entry hm
  rw [hp, List.nil_append, styleAt, ht]
  rfl

-- A sheet whose contents have all been written somewhere.
structure Traced (s : Sheet) : Prop where
  ordered : s.Ordered
  contents : ∀ path style, s.styleAt path = some style →
    (∀ segment ∈ path, Written segment) ∧ style.Checked

namespace Traced

theorem compiled {is : List (Item Position)} {sts : List Statement}
    (h : (Document.statements is).result = .ok sts)
    (hl : ∀ l ∈ Document.itemsLexemes is, l.Scanned) :
    Traced (sts.foldl Statement.apply ∅) := by
  have laid := Document.laid_compiled h
  refine ⟨laid.ordered, fun path style hs => ?_⟩
  have leads : Document.Leads (Document.paths is) path := by
    by_contra hn
    cases (laid.none path hn).symm.trans hs
  constructor
  case left =>
    obtain rfl | ⟨full, hf, hp⟩ := leads
    · simp
    · have hw := Document.bodyPaths_written is [] hl (by simp) full hf
      exact fun segment hm => hw segment (hp.subset hm)
  case right =>
    cases (laid.some path leads).symm.trans hs
    refine .styleOf fun s hm => ?_
    have ⟨op, ho, he⟩ := List.mem_filterMap.mp hm
    split at he
    case isTrue => cases he; exact Document.flatten_checked is op ho
    case isFalse => cases he

theorem empty : Traced ∅ := by
  have h : (Document.statements []).result = .ok [] := rfl
  exact compiled h (by simp [Document.itemsLexemes])

theorem merge (hs : s.Traced) (ht : t.Traced) : (s.merge t).Traced := by
  refine ⟨hs.ordered.merge ht.ordered, fun path style h => ?_⟩
  rw [styleAt_merge hs.ordered ht.ordered] at h
  -- A place that both have is written for either of them.
  cases hu : s.styleAt path <;> cases hw : t.styleAt path <;> rw [hu, hw] at h <;> cases h
  case some.none => exact hs.contents path _ hu
  case none.some => exact ht.contents path _ hw
  case some.some u w =>
    have ⟨hp, hsu⟩ := hs.contents path u hu
    exact ⟨hp, hsu.merge (ht.contents path w hw).right⟩

theorem foldl_merge {ts : List Sheet} (hs : s.Traced) (h : ∀ t ∈ ts, t.Traced) :
    (ts.foldl Sheet.merge s).Traced := by
  induction ts generalizing s
  case nil => exact hs
  case cons t ts hi =>
    have ⟨ht, hts⟩ := List.forall_mem_cons.mp h
    exact hi (hs.merge ht) hts

end Traced

-- A sheet that a program can come by: it is loaded from a text or a file, or merged from such.
inductive Obtained : Sheet → Prop
  | text {fs : Files} {base : Location} {text : String} {s : Sheet}
    (h : (ofText fs base text).result = .ok s) : Obtained s
  | file {fs : Files} {here : Location} {path : Path} {s : Sheet}
    (h : (ofFile fs here path).result = .ok s) : Obtained s
  | merge {s t : Sheet} : Obtained s → Obtained t → Obtained (s.merge t)

theorem traced_of_load {seen : List Location} {place : Location}
    (h : (load fs seen place).result = .ok s) : s.Traced := by
  have ⟨is, sts, ⟨d, hd, hx⟩, hsts, hs⟩ := compiles_of_load h
  exact hs ▸ .compiled hsts (hx.scanned (Document.items_scanned hd.scanned))

theorem traced_of_text {base : Location} {text : String}
    (h : (ofText fs base text).result = .ok s) : s.Traced := by
  have ⟨c, hc, hs⟩ := ofText_eq_ok.mp h
  have ⟨d, hp, hd⟩ := Document.compileText_eq_ok.mp hc
  have ⟨ts, hts, he⟩ :=
    (Document.Compiled.sheetWith_eq_ok (Document.ordered_of_compile hd)).mp hs
  have ⟨sts, hsts, hsheet⟩ := Document.compile_eq_ok.mp hd
  rw [he, hsheet]
  refine .merge (.foldl_merge .empty fun t ht => ?_) (.compiled hsts ?_)
  case refine_1 =>
    have ⟨name, _, hl⟩ := exists_of_forall₂ hts ht
    exact traced_of_load hl.right
  case refine_2 => exact Document.items_scanned (Document.spells_of_parse hp).scanned

-- Loading writes no segment and makes no setting of its own, and merging does not either.
theorem Obtained.traced (h : s.Obtained) : s.Traced := by
  induction h
  case text h => exact traced_of_text h
  case file fs here path s h =>
    by_cases hp : '\x00' ∈ path.text.toList
    case pos => cases (ofFile_of_null hp).symm.trans h
    case neg => exact traced_of_load (ofFile_of_plain hp ▸ h)
  case merge hs ht => exact hs.merge ht

end Sheet

end Highlight
