import Highlight.Proofs.Flattening
import Highlight.Proofs.Importing

namespace Highlight

open Document (Item)

namespace Sheet

variable {s t : Sheet} {selector : Selector} {a : Attribute}

theorem Additive.merge (ht : t.Ordered) : Additive (·.merge t) :=
  ⟨fun hs => hs.merge ht, fun _ => by rw [empty_merge ht]⟩

-- The setting of an attribute at the end of a selector.
def setting? (s : Sheet) (selector : Selector) (a : Attribute) : Option (Setting a.Value) :=
  (s.styleAt selector).bind (·.get a)

theorem setting?_merge (hs : s.Ordered) (ht : t.Ordered) (selector : Selector) (a : Attribute) :
    (s.merge t).setting? selector a =
      Setting.cascade (s.setting? selector a) (t.setting? selector a) := by
  rw [setting?, styleAt_merge hs ht, setting?, setting?]
  cases s.styleAt selector <;> cases t.styleAt selector <;> simp

-- A setting that is important, or none at all, gives way only to important ones.
theorem setting?_merge_of_normal {v : Setting a.Value} (hs : s.Ordered) (ht : t.Ordered)
    (hv : s.setting? selector a = some v) (hi : v.important = true)
    (hn : ∀ w, t.setting? selector a = some w → w.important = false) :
    (s.merge t).setting? selector a = some v := by
  rw [setting?_merge hs ht, hv]
  cases hw : t.setting? selector a
  case none => rfl
  case some w => simp [Setting.cascade, hi, hn w hw]

theorem setting?_merge_of_important {v : Setting a.Value} (hs : s.Ordered) (ht : t.Ordered)
    (hv : t.setting? selector a = some v) (hi : v.important = true) :
    (s.merge t).setting? selector a = some v := by
  rw [setting?_merge hs ht, hv]
  cases s.setting? selector a <;> simp [Setting.cascade, hi]

theorem setting?_foldl_of_normal {v : Setting a.Value} {ts : List Sheet} (hs : s.Ordered)
    (ht : ∀ t ∈ ts, t.Ordered) (hv : s.setting? selector a = some v) (hi : v.important = true)
    (hn : ∀ t ∈ ts, ∀ w, t.setting? selector a = some w → w.important = false) :
    (ts.foldl merge s).setting? selector a = some v := by
  induction ts generalizing s
  case nil => exact hv
  case cons t ts h =>
    have ⟨ht, hts⟩ := List.forall_mem_cons.mp ht
    have ⟨hn, hns⟩ := List.forall_mem_cons.mp hn
    exact h (hs.merge ht) hts (setting?_merge_of_normal hs ht hv hi hn) hns

end Sheet

namespace Document

theorem ordered_foldl_apply {s : Sheet} (hs : s.Ordered) (sts : List Statement) :
    (sts.foldl Statement.apply s).Ordered :=
  (Sheet.Additive.foldl fun s _ => s.additive).ordered hs

theorem foldl_apply_append (sts more : List Statement) :
    (sts ++ more).foldl Statement.apply ∅ =
      (sts.foldl Statement.apply ∅).merge (more.foldl Statement.apply ∅) := by
  rw [List.foldl_append]
  exact (Sheet.Additive.foldl fun s _ => s.additive).eq_merge (ordered_foldl_apply .empty sts)

theorem statements_append {is js : List (Item Position)} {sts more : List Statement}
    (hi : (statements is).result = .ok sts) (hj : (statements js).result = .ok more) :
    (statements (is ++ js)).result = .ok (sts ++ more) := by
  rw [statements_eq_ok] at hi hj ⊢
  exact List.rel_append hi hj

theorem compile_eq_ok {d : Document Position} {c : Compiled} :
    (compile d).result = .ok c ↔ ∃ sts, (statements d.items).result = .ok sts ∧
      c = ⟨d.imports, sts.foldl Statement.apply ∅⟩ := by
  rw [result_compile]
  cases (statements d.items).result <;> simp [Except.map, eq_comm]

theorem ordered_of_compile {d : Document Position} {c : Compiled}
    (h : (compile d).result = .ok c) : c.sheet.Ordered := by
  have ⟨sts, _, hc⟩ := compile_eq_ok.mp h
  exact hc ▸ ordered_foldl_apply .empty sts

namespace Compiled

variable {c : Compiled} {base : Location} {load load' : Location → Logged LoadError Sheet}
  {names : List String} {s t : Sheet}

-- The name leads to a file with the sheet.
def Loads (base : Location) (load : Location → Logged LoadError Sheet) (name : String) (t : Sheet) :
    Prop :=
  '\x00' ∉ name.toList ∧ (load (base.resolve (Path.ofText name))).result = .ok t

theorem importing_eq_ok {name : String} : (importing base load s name).result = .ok t ↔
    ∃ u, Loads base load name u ∧ t = s.merge u := by
  rw [result_importing]
  by_cases hn : '\x00' ∈ name.toList
  case pos => simp [hn, Loads]
  case neg =>
    cases hl : (load (base.resolve (Path.ofText name))).result <;>
      simp [Loads, hn, hl, Except.map, eq_comm]

theorem foldlM_importing_eq_ok : (names.foldlM (importing base load) s).result = .ok t ↔
    ∃ ts, List.Forall₂ (Loads base load) names ts ∧ t = ts.foldl Sheet.merge s := by
  induction names generalizing s
  case nil => simp [eq_comm]
  case cons name names hi =>
    rw [List.foldlM_cons, Logged.bind_eq_ok]
    simp only [importing_eq_ok, hi, List.forall₂_cons_left_iff]
    constructor
    case mp =>
      rintro ⟨_, ⟨u, hu, rfl⟩, ts, hts, rfl⟩
      exact ⟨u :: ts, ⟨u, ts, hu, hts, rfl⟩, rfl⟩
    case mpr =>
      rintro ⟨_, ⟨u, ts, hu, hts, rfl⟩, rfl⟩
      exact ⟨_, ⟨u, hu, rfl⟩, ts, hts, rfl⟩

-- A document without imports is not merged into anything, which makes no difference.
theorem result_sheetWith (hc : c.sheet.Ordered) :
    (c.sheetWith base load).result =
      (c.imports.foldlM (importing base load) ∅).result.map (·.merge c.sheet) := by
  rw [sheetWith_eq]
  split
  case isTrue h =>
    rw [List.isEmpty_iff.mp h]
    exact congrArg Except.ok (Sheet.empty_merge hc).symm
  case isFalse =>
    rw [Logged.result_bind]
    cases (c.imports.foldlM (importing base load) ∅).result <;> rfl

theorem sheetWith_eq_ok (hc : c.sheet.Ordered) :
    (c.sheetWith base load).result = .ok s ↔
      ∃ ts, List.Forall₂ (Loads base load) c.imports ts ∧
        s = (ts.foldl Sheet.merge ∅).merge c.sheet := by
  rw [result_sheetWith hc]
  constructor
  case mp =>
    intro h
    cases hf : (c.imports.foldlM (importing base load) ∅).result <;> rw [hf] at h <;> cases h
    have ⟨ts, hts, he⟩ := foldlM_importing_eq_ok.mp hf
    exact ⟨ts, hts, by rw [he]⟩
  case mpr =>
    intro ⟨ts, hts, he⟩
    rw [foldlM_importing_eq_ok.mpr ⟨ts, hts, rfl⟩, he]
    rfl

end Compiled

end Document

namespace Files

variable {fs fs' : Files} {place base : Location} {d d' : Document Position} {names : List String}
  {own is js : List (Item Position)}

-- The file at a place can be read, and the document is what is written in it.
def Holds (fs : Files) (place : Location) (d : Document Position) : Prop :=
  ∃ text, fs.readAt place = .ok text ∧ Document.parse text = .ok d

theorem Holds.unique (h : fs.Holds place d) (h' : fs.Holds place d') : d = d' := by
  have ⟨_, hr, hp⟩ := h
  have ⟨_, hr', hp'⟩ := h'
  cases hr.symm.trans hr'
  cases hp.symm.trans hp'
  rfl

theorem provides_iff_holds {c : Document.Compiled} :
    fs.Provides place c ↔ ∃ d, fs.Holds place d ∧ (Document.compile d).result = .ok c := by
  rw [provides_iff]
  constructor
  case mp =>
    rintro ⟨text, hr, hc⟩
    rw [Document.compileText] at hc
    split at hc
    case h_1 d hp => exact ⟨d, ⟨text, hr, hp⟩, hc⟩
    case h_2 => cases hc
  case mpr =>
    rintro ⟨d, ⟨text, hr, hp⟩, hc⟩
    refine ⟨text, hr, ?_⟩
    rw [Document.compileText, hp]
    exact hc

-- The text of a document in the directory `base` that imports the names and has items of its own:
-- first what the imported files expand to, one after the other, then the items themselves.
inductive Expands (fs : Files) :
    Location → List String → List (Item Position) → List (Item Position) → Prop
  | own {base : Location} {own : List (Item Position)} : Expands fs base [] own own
  | imported {base : Location} {name : String} {names : List String}
    {own inner rest : List (Item Position)} {d : Document Position} :
    fs.Holds (base.resolve (Path.ofText name)) d →
    Expands fs (base.resolve (Path.ofText name)).parent d.imports d.items inner →
    Expands fs base names own rest → Expands fs base (name :: names) own (inner ++ rest)

-- The text of the file at a place.
def Expansion (fs : Files) (place : Location) (is : List (Item Position)) : Prop :=
  ∃ d, fs.Holds place d ∧ fs.Expands place.parent d.imports d.items is

theorem Expands.unique (h : fs.Expands base names own is) (h' : fs.Expands base names own js) :
    is = js := by
  induction h generalizing js
  case own => cases h'; rfl
  case imported hd _ _ hi hr =>
    cases h'
    case imported hd' hi' hr' =>
      cases hd.unique hd'
      rw [hi hi', hr hr']

theorem Expansion.unique (h : fs.Expansion place is) (h' : fs.Expansion place js) : is = js := by
  have ⟨_, hd, he⟩ := h
  have ⟨_, hd', he'⟩ := h'
  cases hd.unique hd'
  exact he.unique he'

-- A sheet is what the text of a file compiles to.
def Compiles (fs : Files) (place : Location) (s : Sheet) : Prop :=
  ∃ is sts, fs.Expansion place is ∧ (Document.statements is).result = .ok sts ∧
    s = sts.foldl Document.Statement.apply ∅

theorem Compiles.ordered {s : Sheet} (h : fs.Compiles place s) : s.Ordered := by
  have ⟨_, sts, _, _, hs⟩ := h
  exact hs ▸ Document.ordered_foldl_apply .empty sts

theorem Compiles.unique {s t : Sheet} (h : fs.Compiles place s) (h' : fs.Compiles place t) :
    s = t := by
  have ⟨_, _, he, hs, hst⟩ := h
  have ⟨_, _, he', hs', hst'⟩ := h'
  cases he.unique he'
  cases hs.symm.trans hs'
  rw [hst, hst']

-- The step of an expansion: if the imported files compile to sheets, then the whole text compiles
-- to these merged in order with the sheet of the items themselves.
theorem exists_expands {ts : List Sheet} {sts : List Document.Statement}
    (ho : (Document.statements own).result = .ok sts)
    (h : List.Forall₂ (fun name => fs.Compiles (base.resolve (Path.ofText name))) names ts) :
    ∃ is all, fs.Expands base names own is ∧ (Document.statements is).result = .ok all ∧
      (ts.foldl Sheet.merge ∅).merge (sts.foldl Document.Statement.apply ∅) =
        all.foldl Document.Statement.apply ∅ ∧ ∀ t ∈ ts, t.Ordered := by
  induction h
  case nil =>
    exact ⟨own, sts, .own, ho, Sheet.empty_merge (Document.ordered_foldl_apply .empty sts), by simp⟩
  case cons name t names ts ht _ hi =>
    have ⟨rest, more, hrest, hmore, he, hts⟩ := hi
    have ⟨inner, stmts, ⟨d, hd, hinner⟩, hstmts, hteq⟩ := ht
    have hadd : Sheet.Additive (ts.foldl Sheet.merge ·) :=
      .foldl fun u hu => .merge (hts u hu)
    refine ⟨inner ++ rest, stmts ++ more, .imported hd hinner hrest,
      Document.statements_append hstmts hmore, ?_, List.forall_mem_cons.mpr ⟨ht.ordered, hts⟩⟩
    have hfold := hadd.ordered .empty
    have hown := Document.ordered_foldl_apply .empty sts
    calc (ts.foldl Sheet.merge (Sheet.merge ∅ t)).merge (sts.foldl Document.Statement.apply ∅)
      _ = (t.merge (ts.foldl Sheet.merge ∅)).merge (sts.foldl Document.Statement.apply ∅) := by
        rw [Sheet.empty_merge ht.ordered, hadd.eq_merge ht.ordered]
      _ = t.merge (more.foldl Document.Statement.apply ∅) := by
        rw [Sheet.merge_assoc ht.ordered hfold hown, he]
      _ = (stmts ++ more).foldl Document.Statement.apply ∅ := by
        rw [hteq, Document.foldl_apply_append]

-- The files of the second tree hold the same imports and the same items as those of the first, both
-- in the same order. Imports may stand elsewhere between the items.
def Rearranged (fs fs' : Files) : Prop :=
  ∀ place d, fs.Holds place d → ∃ d', fs'.Holds place d' ∧ d'.imports = d.imports ∧
    d'.items.map Item.unmarked = d.items.map Item.unmarked

theorem Rearranged.provides (h : fs.Rearranged fs') {c : Document.Compiled}
    (hc : fs.Provides place c) : fs'.Provides place c := by
  have ⟨d, hd, hc⟩ := provides_iff_holds.mp hc
  have ⟨sts, hs, he⟩ := Document.compile_eq_ok.mp hc
  have ⟨d', hd', hi, hu⟩ := h place d hd
  refine provides_iff_holds.mpr ⟨d', hd', Document.compile_eq_ok.mpr ⟨sts, ?_, hi ▸ he⟩⟩
  rw [← Logged.value?_eq_some] at hs ⊢
  exact (Document.value?_statements_of_unmarked hu).trans hs

end Files

namespace Sheet

open Document.Compiled (Loads)

variable {fs fs' : Files} {seen : List Location} {place : Location} {s : Sheet}

-- One level of loading: the sheets that are imported, and the sheet of the document itself.
theorem load_eq_ok : (load fs seen place).result = .ok s ↔
    place ∉ seen ∧ ∃ c, fs.Provides place c ∧ ∃ ts,
      List.Forall₂ (Loads place.parent (load fs (seen ++ [place]))) c.imports ts ∧
      s = (ts.foldl merge ∅).merge c.sheet := by
  constructor
  case mp =>
    intro h
    have ⟨hf, ⟨c, hc, _⟩, _⟩ := load_ok_iff_imports.mp ⟨s, h⟩
    have ⟨d, _, hd⟩ := Files.provides_iff_holds.mp hc
    rw [load_of_provides hf hc,
      Document.Compiled.sheetWith_eq_ok (Document.ordered_of_compile hd)] at h
    exact ⟨hf, c, hc, h⟩
  case mpr =>
    intro ⟨hf, c, hc, h⟩
    have ⟨d, _, hd⟩ := Files.provides_iff_holds.mp hc
    rw [load_of_provides hf hc,
      Document.Compiled.sheetWith_eq_ok (Document.ordered_of_compile hd)]
    exact h

theorem imports_of_loads {c : Document.Compiled} {load : Location → Logged LoadError Sheet}
    {ts : List Sheet} (hc : fs.Provides place c)
    (h : List.Forall₂ (Loads place.parent load) c.imports ts) :
    List.Forall₂ (fun name t => fs.Imports place (place.parent.resolve (Path.ofText name)) ∧
      Loads place.parent load name t) c.imports ts := by
  have hm := (List.forall₂_and_left c.imports ts).mpr ⟨fun _ hm => hm, h⟩
  exact hm.imp fun name t ⟨hm, hl⟩ => ⟨⟨c, hc, name, hm, hl.left, rfl⟩, hl⟩

-- The run of an expansion: loading goes down by the same steps; the induction is on the number of
-- files left to see.
theorem compiles_of_load (h : (load fs seen place).result = .ok s) : fs.Compiles place s := by
  induction hn : fs.unseen seen using Nat.strong_induction_on generalizing seen place s
  case _ n hi =>
    subst hn
    have ⟨hf, c, hc, ts, hts, hs⟩ := load_eq_ok.mp h
    have hloads := (imports_of_loads hc hts).imp fun name t ⟨hm, hl⟩ =>
      hi _ (hm.unseen_lt hf) hl.right rfl
    have ⟨d, hd, hcd⟩ := Files.provides_iff_holds.mp hc
    have ⟨sts, hsts, he⟩ := Document.compile_eq_ok.mp hcd
    subst he
    have ⟨is, all, hx, hall, hmerge, _⟩ := Files.exists_expands hsts hloads
    exact ⟨is, all, ⟨d, hd, hx⟩, hall, hs.trans hmerge⟩

-- The files above decide whether a file is loaded, but not what it is loaded as.
theorem load_nil_of_load (h : (load fs seen place).result = .ok s) :
    (load fs [] place).result = .ok s := by
  have hc := load_ok_iff.mp ⟨s, h⟩
  have ⟨t, ht⟩ := load_ok_iff.mpr (show fs.Clear [] place from
    fun q hq => ⟨(hc q hq).left, List.not_mem_nil, (hc q hq).right.right⟩)
  rw [ht, (compiles_of_load h).unique (compiles_of_load ht)]

-- Each file provides the same sheet and imports the same files, so the two trees are loaded by the
-- same steps.
theorem load_of_rearranged (h : fs.Rearranged fs') (hl : (load fs seen place).result = .ok s) :
    (load fs' seen place).result = .ok s := by
  induction hn : fs.unseen seen using Nat.strong_induction_on generalizing seen place s
  case _ n hi =>
    subst hn
    have ⟨hf, c, hc, ts, hts, hs⟩ := load_eq_ok.mp hl
    refine load_eq_ok.mpr ⟨hf, c, h.provides hc, ts, ?_, hs⟩
    exact (imports_of_loads hc hts).imp fun name t ⟨hm, hl⟩ =>
      ⟨hl.left, hi _ (hm.unseen_lt hf) hl.right rfl⟩

theorem exists_of_forall₂ {α β : Type} {R : α → β → Prop} {l : List α} {bs : List β} {b : β}
    (h : List.Forall₂ R l bs) (hb : b ∈ bs) : ∃ a ∈ l, R a b := by
  induction h
  case nil => cases hb
  case cons a b' l bs hr _ hi =>
    cases hb
    case head => exact ⟨a, List.mem_cons_self, hr⟩
    case tail hb =>
      have ⟨a', ha, hr⟩ := hi hb
      exact ⟨a', List.mem_cons_of_mem a ha, hr⟩

-- The sheet of a file is that of its imports, each loaded by itself, with its own one over it.
theorem imported_of_load {c : Document.Compiled} (h : (load fs seen place).result = .ok s)
    (hc : fs.Provides place c) :
    ∃ ts, List.Forall₂ (Loads place.parent (load fs [])) c.imports ts ∧ (∀ t ∈ ts, t.Ordered) ∧
      s = (ts.foldl merge ∅).merge c.sheet := by
  have ⟨_, c', hc', ts, hts, hs⟩ := load_eq_ok.mp h
  cases hc.unique hc'
  refine ⟨ts, hts.imp fun name t hl => ⟨hl.left, load_nil_of_load hl.right⟩, fun t ht => ?_, hs⟩
  have ⟨name, _, hl⟩ := exists_of_forall₂ hts ht
  exact (compiles_of_load hl.right).ordered

-- What an imported file has as important stays, unless a later import or the importing file itself
-- has another important setting in its place.
theorem setting?_of_load {c : Document.Compiled} {before after : List String} {name : String}
    {t : Sheet} {selector : Selector} {a : Attribute} {v : Setting a.Value}
    (h : (load fs seen place).result = .ok s) (hc : fs.Provides place c)
    (hi : c.imports = before ++ name :: after)
    (ht : Loads place.parent (load fs []) name t)
    (hv : t.setting? selector a = some v) (him : v.important = true)
    (hafter : ∀ later ∈ after, ∀ u, Loads place.parent (load fs []) later u →
      ∀ w, u.setting? selector a = some w → w.important = false)
    (hown : ∀ w, c.sheet.setting? selector a = some w → w.important = false) :
    s.setting? selector a = some v := by
  have ⟨ts, hts, hord, hs⟩ := imported_of_load h hc
  have ⟨d, _, hd⟩ := Files.provides_iff_holds.mp hc
  have hsplit := List.take_append_drop before.length ts
  have hdrop := List.forall₂_drop before.length hts
  rw [hi, List.drop_left] at hdrop
  -- The sheet of the name stands between those of the imports before and after it.
  have ⟨t', later, ht', hlater, he⟩ := List.forall₂_cons_left_iff.mp hdrop
  cases ht'.right.symm.trans ht.right
  rw [← hsplit, he] at hord hs
  have hbefore : (List.foldl merge ∅ (ts.take before.length)).Ordered :=
    (Additive.foldl fun u hu => .merge (hord u (List.mem_append_left _ hu))).ordered .empty
  have hto : t.Ordered := hord t (by simp)
  have hlo : ∀ u ∈ later, u.Ordered := fun u hu => hord u (by simp [hu])
  rw [hs, List.foldl_append, List.foldl_cons]
  refine setting?_merge_of_normal ?_ (Document.ordered_of_compile hd) ?_ him hown
  case refine_1 => exact (Additive.foldl fun u hu => .merge (hlo u hu)).ordered (hbefore.merge hto)
  case refine_2 =>
    refine setting?_foldl_of_normal (hbefore.merge hto) hlo
      (setting?_merge_of_important hbefore hto hv him) him fun u hu => ?_
    have ⟨other, hm, hl⟩ := exists_of_forall₂ hlater hu
    exact hafter other hm u hl

-- A file that can be loaded has the sheet of one document without imports. Imports may stand
-- anywhere between the items of a file; a file without imports might as well be merged into the
-- empty sheet; and an important setting of an imported file outlives the normal ones that come
-- after it, whether in later imports or in the file itself.
theorem ofFile_expansion {here : Location} {path : Path}
    (h : (ofFile fs here path).result = .ok s) :
    (∃ is, fs.Expansion (here.resolve path) is ∧
      (∀ js, fs.Expansion (here.resolve path) js → js = is) ∧
      (Document.compile (is.map .item)).result = .ok ⟨[], s⟩) ∧
    (∀ fs', fs.Rearranged fs' → (ofFile fs' here path).result = .ok s) ∧
    (∀ d c, (Document.compile d).result = .ok c → ∀ base load,
      (c.sheetWith base load).result =
        (c.imports.foldlM (Document.Compiled.importing base load) ∅).result.map
          (·.merge c.sheet)) ∧
    ∀ d c, fs.Holds (here.resolve path) d → (Document.compile d).result = .ok c →
      ∀ before name after, c.imports = before ++ name :: after →
      ∀ t, Loads (here.resolve path).parent (load fs []) name t →
      ∀ selector a v, t.setting? selector a = some v → v.important = true →
      (∀ later ∈ after, ∀ u, Loads (here.resolve path).parent (load fs []) later u →
        ∀ w, u.setting? selector a = some w → w.important = false) →
      (∀ w, c.sheet.setting? selector a = some w → w.important = false) →
      s.setting? selector a = some v := by
  by_cases hp : '\x00' ∈ path.text.toList
  case pos =>
    rw [ofFile_of_null hp] at h
    cases h
  rw [ofFile_of_plain hp] at h
  refine ⟨?_, fun fs' hr => ?_, fun d c hc base load => ?_, ?_⟩
  case refine_1 =>
    have ⟨is, sts, hx, hsts, hs⟩ := compiles_of_load h
    refine ⟨is, hx, fun js hj => hj.unique hx, Document.compile_eq_ok.mpr ⟨sts, ?_⟩⟩
    rw [Document.items_map_item, Document.imports_map_item, hs]
    exact ⟨hsts, rfl⟩
  case refine_2 =>
    rw [ofFile_of_plain hp]
    exact load_of_rearranged hr h
  case refine_3 => exact Document.Compiled.result_sheetWith (Document.ordered_of_compile hc)
  case refine_4 =>
    intro d c hd hc before name after hi t ht selector a v hv him
    exact setting?_of_load h (Files.provides_iff_holds.mpr ⟨d, hd, hc⟩) hi ht hv him

end Sheet

-- The importing file sets the same attribute, and does so above the import.
def Files.overridden : Files where
  entries := [
    (["main"], .file "word { bold: false; } @import \"base\";".toUTF8.toList),
    (["base"], .file "word { bold: true !important; }".toUTF8.toList)]

theorem Sheet.ofFile_expansion_overridden :
    ∃ s, (ofFile .overridden .root (Path.ofText "main")).result = .ok s ∧
      (∃ is, Files.overridden.Expansion (Location.root.resolve (Path.ofText "main")) is ∧
        (Document.compile (is.map .item)).result = .ok ⟨[], s⟩) ∧
      s.setting? [.kind "word"] (.effect .bold) = some ⟨true, true⟩ := by
  have ⟨s, hs⟩ := Option.isSome_iff_exists.mp <|
    show (ofFile .overridden .root (Path.ofText "main")).value?.isSome by decide +kernel
  rw [Logged.value?_eq_some] at hs
  have ⟨⟨is, hx, _, hc⟩, _, _, hsurvives⟩ := ofFile_expansion hs
  refine ⟨s, hs, ⟨is, hx, hc⟩, ?_⟩
  have hmain : (Document.compileText "word { bold: false; } @import \"base\";").value?.map
      (fun c => (c.imports, c.sheet.setting? [.kind "word"] (.effect .bold))) =
        some (["base"], some (⟨false, false⟩ : Setting Bool)) := by decide +kernel
  have ⟨c, hcompiled, hc⟩ := Option.map_eq_some_iff.mp hmain
  have ⟨himports, hown⟩ := Prod.mk.inj hc
  have hread : (Files.overridden.readAt (Location.root.resolve (Path.ofText "main"))).toOption =
      some "word { bold: false; } @import \"base\";" := by decide +kernel
  have ⟨d, hd, hcompile⟩ := Files.provides_iff_holds.mp <| Files.provides_iff.mpr
    ⟨_, Logged.toOption_eq_some.mp hread, Logged.value?_eq_some.mp hcompiled⟩
  have hbase : (load .overridden [] (Location.root.resolve (Path.ofText "base"))).value?.map
      (·.setting? [.kind "word"] (.effect .bold)) = some (some (⟨true, true⟩ : Setting Bool)) := by
    decide +kernel
  have ⟨t, ht, hv⟩ := Option.map_eq_some_iff.mp hbase
  refine hsurvives d c hd hcompile [] "base" [] himports t ⟨?_, Logged.value?_eq_some.mp ht⟩ _ _ _
    hv rfl ?_ ?_
  case refine_1 => decide
  case refine_2 => simp
  case refine_3 =>
    intro w hw
    cases hown.symm.trans hw
    rfl

end Highlight
