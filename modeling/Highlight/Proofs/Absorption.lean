import Highlight.Proofs.Construction

namespace Highlight

namespace Sheet

variable {s t : Sheet} {ts : List Sheet}

theorem merge_merge_self (hs : s.Ordered) (ht : t.Ordered) : (s.merge t).merge s = t.merge s := by
  refine ((hs.merge ht).merge hs).ext (ht.merge hs) fun selector => ?_
  rw [styleAt_merge (hs.merge ht) hs, styleAt_merge hs ht, styleAt_merge ht hs]
  cases s.styleAt selector <;> cases t.styleAt selector
  case none.none => rfl
  case none.some => rfl
  case some.none style =>
    have := style.merge_merge_self ∅
    simpa using this
  case some.some style style' => exact congrArg some (style.merge_merge_self style')

theorem merge_self (hs : s.Ordered) : s.merge s = s := by
  have := merge_merge_self hs .empty
  rwa [merge_empty, empty_merge hs] at this

theorem Ordered.foldl_merge (hs : s.Ordered) (h : ∀ t ∈ ts, t.Ordered) :
    (ts.foldl Sheet.merge s).Ordered :=
  (Additive.foldl fun t ht => .merge (h t ht)).ordered hs

theorem foldl_merge_cons (ht : t.Ordered) (h : ∀ t ∈ ts, t.Ordered) :
    (t :: ts).foldl merge ∅ = t.merge (ts.foldl merge ∅) := by
  rw [List.foldl_cons, empty_merge ht]
  exact (Additive.foldl fun t ht => .merge (h t ht)).eq_merge ht

-- A sheet that is merged later on need not be merged before.
theorem merge_foldl_of_mem (h : ∀ t ∈ ts, t.Ordered) (ht : t ∈ ts) :
    t.merge (ts.foldl merge ∅) = ts.foldl merge ∅ := by
  induction ts
  case nil => cases ht
  case cons u ts hi =>
    have ⟨hu, hts⟩ := List.forall_mem_cons.mp h
    have hto := h t ht
    have hf := Ordered.empty.foldl_merge hts
    rw [foldl_merge_cons hu hts]
    cases ht
    case head => rw [← merge_assoc hto hto hf, merge_self hto]
    case tail ht =>
      calc t.merge (u.merge (ts.foldl merge ∅))
        _ = t.merge (u.merge (t.merge (ts.foldl merge ∅))) := by rw [hi hts ht]
        _ = ((t.merge u).merge t).merge (ts.foldl merge ∅) := by
          rw [merge_assoc (hto.merge hu) hto hf, merge_assoc hto hu (hto.merge hf)]
        _ = u.merge (t.merge (ts.foldl merge ∅)) := by
          rw [merge_merge_self hto hu, merge_assoc hu hto hf]
        _ = u.merge (ts.foldl merge ∅) := by rw [hi hts ht]

end Sheet

namespace Document.Compiled

variable {c : Compiled} {base : Location} {load : Location → Logged LoadError Sheet}
  {names : List String} {s t : Sheet}

-- The imports without those of files that are imported again later.
def lastOfEach (base : Location) : List String → List String
  | [] => []
  | name :: names =>
    if names.any fun later =>
        base.resolve (Path.ofText later) = base.resolve (Path.ofText name) then
      lastOfEach base names
    else name :: lastOfEach base names

theorem rightUnique_loads : Relator.RightUnique (Loads base load) := by
  intro name s t hs ht
  cases hs.right.symm.trans ht.right
  rfl

theorem ordered_of_loads {ts : List Sheet}
    (hl : ∀ place t, (load place).result = .ok t → t.Ordered)
    (h : List.Forall₂ (Loads base load) names ts) : ∀ t ∈ ts, t.Ordered := by
  intro t ht
  have ⟨_, _, h⟩ := Sheet.exists_of_forall₂ h ht
  exact hl _ t h.right

theorem exists_later {name : String} (h : names.any fun later =>
      base.resolve (Path.ofText later) = base.resolve (Path.ofText name)) {ts : List Sheet}
    (hts : List.Forall₂ (Loads base load) names ts) :
    ∃ t ∈ ts, (load (base.resolve (Path.ofText name))).result = .ok t := by
  have ⟨later, hm, hp⟩ := List.any_eq_true.mp h
  have ⟨t, ht, hl⟩ := Sheet.exists_of_forall₂ hts.flip hm
  exact ⟨t, ht, of_decide_eq_true hp ▸ hl.right⟩

-- An import that is left out changes nothing: the file is loaded later, to the same sheet.
theorem foldl_lastOfEach {ts : List Sheet}
    (hl : ∀ place t, (load place).result = .ok t → t.Ordered)
    (h : List.Forall₂ (Loads base load) names ts) :
    ∃ us, List.Forall₂ (Loads base load) (lastOfEach base names) us ∧
      us.foldl Sheet.merge ∅ = ts.foldl Sheet.merge ∅ := by
  induction h
  case nil => exact ⟨[], .nil, rfl⟩
  case cons name t names ts ht hts hi =>
    have ⟨us, hus, he⟩ := hi
    have hto := hl _ t ht.right
    rw [lastOfEach, Sheet.foldl_merge_cons hto (ordered_of_loads hl hts)]
    split
    case isTrue hlater =>
      have ⟨u, hu, hload⟩ := exists_later hlater hts
      cases ht.right.symm.trans hload
      exact ⟨us, hus, he.trans (Sheet.merge_foldl_of_mem (ordered_of_loads hl hts) hu).symm⟩
    case isFalse =>
      refine ⟨t :: us, .cons ht hus, ?_⟩
      rw [Sheet.foldl_merge_cons hto (ordered_of_loads hl hus), he]

theorem exists_loads_of_lastOfEach {us : List Sheet} (hn : ∀ name ∈ names, '\x00' ∉ name.toList)
    (h : List.Forall₂ (Loads base load) (lastOfEach base names) us) :
    ∃ ts, List.Forall₂ (Loads base load) names ts := by
  induction names generalizing us
  case nil => exact ⟨[], .nil⟩
  case cons name names hi =>
    have ⟨hname, hnames⟩ := List.forall_mem_cons.mp hn
    rw [lastOfEach] at h
    split at h
    case isTrue hlater =>
      have ⟨ts, hts⟩ := hi hnames h
      have ⟨t, _, hload⟩ := exists_later hlater hts
      exact ⟨t :: ts, .cons ⟨hname, hload⟩ hts⟩
    case isFalse =>
      have ⟨t, us, ht, hus, _⟩ := List.forall₂_cons_left_iff.mp h
      have ⟨ts, hts⟩ := hi hnames hus
      exact ⟨t :: ts, .cons ht hts⟩

-- Only the last import of each file counts. A name with a null character names no file, so it is no
-- other import of one.
theorem sheetWith_lastOfEach (hc : c.sheet.Ordered)
    (hl : ∀ place t, (load place).result = .ok t → t.Ordered) :
    (c.sheetWith base load).result = .ok s ↔ (∀ name ∈ c.imports, '\x00' ∉ name.toList) ∧
      (sheetWith ⟨lastOfEach base c.imports, c.sheet⟩ base load).result = .ok s := by
  have hc' : (Compiled.mk (lastOfEach base c.imports) c.sheet).sheet.Ordered := hc
  rw [sheetWith_eq_ok hc, sheetWith_eq_ok hc']
  constructor
  case mp =>
    intro ⟨ts, hts, hs⟩
    have ⟨us, hus, he⟩ := foldl_lastOfEach hl hts
    refine ⟨fun name hm => ?_, us, hus, he ▸ hs⟩
    have ⟨t, _, ht⟩ := Sheet.exists_of_forall₂ hts.flip hm
    exact ht.left
  case mpr =>
    intro ⟨hn, us, hus, hs⟩
    have ⟨ts, hts⟩ := exists_loads_of_lastOfEach hn hus
    have ⟨us', hus', he⟩ := foldl_lastOfEach hl hts
    have hu : us' = us := List.right_unique_forall₂' rightUnique_loads hus' hus
    exact ⟨ts, hts, he ▸ hu ▸ hs⟩

end Document.Compiled

namespace Sheet

variable {s t u : Sheet}

-- Merging is a monoid in which a later operand absorbs all earlier ones that are equal to it, and
-- it meets no obstacle. So a file that is imported several times might as well be imported only
-- where it is imported last.
theorem merge_regular (hs : s.Built) (ht : t.Built) (hu : u.Built) :
    (∅ : Sheet).merge s = s ∧ s.merge ∅ = s ∧
    (s.merge t).merge u = s.merge (t.merge u) ∧
    s.merge s = s ∧ (s.merge t).merge s = t.merge s ∧
    s.attemptMerge t = ⟨s.merge t, none⟩ ∧
    ∀ d c, (Document.compile d).result = .ok c → ∀ fs seen base r,
      (c.sheetWith base (load fs seen)).result = .ok r ↔
        (∀ name ∈ c.imports, '\x00' ∉ name.toList) ∧
        (Document.Compiled.sheetWith ⟨Document.Compiled.lastOfEach base c.imports, c.sheet⟩ base
          (load fs seen)).result = .ok r := by
  have hso := hs.wellFormed.ordered
  have hto := ht.wellFormed.ordered
  have huo := hu.wellFormed.ordered
  refine ⟨empty_merge hso, merge_empty s, merge_assoc hso hto huo, merge_self hso,
    merge_merge_self hso hto, attemptMerge_eq hs.wellFormed ht.wellFormed, ?_⟩
  intro d c hc fs seen base r
  exact Document.Compiled.sheetWith_lastOfEach (Document.ordered_of_compile hc)
    fun place t ht => (compiles_of_load ht).ordered

-- An important setting below a branch check, and one that is not important for the same attribute.
def firm : Sheet :=
  declareAt [.kind "call", .branch [.token "async"]] { bold := some ⟨true, true⟩ } ∅

def loose : Sheet :=
  declareAt [.kind "call", .branch [.token "async"]] { bold := some ⟨false, false⟩ }
    (declareAt [.kind "call"] { dim := some ⟨true, false⟩ } ∅)

end Sheet

-- A file that is imported again under another name, with another file in between.
def Files.repeated : Files where
  entries := [
    (["base"], .file "word { bold: true; }".toUTF8.toList),
    (["other"], .file "word { bold: false; dim: true; }".toUTF8.toList)]

theorem Sheet.merge_regular_repeated : firm.Built ∧ loose.Built ∧
    (firm.merge loose).merge firm = loose.merge firm ∧
    firm.attemptMerge loose = ⟨firm.merge loose, none⟩ ∧
    ∃ c r, (Document.compileText
        "@import \"base\"; @import \"other\"; @import \"x/../base\";").result = .ok c ∧
      Document.Compiled.lastOfEach .root c.imports = ["other", "x/../base"] ∧
      (c.sheetWith .root (load .repeated [])).result = .ok r ∧
      r.setting? [.kind "word"] (.effect .bold) = some ⟨true, false⟩ := by
  have firmBuilt : firm.Built := .declareAt (by decide) .empty
  have looseBuilt : loose.Built := .declareAt (by decide) (.declareAt (by decide) .empty)
  have ⟨_, _, _, _, absorbs, meets, imports⟩ := merge_regular firmBuilt looseBuilt .empty
  refine ⟨firmBuilt, looseBuilt, absorbs, meets, ?_⟩
  have hc : (Document.compileText
      "@import \"base\"; @import \"other\"; @import \"x/../base\";").value?.map (fun c =>
        (c.imports, (Document.Compiled.sheetWith ⟨["other", "x/../base"], c.sheet⟩ .root
          (load .repeated [])).value?.map (·.setting? [.kind "word"] (.effect .bold)))) =
      some (["base", "other", "x/../base"], some (some (⟨true, false⟩ : Setting Bool))) := by
    decide +kernel
  have ⟨c, hc, he⟩ := Option.map_eq_some_iff.mp hc
  have ⟨himports, hr⟩ := Prod.mk.inj he
  have ⟨r, hr, hv⟩ := Option.map_eq_some_iff.mp hr
  have hlast : Document.Compiled.lastOfEach .root c.imports = ["other", "x/../base"] := by
    rw [himports]
    decide +kernel
  have hc := Logged.value?_eq_some.mp hc
  have ⟨d, _, hd⟩ := Document.compileText_eq_ok.mp hc
  refine ⟨c, r, hc, hlast, (imports d c hd _ _ _ r).mpr ⟨?_, ?_⟩, hv⟩
  case refine_1 =>
    rw [himports]
    decide
  case refine_2 =>
    rw [hlast]
    exact Logged.value?_eq_some.mp hr

end Highlight
