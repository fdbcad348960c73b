import Highlight.Proofs.Wording

namespace Highlight

namespace Document

variable {α : Type} {ws : List (Lexeme × α)} {a b : String} {s t : Sheet}

-- A semicolon follows each colon within the same phrase.
theorem Derives.inValue_false {p : Phrase α} (h : Derives p ws) :
    (ws.map Prod.fst).foldl Lexeme.inValueAfter false = false := by
  have harrow (child : Option α) :
      ((arrowWords child).map Prod.fst).foldl Lexeme.inValueAfter false = false := by
    cases child <;> rfl
  induction h
  all_goals simp_all [Lexeme.inValueAfter]

-- The last word of an item is a semicolon or a brace.
theorem Derives.closed_item {i : Item α} (h : Derives (.item i) ws) :
    Closed (ws.map Prod.fst) := by
  cases h
  case declaration n v l m => exact .concat [.name _, .colon, Value.lexeme _] rfl
  case important => exact .concat [.name _, .colon, Value.lexeme _, .important] rfl
  case rule =>
    rw [List.map_append]
    exact .concat _ rfl

theorem Derives.closed_document {d : Document α} (h : Derives (.document d) ws) :
    Closed (ws.map Prod.fst) := by
  induction d generalizing ws
  case nil =>
    cases h
    simp [Closed]
  case cons i d hi =>
    cases h
    case imports hd => exact (Closed.concat [.importMark, .string _] rfl).append (hi hd)
    case item us vs hitem hd =>
      rw [List.map_append]
      exact hitem.closed_item.append (hi hd)

theorem lexemes_append (d e : Document α) : (d ++ e).lexemes = d.lexemes ++ e.lexemes :=
  List.flatMap_append

theorem spells_append {d e : Document Position} (ha : parse a = .ok d) (hb : parse b = .ok e) :
    Spells false (a ++ b).toList (d ++ e).lexemes := by
  have ⟨_, hd⟩ := parse_eq_ok_iff.mp ha
  have hd := ofLexemes?_iff_derives.mp hd
  have hc := hd.closed_document
  have hv := hd.inValue_false
  rw [show _ = d.lexemes from hd.lexemes_eq] at hc hv
  rw [String.toList_append, lexemes_append]
  refine (spells_of_parse ha).append hc ?_
  rw [hv]
  exact spells_of_parse hb

theorem compile_append {d e : Document Position} {imports imports' : List String}
    (hd : (compile d).result = .ok ⟨imports, s⟩) (he : (compile e).result = .ok ⟨imports', t⟩) :
    (compile (d ++ e)).result = .ok ⟨imports ++ imports', s.merge t⟩ := by
  have ⟨sts, hs, hds⟩ := compile_eq_ok.mp hd
  have ⟨more, hm, hes⟩ := compile_eq_ok.mp he
  cases hds
  cases hes
  refine compile_eq_ok.mpr ⟨sts ++ more, ?_, ?_⟩
  case refine_1 =>
    rw [items, List.filterMap_append]
    exact statements_append hs hm
  case refine_2 => rw [foldl_apply_append, imports, imports, imports, List.filterMap_append]

theorem compileText_append {imports imports' : List String}
    (ha : (compileText a).result = .ok ⟨imports, s⟩)
    (hb : (compileText b).result = .ok ⟨imports', t⟩) :
    (compileText (a ++ b)).result = .ok ⟨imports ++ imports', s.merge t⟩ := by
  have ⟨d, hd, hdc⟩ := compileText_eq_ok.mp ha
  have ⟨e, he, hec⟩ := compileText_eq_ok.mp hb
  exact compileText_of_spells (spells_append hd he) (compile_append hdc hec)

end Document

namespace Sheet

variable {fs : Files} {base : Location} {a b : String} {s t : Sheet}

-- A text that is read, and that imports nothing.
def ImportFree (text : String) : Prop :=
  ∃ d, Document.parse text = .ok d ∧ d.imports = []

theorem compileText_of_importFree (h : ImportFree a) (hs : (ofText fs base a).result = .ok s) :
    (Document.compileText a).result = .ok ⟨[], s⟩ := by
  have ⟨d, hd, hi⟩ := h
  have ⟨c, hc, hs⟩ := ofText_eq_ok.mp hs
  have ⟨e, he, hec⟩ := Document.compileText_eq_ok.mp hc
  have ⟨sts, _, hsheet⟩ := Document.compile_eq_ok.mp hec
  cases hd.symm.trans he
  cases hsheet
  rw [hi] at hc hs
  cases hs
  exact hc

theorem importFree_of_compileText (h : (Document.compileText a).result = .ok ⟨[], s⟩) :
    ImportFree a := by
  have ⟨d, hd, hc⟩ := Document.compileText_eq_ok.mp h
  have ⟨_, _, he⟩ := Document.compile_eq_ok.mp hc
  exact ⟨d, hd, (congrArg Document.Compiled.imports he).symm⟩

-- Two texts that compile on their own compile as one, and no more is imported. The sheet is that of
-- the first with that of the second merged over it, the same in all styles and in the order of all
-- scopes.
theorem ofText_append (ha : ImportFree a) (hb : ImportFree b)
    (hs : (ofText fs base a).result = .ok s) (ht : (ofText fs base b).result = .ok t) :
    ImportFree (a ++ b) ∧ ∀ fs base, (ofText fs base (a ++ b)).result = .ok (s.merge t) := by
  have h := Document.compileText_append (compileText_of_importFree ha hs)
    (compileText_of_importFree hb ht)
  exact ⟨importFree_of_compileText h, ofText_of_compileText h⟩

-- The texts meet without a blank, and the second has a colour where the first could not have one.
theorem ofText_append_adjoining : ∃ s t,
    (ofText ⟨[]⟩ .root "word{bold:true!important;}rgb{}").result = .ok s ∧
    (ofText ⟨[]⟩ .root "/**/word{bold:false;colour:rgb(1,2,3);}").result = .ok t ∧
    (ofText ⟨[]⟩ .root
      "word{bold:true!important;}rgb{}/**/word{bold:false;colour:rgb(1,2,3);}").result =
      .ok (s.merge t) := by
  have compiles (text : String)
      (h : (Document.compileText text).value?.map (·.imports) = some []) :
      ∃ s, (Document.compileText text).result = .ok ⟨[], s⟩ := by
    have ⟨⟨_, s⟩, hc, hi⟩ := Option.map_eq_some_iff.mp h
    cases hi
    exact ⟨s, Logged.value?_eq_some.mp hc⟩
  have ⟨s, hs⟩ := compiles "word{bold:true!important;}rgb{}" (by decide +kernel)
  have ⟨t, ht⟩ := compiles "/**/word{bold:false;colour:rgb(1,2,3);}" (by decide +kernel)
  have hs' := ofText_of_compileText hs ⟨[]⟩ .root
  have ht' := ofText_of_compileText ht ⟨[]⟩ .root
  refine ⟨s, t, hs', ht', ?_⟩
  have ⟨_, h⟩ := ofText_append (importFree_of_compileText hs) (importFree_of_compileText ht) hs' ht'
  exact h ⟨[]⟩ .root

end Sheet

end Highlight
