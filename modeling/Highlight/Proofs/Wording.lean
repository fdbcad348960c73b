import Highlight.Proofs.Expansion
import Highlight.Proofs.Parsing
import Highlight.Proofs.Scanning

namespace Highlight

namespace Document

variable {α β : Type}

-- Phrases without their marks.
def Part.unmarked (p : Part α) : Part Unit :=
  p.map fun _ => ()

def Chain.unmarked (c : Chain α) : Chain Unit :=
  c.map fun _ => ()

def TopItem.unmarked : TopItem α → TopItem Unit
  | .imports t => .imports t
  | .item i => .item i.unmarked

def unmarked (d : Document α) : Document Unit :=
  d.map TopItem.unmarked

variable {ws : List (Lexeme × α)}

theorem words_cons {l : Lexeme} {ls : List Lexeme} (h : ws.map Prod.fst = l :: ls) :
    ∃ m us, ws = (l, m) :: us ∧ us.map Prod.fst = ls := by
  obtain ⟨⟨_, m⟩, us, rfl, rfl, hu⟩ := List.map_eq_cons_iff.mp h
  exact ⟨m, us, rfl, hu⟩

theorem words_arrow {child : Option β} {ls : List Lexeme}
    (h : ws.map Prod.fst = arrow child ++ ls) :
    ∃ (other : Option α) (us : List (Lexeme × α)), ws = arrowWords other ++ us ∧
      us.map Prod.fst = ls ∧ (other.map fun _ => ()) = child.map fun _ => () := by
  cases child
  case none => exact ⟨none, ws, rfl, h, rfl⟩
  case some =>
    have ⟨m, us, hw, hu⟩ := words_cons h
    exact ⟨some m, us, hw, hu, rfl⟩

-- The words of a phrase can have any marks: the phrase is derived again, with these for its own.

mutual

theorem Part.exists_derives : (p : Part β) → (ws : List (Lexeme × α)) →
    ws.map Prod.fst = p.lexemes → ∃ q : Part α, Derives (.segment q) ws ∧ q.unmarked = p.unmarked
  | .kind child n, ws, h => by
    obtain ⟨other, us, rfl, hu, hc⟩ := words_arrow h
    obtain ⟨m, vs, rfl, hv⟩ := words_cons hu
    cases List.map_eq_nil_iff.mp hv
    exact ⟨.kind other n, .kind m, congrArg (Part.kind · n) hc⟩
  | .dotted child n, ws, h => by
    obtain ⟨other, us, rfl, hu, hc⟩ := words_arrow h
    obtain ⟨l, vs, rfl, hv⟩ := words_cons hu
    obtain ⟨m, ts, rfl, ht⟩ := words_cons hv
    cases List.map_eq_nil_iff.mp ht
    exact ⟨.dotted other n, .dotted l m, congrArg (Part.dotted · n) hc⟩
  | .token child t, ws, h => by
    obtain ⟨other, us, rfl, hu, hc⟩ := words_arrow h
    obtain ⟨m, vs, rfl, hv⟩ := words_cons hu
    cases List.map_eq_nil_iff.mp hv
    exact ⟨.token other t, .token m, congrArg (Part.token · t) hc⟩
  | .pattern child _ t, ws, h => by
    obtain ⟨other, us, rfl, hu, hc⟩ := words_arrow h
    obtain ⟨m, vs, rfl, hv⟩ := words_cons hu
    cases List.map_eq_nil_iff.mp hv
    exact ⟨.pattern other m t, .pattern, congrArg (Part.pattern · () t) hc⟩
  | .branch child _ first rest, ws, h => by
    obtain ⟨other, us, rfl, hu, hc⟩ := words_arrow h
    obtain ⟨mark, vs, rfl, hv⟩ := words_cons hu
    obtain ⟨ts, close, rfl, ht, hclose⟩ := List.map_eq_append_iff.mp hv
    obtain ⟨m, nothing, rfl, hn⟩ := words_cons hclose
    cases List.map_eq_nil_iff.mp hn
    obtain ⟨fs, rs, rfl, hf, hr⟩ := List.map_eq_append_iff.mp ht
    have ⟨q, hq, he⟩ := first.exists_derives fs hf
    have ⟨qs, hqs, hes⟩ := parts_exists_derives rest rs hr
    refine ⟨.branch other mark q qs, ?_, ?_⟩
    case refine_1 =>
      rw [← List.cons_append, ← List.append_assoc]
      exact .branch m (.selector hq hqs)
    case refine_2 =>
      simp only [Part.unmarked, Part.map] at he ⊢
      rw [hc, he, hes]
termination_by structural p => p

theorem parts_exists_derives : (ps : List (Part β)) → (ws : List (Lexeme × α)) →
    ws.map Prod.fst = partsLexemes ps →
    ∃ qs : List (Part α), Derives (.segments qs) ws ∧
      mapParts (fun _ => ()) qs = mapParts (fun _ => ()) ps
  | [], ws, h => by
    cases List.map_eq_nil_iff.mp h
    exact ⟨[], .noSegments, rfl⟩
  | p :: ps, ws, h => by
    obtain ⟨us, vs, rfl, hu, hv⟩ := List.map_eq_append_iff.mp h
    have ⟨q, hq, he⟩ := p.exists_derives us hu
    have ⟨qs, hqs, hes⟩ := parts_exists_derives ps vs hv
    refine ⟨q :: qs, .segments hq hqs, ?_⟩
    rw [mapParts, mapParts, hes]
    exact congrArg (· :: _) he
termination_by structural ps => ps

end

theorem Chain.exists_derives (c : Chain β) (h : ws.map Prod.fst = c.lexemes) :
    ∃ e : Chain α, Derives (.selector e) ws ∧ e.unmarked = c.unmarked := by
  obtain ⟨us, vs, rfl, hu, hv⟩ := List.map_eq_append_iff.mp h
  have ⟨q, hq, he⟩ := c.first.exists_derives us hu
  have ⟨qs, hqs, hes⟩ := parts_exists_derives c.rest vs hv
  refine ⟨⟨q, qs⟩, .selector hq hqs, ?_⟩
  exact congrArg₂ Chain.mk he hes

theorem further_exists_derives (cs : List (Chain β))
    (h : ws.map Prod.fst = cs.flatMap fun c => .comma :: c.lexemes) :
    ∃ es : List (Chain α), Derives (.further es) ws ∧
      es.map Chain.unmarked = cs.map Chain.unmarked := by
  induction cs generalizing ws
  case nil =>
    cases List.map_eq_nil_iff.mp h
    exact ⟨[], .noFurther, rfl⟩
  case cons c cs hi =>
    obtain ⟨us, vs, rfl, hu, hv⟩ := List.map_eq_append_iff.mp h
    obtain ⟨m, ts, rfl, ht⟩ := words_cons hu
    have ⟨e, he, hue⟩ := c.exists_derives ht
    have ⟨es, hes, hues⟩ := hi hv
    exact ⟨e :: es, .further m he hes, congrArg₂ List.cons hue hues⟩

theorem Declaration.exists_derives (d : Declaration β) (h : ws.map Prod.fst = d.lexemes) :
    ∃ e : Declaration α, Derives (.item (.declaration e)) ws ∧
      (Item.declaration e).unmarked = (Item.declaration d).unmarked := by
  obtain ⟨mark, n, valueMark, v, important⟩ := d
  obtain ⟨m, us, rfl, hu⟩ := words_cons h
  obtain ⟨k, vs, rfl, hv⟩ := words_cons hu
  obtain ⟨vm, ts, rfl, ht⟩ := words_cons hv
  cases important
  case false =>
    obtain ⟨l, nothing, rfl, hn⟩ := words_cons ht
    cases List.map_eq_nil_iff.mp hn
    exact ⟨⟨m, n, vm, v, false⟩, .declaration k l, rfl⟩
  case true =>
    obtain ⟨j, rs, rfl, hr⟩ := words_cons ht
    obtain ⟨l, nothing, rfl, hn⟩ := words_cons hr
    cases List.map_eq_nil_iff.mp hn
    exact ⟨⟨m, n, vm, v, true⟩, .important k j l, rfl⟩

mutual

theorem Item.exists_derives : (i : Item β) → (ws : List (Lexeme × α)) →
    ws.map Prod.fst = i.lexemes → ∃ j : Item α, Derives (.item j) ws ∧ j.unmarked = i.unmarked
  | .declaration d, ws, h =>
    have ⟨e, he, hu⟩ := d.exists_derives h
    ⟨.declaration e, he, hu⟩
  | .rule first rest body, ws, h => by
    obtain ⟨us, vs, rfl, hu, hv⟩ := List.map_eq_append_iff.mp h
    obtain ⟨fs, rs, rfl, hf, hr⟩ := List.map_eq_append_iff.mp hu
    obtain ⟨l, ts, rfl, ht⟩ := words_cons hv
    obtain ⟨bs, close, rfl, hb, hclose⟩ := List.map_eq_append_iff.mp ht
    obtain ⟨m, nothing, rfl, hn⟩ := words_cons hclose
    cases List.map_eq_nil_iff.mp hn
    have ⟨c, hc, huc⟩ := first.exists_derives hf
    have ⟨cs, hcs, hucs⟩ := further_exists_derives rest hr
    have ⟨is, his, huis⟩ := body_exists_derives body bs hb
    refine ⟨.rule c cs is, ?_, ?_⟩
    case refine_1 =>
      rw [← List.cons_append, ← List.append_assoc]
      exact .rule l m (.selectors hc hcs) his
    case refine_2 =>
      simp only [Item.unmarked, Item.map]
      exact congr (congrArg₂ Item.rule huc hucs) huis
termination_by structural i => i

theorem body_exists_derives : (is : List (Item β)) → (ws : List (Lexeme × α)) →
    ws.map Prod.fst = itemsLexemes is →
    ∃ js : List (Item α), Derives (.body js) ws ∧
      mapItems (fun _ => ()) js = mapItems (fun _ => ()) is
  | [], ws, h => by
    cases List.map_eq_nil_iff.mp h
    exact ⟨[], .noItems, rfl⟩
  | i :: is, ws, h => by
    obtain ⟨us, vs, rfl, hu, hv⟩ := List.map_eq_append_iff.mp h
    have ⟨j, hj, he⟩ := i.exists_derives us hu
    have ⟨js, hjs, hes⟩ := body_exists_derives is vs hv
    exact ⟨j :: js, .items hj hjs, congrArg₂ List.cons he hes⟩
termination_by structural is => is

end

theorem exists_derives (d : Document β) (h : ws.map Prod.fst = d.lexemes) :
    ∃ e : Document α, Derives (.document e) ws ∧ e.unmarked = d.unmarked := by
  induction d generalizing ws
  case nil =>
    cases List.map_eq_nil_iff.mp h
    exact ⟨[], .nothing, rfl⟩
  case cons i d hi =>
    obtain ⟨us, vs, rfl, hu, hv⟩ := List.map_eq_append_iff.mp h
    have ⟨e, he, hue⟩ := hi hv
    cases i
    case imports t =>
      obtain ⟨k, ts, rfl, ht⟩ := words_cons hu
      obtain ⟨l, rs, rfl, hr⟩ := words_cons ht
      obtain ⟨m, nothing, rfl, hn⟩ := words_cons hr
      cases List.map_eq_nil_iff.mp hn
      exact ⟨.imports t :: e, .imports k l m he, congrArg (_ :: ·) hue⟩
    case item i =>
      have ⟨j, hj, huj⟩ := i.exists_derives us hu
      exact ⟨.item j :: e, .item hj he, congrArg₂ List.cons (congrArg _ huj) hue⟩

variable {text : String} {d e : Document Position}

theorem spells_of_parse (h : parse text = .ok d) : Spells false text.toList d.lexemes := by
  have ⟨hstop, hd⟩ := parse_eq_ok_iff.mp h
  have hl := (ofLexemes?_iff_derives.mp hd).lexemes_eq
  rw [List.map_map] at hl
  exact Spells.iff_ofText.mpr ⟨hstop, hl⟩

theorem parse_of_spells {d : Document β} (h : Spells false text.toList d.lexemes) :
    ∃ e, parse text = .ok e ∧ e.unmarked = d.unmarked := by
  have ⟨hstop, hl⟩ := Spells.iff_ofText.mp h
  have hw : ((Scan.ofText text).tokens.map fun t => (t.lexeme, t.place)).map Prod.fst =
      d.lexemes := by
    rw [List.map_map]
    exact hl
  have ⟨e, he, hu⟩ := exists_derives d hw
  exact ⟨e, parse_eq_ok_iff.mpr ⟨hstop, ofLexemes?_iff_derives.mpr he⟩, hu⟩

theorem imports_of_unmarked (h : d.unmarked = e.unmarked) : d.imports = e.imports := by
  have hi (d : Document Position) : d.imports = d.unmarked.filterMap fun
      | .imports t => some (unquote t)
      | .item _ => none := by
    rw [imports, unmarked, List.filterMap_map]
    congr
    funext i
    cases i <;> rfl
  rw [hi, h, ← hi]

theorem items_of_unmarked (h : d.unmarked = e.unmarked) :
    d.items.map Item.unmarked = e.items.map Item.unmarked := by
  have hi (d : Document Position) : d.items.map Item.unmarked = d.unmarked.filterMap fun
      | .item i => some i
      | .imports _ => none := by
    rw [items, unmarked, List.filterMap_map, List.map_filterMap]
    congr
    funext i
    cases i <;> rfl
  rw [hi, h, ← hi]

theorem compile_of_unmarked {c : Compiled} (h : d.unmarked = e.unmarked)
    (hc : (compile d).result = .ok c) : (compile e).result = .ok c := by
  have ⟨sts, hs, he⟩ := compile_eq_ok.mp hc
  refine compile_eq_ok.mpr ⟨sts, ?_, imports_of_unmarked h ▸ he⟩
  rw [← Logged.value?_eq_some] at hs ⊢
  rw [← value?_statements_of_unmarked (items_of_unmarked h), hs]

theorem compileText_eq_ok {c : Compiled} :
    (compileText text).result = .ok c ↔ ∃ d, parse text = .ok d ∧ (compile d).result = .ok c := by
  unfold compileText
  cases parse text <;> simp

-- A text compiles to what a document compiles to that is written with the same words.
theorem compileText_of_spells {c : Compiled} (h : Spells false text.toList d.lexemes)
    (hc : (compile d).result = .ok c) : (compileText text).result = .ok c := by
  have ⟨e, he, hu⟩ := parse_of_spells h
  exact compileText_eq_ok.mpr ⟨e, he, compile_of_unmarked hu.symm hc⟩

end Document

namespace Sheet

variable {fs : Files} {base : Location} {text : String} {s : Sheet}

theorem ofText_eq_ok : (ofText fs base text).result = .ok s ↔
    ∃ c, (Document.compileText text).result = .ok c ∧
      (c.sheetWith base (load fs [])).result = .ok s := by
  rw [ofText, Logged.bind_eq_ok]
  cases h : (Document.compileText text).result <;> simp [Logged.mapError, h, Except.mapError]

-- Nothing is loaded for a document without imports.
theorem ofText_of_compileText (h : (Document.compileText text).result = .ok ⟨[], s⟩)
    (fs : Files) (base : Location) : (ofText fs base text).result = .ok s :=
  ofText_eq_ok.mpr ⟨_, h, rfl⟩

end Sheet

end Highlight
