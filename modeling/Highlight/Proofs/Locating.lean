import Highlight.Proofs.Faults
import Highlight.Proofs.Spacing

namespace Highlight

open Lexeme

namespace Position

-- The place behind some text: as many lines further as it has line breaks, and as many columns as
-- there are characters after the last of them.
def behind (before : List Char) : Position :=
  ⟨before.count '\n' + 1, (before.reverse.takeWhile (· ≠ '\n')).length + 1⟩

theorem advance_append (p : Position) (cs more : List Char) :
    p.advance (cs ++ more) = (p.advance cs).advance more :=
  List.foldl_append

theorem advance_start (before : List Char) : start.advance before = behind before := by
  induction before using List.reverseRecOn
  case nil => rfl
  case append_singleton before c hi =>
    rw [advance_append, hi, advance, List.foldl_cons, List.foldl_nil, next, behind, behind]
    by_cases hc : c = '\n' <;> simp [hc, List.count_append]

end Position

theorem Gap.of_gapWidth? {cs : List Char} {n : Nat} (h : gapWidth? cs = some n) :
    Gap (cs.take n) := by
  obtain ⟨hn, -⟩ | ⟨body, rest, hb, rfl, rfl⟩ := gapWidth?_eq_some.mp h
  case inl =>
    have blanks {g : List Char} (hg : ∀ c ∈ g, isSpace c) : Gap g := by
      induction g
      case nil => exact .nil
      case cons c g hi =>
        have ⟨hc, hg⟩ := List.forall_mem_cons.mp hg
        exact .blank hc (hi hg)
    exact blanks (Text.le_span_iff.mp hn.ge).right
  case inr =>
    have he : '/' :: '*' :: (body ++ '*' :: '/' :: rest) =
        '/' :: '*' :: (body ++ ['*', '/']) ++ rest := by simp
    rw [he, List.take_left' (by simp)]
    exact .comment hb .nil

namespace Scan

variable {v : Bool} {cs : List Char} {ts more : List Token} {t : Token} {offset : Nat}
  {p : Position}

-- The text before a word spells the words before it, and the word stands right behind that text.
theorem exists_of_tokens (hs : (scanFrom v offset p cs).stop = none)
    (ht : (scanFrom v offset p cs).tokens = ts ++ t :: more) :
    ∃ before rest, cs = before ++ rest ∧ t.place = p.advance before ∧
      Spells v before (ts.map Token.lexeme) ∧ t.lexeme.text.toList <+: rest ∧
      Spells ((ts.map Token.lexeme).foldl inValueAfter v) rest
        (t.lexeme :: more.map Token.lexeme) := by
  fun_induction scanFrom v offset p cs generalizing ts
  case case1 => simp at ht
  case case2 v offset p c cs move n hg hi =>
    obtain ⟨before, rest, he, hp, hb, hl, hr⟩ := hi hs ht
    refine ⟨(c :: cs).take n ++ before, rest, ?_, ?_, (Gap.of_gapWidth? hg).spells hb, hl, hr⟩
    case refine_1 =>
      rw [List.append_assoc, ← he, ← List.drop_cons (gapWidth?_pos hg), List.take_append_drop]
    case refine_2 => rw [hp, Position.advance_append]
  case case3 v offset p c cs move hg l _ hf hi =>
    obtain ⟨rfl, hcs⟩ := text_of_first? hf
    obtain ⟨_, hw, hl⟩ := width?_of_first? hf
    have hdrop : cs.drop (l.text.length - 1) = (c :: cs).drop l.text.length :=
      (List.drop_cons (width?_bounds hw).left).symm
    have hrest := Spells.of_lexemes? (lexemes?_eq_some.mpr ⟨hs, rfl⟩)
    rw [← hdrop] at hcs
    cases ts
    case nil =>
      cases ht
      refine ⟨[], c :: cs, rfl, rfl, .nil, ⟨_, hcs.symm⟩, ?_⟩
      exact Spells.of_first? hf (hdrop ▸ hrest)
    case cons u ts =>
      obtain ⟨hu, htail⟩ := List.cons.inj ht
      subst hu
      obtain ⟨before, rest, he, hp, hb, hl', hr⟩ := hi hs htail
      rw [hcs] at hf
      refine ⟨l.text.toList ++ before, rest, ?_, ?_, .word (first?_replace hf ?_) hb, hl', hr⟩
      case refine_1 => rw [hcs, he, List.append_assoc]
      case refine_2 => rw [hp, Position.advance_append, hl]
      case refine_3 =>
        -- What follows the word in the text before is what follows it in the whole text.
        intro _ d hd
        have hd : d ∈ (cs.drop (l.text.length - 1)).head? := by
          rw [he, List.head?_append, Option.mem_def.mp hd]
          rfl
        obtain ⟨e, _, hde, hne⟩ := hrest.exists_head (by simp [htail])
        rw [hde] at hd ⊢
        cases hd
        exact ⟨hne, .inr rfl⟩
  case case4 => cases hs

end Scan

namespace Document

variable {α : Type} {us vs ws : List (Lexeme × α)} {c : Construct α}

namespace Construct

-- The words of the construct are among the words, and its mark is that of the first of them.
def Within (c : Construct α) (ws : List (Lexeme × α)) : Prop :=
  ∃ us l vs xs, ws = us ++ (l, c.mark) :: (vs ++ xs) ∧ c.lexemes = l :: vs.map Prod.fst

theorem Within.all {l : Lexeme} (h : c.lexemes = l :: ws.map Prod.fst) :
    c.Within ((l, c.mark) :: ws) :=
  ⟨[], l, ws, [], by simp, h⟩

theorem Within.before (us : List (Lexeme × α)) (h : c.Within ws) : c.Within (us ++ ws) := by
  obtain ⟨us', l, vs, xs, rfl, hl⟩ := h
  exact ⟨us ++ us', l, vs, xs, by simp, hl⟩

theorem Within.after (vs : List (Lexeme × α)) (h : c.Within ws) : c.Within (ws ++ vs) := by
  obtain ⟨us, l, vs', xs, rfl, hl⟩ := h
  exact ⟨us, l, vs', xs ++ vs, by simp, hl⟩

end Construct

theorem within_childConstructs {child : Option α} {p : Part α}
    (h : Derives (.segment p) (arrowWords child ++ us)) :
    ∀ c ∈ childConstructs child p, c.Within (arrowWords child ++ us) := by
  intro c hc
  cases child <;> cases hc
  case some.head m =>
    refine Construct.Within.all (l := .greater) ?_
    exact h.lexemes_eq.symm
  case some.tail h => cases h

def Phrase.constructs : Phrase α → List (Construct α)
  | document d => d.constructs
  | body is => itemsConstructs is
  | item i => i.constructs
  | selectors c cs => c.constructs ++ cs.flatMap Chain.constructs
  | further cs => cs.flatMap Chain.constructs
  | selector c => c.constructs
  | segments ps => partsConstructs ps
  | segment p => p.constructs

-- By induction on the derivation: the words of a phrase hold those of its parts, in order.
theorem Derives.within {p : Phrase α} (h : Derives p ws) : ∀ c ∈ p.constructs, c.Within ws := by
  have both {cs ds : List (Construct α)} {us vs : List (Lexeme × α)}
      (hc : ∀ c ∈ cs, c.Within us) (hd : ∀ c ∈ ds, c.Within vs) :
      ∀ c ∈ cs ++ ds, c.Within (us ++ vs) := by
    intro c hm
    obtain hm | hm := List.mem_append.mp hm
    · exact (hc c hm).after vs
    · exact (hd c hm).before us
  induction h
  case nothing | noItems | noFurther | noSegments => exact List.forall_mem_nil _
  case imports k l m t _ _ _ hi =>
    exact fun c hc => (hi c hc).before [(.importMark, k), (.string t, l), (.semicolon, m)]
  case item hi hd | items hi hd | selectors hi hd | selector hi hd | segments hi hd =>
    exact both hi hd
  case further m _ _ _ _ _ _ hi hd =>
    exact fun c hc => (both hi hd c hc).before [(.comma, m)]
  case declaration l m mark valueMark n v =>
    refine List.forall_mem_cons.mpr ⟨?_, List.forall_mem_singleton.mpr (.all rfl)⟩
    exact ⟨[(.name n, mark), (.colon, l)], v.lexeme, [], [(.semicolon, m)], rfl, rfl⟩
  case important k l m mark valueMark n v =>
    refine List.forall_mem_cons.mpr ⟨?_, List.forall_mem_singleton.mpr (.all rfl)⟩
    exact ⟨[(.name n, mark), (.colon, k)], v.lexeme, [], [(.important, l), (.semicolon, m)], rfl,
      rfl⟩
  case rule l m _ _ _ us vs _ _ hs hb =>
    intro c hc
    rw [Phrase.constructs, Item.constructs, ← List.append_assoc] at hc
    exact (both hs (fun c hc => (hb c hc).before [(.leftBrace, l)]) c hc).after [(.rightBrace, m)]
  case kind m _ _ => exact within_childConstructs (.kind m)
  case dotted l m _ _ => exact within_childConstructs (.dotted l m)
  case token m _ _ => exact within_childConstructs (.token m)
  case pattern child mark t =>
    intro c hc
    rw [Phrase.constructs, Part.constructs] at hc
    obtain hc | hc := List.mem_append.mp hc
    · cases List.mem_singleton.mp hc
      exact .before _ (.all rfl)
    · exact within_childConstructs .pattern c hc
  case branch m child mark p ps ws h hi =>
    intro c hc
    rw [Phrase.constructs, Part.constructs, ← List.append_assoc, List.mem_append,
      List.singleton_append, List.mem_cons] at hc
    rw [List.append_assoc]
    obtain hc | rfl | hc := hc
    · exact .before _ (.before [(.leftBracket, mark)] ((hi c hc).after [(.rightBracket, m)]))
    · refine .before _ (.all ?_)
      have hl := h.lexemes_eq
      simp_all [Construct.lexemes, partsLexemes, Phrase.lexemes, Chain.lexemes]
    · exact within_childConstructs (List.append_assoc .. ▸ .branch m h) c hc

-- The construct is a part of the document that is written in the text. What is before it in the
-- text spells the words before it, and right behind that its first word stands, where its mark is.
def Construct.StandsIn (c : Construct Position) (d : Document Position) (text : String) : Prop :=
  ∃ before rest us xs l ls,
    text.toList = before ++ (l.text.toList ++ rest) ∧ c.mark = Position.behind before ∧
    c.lexemes = l :: ls ∧ d.lexemes = us ++ (c.lexemes ++ xs) ∧ Spells false before us ∧
    Spells (us.foldl inValueAfter false) (l.text.toList ++ rest) (c.lexemes ++ xs)

variable {text : String} {d : Document Position}

theorem standsIn_of_parse (h : parse text = .ok d) {c : Construct Position}
    (hc : c ∈ d.constructs) : c.StandsIn d text := by
  have ⟨hstop, hd⟩ := parse_eq_ok_iff.mp h
  have hd := ofLexemes?_iff_derives.mp hd
  obtain ⟨us, l, vs, xs, hw, hl⟩ := hd.within c hc
  obtain ⟨ts, rest, htokens, rfl, hrest⟩ := List.map_eq_append_iff.mp hw
  obtain ⟨t, more, rfl, ht, hmore⟩ := List.map_eq_cons_iff.mp hrest
  have ⟨htl, htp⟩ := Prod.mk.inj ht
  obtain ⟨before, after, he, hp, hb, ⟨after', rfl⟩, ha⟩ := Scan.exists_of_tokens hstop htokens
  have hwords : t.lexeme :: more.map Token.lexeme = c.lexemes ++ xs.map Prod.fst := by
    rw [hl, htl, List.cons_append, ← List.map_append, ← hmore, List.map_map]
    rfl
  refine ⟨before, after', ts.map Token.lexeme, xs.map Prod.fst, l, vs.map Prod.fst, ?_, ?_, hl, ?_,
    hb, ?_⟩
  case refine_1 => rw [he, htl]
  case refine_2 => rw [← htp, hp, Position.advance_start]
  case refine_3 =>
    have hlexemes := hd.lexemes_eq
    rw [List.map_map, htokens] at hlexemes
    rw [← hwords, ← show _ = d.lexemes from hlexemes, List.map_append]
    rfl
  case refine_4 => rwa [← hwords, ← htl]

-- The words of the text are derived from a document.
def Grammatical (text : String) : Prop :=
  ∃ ws : List (Lexeme × Unit), Spells false text.toList (ws.map Prod.fst) ∧
    ∃ d, Derives (.document d) ws

theorem grammatical_iff : Grammatical text ↔ ∃ d, parse text = .ok d := by
  constructor
  case mp =>
    intro ⟨ws, hs, d, hd⟩
    rw [hd.lexemes_eq] at hs
    have ⟨e, he, _⟩ := parse_of_spells hs
    exact ⟨e, he⟩
  case mpr =>
    intro ⟨d, hd⟩
    have hw : (d.lexemes.map fun l => (l, ())).map Prod.fst = d.lexemes := by
      simp [Function.comp_def]
    have ⟨e, he, _⟩ := exists_derives d hw
    refine ⟨_, ?_, e, he⟩
    rw [hw]
    exact spells_of_parse hd

theorem error?_compileText_of_ok (h : parse text = .ok d) :
    (compileText text).error? = d.constructs.findSome? Construct.problem? := by
  rw [compileText, h]
  exact d.error?_compile

theorem error?_compileText_of_error {m : Misread} (h : parse text = .error m) :
    (compileText text).error? = some (Problem.located (.misread m) m.position) := by
  rw [compileText, h]
  rfl

end Document

namespace Sheet

open Document (parse Grammatical Construct compileText error?_compileText_of_ok
  error?_compileText_of_error)

variable {fs : Files} {base : Location} {text : String}

-- Without imports a text fails only where it fails to compile.
theorem error?_ofText (hi : ∀ d, parse text = .ok d → d.imports = []) :
    (ofText fs base text).error? = (compileText text).error?.map .problem := by
  have hm : ((compileText text).mapError LoadError.problem).error? =
      (compileText text).error?.map .problem := by
    unfold Logged.error? Logged.mapError
    cases (compileText text).result <;> rfl
  have imported (c : Document.Compiled)
      (hc : ((compileText text).mapError LoadError.problem).result = .ok c) :
      (c.sheetWith base (load fs [])).error? = none := by
    have ⟨d, hd, hcd⟩ := Document.compileText_eq_ok.mp (Document.mapError_eq_ok.mp hc)
    obtain ⟨_, _, rfl⟩ := Document.compile_eq_ok.mp hcd
    rw [Document.Compiled.sheetWith, hi d hd]
    rfl
  rw [ofText, Logged.error?_bind imported, hm, Option.or_none]

theorem ofText_eq_error {d : Document Position} {e : LoadError} (hd : parse text = .ok d)
    (hi : d.imports = []) : (ofText fs base text).result = .error e ↔
      ∃ earlier c later cause, d.constructs = earlier ++ c :: later ∧
        (∀ b ∈ earlier, b.fault? = none) ∧ c.fault? = some cause ∧ c.StandsIn d text ∧
        e = .problem (Problem.located cause c.mark) := by
  have hi : ∀ e, parse text = .ok e → e.imports = [] := fun e he => by
    cases hd.symm.trans he
    exact hi
  rw [← Logged.error?_eq_some, error?_ofText hi, error?_compileText_of_ok hd,
    Option.map_eq_some_iff]
  constructor
  case mp =>
    rintro ⟨p, hp, rfl⟩
    have ⟨earlier, c, later, he, hc, hb⟩ := List.findSome?_eq_some_iff.mp hp
    have ⟨cause, hf, hp⟩ := Option.map_eq_some_iff.mp hc
    refine ⟨earlier, c, later, cause, he, fun b hm => Option.map_eq_none_iff.mp (hb b hm), hf, ?_,
      hp ▸ rfl⟩
    exact Document.standsIn_of_parse hd (by simp [he])
  case mpr =>
    rintro ⟨earlier, c, later, cause, he, hb, hf, -, rfl⟩
    refine ⟨_, List.findSome?_eq_some_iff.mpr ⟨earlier, c, later, he, ?_, fun b hm => ?_⟩, rfl⟩
    · rw [Construct.problem?, hf]
      rfl
    · rw [Construct.problem?, hb b hm]
      rfl

-- A text without imports is reported as ungrammatical just if it is. Otherwise it fails just if a
-- construct in it is at fault, and then with the fault of the first such construct, each construct
-- being after those inside it, and at the place of its first word.
theorem ofText_faults (fs : Files) (base : Location) (text : String)
    (hi : ∀ d, parse text = .ok d → d.imports = []) :
    ((∃ p, (ofText fs base text).result = .error (.problem p) ∧ p.kind = .parse) ↔
      ¬Grammatical text) ∧
    (Grammatical text → ∃ d, parse text = .ok d ∧
      ((∃ e, (ofText fs base text).result = .error e) ↔
        ∃ c ∈ d.constructs, ∃ cause, c.fault? = some cause) ∧
      ∀ e, (ofText fs base text).result = .error e ↔
        ∃ earlier c later cause, d.constructs = earlier ++ c :: later ∧
          (∀ b ∈ earlier, b.fault? = none) ∧ c.fault? = some cause ∧ c.StandsIn d text ∧
          e = .problem (Problem.located cause c.mark)) := by
  constructor
  case left =>
    rw [Document.grammatical_iff]
    constructor
    case mp =>
      rintro ⟨p, hp, hk⟩ ⟨d, hd⟩
      obtain ⟨_, c, _, cause, -, -, hf, -, hpc⟩ := (ofText_eq_error hd (hi d hd)).mp hp
      cases hpc
      exact Construct.kind_of_fault? hf hk
    case mpr =>
      intro hn
      cases hm : parse text
      case ok d => exact absurd ⟨d, hm⟩ hn
      case error m =>
        refine ⟨Problem.located (.misread m) m.position, Logged.error?_eq_some.mp ?_, rfl⟩
        rw [error?_ofText hi, error?_compileText_of_error hm]
        rfl
  case right =>
    intro hg
    have ⟨d, hd⟩ := Document.grammatical_iff.mp hg
    refine ⟨d, hd, ?_, fun e => ofText_eq_error hd (hi d hd)⟩
    rw [← Logged.isSome_error?, error?_ofText hi, error?_compileText_of_ok hd, Option.isSome_map,
      List.findSome?_isSome_iff]
    simp [Construct.problem?, Option.isSome_iff_exists]

-- A pattern at fault, in a branch check with a dot, after a `>`, before a declaration at fault.
def muddled : String :=
  "call \x7b\n  > [name. /(/] \x7b bold: 1; \x7d\n\x7d"

theorem ofText_faults_muddled : ∃ d earlier c later cause,
    parse muddled = .ok d ∧ d.constructs = earlier ++ c :: later ∧
    (∀ b ∈ earlier, b.fault? = none) ∧ c.fault? = some cause ∧ cause.kind = .pattern "(" ∧
    c.StandsIn d muddled ∧ c.mark = ⟨2, 12⟩ ∧
    (ofText ⟨[]⟩ .root muddled).result = .error (.problem (Problem.located cause c.mark)) := by
  have imports : (parse muddled).toOption.map (·.imports) = some [] := by decide +kernel
  obtain ⟨d, hd, hn⟩ := Option.map_eq_some_iff.mp imports
  rw [Logged.toOption_eq_some] at hd
  have hi : ∀ e, parse muddled = .ok e → e.imports = [] := fun e he => by
    cases hd.symm.trans he
    exact hn
  have reported : (compileText muddled).error?.map (fun p => (p.kind, p.line, p.column)) =
      some (.pattern "(", some 2, some 12) := by
    decide +kernel
  obtain ⟨p, hp, hplace⟩ := Option.map_eq_some_iff.mp reported
  have hr : (ofText ⟨[]⟩ .root muddled).result = .error (.problem p) := by
    rw [← Logged.error?_eq_some, error?_ofText hi, hp]
    rfl
  obtain ⟨-, faults⟩ := ofText_faults ⟨[]⟩ .root muddled hi
  obtain ⟨d, hd, -, herror⟩ := faults (Document.grammatical_iff.mpr ⟨d, hd⟩)
  obtain ⟨earlier, c, later, cause, hs, hb, hf, hc, hpc⟩ := (herror _).mp hr
  cases hpc
  simp only [Problem.located, Problem.kind, Prod.mk.injEq, Option.some.injEq] at hplace
  obtain ⟨hk, hl, hcolumn⟩ := hplace
  have hm : c.mark = ⟨2, 12⟩ := by
    cases hm : c.mark
    simp only [hm] at hl hcolumn
    congr <;> omega
  exact ⟨d, earlier, c, later, cause, hd, hs, hb, hf, hk, hc, hm, hr⟩

end Sheet

end Highlight
