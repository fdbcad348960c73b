import Highlight.Proofs.Reading

namespace Highlight

namespace Document

variable {α : Type}

-- What reading the words of a phrase does: it adds the phrase to what has been read, wherever the
-- phrase may stand. After a segment a dot may follow or not.
def Phrase.Passed : Phrase α → List (Lexeme × α) → Prop
  | document d, ws => ∀ s : State α, s.blocks = [] → s.focus = .item →
    after? State.step s ws = some { s with done := d.reverse ++ s.done }
  | body is, ws => ∀ (s : State α) (b : Block α) (bs : List (Block α)),
    s.blocks = b :: bs → s.focus = .item →
    after? State.step s ws = some { s with
      blocks := { b with items := is.reverse ++ b.items } :: bs }
  | item i, ws => ∀ s : State α, s.focus = .item → after? State.step s ws = some (s.push i)
  | selectors c cs, ws => ∃ t, after? Selecting.step .start ws = some t ∧ t.finish? = some (c, cs)
  | further cs, ws => ∀ (s : Selecting α) (last c : Chain α) (rest : List (Chain α)),
    s.brackets = [] → s.chain? = some last → s.finished.reverse ++ last :: cs = c :: rest →
    ∃ t, after? Selecting.step s ws = some t ∧ t.finish? = some (c, rest)
  | selector c, ws => ∀ s : Selecting α, s.child = none →
    ∃ mayDot, after? Selecting.step s ws = some { s with
      parts := (c.first :: c.rest).reverse ++ s.parts
      mayDot }
  | segments ps, ws => ∀ s : Selecting α, s.child = none →
    ∃ mayDot, after? Selecting.step s ws = some { s with parts := ps.reverse ++ s.parts, mayDot }
  | segment p, ws => ∀ s : Selecting α, s.child = none →
    ∃ mayDot, after? Selecting.step s ws = some { s with parts := p :: s.parts, mayDot }

namespace Selecting

variable {s t : Selecting α}

theorem after?_arrowWords (child : Option α) (hc : s.child = none) :
    ∃ mayDot, after? step s (arrowWords child) = some { s with child, mayDot } := by
  cases child
  case none => exact ⟨s.mayDot, by simp [arrowWords, ← hc]⟩
  case some m => exact ⟨false, by simp [arrowWords, step, hc]⟩

-- An atom takes the `>` before it.
theorem passed_segment {child : Option α} {p : Part α} {us : List (Lexeme × α)}
    (h : ∀ s : Selecting α, s.child = child →
      ∃ mayDot, after? step s us = some (s.push p mayDot)) :
    Phrase.Passed (.segment p) (arrowWords child ++ us) := by
  intro s hc
  have ⟨bare, ha⟩ := after?_arrowWords child hc
  have ⟨mayDot, hs⟩ := h { s with child, mayDot := bare } rfl
  exact ⟨mayDot, by rw [after?_append, ha, Option.bind_some, hs, push, hc]⟩

theorem passed_branch {child : Option α} {mark m : α} {p : Part α} {ps : List (Part α)}
    {ws : List (Lexeme × α)} (h : Phrase.Passed (.selector ⟨p, ps⟩) ws) :
    Phrase.Passed (.segment (.branch child mark p ps))
      (arrowWords child ++ (.leftBracket, mark) :: ws ++ [(.rightBracket, m)]) := by
  rw [List.append_assoc]
  refine passed_segment fun s hc => ⟨false, ?_⟩
  subst hc
  have ⟨bare, hs⟩ := h ⟨s.finished, ⟨s.parts, s.child, mark⟩ :: s.brackets, [], none, false⟩ rfl
  simp [step, hs, chain?, push]

theorem passed_further {m : α} {c : Chain α} {cs : List (Chain α)} {us vs : List (Lexeme × α)}
    (hc : Phrase.Passed (.selector c) us) (hcs : Phrase.Passed (.further cs) vs) :
    Phrase.Passed (.further (c :: cs)) ((.comma, m) :: us ++ vs) := by
  intro s last first rest hb hl he
  have ⟨bare, hs⟩ := hc { start with finished := last :: s.finished } rfl
  have ⟨t, ht, hf⟩ := hcs ⟨last :: s.finished, [], (c.first :: c.rest).reverse, none, bare⟩ c first
    rest rfl (chain?_eq_some.mpr ⟨rfl, List.reverse_reverse _⟩) (by simpa using he)
  refine ⟨t, ?_, hf⟩
  have hcomma : s.step .comma m = some { start with finished := last :: s.finished } := by
    simp [step, hb, hl]
  rw [List.cons_append, after?_cons, hcomma, Option.bind_some, after?_append, hs]
  simpa [start] using ht

theorem passed_selectors {c : Chain α} {cs : List (Chain α)} {us vs : List (Lexeme × α)}
    (hc : Phrase.Passed (.selector c) us) (hcs : Phrase.Passed (.further cs) vs) :
    Phrase.Passed (.selectors c cs) (us ++ vs) := by
  have ⟨bare, hs⟩ := hc start rfl
  have ⟨t, ht, hf⟩ := hcs ⟨[], [], (c.first :: c.rest).reverse, none, bare⟩ c c cs rfl
    (chain?_eq_some.mpr ⟨rfl, List.reverse_reverse _⟩) rfl
  refine ⟨t, ?_, hf⟩
  rw [after?_append, hs]
  simpa [start] using ht

end Selecting

-- The selectors that are read where the focus is. A name alone may also be the property of a
-- declaration, and nothing at all may be the beginning of any item.
def Focus.selecting? : Focus α → Option (Selecting α)
  | item => some .start
  | named _ n => some (Selecting.start.push (.kind none n) true)
  | selecting sel => some sel
  | _ => none

namespace State

variable {s t : State α} {sel sel' : Selecting α}

theorem stepSelecting_of_step {l : Lexeme} {m : α} (h : sel.step l m = some sel') :
    s.stepSelecting sel l m = some { s with focus := .selecting sel' } := by
  cases l
  case leftBrace => cases h
  all_goals simp [stepSelecting, h]

-- A word that goes on with selectors does so whatever else the words before it could have been.
theorem step_of_selecting {l : Lexeme} {m : α} (hf : s.focus.selecting? = some sel)
    (h : sel.step l m = some sel') :
    ∃ f, s.step l m = some { s with focus := f } ∧ f.selecting? = some sel' := by
  have hsel := stepSelecting_of_step (s := s) h
  unfold step
  cases he : s.focus <;> rw [he] at hf <;> cases hf
  case item =>
    cases l
    case name n =>
      cases h
      exact ⟨.named m n, rfl, rfl⟩
    case string | regex | greater | leftBracket => exact ⟨_, hsel, rfl⟩
    -- No other word begins a selector.
    all_goals cases h
  case named =>
    cases l
    -- The one word that would make the name a property is not part of any selector.
    case colon => cases h
    all_goals exact ⟨_, hsel, rfl⟩
  case selecting => exact ⟨_, hsel, rfl⟩

theorem after?_of_selecting {ws : List (Lexeme × α)} (hf : s.focus.selecting? = some sel)
    (h : after? Selecting.step sel ws = some sel') :
    ∃ f, after? step s ws = some { s with focus := f } ∧ f.selecting? = some sel' := by
  induction ws generalizing s sel
  case nil =>
    cases h
    exact ⟨s.focus, rfl, hf⟩
  case cons w ws hi =>
    have ⟨next, hw, h⟩ := Option.bind_eq_some_iff.mp h
    have ⟨f, hs, hf⟩ := step_of_selecting hf hw
    have ⟨g, hg, hsel⟩ := hi (s := { s with focus := f }) hf h
    exact ⟨g, by rw [after?_cons, hs]; exact hg, hsel⟩

theorem step_leftBrace {m : α} {c : Chain α} {cs : List (Chain α)}
    (hf : s.focus.selecting? = some sel) (h : sel.finish? = some (c, cs)) :
    s.step .leftBrace m = some ⟨s.done, ⟨c, cs, []⟩ :: s.blocks, .item⟩ := by
  unfold step
  cases he : s.focus <;> rw [he] at hf <;> cases hf
  case item => cases h
  case named => simp [stepSelecting, h]
  case selecting => simp [stepSelecting, h]

theorem passed_rule {l m : α} {c : Chain α} {cs : List (Chain α)} {is : List (Item α)}
    {us vs : List (Lexeme × α)} (hc : Phrase.Passed (.selectors c cs) us)
    (hb : Phrase.Passed (.body is) vs) :
    Phrase.Passed (.item (.rule c cs is)) (us ++ (.leftBrace, l) :: vs ++ [(.rightBrace, m)]) := by
  intro ⟨done, blocks, focus⟩ hf
  cases hf
  have ⟨sel, hsel, hfinish⟩ := hc
  have ⟨f, hs, hf⟩ := after?_of_selecting (s := ⟨done, blocks, .item⟩) rfl hsel
  have hbrace := step_leftBrace (s := ⟨done, blocks, f⟩) (m := l) hf hfinish
  have hbody := hb ⟨done, ⟨c, cs, []⟩ :: blocks, .item⟩ _ _ rfl rfl
  simp only [after?_append, hs, Option.bind_some, after?_cons, hbrace, hbody]
  simp [step]

end State

-- The words of every phrase take the reader past it, by one case for each production.
theorem Derives.passed {p : Phrase α} {ws : List (Lexeme × α)} (h : Derives p ws) :
    p.Passed ws := by
  induction h
  case nothing => exact fun _ _ _ => rfl
  case imports k l m t d ws _ hi =>
    rintro ⟨done, blocks, focus⟩ hb hf
    cases hb
    cases hf
    simp [State.step, hi ⟨.imports t :: done, [], .item⟩ rfl rfl]
  case item i d us vs _ _ hi hd =>
    rintro ⟨done, blocks, focus⟩ hb hf
    cases hb
    cases hf
    simp [hi ⟨done, [], .item⟩ rfl, State.push, hd ⟨.item i :: done, [], .item⟩ rfl rfl]
  case declaration | important =>
    rintro ⟨done, blocks, focus⟩ hf
    cases hf
    simp [State.step, Value.ofLexeme?_eq_some.mpr rfl, State.push]
  case rule hc hb => exact State.passed_rule hc hb
  case noItems =>
    rintro ⟨done, blocks, focus⟩ b bs hb hf
    cases hb
    cases hf
    rfl
  case items i is us vs _ _ hi his =>
    rintro ⟨done, blocks, focus⟩ b bs hb hf
    cases hb
    cases hf
    have hbody := his ⟨done, { b with items := i :: b.items } :: bs, .item⟩ _ _ rfl rfl
    simp [hi ⟨done, b :: bs, .item⟩ rfl, State.push, hbody]
  case selectors hc hcs => exact Selecting.passed_selectors hc hcs
  case noFurther =>
    intro s last c rest hb hl he
    exact ⟨s, rfl, Selecting.finish?_eq_some.mpr ⟨hb, last, hl, he⟩⟩
  case further hc hcs => exact Selecting.passed_further hc hcs
  case noSegments =>
    intro s hc
    exact ⟨s.mayDot, rfl⟩
  case selector p ps us vs _ _ hp hps | segments p ps us vs _ _ hp hps =>
    intro s hc
    obtain ⟨bare, hs⟩ := hp s hc
    obtain ⟨mayDot, ht⟩ := hps { s with parts := p :: s.parts, mayDot := bare } hc
    exact ⟨mayDot, by simp [hs, ht]⟩
  case kind =>
    refine Selecting.passed_segment fun s hc => ⟨true, ?_⟩
    subst hc
    rfl
  case dotted | token | pattern =>
    refine Selecting.passed_segment fun s hc => ⟨false, ?_⟩
    subst hc
    rfl
  case branch h => exact Selecting.passed_branch h

theorem ofLexemes?_iff_derives {ws : List (Lexeme × α)} {d : Document α} :
    ofLexemes? ws = some d ↔ Derives (.document d) ws := by
  constructor
  case mp => exact derives_of_ofLexemes?
  case mpr =>
    intro h
    have hs := h.passed State.start rfl rfl
    exact ofLexemes?_eq_some.mpr ⟨_, hs, by simp [State.finish?, State.start]⟩

-- A text is read if all of it is words, and these are words of a document.
theorem parse_eq_ok_iff {text : String} {d : Document Position} :
    parse text = .ok d ↔ (Scan.ofText text).stop = none ∧
      ofLexemes? ((Scan.ofText text).tokens.map fun t => (t.lexeme, t.place)) = some d := by
  unfold parse ofLexemes?
  dsimp only
  split
  case h_1 h => simp [h]
  case h_2 s h =>
    rw [h]
    cases (Scan.ofText text).stop
    case some => simp
    case none => cases hf : s.finish? <;> simp [hf]

-- Words are read as a document if and only if the grammar derives them from it. They are derived
-- from one document at most, and in one way: each phrase determines which words are its own. A
-- document is written as words from which it is read back, and words that are read are what the
-- document is written as.
theorem ofLexemes?_grammar (ws : List (Lexeme × α)) :
    (∀ d, ofLexemes? ws = some d ↔ Derives (.document d) ws) ∧
    (∀ d e, Derives (.document d) ws → Derives (.document e) ws → d = e) ∧
    (∀ (p : Phrase α) us vs us' vs', Derives p us → Derives p us' → us ++ vs = us' ++ vs' →
      us = us' ∧ vs = vs') ∧
    (∀ d, ofLexemes? ws = some d → ws.map Prod.fst = d.lexemes) ∧
    (Nonempty α → ∀ d : Document α, ∃ us, us.map Prod.fst = d.lexemes ∧ ofLexemes? us = some d) ∧
    (∀ d : Document Unit, ofLexemes? (d.lexemes.map fun l => (l, ())) = some d) ∧
    ∀ text d, parse text = .ok d ↔ (Scan.ofText text).stop = none ∧
      Derives (.document d) ((Scan.ofText text).tokens.map fun t => (t.lexeme, t.place)) := by
  refine ⟨fun d => ofLexemes?_iff_derives, fun d e hd he => ?_,
    fun p us vs us' vs' h h' he => h.append_inj h' he, fun d h => ?_, fun ⟨m⟩ d => ?_,
    fun d => ?_, fun text d => ?_⟩
  case refine_1 =>
    rw [← ofLexemes?_iff_derives] at hd he
    exact Option.some.inj (hd.symm.trans he)
  case refine_2 => exact (ofLexemes?_iff_derives.mp h).lexemes_eq
  case refine_3 =>
    have ⟨us, hu⟩ := document_derives m d
    exact ⟨us, hu.lexemes_eq, ofLexemes?_iff_derives.mpr hu⟩
  case refine_4 =>
    have ⟨us, hu⟩ := document_derives () d
    have he : us = d.lexemes.map fun l => (l, ()) := by
      rw [← show us.map Prod.fst = d.lexemes from hu.lexemes_eq, List.map_map]
      exact (List.map_id us).symm
    exact ofLexemes?_iff_derives.mpr (he ▸ hu)
  case refine_5 => rw [parse_eq_ok_iff, ofLexemes?_iff_derives]

-- A rule for a name with a dot and for a name after a branch check, with a rule nested in it.
def written : Document Unit := [
  .imports "\"base\"",
  .item (.rule ⟨.dotted none "call", []⟩
    [⟨.branch none () (.token (some ()) "\"async\"") [], [.kind (some ()) "name"]⟩] [
    .declaration ⟨(), "bold", (), .name "true", true⟩,
    .rule ⟨.pattern none () "/x/", []⟩ [] []])]

theorem ofLexemes?_grammar_written :
    written.lexemes = [.importMark, .string "\"base\"", .semicolon, .name "call", .dot, .comma,
      .leftBracket, .greater, .string "\"async\"", .rightBracket, .greater, .name "name",
      .leftBrace, .name "bold", .colon, .name "true", .important, .semicolon, .regex "/x/",
      .leftBrace, .rightBrace, .rightBrace] ∧
    ofLexemes? (written.lexemes.map fun l => (l, ())) = some written ∧
    ∀ d, Derives (.document d) (written.lexemes.map fun l => (l, ())) → d = written := by
  have ⟨hd, hu, _, _, _, hw, _⟩ := ofLexemes?_grammar (written.lexemes.map fun l => (l, ()))
  exact ⟨rfl, hw written, fun d h => hu d written h ((hd written).mp (hw written))⟩

end Document

end Highlight
