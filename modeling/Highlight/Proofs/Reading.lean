import Highlight.Proofs.Derivation

namespace Highlight

namespace Document

variable {α : Type}

theorem Value.ofLexeme?_eq_some {l : Lexeme} {v : Value} :
    ofLexeme? l = some v ↔ v.lexeme = l := by
  cases l <;> cases v <;> simp [ofLexeme?, lexeme, eq_comm]

-- Where words lead, if none of them is out of place.
def after? {σ : Type} (step : σ → Lexeme → α → Option σ) (s : σ) (ws : List (Lexeme × α)) :
    Option σ :=
  ws.foldlM (fun s w => step s w.1 w.2) s

section After

variable {σ : Type} {step : σ → Lexeme → α → Option σ} {s : σ}

@[simp] theorem after?_nil : after? step s [] = some s := rfl

@[simp] theorem after?_cons {w : Lexeme × α} {ws : List (Lexeme × α)} :
    after? step s (w :: ws) = (step s w.1 w.2).bind (after? step · ws) := rfl

@[simp] theorem after?_append {us vs : List (Lexeme × α)} :
    after? step s (us ++ vs) = (after? step s us).bind (after? step · vs) :=
  List.foldlM_append

end After

namespace Selecting

variable {s t : Selecting α} {ws : List (Lexeme × α)}

theorem chain?_eq_some {c : Chain α} :
    s.chain? = some c ↔ s.child = none ∧ s.parts.reverse = c.first :: c.rest := by
  rw [chain?]
  cases hc : s.child
  case some => simp
  case none =>
    cases hp : s.parts.reverse
    case nil => simp
    case cons p ps => cases c; simp

theorem finish?_eq_some {c : Chain α} {cs : List (Chain α)} :
    s.finish? = some (c, cs) ↔
      s.brackets = [] ∧ ∃ last, s.chain? = some last ∧ s.finished.reverse ++ [last] = c :: cs := by
  rw [finish?]
  cases hb : s.brackets
  case cons => simp
  case nil =>
    cases hc : s.chain?
    case none => simp
    case some last =>
      cases hf : s.finished.reverse <;> simp

-- The words of selectors that a comma has ended, the last one first.
inductive Finished : List (Chain α) → List (Lexeme × α) → Prop
  | nil : Finished [] []
  | cons (m : α) {c : Chain α} {cs : List (Chain α)} {us vs : List (Lexeme × α)} :
    Finished cs us → Derives (.selector c) vs → Finished (c :: cs) (us ++ vs ++ [(.comma, m)])

-- The words up to brackets that are open, the innermost one first.
inductive Opened : List (Bracket α) → List (Lexeme × α) → Prop
  | nil : Opened [] []
  | cons {b : Bracket α} {bs : List (Bracket α)} {us vs : List (Lexeme × α)} :
    Opened bs us → Derives (.segments b.before.reverse) vs →
    Opened (b :: bs) (us ++ vs ++ arrowWords b.child ++ [(.leftBracket, b.mark)])

-- The words that have been read of a list of selectors. A name that a dot may follow is the last of
-- them.
inductive Reads (s : Selecting α) : List (Lexeme × α) → Prop
  | mk {us vs ts : List (Lexeme × α)} (finished : Finished s.finished us)
    (opened : Opened s.brackets vs) (parts : Derives (.segments s.parts.reverse) ts)
    (bare : s.mayDot → s.child = none) : Reads s (us ++ vs ++ ts ++ arrowWords s.child)

namespace Reads

theorem start : Reads (Selecting.start : Selecting α) [] := by
  have h : Reads (Selecting.start : Selecting α) ([] ++ [] ++ [] ++ arrowWords none) :=
    .mk .nil .nil .noSegments (by simp [Selecting.start])
  exact h

-- Reading an atom ends a segment.
theorem push {p : Part α} {mayDot : Bool} {us : List (Lexeme × α)} (h : s.Reads ws)
    (hp : Derives (.segment p) (arrowWords s.child ++ us)) :
    (s.push p mayDot).Reads (ws ++ us) := by
  obtain ⟨hf, ho, hs, _⟩ := h
  have hs := Derives.segments_reverse_cons_iff.mpr ⟨_, _, hs, hp, rfl⟩
  have h : (s.push p mayDot).Reads _ := .mk hf ho hs fun _ => rfl
  simpa [Selecting.push, arrowWords] using h

-- A dot makes something else of the name before it.
theorem dot {m : α} {child : Option α} {n : String} {ps : List (Part α)} (h : s.Reads ws)
    (hd : s.mayDot = true) (hps : s.parts = .kind child n :: ps) :
    Reads { s with parts := .dotted child n :: ps, mayDot := false } (ws ++ [(.dot, m)]) := by
  obtain ⟨hf, ho, hs, hb⟩ := h
  rw [hps, Derives.segments_reverse_cons_iff] at hs
  have ⟨us, vs, hu, hv, he⟩ := hs
  cases hv
  case kind l =>
    have hdotted : Derives (.segment (.dotted child n)) _ := .dotted l m
    have hs := Derives.segments_reverse_cons_iff.mpr ⟨_, _, hu, hdotted, rfl⟩
    have h : Reads { s with parts := .dotted child n :: ps, mayDot := false } _ :=
      .mk hf ho hs fun _ => hb hd
    simpa [he, hb hd, arrowWords] using h

theorem greater {m : α} (h : s.Reads ws) (hc : s.child = none) :
    Reads { s with child := some m, mayDot := false } (ws ++ [(.greater, m)]) := by
  obtain ⟨hf, ho, hs, _⟩ := h
  have h : Reads { s with child := some m, mayDot := false } _ := .mk hf ho hs nofun
  simpa [hc, arrowWords] using h

theorem leftBracket {m : α} (h : s.Reads ws) :
    Reads ⟨s.finished, ⟨s.parts, s.child, m⟩ :: s.brackets, [], none, false⟩
      (ws ++ [(.leftBracket, m)]) := by
  obtain ⟨hf, ho, hs, _⟩ := h
  have ho : Opened (⟨s.parts, s.child, m⟩ :: s.brackets) _ := .cons ho hs
  have h : Reads ⟨s.finished, ⟨s.parts, s.child, m⟩ :: s.brackets, [], none, false⟩ _ :=
    .mk hf ho .noSegments nofun
  simpa [arrowWords] using h

-- The parts of this level are a selector, and become part of the level before.
theorem rightBracket {m : α} {b : Bracket α} {bs : List (Bracket α)} {c : Chain α}
    (h : s.Reads ws) (hb : s.brackets = b :: bs) (hc : s.chain? = some c) :
    Reads ⟨s.finished, bs, .branch b.child b.mark c.first c.rest :: b.before, none, false⟩
      (ws ++ [(.rightBracket, m)]) := by
  obtain ⟨hf, ho, hs, _⟩ := h
  have ⟨hchild, hparts⟩ := chain?_eq_some.mp hc
  rw [hb] at ho
  obtain _ | ⟨ho, hbefore⟩ := ho
  rw [hparts] at hs
  have hbranch : Derives (.segment (.branch b.child b.mark c.first c.rest)) _ :=
    .branch m (Derives.selector_of_segments hs)
  have hs := Derives.segments_reverse_cons_iff.mpr ⟨_, _, hbefore, hbranch, rfl⟩
  have h : Reads ⟨s.finished, bs, .branch b.child b.mark c.first c.rest :: b.before, none, false⟩
    _ := .mk hf ho hs nofun
  simpa [hchild, arrowWords] using h

theorem comma {m : α} {c : Chain α} (h : s.Reads ws) (hb : s.brackets = [])
    (hc : s.chain? = some c) :
    Reads ⟨c :: s.finished, [], [], none, false⟩ (ws ++ [(.comma, m)]) := by
  obtain ⟨hf, ho, hs, _⟩ := h
  have ⟨hchild, hparts⟩ := chain?_eq_some.mp hc
  rw [hb] at ho
  cases ho
  rw [hparts] at hs
  have hf := Finished.cons m hf (Derives.selector_of_segments hs)
  have h : Reads ⟨c :: s.finished, [], [], none, false⟩ _ := .mk hf .nil .noSegments nofun
  simpa [hchild, arrowWords] using h

theorem step {l : Lexeme} {m : α} (h : s.Reads ws) (hs : s.step l m = some t) :
    t.Reads (ws ++ [(l, m)]) := by
  cases l <;> simp only [Selecting.step, reduceCtorEq] at hs
  case name n =>
    cases hs
    exact h.push (.kind m)
  case string t =>
    cases hs
    exact h.push (.token m)
  case regex t =>
    cases hs
    exact h.push .pattern
  case dot =>
    split at hs
    case h_1 child n ps hd hps =>
      cases hs
      exact h.dot hd hps
    case h_2 => cases hs
  case greater =>
    split at hs
    case isTrue => cases hs
    case isFalse hc =>
      cases hs
      exact h.greater (by simpa using hc)
  case leftBracket =>
    cases hs
    exact h.leftBracket
  case rightBracket =>
    split at hs
    case h_1 b bs c hb hc =>
      cases hs
      exact h.rightBracket hb hc
    case h_2 => cases hs
  case comma =>
    split at hs
    case isTrue hb =>
      have ⟨c, hc, he⟩ := Option.map_eq_some_iff.mp hs
      subst he
      exact h.comma (List.isEmpty_iff.mp hb) hc
    case isFalse => cases hs

end Reads

-- The selectors ended by commas come before the last one. The induction takes them one by one to
-- the selectors after it.
theorem Finished.selectors {c last : Chain α} {cs finished more : List (Chain α)}
    {us vs ts : List (Lexeme × α)} (h : Finished finished us) (hl : Derives (.selector last) vs)
    (hm : Derives (.further more) ts) (he : finished.reverse ++ last :: more = c :: cs) :
    Derives (.selectors c cs) (us ++ vs ++ ts) := by
  induction h generalizing last more vs ts
  case nil =>
    cases he
    exact .selectors hl hm
  case cons m next finished us ns _ hn hi =>
    have := hi hn (.further m hl hm) (by simpa using he)
    simpa using this

theorem Reads.finish {c : Chain α} {cs : List (Chain α)} (h : s.Reads ws)
    (hs : s.finish? = some (c, cs)) : Derives (.selectors c cs) ws := by
  obtain ⟨hf, ho, hp, _⟩ := h
  have ⟨hb, last, hl, he⟩ := finish?_eq_some.mp hs
  have ⟨hchild, hparts⟩ := chain?_eq_some.mp hl
  rw [hb] at ho
  cases ho
  rw [hparts] at hp
  have := hf.selectors (Derives.selector_of_segments hp) .noFurther he
  simpa [hchild, arrowWords] using this

end Selecting

-- The words of rules whose braces are open, the innermost one first.
inductive Nested : List (Block α) → List (Lexeme × α) → Prop
  | nil : Nested [] []
  | cons (m : α) {b : Block α} {bs : List (Block α)} {us vs ts : List (Lexeme × α)} :
    Nested bs us → Derives (.selectors b.first b.rest) vs → Derives (.body b.items.reverse) ts →
    Nested (b :: bs) (us ++ vs ++ (.leftBrace, m) :: ts)

-- The words of what is being read. Imports are read only where no rule is open.
inductive Focus.Reads (blocks : List (Block α)) : Focus α → List (Lexeme × α) → Prop
  | item : Reads blocks .item []
  | importPath (m : α) (h : blocks = []) : Reads blocks .importPath [(.importMark, m)]
  | importEnd (l m : α) {t : String} (h : blocks = []) :
    Reads blocks (.importEnd t) [(.importMark, l), (.string t, m)]
  | named {mark : α} {n : String} : Reads blocks (.named mark n) [(.name n, mark)]
  | value (m : α) {mark : α} {n : String} :
    Reads blocks (.value mark n) [(.name n, mark), (.colon, m)]
  | valueEnd (m : α) {mark valueMark : α} {n : String} {v : Value} :
    Reads blocks (.valueEnd mark n valueMark v false)
      [(.name n, mark), (.colon, m), (v.lexeme, valueMark)]
  | important (l m : α) {mark valueMark : α} {n : String} {v : Value} :
    Reads blocks (.valueEnd mark n valueMark v true)
      [(.name n, mark), (.colon, l), (v.lexeme, valueMark), (.important, m)]
  | selecting {sel : Selecting α} {ws : List (Lexeme × α)} (h : sel.Reads ws) :
    Reads blocks (.selecting sel) ws

namespace State

variable {s t : State α} {us vs ts ws : List (Lexeme × α)}

-- The words that have been read, from those of finished items to those of the focus.
inductive Reads (s : State α) : List (Lexeme × α) → Prop
  | mk {us vs ts : List (Lexeme × α)} (done : Derives (.document s.done.reverse) us)
    (blocks : Nested s.blocks vs) (focus : s.focus.Reads s.blocks ts) : Reads s (us ++ vs ++ ts)

theorem Reads.start : Reads (State.start : State α) [] := by
  have h : Reads (State.start : State α) ([] ++ [] ++ []) := .mk .nothing .nil .item
  exact h

theorem reads_push {i : Item α} (hd : Derives (.document s.done.reverse) us)
    (hb : Nested s.blocks vs) (hi : Derives (.item i) ts) : (s.push i).Reads (us ++ vs ++ ts) := by
  rw [push]
  split
  case h_1 he =>
    rw [he] at hb
    cases hb
    have hd := hd.document_reverse_cons (.item hi .nothing)
    have h : Reads ⟨.item i :: s.done, [], .item⟩ _ := .mk hd .nil .item
    simpa [he] using h
  case h_2 b bs he =>
    rw [he] at hb
    obtain _ | ⟨m, hb, hs, his⟩ := hb
    have his := his.body_reverse_cons (.items hi .noItems)
    have hb : Nested ({ b with items := i :: b.items } :: bs) _ := .cons m hb hs his
    have h : Reads ⟨s.done, { b with items := i :: b.items } :: bs, .item⟩ _ := .mk hd hb .item
    simpa using h

-- A brace ends the selectors and opens a rule; any other word goes on with them.
theorem reads_stepSelecting {sel : Selecting α} {l : Lexeme} {m : α}
    (hd : Derives (.document s.done.reverse) us) (hb : Nested s.blocks vs) (hs : sel.Reads ts)
    (h : s.stepSelecting sel l m = some t) : t.Reads (us ++ vs ++ ts ++ [(l, m)]) := by
  unfold stepSelecting at h
  split at h
  case h_1 =>
    have ⟨⟨c, cs⟩, hf, he⟩ := Option.map_eq_some_iff.mp h
    subst he
    have hb : Nested (⟨c, cs, []⟩ :: s.blocks) _ := .cons m hb (hs.finish hf) .noItems
    have h : Reads ⟨s.done, ⟨c, cs, []⟩ :: s.blocks, .item⟩ _ := .mk hd hb .item
    simpa using h
  case h_2 =>
    have ⟨sel', hsel, he⟩ := Option.map_eq_some_iff.mp h
    subst he
    have h : Reads { s with focus := .selecting sel' } _ := .mk hd hb (.selecting (hs.step hsel))
    simpa using h

section Step

-- The words of a state without those of its focus.
variable {l : Lexeme} {m : α} (hd : Derives (.document s.done.reverse) us) (hb : Nested s.blocks vs)

include hd hb

theorem reads_step_item (hf : s.focus = .item) (hs : s.step l m = some t) :
    t.Reads (us ++ vs ++ [(l, m)]) := by
  have hsel := reads_stepSelecting (l := l) (m := m) (t := t) hd hb .start
  simp only [step, hf] at hs
  cases l <;> simp only [reduceCtorEq] at hs
  case importMark =>
    split at hs
    case isTrue he =>
      cases hs
      exact .mk hd hb (.importPath m (List.isEmpty_iff.mp he))
    case isFalse => cases hs
  case name n =>
    cases hs
    exact .mk hd hb .named
  case rightBrace =>
    split at hs
    case h_1 => cases hs
    case h_2 b bs he =>
      -- The innermost open rule is finished and becomes an item of the one around it.
      cases hs
      rw [he] at hb
      obtain _ | @⟨l, _, _, _, _, _, hb, hs, his⟩ := hb
      have h := reads_push (s := { s with blocks := bs }) hd hb (.rule l m hs his)
      simpa [hf] using h
  case string | regex | greater | leftBracket => simpa using hsel hs

theorem reads_step_importEnd {name : String} (k n : α) (he : s.blocks = [])
    (hf : s.focus = .importEnd name) (hs : s.step l m = some t) :
    t.Reads (us ++ vs ++ [(.importMark, k), (.string name, n), (l, m)]) := by
  simp only [step, hf] at hs
  cases l <;> simp only [reduceCtorEq] at hs
  cases hs
  have hv : vs = [] := by
    rw [he] at hb
    cases hb
    rfl
  subst hv
  have hd := hd.document_reverse_cons (i := .imports name) (.imports k n m .nothing)
  have h : Reads { s with done := .imports name :: s.done, focus := .item } _ := .mk hd hb .item
  simpa using h

-- A name may turn out to be a property or the first word of a selector.
theorem reads_step_named {mark : α} {n : String} (hf : s.focus = .named mark n)
    (hs : s.step l m = some t) : t.Reads (us ++ vs ++ [(.name n, mark), (l, m)]) := by
  have hstart : (Selecting.start.push (.kind none n) true).Reads [(.name n, mark)] :=
    Selecting.Reads.start.push (.kind mark)
  have hsel := reads_stepSelecting (l := l) (m := m) (t := t) hd hb hstart
  simp only [step, hf] at hs
  cases l <;> simp only at hs
  case colon =>
    cases hs
    exact .mk hd hb (.value m)
  all_goals simpa using hsel hs

theorem reads_step_valueEnd {mark valueMark : α} {n : String} {v : Value} {important : Bool}
    {ts : List (Lexeme × α)} (hf : s.focus = .valueEnd mark n valueMark v important)
    (hr : s.focus.Reads s.blocks ts) (hs : s.step l m = some t) :
    t.Reads (us ++ vs ++ (ts ++ [(l, m)])) := by
  rw [hf] at hr
  simp only [step, hf] at hs
  cases l <;> simp only [reduceCtorEq] at hs
  case important =>
    split at hs
    case isTrue => cases hs
    case isFalse hi =>
      cases hs
      cases hr
      case valueEnd k => exact .mk hd hb (.important k m)
      case important => exact absurd rfl hi
  case semicolon =>
    cases hs
    cases hr
    case valueEnd k => exact reads_push hd hb (.declaration k m)
    case important k l => exact reads_push hd hb (.important k l m)

end Step

-- The step lemma: every step adds its word to those that have been read.
theorem Reads.step {l : Lexeme} {m : α} (h : s.Reads ws) (hs : s.step l m = some t) :
    t.Reads (ws ++ [(l, m)]) := by
  obtain ⟨done, blocks, focus⟩ := s
  obtain ⟨hd, hb, hf⟩ := h
  rw [List.append_assoc]
  cases hf
  case item => exact reads_step_item hd hb rfl hs
  case importPath k he =>
    cases l <;> simp only [State.step, reduceCtorEq] at hs
    cases hs
    exact .mk hd hb (.importEnd k m he)
  case importEnd k n _ he => exact reads_step_importEnd hd hb k n he rfl hs
  case named => exact reads_step_named hd hb rfl hs
  case value k _ _ =>
    have ⟨v, hv, he⟩ := Option.map_eq_some_iff.mp hs
    rw [← Value.ofLexeme?_eq_some.mp hv, ← he]
    exact .mk hd hb (.valueEnd k)
  case valueEnd k _ _ _ _ => exact reads_step_valueEnd hd hb rfl (.valueEnd k) hs
  case important k n _ _ _ _ => exact reads_step_valueEnd hd hb rfl (.important k n) hs
  case selecting sel hsel =>
    rw [← List.append_assoc]
    exact reads_stepSelecting hd hb hsel hs

theorem run_eq_iff : s.run ws = (t, []) ↔ after? step s ws = some t := by
  induction ws generalizing s
  case nil => simp [run]
  case cons w ws hi =>
    rw [run, after?_cons]
    cases hs : s.step w.1 w.2
    case none => simp
    case some => simpa using hi

-- The run lemma: reading adds all of the words.
theorem Reads.after (h : s.Reads ws) (hs : after? State.step s us = some t) :
    t.Reads (ws ++ us) := by
  induction us generalizing s ws
  case nil =>
    cases hs
    simpa using h
  case cons w us hi =>
    have ⟨s', hw, hs⟩ := Option.bind_eq_some_iff.mp hs
    have := hi (h.step hw) hs
    simpa using this

theorem Reads.finish {d : Document α} (h : s.Reads ws) (hs : s.finish? = some d) :
    Derives (.document d) ws := by
  obtain ⟨hd, hb, hf⟩ := h
  unfold finish? at hs
  split at hs
  case h_1 hfocus hblocks =>
    cases hs
    rw [hblocks] at hb hf
    rw [hfocus] at hf
    cases hb
    cases hf
    simpa using hd
  case h_2 => cases hs

end State

theorem ofLexemes?_eq_some {ws : List (Lexeme × α)} {d : Document α} :
    ofLexemes? ws = some d ↔ ∃ s, after? State.step .start ws = some s ∧ s.finish? = some d := by
  unfold ofLexemes?
  split
  case h_1 s h =>
    rw [State.run_eq_iff] at h
    simp [h]
  case h_2 s w rest h =>
    have hn : after? State.step .start ws = none := by
      cases ha : after? State.step .start ws
      case none => rfl
      case some t =>
        rw [State.run_eq_iff.mpr ha] at h
        cases h
    simp [hn]

theorem derives_of_ofLexemes? {ws : List (Lexeme × α)} {d : Document α}
    (h : ofLexemes? ws = some d) : Derives (.document d) ws := by
  have ⟨s, hs, hd⟩ := ofLexemes?_eq_some.mp h
  exact (State.Reads.start.after hs).finish hd

end Document

end Highlight
