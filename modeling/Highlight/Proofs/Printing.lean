import Highlight.Proofs.Legality

namespace Highlight

open Document (Chain Written unquote unescapeAll patternSource)

-- Between its delimiters a literal is on one line, and a pattern has no slash.
def Atom.isPlain : Atom → Bool
  | token literal => !literal.toList.contains '\n'
  | pattern p => !p.source.toList.contains '/'
  | kind _ | lastKind _ => true

namespace Segment

mutual

def isPlain : Segment → Bool
  | atom a | child a => a.isPlain
  | branch selector => allPlain selector
  | foreign _ => true
termination_by structural s => s

def allPlain : List Segment → Bool
  | [] => true
  | s :: rest => s.isPlain && allPlain rest
termination_by structural s => s

end

end Segment

namespace Text

variable {belongs : Char → Bool} {cs more : List Char} {c : Char}

theorem span_append_cons (h : ∀ d ∈ cs, belongs d) (hc : belongs c = false) :
    span belongs (cs ++ c :: more) = cs.length := by
  simp [span, List.takeWhile_append_of_pos h, hc]

theorem forall_mem_of_span (h : span belongs (cs ++ more) = cs.length) : ∀ d ∈ cs, belongs d := by
  have hp : (cs ++ more).takeWhile belongs <+: cs ++ more := List.takeWhile_prefix _
  have ht : (cs ++ more).takeWhile belongs = cs := by
    rw [List.prefix_iff_eq_take.mp hp, ← span, h, List.take_left]
  have ha : ((cs ++ more).takeWhile belongs).all belongs := List.all_takeWhile
  rw [ht] at ha
  exact List.all_eq_true.mp ha

end Text

namespace Lexeme

variable {l : Lexeme} {t : String} {c : Char}

theorem Scanned.exists_width? (h : l.Scanned) :
    ∃ cs, l.width? (l.text.toList ++ cs) = some l.text.length := by
  have ⟨_, cs, hf⟩ := h
  exact ⟨cs, (width?_of_first? hf).right.left⟩

-- A name ends wherever something follows that is no part of a name.
theorem nameWidth?_of_scanned (h : (name t).Scanned) (hc : isNamePart c = false)
    (cs : List Char) : nameWidth? (t.toList ++ c :: cs) = some t.length := by
  have ⟨more, hw⟩ := h.exists_width?
  have hpos := (width?_bounds hw).left
  simp only [width?, text, ← String.length_toList] at hw hpos ⊢
  cases ht : t.toList
  case nil => simp [ht] at hpos
  case cons d ds =>
    rw [ht] at hw
    have hd : isNameStart d := isNameStart_of_nameWidth? hw
    have hspan : Text.span isNamePart (ds ++ more) = ds.length := by
      simpa [nameWidth?, hd] using hw
    simp [nameWidth?, hd, Text.span_append_cons (Text.forall_mem_of_span hspan) hc]

-- The marks of a literal and what they enclose are all of it.
theorem toList_of_enclosed {mark : Char} {cs body rest : List Char}
    (he : t.toList ++ cs = mark :: (body ++ mark :: rest)) (hl : t.length = body.length + 2) :
    t.toList = mark :: (body ++ [mark]) := by
  have he : t.toList ++ cs = mark :: (body ++ [mark]) ++ rest := by simpa using he
  exact (List.append_inj he (by simpa [String.length_toList] using hl)).left

theorem exists_of_scanned_regex (h : (regex t).Scanned) :
    ∃ body, t.toList = '/' :: (body ++ ['/']) ∧ Text.Escaped '/' body ∧ body ≠ [] ∧
      body.head? ≠ some '*' := by
  have ⟨cs, hw⟩ := h.exists_width?
  have ⟨body, rest, hb, hne, hs, he, hl⟩ := regexWidth?_eq_some.mp hw
  exact ⟨body, toList_of_enclosed he hl, hb, hne, hs⟩

end Lexeme

namespace Spells

variable {v : Bool} {cs : List Char} {ls : List Lexeme}

theorem of_width? (l : Lexeme) (ha : l.Admitted v (l.text.toList ++ cs))
    (hw : l.width? (l.text.toList ++ cs) = some l.text.length)
    (h : Spells (l.inValueAfter v) cs ls) : Spells v (l.text.toList ++ cs) (l :: ls) :=
  .word (Lexeme.first?_of_width? ha hw (by rw [← String.length_toList, List.take_left])) h

theorem literal (l : Lexeme) (hl : l ∈ Lexeme.literals) (h : Spells (l.inValueAfter v) cs ls) :
    Spells v (l.text.toList ++ cs) (l :: ls) :=
  .word (Lexeme.first?_literal hl cs) h

end Spells

namespace Document

variable {cs : List Char}

theorem inner_eq {t : String} {l r : Char} {body : List Char}
    (h : t.toList = l :: (body ++ [r])) : inner t = body := by
  simp [inner, h]

-- A slash that loses its backslash is still there.
theorem unescapeSlashes_eq (h : '/' ∉ unescapeSlashes cs) : unescapeSlashes cs = cs := by
  fun_induction unescapeSlashes cs
  case case1 => simp at h
  case case2 c cs _ hi => rw [hi fun hm => h (List.mem_cons_of_mem _ hm)]
  case case3 => rfl

end Document

namespace Atom

-- The characters of a literal as they stand between the quotes.
def escaped (cs : List Char) : List Char :=
  cs.flatMap fun c => if c = '\\' || c = '\"' then ['\\', c] else [c]

theorem toList_quoteLiteral (literal : String) :
    (quoteLiteral literal).toList = '\"' :: (escaped literal.toList ++ ['\"']) := by
  simp [quoteLiteral, escaped]

theorem escaped_of_no_newline {cs : List Char} (h : '\n' ∉ cs) :
    Text.Escaped '\"' (escaped cs) := by
  induction cs
  case nil => exact .nil
  case cons c cs hi =>
    have ⟨hc, hcs⟩ : '\n' ≠ c ∧ '\n' ∉ cs := by simpa using h
    rw [escaped, List.flatMap_cons]
    split
    case isTrue => exact .pair hc.symm (hi hcs)
    case isFalse hb =>
      have ⟨hbackslash, hquote⟩ : c ≠ '\\' ∧ c ≠ '\"' := by simpa using hb
      exact .char hbackslash hc.symm hquote (hi hcs)

theorem unescapeAll_escaped (cs : List Char) : unescapeAll (escaped cs) = cs := by
  induction cs
  case nil => rfl
  case cons c cs hi =>
    rw [escaped, List.flatMap_cons, ← escaped]
    split
    case isTrue hb =>
      have hu : Document.unescape c = c := by
        obtain rfl | rfl : c = '\\' ∨ c = '\"' := by simpa using hb
        all_goals rfl
      rw [List.cons_append, List.cons_append, List.nil_append, unescapeAll, hi, hu]
    case isFalse hb =>
      have ⟨hbackslash, _⟩ : c ≠ '\\' ∧ c ≠ '\"' := by simpa using hb
      simp [unescapeAll, hbackslash, hi]

theorem unquote_quoteLiteral (literal : String) : unquote (quoteLiteral literal) = literal := by
  rw [unquote, Document.inner_eq (toList_quoteLiteral literal), unescapeAll_escaped,
    String.ofList_toList]

-- What is known of an atom that is written in a text.
inductive Legible : Atom → Prop
  | kind {n : String} (h : (Lexeme.name n).Scanned) : Legible (.kind n)
  | lastKind {n : String} (h : (Lexeme.name n).Scanned) : Legible (.lastKind n)
  | token (literal : String) : Legible (.token literal)
  | pattern {p : Pattern} {t : String} (h : (Lexeme.regex t).Scanned)
    (hp : p.source = patternSource t) : Legible (.pattern p)

end Atom

namespace Document

theorem compilePattern_eq_ok {m : Position} {source : String} {p : Pattern} :
    (compilePattern m source).result = .ok p ↔ p.source = source := by
  rw [compilePattern, Logged.bind_eq_ok]
  simp only [Logged.bind_eq_ok, check_eq_ok, Logged.result_log, Logged.result_pure,
    Except.ok.injEq, exists_const, true_and, exists_eq_right]
  constructor
  case mp => exact Pattern.source_of_compile
  case mpr =>
    rintro rfl
    exact p.compile_source

-- A written segment is a legible atom, with `>` before it or without, or a branch check whose
-- segments are written in their turn.
theorem Written.inversion {s : Segment} (h : Written s) :
    (∃ a : Atom, a.Legible ∧ (s = .atom a ∨ s = .child a)) ∨
      ∃ selector, s = .branch selector ∧ selector ≠ [] ∧
        ∀ t ∈ selector, t.isDotted = false ∧ Written t := by
  obtain ⟨p, hp, hl⟩ := h
  have hatom {child : Option Position} {a : Atom} (ha : a.Legible)
      (h : (applyChild child (.atom a)).result = .ok s) :
      ∃ a : Atom, a.Legible ∧ (s = .atom a ∨ s = .child a) := by
    obtain ⟨-, hs⟩ | ⟨_, b, -, hb, hs⟩ := applyChild_eq_ok.mp h
    · exact ⟨a, ha, .inl hs⟩
    · cases hb
      exact ⟨a, ha, .inr hs⟩
  cases p <;> rw [Part.segment] at hp <;> rw [Part.lexemes] at hl
  case kind n => exact .inl (hatom (.kind (hl _ (by simp))) hp)
  case dotted n => exact .inl (hatom (.lastKind (hl _ (by simp))) hp)
  case token t => exact .inl (hatom (.token (unquote t)) hp)
  case pattern t =>
    obtain ⟨p, hc, hp⟩ := Logged.bind_eq_ok.mp hp
    exact .inl (hatom (.pattern (hl _ (by simp)) (compilePattern_eq_ok.mp hc)) hp)
  case branch first rest =>
    obtain ⟨t, ht, hp⟩ := Logged.bind_eq_ok.mp hp
    obtain ⟨ts, hts, hp⟩ := Logged.bind_eq_ok.mp hp
    obtain ⟨b, hb, hp⟩ := Logged.bind_eq_ok.mp hp
    obtain ⟨hne, hd, rfl⟩ := Segment.ofBranch_eq_ok.mp (check_eq_ok.mp hb)
    obtain ⟨-, rfl⟩ | ⟨_, _, -, ha, -⟩ := applyChild_eq_ok.mp hp
    case inr => cases ha
    case inl =>
      have hw : ∀ u ∈ t :: ts, Written u := by
        refine written_of_parts (.cons ht (segments_eq_ok.mp hts)) fun l hm => hl l ?_
        exact List.mem_append_right _ (List.mem_cons_of_mem _ (List.mem_append_left _ hm))
      exact .inr ⟨_, rfl, hne, fun u hu => ⟨hd u hu, hw u hu⟩⟩

end Document

-- After what is printed a blank follows, or the bracket that closes a branch check.
def Bounded (cs : List Char) : Prop :=
  ∃ c rest, cs = c :: rest ∧ (c = ' ' ∨ c = ']')

namespace Spells

variable {cs : List Char} {ls : List Lexeme}

theorem name {n : String} {c : Char} (hn : (Lexeme.name n).Scanned)
    (hc : Lexeme.isNamePart c = false) (h : Spells false (c :: cs) ls) :
    Spells false (n.toList ++ c :: cs) (.name n :: ls) :=
  of_width? (.name n) (fun hv => nomatch hv) (Lexeme.nameWidth?_of_scanned hn hc cs) h

theorem quoteLiteral {literal : String} (hn : '\n' ∉ literal.toList) (h : Spells false cs ls) :
    Spells false ((Atom.quoteLiteral literal).toList ++ cs)
      (.string (Atom.quoteLiteral literal) :: ls) := by
  refine of_width? (.string (Atom.quoteLiteral literal)) trivial
    (Lexeme.stringWidth?_eq_some.mpr ⟨_, cs, Atom.escaped_of_no_newline hn, ?_, ?_⟩) h
  case refine_1 => simp [Lexeme.text, Atom.toList_quoteLiteral]
  case refine_2 => simp [Lexeme.text, ← String.length_toList, Atom.toList_quoteLiteral]

theorem regex {t : String} (ht : (Lexeme.regex t).Scanned) (h : Spells false cs ls) :
    Spells false (t.toList ++ cs) (.regex t :: ls) := by
  have ⟨body, he, hb, hne, hs⟩ := Lexeme.exists_of_scanned_regex ht
  refine of_width? (.regex t) trivial
    (Lexeme.regexWidth?_eq_some.mpr ⟨body, cs, hb, hne, hs, ?_, ?_⟩) h
  case refine_1 => simp [Lexeme.text, he]
  case refine_2 => simp [Lexeme.text, ← String.length_toList, he]

end Spells

-- Nothing is taken from a pattern without slashes, so it is printed as it was written.
theorem Pattern.eq_of_patternSource {p : Pattern} {t : String} (ht : (Lexeme.regex t).Scanned)
    (hp : p.source = patternSource t) (hs : '/' ∉ p.source.toList) :
    "/" ++ p.source ++ "/" = t := by
  have ⟨body, he, _⟩ := Lexeme.exists_of_scanned_regex ht
  rw [hp, patternSource, Document.inner_eq he, String.toList_ofList] at hs
  rw [← String.toList_inj, hp, patternSource, Document.inner_eq he, Document.unescapeSlashes_eq hs]
  simp [he]

-- The words of an atom, whether `>` stands before it or not.
theorem Atom.exists_part {a : Atom} (h : a.Legible) (hp : a.isPlain) (child : Option Position) :
    ∃ (p : Document.Part Position) (words : List Lexeme),
      p.segment.result = (Document.applyChild child (.atom a)).result ∧
      p.lexemes = Document.arrow child ++ words ∧
      ∀ cs ls, Bounded cs → Spells false cs ls →
        Spells false (a.text.toList ++ cs) (words ++ ls) := by
  cases h
  case kind n hn =>
    refine ⟨.kind child n, [.name n], rfl, rfl, fun cs ls hb h => ?_⟩
    obtain ⟨c, rest, rfl, hc⟩ := hb
    exact h.name hn (by obtain rfl | rfl := hc <;> rfl)
  case lastKind n hn =>
    refine ⟨.dotted child n, [.name n, .dot], rfl, rfl, fun cs ls _ h => ?_⟩
    have hdot : Spells false ('.' :: cs) (.dot :: ls) := .literal .dot (by decide) h
    simpa [text] using hdot.name hn rfl
  case token literal =>
    have hn : '\n' ∉ literal.toList := by simpa [isPlain] using hp
    refine ⟨.token child (quoteLiteral literal), [.string (quoteLiteral literal)], ?_, rfl,
      fun cs ls _ h => h.quoteLiteral hn⟩
    rw [Document.Part.segment, unquote_quoteLiteral]
    rfl
  case pattern p t ht hs =>
    have hn : '/' ∉ p.source.toList := by simpa [isPlain] using hp
    refine ⟨.pattern child Position.start t, [.regex t], ?_, rfl, fun cs ls _ h => ?_⟩
    case refine_1 =>
      have hc : (Document.compilePattern Position.start (patternSource t)).result = .ok p :=
        Document.compilePattern_eq_ok.mpr hs
      rw [Document.Part.segment, Logged.result_bind, hc]
      rfl
    case refine_2 =>
      rw [text, Pattern.eq_of_patternSource ht hs hn]
      exact h.regex ht

-- Parts that make the segments, and whose words are printed.
def Printed (selector : Selector) : Prop :=
  ∃ ps : List (Document.Part Position),
    List.Forall₂ (fun p s => p.segment.result = .ok s) ps selector ∧
    ∀ cs ls, Bounded cs → Spells false cs ls →
      Spells false (selector.text.toList ++ cs) (Document.partsLexemes ps ++ ls)

namespace Printed

variable {s : Segment} {selector : Selector}

theorem nil : Printed [] :=
  ⟨[], .nil, fun _ _ _ h => h⟩

theorem of_part (p : Document.Part Position) (hp : p.segment.result = .ok s)
    (h : ∀ cs ls, Bounded cs → Spells false cs ls →
      Spells false (s.text.toList ++ cs) (p.lexemes ++ ls)) : Printed [s] := by
  refine ⟨[p], .cons hp .nil, fun cs ls hb hs => ?_⟩
  simpa [Selector.text, Segment.texts, Document.partsLexemes] using h cs ls hb hs

theorem cons (hs : Printed [s]) (h : Printed selector) : Printed (s :: selector) := by
  cases selector
  case nil => exact hs
  case cons t rest =>
    have ⟨ps, hps, hsp⟩ := hs
    have ⟨qs, hqs, hsq⟩ := h
    refine ⟨ps ++ qs, List.rel_append hps hqs, fun cs ls hb hc => ?_⟩
    have hrest := hsp _ _ ⟨' ', _, rfl, .inl rfl⟩ (.blank rfl (hsq cs ls hb hc))
    simpa [Selector.text, Segment.texts, Document.partsLexemes_eq_flatMap] using hrest

theorem atom {a : Atom} (h : a.Legible) (hp : a.isPlain) : Printed [.atom a] := by
  have ⟨p, words, hs, hl, hw⟩ := a.exists_part h hp none
  refine .of_part p hs fun cs ls hb hc => ?_
  rw [hl]
  exact hw cs ls hb hc

theorem child {a : Atom} (h : a.Legible) (hp : a.isPlain) : Printed [.child a] := by
  have ⟨p, words, hs, hl, hw⟩ := a.exists_part h hp (some Position.start)
  refine .of_part p hs fun cs ls hb hc => ?_
  rw [hl]
  have hblank : Spells false (' ' :: (a.text.toList ++ cs)) (words ++ ls) :=
    .blank rfl (hw cs ls hb hc)
  have harrow : Spells false ('>' :: ' ' :: (a.text.toList ++ cs)) (.greater :: (words ++ ls)) :=
    .literal .greater (by decide) hblank
  simpa [Segment.text, Document.arrow] using harrow

theorem branch (hne : selector ≠ []) (hd : ∀ t ∈ selector, t.isDotted = false)
    (h : Printed selector) : Printed [.branch selector] := by
  have ⟨ps, hps, hsp⟩ := h
  cases hps
  case nil => exact absurd rfl hne
  case cons p t ps ts ht hts =>
    refine .of_part (.branch none Position.start p ps) ?_ fun cs ls hb hc => ?_
    case refine_1 =>
      have hb : (Document.check .segment Position.start (Segment.ofBranch (t :: ts))).result =
          .ok (.branch (t :: ts)) :=
        Document.check_eq_ok.mpr (Segment.ofBranch_eq_ok.mpr ⟨hne, hd, rfl⟩)
      rw [Document.Part.segment]
      exact Logged.bind_eq_ok.mpr ⟨t, ht, Logged.bind_eq_ok.mpr
        ⟨ts, Document.segments_eq_ok.mpr hts, Logged.bind_eq_ok.mpr ⟨_, hb, rfl⟩⟩⟩
    case refine_2 =>
      have hclose : Spells false (']' :: cs) (.rightBracket :: ls) :=
        .literal .rightBracket (by decide) hc
      have hinner := hsp _ _ ⟨']', cs, rfl, .inr rfl⟩ hclose
      have hopen := Spells.literal .leftBracket (by decide) hinner
      simpa [Segment.text, Selector.text, Document.Part.lexemes, Document.partsLexemes,
        Document.arrow, Lexeme.text] using hopen

end Printed

mutual

theorem Segment.printed : (s : Segment) → Written s → s.isPlain → Printed [s]
  | .atom a, h, hp => by
    obtain ⟨b, hb, he | he⟩ | ⟨_, he, _⟩ := h.inversion <;> cases he
    exact .atom hb hp
  | .child a, h, hp => by
    obtain ⟨b, hb, he | he⟩ | ⟨_, he, _⟩ := h.inversion <;> cases he
    exact .child hb hp
  | .branch selector, h, hp => by
    obtain ⟨b, _, he | he⟩ | ⟨_, he, hne, ht⟩ := h.inversion <;> cases he
    exact .branch hne (fun t hm => (ht t hm).left)
      (Segment.printedAll selector (fun t hm => (ht t hm).right) hp)
  | .foreign _, h, _ => by
    obtain ⟨b, _, he | he⟩ | ⟨_, he, _⟩ := h.inversion <;> cases he
termination_by structural s => s

theorem Segment.printedAll : (ss : List Segment) → (∀ s ∈ ss, Written s) → Segment.allPlain ss →
    Printed ss
  | [], _, _ => .nil
  | s :: rest, h, hp => by
    have ⟨hs, hr⟩ := List.forall_mem_cons.mp h
    have ⟨hps, hpr⟩ := Bool.and_eq_true_iff.mp hp
    exact .cons (s.printed hs hps) (Segment.printedAll rest hr hpr)
termination_by structural ss => ss

end

namespace Sheet

-- A sheet that nothing but one selector leads into is walked along its beginnings.
theorem walkFrom_updateAt_empty {f : Sheet → Sheet} (hf : (f ∅).scopes = [])
    (selector before : Selector) :
    ((updateAt selector f ∅).walkFrom before).map Prod.fst =
      selector.inits.map (before ++ ·) := by
  induction selector generalizing before
  case nil =>
    rw [updateAt]
    cases hs : f ∅
    case node style scopes =>
      rw [hs] at hf
      cases hf
      simp [walkFrom, walkScopes]
  case cons s rest hi =>
    have hu : updateAt (s :: rest) f ∅ = .node ∅ [(s, updateAt rest f ∅)] := rfl
    rw [hu, walkFrom, walkScopes, walkScopes, List.append_nil, List.map_cons, hi]
    simp [Function.comp_def]

end Sheet

theorem Printed.compiles {selector : Selector} (hne : selector ≠ []) (h : Printed selector) :
    (Document.compileText (selector.text ++ " {}")).result =
      .ok ⟨[], Sheet.updateAt selector (·.declare ∅) ∅⟩ := by
  have ⟨ps, hps, hsp⟩ := h
  cases hps
  case nil => exact absurd rfl hne
  case cons p t ps ts ht hts =>
    let d : Document Position := [.item (.rule ⟨p, ps⟩ [] [])]
    have hbrace : Spells false [' ', '\x7b', '\x7d'] [.leftBrace, .rightBrace] :=
      .blank rfl (.literal .leftBrace (by decide) (.literal .rightBrace (by decide) .nil))
    have hd : Spells false ((Selector.text (t :: ts)) ++ " {}").toList d.lexemes := by
      simpa [d, Document.lexemes, Document.TopItem.lexemes, Document.Item.lexemes, Chain.lexemes,
        Document.itemsLexemes, Document.partsLexemes]
        using hsp _ _ ⟨' ', _, rfl, .inl rfl⟩ hbrace
    refine Document.compileText_of_spells hd ?_
    have hr : (Document.Item.rule ⟨p, ps⟩ [] []).statement.result =
        .ok (.rule ⟨[t :: ts], [], []⟩) :=
      Document.Item.statement_rule.mpr ⟨[t :: ts], [],
        .cons (Document.Chain.selector_eq_ok.mpr (.cons ht hts)) .nil, rfl, rfl⟩
    exact Document.compile_eq_ok.mpr
      ⟨_, Document.statements_eq_ok.mpr (.cons hr .nil), rfl⟩

namespace Selector

-- The selectors that reading makes: the places of a sheet, parts of them, as of rules that stand in
-- others, and what is inside their branch checks.
inductive Produced : Selector → Prop
  | listed {sheet : Sheet} {entry : Selector × Sheet} (h : sheet.Obtained)
    (hm : entry ∈ sheet.walk) : Produced entry.1
  | portion {outer selector : Selector} (hs : selector <:+: outer) :
    Produced outer → Produced selector
  | checked {outer selector : Selector} (hm : .branch selector ∈ outer) :
    Produced outer → Produced selector

theorem Produced.written {selector : Selector} (h : selector.Produced) :
    ∀ s ∈ selector, Written s := by
  induction h
  case listed h hm =>
    exact (h.traced.contents _ _ (Sheet.styleAt_of_mem_walk h.traced.ordered hm)).left
  case portion hs _ hi => exact fun s hm => hi s (hs.subset hm)
  case checked hm _ hi =>
    obtain ⟨_, _, he | he⟩ | ⟨_, he, _, ht⟩ := (hi _ hm).inversion <;> cases he
    exact fun s hs => (ht s hs).right

-- A printed selector with an empty block after it is a text whose sheet has the beginnings of this
-- selector for its places, in order, and no others.
theorem ofText_text {selector : Selector} (h : selector.Produced) (hne : selector ≠ [])
    (hp : Segment.allPlain selector) (fs : Files) (base : Location) :
    ∃ s, (Sheet.ofText fs base (selector.text ++ " {}")).result = .ok s ∧
      s.walk.map Prod.fst = selector.inits := by
  have hc := (Segment.printedAll selector h.written hp).compiles hne
  refine ⟨_, Sheet.ofText_of_compileText hc fs base, ?_⟩
  rw [Sheet.walk, Sheet.walkFrom_updateAt_empty rfl]
  simp

-- A dot, a literal with quotes and backslashes below `>`, and a pattern in a branch check of a
-- branch check, all written with other blanks than they are printed with.
theorem ofText_text_nested : ∃ selector : Selector, selector.Produced ∧
    selector.text = "rgb. > \"a\\\\\\\"\" [[> call] /[)\\]]+/]" ∧
    ∃ s, (Sheet.ofText ⟨[]⟩ .root (selector.text ++ " {}")).result = .ok s ∧
      s.walk.map Prod.fst = selector.inits := by
  have hs : (Sheet.ofText ⟨[]⟩ .root
      "rgb . >\"a\\\\\\\"\"[[ >call]/[)\\]]+/] { }").value?.any fun s =>
        s.walk.any fun entry => entry.1.text = "rgb. > \"a\\\\\\\"\" [[> call] /[)\\]]+/]" &&
          (!entry.1.isEmpty && Segment.allPlain entry.1) := by
    decide +kernel
  simp only [Option.any_eq_true, List.any_eq_true, Bool.and_eq_true, decide_eq_true_eq,
    Bool.not_eq_true', List.isEmpty_eq_false_iff] at hs
  obtain ⟨s, hs, entry, hm, ht, hne, hp⟩ := hs
  have produced : entry.1.Produced := .listed (.text (Logged.value?_eq_some.mp hs)) hm
  exact ⟨entry.1, produced, ht, ofText_text produced hne hp ⟨[]⟩ .root⟩

end Selector

end Highlight
