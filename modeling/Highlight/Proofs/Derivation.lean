import Highlight.Document.Reader

namespace Highlight

namespace Document

variable {α : Type}

-- What words can be derived from.
inductive Phrase (α : Type)
  | document (d : Document α)
  | body (is : List (Item α))
  | item (i : Item α)
  | selectors (first : Chain α) (rest : List (Chain α))
  -- The selectors after the first one, each with the comma before it.
  | further (cs : List (Chain α))
  | selector (c : Chain α)
  | segments (ps : List (Part α))
  | segment (p : Part α)

-- The `>` before an atom, with its mark.
def arrowWords : Option α → List (Lexeme × α)
  | none => []
  | some m => [(.greater, m)]

inductive Derives : Phrase α → List (Lexeme × α) → Prop
  -- A document is any number of imports, declarations and rules.
  | nothing : Derives (.document []) []
  | imports (k l m : α) {t : String} {d : Document α} {ws : List (Lexeme × α)} :
    Derives (.document d) ws →
    Derives (.document (.imports t :: d))
      ((.importMark, k) :: (.string t, l) :: (.semicolon, m) :: ws)
  | item {i : Item α} {d : Document α} {us vs : List (Lexeme × α)} :
    Derives (.item i) us → Derives (.document d) vs → Derives (.document (.item i :: d)) (us ++ vs)
  -- A declaration is a name, a colon and a value, and may be marked important.
  | declaration (l m : α) {mark valueMark : α} {n : String} {v : Value} :
    Derives (.item (.declaration ⟨mark, n, valueMark, v, false⟩))
      [(.name n, mark), (.colon, l), (v.lexeme, valueMark), (.semicolon, m)]
  | important (k l m : α) {mark valueMark : α} {n : String} {v : Value} :
    Derives (.item (.declaration ⟨mark, n, valueMark, v, true⟩))
      [(.name n, mark), (.colon, k), (v.lexeme, valueMark), (.important, l), (.semicolon, m)]
  -- A rule is a list of selectors and a body in braces, of declarations and rules.
  | rule (l m : α) {c : Chain α} {cs : List (Chain α)} {is : List (Item α)}
    {us vs : List (Lexeme × α)} :
    Derives (.selectors c cs) us → Derives (.body is) vs →
    Derives (.item (.rule c cs is)) (us ++ (.leftBrace, l) :: vs ++ [(.rightBrace, m)])
  | noItems : Derives (.body []) []
  | items {i : Item α} {is : List (Item α)} {us vs : List (Lexeme × α)} :
    Derives (.item i) us → Derives (.body is) vs → Derives (.body (i :: is)) (us ++ vs)
  -- Selectors stand with commas between them.
  | selectors {c : Chain α} {cs : List (Chain α)} {us vs : List (Lexeme × α)} :
    Derives (.selector c) us → Derives (.further cs) vs → Derives (.selectors c cs) (us ++ vs)
  | noFurther : Derives (.further []) []
  | further (m : α) {c : Chain α} {cs : List (Chain α)} {us vs : List (Lexeme × α)} :
    Derives (.selector c) us → Derives (.further cs) vs →
    Derives (.further (c :: cs)) ((.comma, m) :: us ++ vs)
  -- A selector is one segment or more.
  | selector {p : Part α} {ps : List (Part α)} {us vs : List (Lexeme × α)} :
    Derives (.segment p) us → Derives (.segments ps) vs → Derives (.selector ⟨p, ps⟩) (us ++ vs)
  | noSegments : Derives (.segments []) []
  | segments {p : Part α} {ps : List (Part α)} {us vs : List (Lexeme × α)} :
    Derives (.segment p) us → Derives (.segments ps) vs → Derives (.segments (p :: ps)) (us ++ vs)
  -- A segment is an atom, which may have a `>` before it.
  | kind (m : α) {child : Option α} {n : String} :
    Derives (.segment (.kind child n)) (arrowWords child ++ [(.name n, m)])
  | dotted (l m : α) {child : Option α} {n : String} :
    Derives (.segment (.dotted child n)) (arrowWords child ++ [(.name n, l), (.dot, m)])
  | token (m : α) {child : Option α} {t : String} :
    Derives (.segment (.token child t)) (arrowWords child ++ [(.string t, m)])
  | pattern {child : Option α} {mark : α} {t : String} :
    Derives (.segment (.pattern child mark t)) (arrowWords child ++ [(.regex t, mark)])
  | branch (m : α) {child : Option α} {mark : α} {p : Part α} {ps : List (Part α)}
    {ws : List (Lexeme × α)} :
    Derives (.selector ⟨p, ps⟩) ws →
    Derives (.segment (.branch child mark p ps))
      (arrowWords child ++ (.leftBracket, mark) :: ws ++ [(.rightBracket, m)])

-- The words of a phrase as they are written.
def Phrase.lexemes : Phrase α → List Lexeme
  | document d => d.lexemes
  | body is => itemsLexemes is
  | item i => i.lexemes
  | selectors c cs => c.lexemes ++ cs.flatMap fun c => .comma :: c.lexemes
  | further cs => cs.flatMap fun c => .comma :: c.lexemes
  | selector c => c.lexemes
  | segments ps => partsLexemes ps
  | segment p => p.lexemes

theorem map_arrowWords (child : Option α) : (arrowWords child).map Prod.fst = arrow child := by
  cases child <;> rfl

namespace Derives

variable {us vs ws : List (Lexeme × α)}

-- Words are derived from the phrase that they are written for.
theorem lexemes_eq {p : Phrase α} (h : Derives p ws) : ws.map Prod.fst = p.lexemes := by
  induction h
  all_goals simp_all [Phrase.lexemes, Document.lexemes, TopItem.lexemes, Item.lexemes,
    itemsLexemes, Declaration.lexemes, Chain.lexemes, Part.lexemes, partsLexemes, map_arrowWords]

-- A phrase determines where its words end.
theorem append_inj {p : Phrase α} {us' vs' : List (Lexeme × α)} (h : Derives p us)
    (h' : Derives p us') (he : us ++ vs = us' ++ vs') : us = us' ∧ vs = vs' := by
  refine List.append_inj he ?_
  have hl := congrArg List.length (h.lexemes_eq.trans h'.lexemes_eq.symm)
  simpa using hl

theorem document_append {d e : Document α} (hd : Derives (.document d) us)
    (he : Derives (.document e) vs) : Derives (.document (d ++ e)) (us ++ vs) := by
  induction d generalizing us
  case nil => cases hd; exact he
  case cons i d hi =>
    cases hd
    case imports hd => exact .imports _ _ _ (hi hd)
    case item hitem hd =>
      rw [List.append_assoc]
      exact .item hitem (hi hd)

theorem body_append {is js : List (Item α)} (hi : Derives (.body is) us)
    (hj : Derives (.body js) vs) : Derives (.body (is ++ js)) (us ++ vs) := by
  induction is generalizing us
  case nil => cases hi; exact hj
  case cons i is h =>
    cases hi
    case items hitem his =>
      rw [List.append_assoc]
      exact .items hitem (h his)

-- Items and segments that are kept the last one first.
theorem document_reverse_cons {i : TopItem α} {d : Document α}
    (hd : Derives (.document d.reverse) us) (hi : Derives (.document [i]) vs) :
    Derives (.document (i :: d).reverse) (us ++ vs) := by
  rw [List.reverse_cons]
  exact hd.document_append hi

theorem body_reverse_cons {i : Item α} {is : List (Item α)} (hs : Derives (.body is.reverse) us)
    (hi : Derives (.body [i]) vs) : Derives (.body (i :: is).reverse) (us ++ vs) := by
  rw [List.reverse_cons]
  exact hs.body_append hi

theorem segments_append_iff {ps qs : List (Part α)} :
    Derives (.segments (ps ++ qs)) ws ↔
      ∃ us vs, Derives (.segments ps) us ∧ Derives (.segments qs) vs ∧ ws = us ++ vs := by
  induction ps generalizing ws
  case nil =>
    constructor
    case mp => exact fun h => ⟨[], ws, .noSegments, h, rfl⟩
    case mpr =>
      rintro ⟨us, vs, hu, hv, rfl⟩
      cases hu
      exact hv
  case cons p ps hi =>
    constructor
    case mp =>
      intro h
      cases h
      case segments ts rs hp hs =>
        have ⟨us, vs, hu, hv, he⟩ := hi.mp hs
        exact ⟨ts ++ us, vs, .segments hp hu, hv, by rw [he, List.append_assoc]⟩
    case mpr =>
      rintro ⟨us, vs, hu, hv, rfl⟩
      cases hu
      case segments hp hs =>
        rw [List.append_assoc]
        exact .segments hp (hi.mpr ⟨_, _, hs, hv, rfl⟩)

theorem segments_singleton_iff {p : Part α} :
    Derives (.segments [p]) ws ↔ Derives (.segment p) ws := by
  constructor
  case mp =>
    intro h
    cases h
    case segments hp hs =>
      cases hs
      simpa using hp
  case mpr =>
    intro h
    have := h.segments .noSegments
    simpa using this

theorem segments_reverse_cons_iff {p : Part α} {ps : List (Part α)} :
    Derives (.segments (p :: ps).reverse) ws ↔
      ∃ us vs, Derives (.segments ps.reverse) us ∧ Derives (.segment p) vs ∧ ws = us ++ vs := by
  rw [List.reverse_cons, segments_append_iff]
  simp only [segments_singleton_iff]

theorem selector_of_segments {p : Part α} {ps : List (Part α)}
    (h : Derives (.segments (p :: ps)) ws) : Derives (.selector ⟨p, ps⟩) ws := by
  cases h
  case segments hp hs => exact .selector hp hs

end Derives

mutual

-- The mark stands for those of words of which a document keeps none.
theorem Part.derives (m : α) : (p : Part α) → ∃ ws, Derives (.segment p) ws
  | .kind .. => ⟨_, .kind m⟩
  | .dotted .. => ⟨_, .dotted m m⟩
  | .token .. => ⟨_, .token m⟩
  | .pattern .. => ⟨_, .pattern⟩
  | .branch _ _ first rest =>
    have ⟨_, hf⟩ := first.derives m
    have ⟨_, hr⟩ := parts_derive m rest
    ⟨_, .branch m (.selector hf hr)⟩
termination_by structural p => p

theorem parts_derive (m : α) : (ps : List (Part α)) → ∃ ws, Derives (.segments ps) ws
  | [] => ⟨_, .noSegments⟩
  | p :: ps =>
    have ⟨_, hp⟩ := p.derives m
    have ⟨_, hs⟩ := parts_derive m ps
    ⟨_, .segments hp hs⟩
termination_by structural ps => ps

end

theorem Chain.derives (m : α) (c : Chain α) : ∃ ws, Derives (.selector c) ws :=
  have ⟨_, hf⟩ := c.first.derives m
  have ⟨_, hr⟩ := parts_derive m c.rest
  ⟨_, .selector hf hr⟩

theorem further_derive (m : α) (cs : List (Chain α)) : ∃ ws, Derives (.further cs) ws := by
  induction cs
  case nil => exact ⟨_, .noFurther⟩
  case cons c cs hi =>
    have ⟨_, hc⟩ := c.derives m
    have ⟨_, hs⟩ := hi
    exact ⟨_, .further m hc hs⟩

mutual

theorem Item.derives (m : α) : (i : Item α) → ∃ ws, Derives (.item i) ws
  | .declaration ⟨_, _, _, _, false⟩ => ⟨_, .declaration m m⟩
  | .declaration ⟨_, _, _, _, true⟩ => ⟨_, .important m m m⟩
  | .rule first rest body =>
    have ⟨_, hf⟩ := first.derives m
    have ⟨_, hr⟩ := further_derive m rest
    have ⟨_, hb⟩ := body_derives m body
    ⟨_, .rule m m (.selectors hf hr) hb⟩
termination_by structural i => i

theorem body_derives (m : α) : (is : List (Item α)) → ∃ ws, Derives (.body is) ws
  | [] => ⟨_, .noItems⟩
  | i :: is =>
    have ⟨_, hi⟩ := i.derives m
    have ⟨_, hs⟩ := body_derives m is
    ⟨_, .items hi hs⟩
termination_by structural is => is

end

-- Every document can be written.
theorem document_derives (m : α) (d : Document α) : ∃ ws, Derives (.document d) ws := by
  induction d
  case nil => exact ⟨_, .nothing⟩
  case cons i d hi =>
    have ⟨_, hd⟩ := hi
    cases i
    case imports => exact ⟨_, .imports m m m hd⟩
    case item i =>
      have ⟨_, hitem⟩ := i.derives m
      exact ⟨_, .item hitem hd⟩

end Document

end Highlight
