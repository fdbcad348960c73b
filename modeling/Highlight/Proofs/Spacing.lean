import Highlight.Proofs.Wording

namespace Highlight

open Lexeme

-- Blanks and closed comments, any number of them in any order.
inductive Gap : List Char → Prop
  | nil : Gap []
  | blank {c : Char} {cs : List Char} (h : isSpace c) : Gap cs → Gap (c :: cs)
  | comment {body cs : List Char} (h : Enclosed body) :
    Gap cs → Gap ('/' :: '*' :: (body ++ '*' :: '/' :: cs))

-- The second text is the first with gaps put in: at its beginning, at its end and wherever it has a
-- boundary between words, but never inside a word or a comment that it has.
inductive Spaced : Bool → List Char → List Char → Prop
  | nil {v : Bool} : Spaced v [] []
  | gap {v : Bool} {g a b : List Char} (h : Gap g) : Spaced v a b → Spaced v a (g ++ b)
  | blank {v : Bool} {c : Char} {a b : List Char} (h : isSpace c) :
    Spaced v a b → Spaced v (c :: a) (c :: b)
  | comment {v : Bool} {body a b : List Char} (h : Enclosed body) : Spaced v a b →
    Spaced v ('/' :: '*' :: (body ++ '*' :: '/' :: a)) ('/' :: '*' :: (body ++ '*' :: '/' :: b))
  | word {v : Bool} {l : Lexeme} {a b : List Char}
    (h : first? v (l.text.toList ++ a) = some (l, l.text.length)) :
    Spaced (l.inValueAfter v) a b → Spaced v (l.text.toList ++ a) (l.text.toList ++ b)

namespace Lexeme

theorem isNamePart_of_isSpace {c : Char} (h : isSpace c) : c ≠ '(' ∧ isNamePart c = false := by
  simp only [isSpace, Bool.or_eq_true, decide_eq_true_eq] at h
  obtain (((rfl | rfl) | rfl) | rfl) | rfl := h <;> decide

end Lexeme

namespace Gap

variable {v : Bool} {g cs : List Char} {ls : List Lexeme}

theorem head (h : Gap g) : ∀ c ∈ g.head?, c ≠ '(' ∧ isNamePart c = false := by
  intro c hc
  cases h <;> cases hc
  case blank h => exact isNamePart_of_isSpace h
  case comment => decide

theorem spells (h : Gap g) (hs : Spells v cs ls) : Spells v (g ++ cs) ls := by
  induction h
  case nil => exact hs
  case blank hc _ hi => exact .blank hc hi
  case comment hb _ hi => simpa using Spells.comment hb hi

end Gap

namespace Spaced

variable {v : Bool} {a b : List Char}

-- What now follows a word: a gap, or what has followed it before.
theorem head (h : Spaced v a b) :
    ∀ c ∈ b.head?, c ≠ '(' ∧ (isNamePart c = false ∨ c ∈ a.head?) := by
  induction h
  case nil => simp
  case gap g a b hg _ hi =>
    intro c hc
    rw [List.head?_append, Option.mem_def, Option.or_eq_some_iff] at hc
    obtain hc | ⟨-, hc⟩ := hc
    · exact (hg.head c hc).imp_right .inl
    · exact hi c hc
  case blank hs _ _ =>
    intro c hc
    cases hc
    exact (isNamePart_of_isSpace hs).imp_right .inl
  case comment =>
    intro c hc
    cases hc
    exact ⟨by decide, .inr rfl⟩
  case word v l a b hf _ _ =>
    intro c hc
    obtain ⟨d, rest, hl, hd⟩ := exists_cons_of_first? hf
    rw [hl] at hc ⊢
    cases hc
    exact ⟨hd, .inr rfl⟩

-- The words of both texts are the same.
theorem exists_spells (h : Spaced v a b) : ∃ ls, Spells v a ls ∧ Spells v b ls := by
  induction h
  case nil => exact ⟨[], .nil, .nil⟩
  case gap hg _ hi =>
    have ⟨ls, ha, hb⟩ := hi
    exact ⟨ls, ha, hg.spells hb⟩
  case blank hc _ hi =>
    have ⟨ls, ha, hb⟩ := hi
    exact ⟨ls, .blank hc ha, .blank hc hb⟩
  case comment hc _ hi =>
    have ⟨ls, ha, hb⟩ := hi
    exact ⟨ls, .comment hc ha, .comment hc hb⟩
  case word l _ _ hf hs hi =>
    have ⟨ls, ha, hb⟩ := hi
    exact ⟨l :: ls, .word hf ha, .word (first?_replace hf fun _ => hs.head) hb⟩

end Spaced

namespace Document

variable {a b : String} {ls : List Lexeme} {c : Compiled}

-- What a text compiles to depends on its words alone.
theorem compileText_of_words (ha : Spells false a.toList ls) (hb : Spells false b.toList ls)
    (hc : (compileText a).result = .ok c) : (compileText b).result = .ok c := by
  have ⟨d, hd, hcd⟩ := compileText_eq_ok.mp hc
  refine compileText_of_spells ?_ hcd
  have ⟨_, hl⟩ := Spells.iff_ofText.mp ha
  have ⟨_, hl'⟩ := Spells.iff_ofText.mp (spells_of_parse hd)
  rwa [← hl'.symm.trans hl] at hb

end Document

namespace Sheet

-- A text compiles just if it compiles with gaps put in, and to the same sheet: with the same
-- imports loaded, the same styles and the same scopes in the same order.
theorem ofText_spaced {a b : String} (h : Spaced false a.toList b.toList) (fs : Files)
    (base : Location) (s : Sheet) :
    (ofText fs base a).result = .ok s ↔ (ofText fs base b).result = .ok s := by
  have ⟨ls, ha, hb⟩ := h.exists_spells
  rw [ofText_eq_ok, ofText_eq_ok]
  constructor
  case mp => exact fun ⟨c, hc, hs⟩ => ⟨c, Document.compileText_of_words ha hb hc, hs⟩
  case mpr => exact fun ⟨c, hc, hs⟩ => ⟨c, Document.compileText_of_words hb ha hc, hs⟩

-- Comments that hold a quote, a star and a slash, beside a pattern and around a colour.
theorem ofText_spaced_commented : ∃ s,
    (ofText ⟨[]⟩ .root "rgb/x/{color:rgb(1,2,3);}").result = .ok s ∧
    (ofText ⟨[]⟩ .root "/*\"*/rgb /x//***/\x7bcolor:\n/*/*/rgb(1,2,3);\x7d\t").result = .ok s := by
  have quote : Enclosed ['\"'] := .char (by decide) .nil
  have star : Enclosed ['*'] := .char (by decide) .nil
  have slash : Enclosed ['/'] := .char (by decide) .nil
  have spaced : Spaced false "rgb/x/{color:rgb(1,2,3);}".toList
      "/*\"*/rgb /x//***/\x7bcolor:\n/*/*/rgb(1,2,3);\x7d\t".toList := by
    refine .gap (.comment quote .nil) (.word (l := .name "rgb") rfl ?_)
    refine .gap (.blank (by decide) .nil) (.word (l := .regex "/x/") rfl ?_)
    refine .gap (.comment star .nil) (.word (l := .leftBrace) rfl ?_)
    refine .word (l := .name "color") rfl (.word (l := .colon) rfl ?_)
    refine .gap (.blank (by decide) (.comment slash .nil)) (.word (l := .rgb "rgb(1,2,3)") rfl ?_)
    refine .word (l := .semicolon) rfl (.word (l := .rightBrace) rfl ?_)
    exact .gap (.blank (by decide) .nil) .nil
  have compiles : (ofText ⟨[]⟩ .root "rgb/x/{color:rgb(1,2,3);}").value?.isSome := by
    decide +kernel
  have ⟨s, hs⟩ := Option.isSome_iff_exists.mp compiles
  have hs := Logged.value?_eq_some.mp hs
  exact ⟨s, hs, (ofText_spaced spaced ⟨[]⟩ .root s).mp hs⟩

end Sheet

end Highlight
