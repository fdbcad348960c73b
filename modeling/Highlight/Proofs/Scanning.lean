import Highlight.Proofs.Words

namespace Highlight

open Lexeme

-- Blanks and comments may stand before each word and at the end. Whether a value is being read
-- decides what is one word.
inductive Spells : Bool → List Char → List Lexeme → Prop
  | nil {v : Bool} : Spells v [] []
  | blank {v : Bool} {c : Char} {cs : List Char} {ls : List Lexeme} (h : isSpace c) :
    Spells v cs ls → Spells v (c :: cs) ls
  | comment {v : Bool} {body cs : List Char} {ls : List Lexeme} (h : Enclosed body) :
    Spells v cs ls → Spells v ('/' :: '*' :: (body ++ '*' :: '/' :: cs)) ls
  | word {v : Bool} {l : Lexeme} {cs : List Char} {ls : List Lexeme}
    (h : first? v (l.text.toList ++ cs) = some (l, l.text.length)) :
    Spells (l.inValueAfter v) cs ls → Spells v (l.text.toList ++ cs) (l :: ls)

-- What comes after the words cannot make the last of them longer.
def Closed (ls : List Lexeme) : Prop :=
  ∀ l ∈ ls.getLast?, l.isOpen = false

theorem Closed.concat {l : Lexeme} (ls : List Lexeme) (h : l.isOpen = false) :
    Closed (ls ++ [l]) := by
  simpa [Closed] using h

theorem Closed.append {ls more : List Lexeme} (h : Closed ls) (hm : Closed more) :
    Closed (ls ++ more) := by
  intro l hl
  rw [List.getLast?_append, Option.mem_def, Option.or_eq_some_iff] at hl
  exact hl.elim (hm l) fun ⟨_, hl⟩ => h l hl

namespace Scan

variable {v : Bool} {cs : List Char} {ls : List Lexeme} {n offset offset' : Nat} {p p' : Position}

-- The words of a text, if all of it is words.
def lexemes? (s : Scan) : Option (List Lexeme) :=
  if s.stop.isNone then some (s.tokens.map Token.lexeme) else none

theorem lexemes?_eq_some {s : Scan} :
    s.lexemes? = some ls ↔ s.stop = none ∧ s.tokens.map Token.lexeme = ls := by
  simp [lexemes?]

theorem lexemes?_cons (t : Token) (s : Scan) :
    (s.cons t).lexemes? = s.lexemes?.map (t.lexeme :: ·) := by
  unfold lexemes? cons
  split <;> simp

theorem lexemes?_gap (h : gapWidth? cs = some n) :
    (scanFrom v offset p cs).lexemes? =
      (scanFrom v (offset + n) (p.advance (cs.take n)) (cs.drop n)).lexemes? := by
  cases cs
  case nil => cases h
  case cons c cs =>
    rw [scanFrom, h, List.drop_cons (gapWidth?_pos h)]

theorem lexemes?_word {l : Lexeme} (h : first? v cs = some (l, n)) :
    (scanFrom v offset p cs).lexemes? =
      (scanFrom (l.inValueAfter v) (offset + n) (p.advance (cs.take n))
        (cs.drop n)).lexemes?.map (l :: ·) := by
  have ⟨_, hw, _⟩ := width?_of_first? h
  have ⟨hpos, hle⟩ := width?_bounds hw
  cases cs
  case nil => exact absurd hle (Nat.not_le.mpr hpos)
  case cons c cs =>
    rw [scanFrom, gapWidth?_of_width? hw, h, List.drop_cons hpos]
    exact lexemes?_cons _ _

-- Where a text stands makes no difference to its words.
theorem lexemes?_scanFrom :
    (scanFrom v offset p cs).lexemes? = (scanFrom v offset' p' cs).lexemes? := by
  fun_induction scanFrom v offset p cs generalizing offset' p'
  case case1 => rw [scanFrom]
  case case2 v offset p c cs move n hg hi =>
    rw [scanFrom, hg]
    exact hi
  case case3 v offset p c cs move hg l n hf hi =>
    rw [scanFrom, hg, hf, lexemes?_cons, lexemes?_cons]
    exact congrArg _ hi
  case case4 v offset p c cs hg hf =>
    rw [scanFrom, hg, hf]
    rfl

theorem lexemes?_drop_blanks :
    (scanFrom v offset p (cs.drop (Text.span isSpace cs))).lexemes? =
      (scanFrom v offset p cs).lexemes? := by
  by_cases hn : 0 < Text.span isSpace cs
  case pos =>
    rw [lexemes?_gap (gapWidth?_eq_some.mpr (.inl ⟨rfl, hn⟩))]
    exact lexemes?_scanFrom
  case neg => rw [Nat.eq_zero_of_not_pos hn, List.drop_zero]

-- A run of blanks is passed over at once, so one of them is passed over with those after it.
theorem lexemes?_of_spells (h : Spells v cs ls) :
    (scanFrom v offset p cs).lexemes? = some ls := by
  induction h generalizing offset p
  case nil => rw [scanFrom]; rfl
  case blank v c cs ls hc _ hi =>
    have hn : Text.span isSpace (c :: cs) = Text.span isSpace cs + 1 := by simp [Text.span, hc]
    rw [lexemes?_gap (gapWidth?_eq_some.mpr (.inl ⟨hn, Nat.succ_pos _⟩)), List.drop_succ_cons,
      lexemes?_drop_blanks]
    exact hi
  case comment v body cs ls hb _ hi =>
    have hd : ('/' :: '*' :: (body ++ '*' :: '/' :: cs)).drop (body.length + 4) = cs := by simp
    rw [lexemes?_gap (gapWidth?_eq_some.mpr (.inr ⟨body, cs, hb, rfl, rfl⟩)), hd]
    exact hi
  case word l cs ls hw _ hi =>
    rw [lexemes?_word hw, ← String.length_toList, List.drop_left, hi]
    rfl

end Scan

namespace Spells

variable {v : Bool} {a b cs : List Char} {ls more : List Lexeme} {n : Nat}

theorem of_drop_blanks (h : Spells v (cs.drop (Text.span isSpace cs)) ls) : Spells v cs ls := by
  induction cs
  case nil => exact h
  case cons c cs hi =>
    by_cases hc : isSpace c
    case pos => exact .blank hc (hi (by simpa [Text.span, hc] using h))
    case neg => simpa [Text.span, hc] using h

theorem of_gap (hg : gapWidth? cs = some n) (h : Spells v (cs.drop n) ls) : Spells v cs ls := by
  obtain ⟨rfl, -⟩ | ⟨body, rest, hb, rfl, rfl⟩ := gapWidth?_eq_some.mp hg
  · exact of_drop_blanks h
  · exact .comment hb (by simpa using h)

theorem of_first? {l : Lexeme} (hf : first? v cs = some (l, n))
    (h : Spells (l.inValueAfter v) (cs.drop n) ls) : Spells v cs (l :: ls) := by
  have ⟨hn, hcs⟩ := text_of_first? hf
  rw [hcs] at hf ⊢
  exact .word (hn ▸ hf) h

theorem of_lexemes? {offset : Nat} {p : Position}
    (h : (Scan.scanFrom v offset p cs).lexemes? = some ls) : Spells v cs ls := by
  fun_induction Scan.scanFrom v offset p cs generalizing ls
  case case1 => cases h; exact .nil
  case case2 v offset p c cs move n hg hi =>
    refine of_gap hg ?_
    rw [List.drop_cons (gapWidth?_pos hg)]
    exact hi h
  case case3 v offset p c cs move hg l n hf hi =>
    rw [Scan.lexemes?_cons] at h
    have ⟨ls', hl, he⟩ := Option.map_eq_some_iff.mp h
    subst he
    have ⟨_, hw, _⟩ := width?_of_first? hf
    refine of_first? hf ?_
    rw [List.drop_cons (width?_bounds hw).left]
    exact hi hl
  case case4 => cases h

theorem iff_ofText {text : String} : Spells false text.toList ls ↔
    (Scan.ofText text).stop = none ∧ (Scan.ofText text).tokens.map Token.lexeme = ls := by
  rw [← Scan.lexemes?_eq_some]
  exact ⟨Scan.lexemes?_of_spells, of_lexemes?⟩

-- Nothing that spells a word begins with a round bracket.
theorem exists_head (h : Spells v cs ls) (hl : ls ≠ []) : ∃ c rest, cs = c :: rest ∧ c ≠ '(' := by
  cases h
  case nil => exact absurd rfl hl
  case blank c cs hc _ =>
    refine ⟨c, cs, rfl, ?_⟩
    rintro rfl
    cases hc
  case comment => exact ⟨'/', _, rfl, by decide⟩
  case word l cs ls hf _ =>
    have ⟨c, rest, hl, hc⟩ := exists_cons_of_first? hf
    exact ⟨c, rest ++ cs, by rw [hl]; rfl, hc⟩

-- Every open word but the last has another word after it, whose beginning closes it.
theorem append (h : Spells v a ls) (hc : Closed ls)
    (hb : Spells (ls.foldl inValueAfter v) b more) : Spells v (a ++ b) (ls ++ more) := by
  induction h
  case nil => exact hb
  case blank hs _ hi => exact .blank hs (hi hc hb)
  case comment body cs ls he _ hi => simpa using Spells.comment he (hi hc hb)
  case word v l cs ls hf hs hi =>
    have hlast : Closed ls := fun m hm => hc m (by simp [List.getLast?_cons, Option.mem_def.mp hm])
    rw [List.append_assoc]
    refine .word (first?_append hf fun ho => hs.exists_head ?_) (hi hlast hb)
    rintro rfl
    exact absurd ho (Bool.eq_false_iff.mp (hc l rfl))

end Spells

end Highlight
