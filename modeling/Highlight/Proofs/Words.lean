import Highlight.Document.Lexeme
import Mathlib.Data.List.Basic

namespace Highlight

namespace Text

variable {belongs : Char → Bool} {mark : Char} {cs cs' : List Char} {n : Nat}

theorem span_le_length : span belongs cs ≤ cs.length :=
  (List.takeWhile_sublist belongs).length_le

-- How long a run is at least can be seen from as many characters.
theorem le_span_iff :
    n ≤ span belongs cs ↔ (cs.take n).length = n ∧ ∀ c ∈ cs.take n, belongs c := by
  induction cs generalizing n
  case nil => cases n <;> simp [span]
  case cons c cs hi =>
    cases n
    case zero => simp
    case succ n =>
      by_cases hc : belongs c
      case pos =>
        have hs : span belongs (c :: cs) = span belongs cs + 1 := by simp [span, hc]
        rw [hs, Nat.add_le_add_iff_right, hi]
        simp [hc]
      case neg => simp [span, hc]

theorem le_span_of_take (h : n ≤ span belongs cs) (ht : cs.take n = cs'.take n) :
    n ≤ span belongs cs' := by
  rw [le_span_iff] at h ⊢
  rwa [← ht]

-- A run that has ended is the same in every text with the same beginning.
theorem span_of_take (h : span belongs cs < n) (ht : cs.take n = cs'.take n) :
    span belongs cs' = span belongs cs := by
  have shorter {m : Nat} (hm : m ≤ n) : cs.take m = cs'.take m := by
    rw [← Nat.min_eq_left hm, ← List.take_take, ← List.take_take, ht]
  refine Nat.le_antisymm (Nat.not_lt.mp fun hlt => ?_) ?_
  case refine_1 => exact absurd (le_span_of_take hlt (shorter h).symm) (by omega)
  case refine_2 => exact le_span_of_take (Nat.le_refl _) (shorter (Nat.le_of_lt h))

theorem head?_drop_span : ∀ c ∈ (cs.drop (span belongs cs)).head?, belongs c = false := by
  intro c hc
  by_contra hb
  have hn : span belongs cs + 1 ≤ span belongs cs := by
    have ⟨hl, ha⟩ := le_span_iff.mp (Nat.le_refl (span belongs cs))
    rw [List.head?_drop, Option.mem_def] at hc
    rw [le_span_iff, List.take_add_one, hc]
    refine ⟨by simp [hl], fun d hd => ?_⟩
    cases List.mem_append.mp hd
    case inl hd => exact ha d hd
    case inr hd => simpa [List.mem_singleton.mp hd] using hb
  omega

-- A run that has not ended within the beginning ends there if nothing follows that belongs to it.
theorem span_of_head? (h : span belongs cs = n) (ht : cs.take n = cs'.take n)
    (hd : ∀ c ∈ (cs'.drop n).head?, belongs c = false) : span belongs cs' = n := by
  refine Nat.le_antisymm (Nat.not_lt.mp fun hlt => ?_)
    (le_span_of_take (Nat.le_of_eq h.symm) ht)
  have ⟨hl, ha⟩ := le_span_iff.mp hlt
  have hn : n < cs'.length := by
    rw [List.length_take] at hl
    omega
  have hout : belongs cs'[n] = false := hd _ (by simp [List.head?_drop])
  have hin : belongs cs'[n] = true := ha _ (List.mem_take_iff_getElem.mpr ⟨n, by omega, rfl⟩)
  cases hin.symm.trans hout

theorem exists_of_take_append (front cs : List Char) (n : Nat)
    (ht : (front ++ cs).take (front.length + n) = cs'.take (front.length + n)) :
    ∃ tail, cs' = front ++ tail ∧ cs.take n = tail.take n := by
  induction front generalizing cs'
  case nil => exact ⟨cs', rfl, by simpa using ht⟩
  case cons c front hi =>
    have hn : (c :: front).length + n = front.length + n + 1 := by
      rw [List.length_cons]
      omega
    rw [hn, List.cons_append, List.take_succ_cons] at ht
    cases cs'
    case nil => cases ht
    case cons d cs' =>
      rw [List.take_succ_cons, List.cons.injEq] at ht
      have ⟨tail, he, ht'⟩ := hi ht.right
      exact ⟨tail, by rw [ht.left, he]; rfl, ht'⟩

-- What may stand between two marks: on one line, and each mark inside with a backslash before it.
inductive Escaped (mark : Char) : List Char → Prop
  | nil : Escaped mark []
  | pair {c : Char} {cs : List Char} (h : c ≠ '\n') :
    Escaped mark cs → Escaped mark ('\\' :: c :: cs)
  | char {c : Char} {cs : List Char} (hb : c ≠ '\\') (hn : c ≠ '\n') (hm : c ≠ mark) :
    Escaped mark cs → Escaped mark (c :: cs)

theorem escapedEnd?_of_escaped (hb : mark ≠ '\\') (hn : mark ≠ '\n') {body : List Char}
    (h : Escaped mark body) (rest : List Char) :
    escapedEnd? mark (body ++ mark :: rest) = some (body.length + 1) := by
  induction h
  case nil => simp [escapedEnd?, hb]
  case pair c cs hc _ hi => simp [escapedEnd?, hc, hi]
  case char c cs hcb hcn hcm _ hi => simp [escapedEnd?, hcb, hcm, hi]

theorem exists_of_escapedEnd? (h : escapedEnd? mark cs = some n) :
    ∃ body rest, Escaped mark body ∧ cs = body ++ mark :: rest ∧ n = body.length + 1 := by
  fun_induction escapedEnd? mark cs generalizing n
  case case1 | case2 | case3 | case4 => cases h
  case case5 c cs hc hi =>
    have ⟨m, hm, he⟩ := Option.map_eq_some_iff.mp h
    have ⟨body, rest, hb, hcs, hl⟩ := hi hm
    exact ⟨'\\' :: c :: body, rest, .pair hc hb, by simp [hcs], by simp [← he, hl]⟩
  case case6 cs hn hs hp =>
    cases h
    exact ⟨[], cs, .nil, rfl, rfl⟩
  case case7 c cs hn hs hp hc hi =>
    have ⟨m, hm, he⟩ := Option.map_eq_some_iff.mp h
    have ⟨body, rest, hb, hcs, hl⟩ := hi hm
    refine ⟨c :: body, rest, .char ?_ hn hc hb, by simp [hcs], by simp [← he, hl]⟩
    -- A backslash is taken together with the character after it.
    rintro rfl
    cases cs
    case nil => exact hs rfl rfl
    case cons c cs => exact hp c cs rfl rfl

end Text

namespace Lexeme

open Text

variable {cs cs' more : List Char} {c : Char} {n : Nat} {l : Lexeme} {v : Bool}

-- What may stand in a comment: a star and a slash would end it.
inductive Enclosed : List Char → Prop
  | nil : Enclosed []
  | char {c : Char} {cs : List Char} (h : c = '*' → cs.head? ≠ some '/') :
    Enclosed cs → Enclosed (c :: cs)

theorem commentEnd?_of_enclosed {body : List Char} (h : Enclosed body) (rest : List Char) :
    commentEnd? (body ++ '*' :: '/' :: rest) = some (body.length + 2) := by
  induction h
  case nil => rfl
  case char c cs hc _ hi =>
    have hn : ∀ tail, c = '*' → cs ++ '*' :: '/' :: rest = '/' :: tail → False := by
      intro tail hs he
      cases cs
      case nil => cases he
      case cons d cs => exact hc hs (by cases he; rfl)
    simp [commentEnd?, hi]

theorem exists_of_commentEnd? (h : commentEnd? cs = some n) :
    ∃ body rest, Enclosed body ∧ cs = body ++ '*' :: '/' :: rest ∧ n = body.length + 2 := by
  fun_induction commentEnd? cs generalizing n
  case case1 => cases h
  case case2 rest =>
    cases h
    exact ⟨[], rest, .nil, rfl, rfl⟩
  case case3 c cs hc hi =>
    have ⟨m, hm, he⟩ := Option.map_eq_some_iff.mp h
    have ⟨body, rest, hb, hcs, hl⟩ := hi hm
    refine ⟨c :: body, rest, .char ?_ hb, by simp [hcs], by simp [← he, hl]⟩
    intro hs hh
    obtain ⟨body, rfl⟩ := List.head?_eq_some_iff.mp hh
    exact hc _ hs hcs

theorem isNameStart_of_nameWidth? (h : nameWidth? (c :: cs) = some n) : isNameStart c := by
  rw [nameWidth?] at h
  split at h
  case isTrue hc => exact hc
  case isFalse => cases h

theorem integerWidth?_eq_some :
    integerWidth? cs = some n ↔ span Char.isDigit cs = n ∧ n ≠ 0 := by
  unfold integerWidth?
  split <;> grind

theorem isDigit_of_integerWidth? (h : integerWidth? (c :: cs) = some n) : c.isDigit := by
  have ⟨hd, hn⟩ := integerWidth?_eq_some.mp h
  by_contra hc
  exact hn (by simpa [span, hc] using hd.symm)

theorem stringWidth?_eq_some : stringWidth? cs = some n ↔
    ∃ body rest, Escaped '\"' body ∧ cs = '\"' :: (body ++ '\"' :: rest) ∧
      n = body.length + 2 := by
  constructor
  case mp =>
    intro h
    unfold stringWidth? at h
    split at h
    case h_1 cs =>
      have ⟨m, hm, he⟩ := Option.map_eq_some_iff.mp h
      have ⟨body, rest, hb, hcs, hl⟩ := exists_of_escapedEnd? hm
      exact ⟨body, rest, hb, by rw [hcs], by omega⟩
    case h_2 => cases h
  case mpr =>
    rintro ⟨body, rest, hb, rfl, rfl⟩
    rw [stringWidth?, escapedEnd?_of_escaped (by decide) (by decide) hb]
    rfl

theorem regexWidth?_eq_some : regexWidth? cs = some n ↔
    ∃ body rest, Escaped '/' body ∧ body ≠ [] ∧ body.head? ≠ some '*' ∧
      cs = '/' :: (body ++ '/' :: rest) ∧ n = body.length + 2 := by
  constructor
  case mp =>
    intro h
    unfold regexWidth? at h
    split at h
    case h_2 => cases h
    case h_1 c cs =>
      split at h
      case isTrue => cases h
      case isFalse hc =>
        have ⟨m, hm, he⟩ := Option.map_eq_some_iff.mp h
        have ⟨body, rest, hb, hcs, hl⟩ := exists_of_escapedEnd? hm
        cases body
        case nil =>
          cases hcs
          simp at hc
        case cons d body =>
          cases hcs
          refine ⟨_, rest, hb, by simp, ?_, rfl, by omega⟩
          simp at hc ⊢
          exact hc.left
  case mpr =>
    rintro ⟨body, rest, hb, hne, hs, rfl, rfl⟩
    have he := escapedEnd?_of_escaped (by decide) (by decide) hb rest
    cases body
    case nil => exact absurd rfl hne
    case cons c body =>
      have hc : c ≠ '/' := by
        cases hb
        case pair => decide
        case char hm _ => exact hm
      rw [List.cons_append] at he ⊢
      rw [regexWidth?, he]
      simp at hs
      simp [hs, hc]

theorem hexWidth?_eq_some : hexWidth? cs = some n ↔
    ∃ rest, cs = '#' :: rest ∧ 6 ≤ span isHexDigit rest ∧ n = 7 := by
  constructor
  case mp =>
    intro h
    unfold hexWidth? at h
    split at h
    case h_2 => cases h
    case h_1 cs =>
      split at h
      case isFalse => cases h
      case isTrue hd => exact ⟨cs, rfl, hd, (Option.some.inj h).symm⟩
  case mpr =>
    rintro ⟨rest, rfl, hd, rfl⟩
    exact if_pos hd

theorem literalWidth?_eq_some {literal : String} :
    literalWidth? literal cs = some n ↔ literal.toList <+: cs ∧ n = literal.length := by
  unfold literalWidth?
  rw [← List.isPrefixOf_iff_prefix]
  split <;> simp [*, eq_comm]

-- Every run of a channel ends before the character that closes it.
theorem channelWidth?_of_take {close : Char} (h : channelWidth? close cs = some n) :
    n ≤ cs.length ∧ ∀ cs', cs.take n = cs'.take n → channelWidth? close cs' = some n := by
  unfold channelWidth? at h
  dsimp only at h
  generalize hb : span (isBlank ·.toNat) cs = before at h
  generalize hd : span (isDigit ·.toNat) (cs.drop before) = digits at h
  generalize ha : span (isBlank ·.toNat) (cs.drop (before + digits)) = after at h
  split at h
  case isTrue => cases h
  case isFalse hpos =>
    split at h
    case h_2 => cases h
    case h_1 c rest hr =>
      split at h
      case isFalse => cases h
      case isTrue hc =>
        cases h
        have hl : before + digits + after < cs.length := by
          by_contra hk
          rw [List.drop_eq_nil_of_le (Nat.le_of_not_lt hk)] at hr
          cases hr
        refine ⟨hl, fun cs' ht => ?_⟩
        have hdrop (k : Nat) : (cs.drop k).take (before + digits + after + 1 - k) =
            (cs'.drop k).take (before + digits + after + 1 - k) := by
          rw [← List.drop_take, ← List.drop_take, ht]
        have hb' : span (isBlank ·.toNat) cs' = before := by
          rw [span_of_take (by omega) ht, hb]
        have hd' : span (isDigit ·.toNat) (cs'.drop before) = digits := by
          rw [span_of_take (by omega) (hdrop before), hd]
        have ha' : span (isBlank ·.toNat) (cs'.drop (before + digits)) = after := by
          rw [span_of_take (by omega) (hdrop (before + digits)), ha]
        have hr' : (cs'.drop (before + digits + after)).head? = some c := by
          have := congrArg List.head? (hdrop (before + digits + after))
          simpa [List.head?_take, hr] using this.symm
        obtain ⟨rest', hr'⟩ := List.head?_eq_some_iff.mp hr'
        unfold channelWidth?
        dsimp only
        rw [hb', hd', ha', if_neg hpos, hr']
        exact if_pos hc

theorem rgbWidth?_of_take (h : rgbWidth? cs = some n) :
    0 < n ∧ n ≤ cs.length ∧ ∀ cs', cs.take n = cs'.take n → rgbWidth? cs' = some n := by
  unfold rgbWidth? at h
  split at h
  case h_2 => cases h
  case h_1 cs =>
    simp only [Option.bind_eq_bind, Option.bind_eq_some_iff] at h
    have ⟨red, hr, green, hg, blue, hb, hn⟩ := h
    have hn : n = red + green + blue + 4 := by
      have := Option.some.inj hn
      omega
    have ⟨hrl, hr'⟩ := channelWidth?_of_take hr
    have ⟨hgl, hg'⟩ := channelWidth?_of_take hg
    have ⟨hbl, hb'⟩ := channelWidth?_of_take hb
    rw [List.length_drop] at hgl hbl
    refine ⟨by omega, by simp only [List.length_cons]; omega, fun cs' ht => ?_⟩
    rw [hn, Nat.add_comm _ 4] at ht
    obtain ⟨tail, rfl, hc⟩ := exists_of_take_append ['r', 'g', 'b', '('] cs _ ht
    have within {k m : Nat} (hk : k + m ≤ red + green + blue) :
        (cs.drop k).take m = (tail.drop k).take m := by
      rw [List.take_drop, List.take_drop, ← Nat.min_eq_left hk, ← List.take_take,
        ← List.take_take, hc]
    have hr' := hr' tail (within (k := 0) (by omega))
    have hg' := hg' (tail.drop red) (within (by omega))
    have hb' := hb' (tail.drop (red + green)) (within (by omega))
    simp only [List.cons_append, List.nil_append, rgbWidth?, hr', hg', hb', hn,
      Option.bind_eq_bind, Option.bind_some]
    exact congrArg some (by omega)

theorem rgbWidth?_cons (h : c ≠ 'r') : rgbWidth? (c :: cs) = none := by
  unfold rgbWidth?
  split
  case h_1 he => exact absurd (List.cons.inj he).left h
  case h_2 => rfl

-- The width of the word of this class that the text begins with.
def width? : Lexeme → List Char → Option Nat
  | name _ => nameWidth?
  | integer _ => integerWidth?
  | string _ => stringWidth?
  | regex _ => regexWidth?
  | hexColour _ => hexWidth?
  | rgb _ => rgbWidth?
  | l => literalWidth? l.text

-- More characters could make a longer word of one of these.
def isOpen : Lexeme → Bool
  | name _ | integer _ => true
  | _ => false

-- The colour is one word where a value is read, and a name elsewhere.
def Admitted (inValue : Bool) (cs : List Char) : Lexeme → Prop
  | name _ => inValue = true → rgbWidth? cs = none
  | rgb _ => inValue = true
  | _ => True

theorem width?_literal (h : l ∈ literals) (v : Bool) (cs : List Char) :
    l.width? cs = literalWidth? l.text cs ∧ l.Admitted v cs := by
  simp only [literals, List.mem_cons, List.not_mem_nil, or_false] at h
  rcases h with rfl | rfl | rfl | rfl | rfl | rfl | rfl | rfl | rfl | rfl | rfl <;>
    exact ⟨rfl, trivial⟩

theorem isDigit_of_isNamePart (h : isNamePart c = false) : c.isDigit = false := by
  simp only [isNamePart, Char.isAlphanum, Bool.or_eq_false_iff] at h
  exact h.right.right

-- A word is seen from its own characters. Those of which more could follow also end where the text
-- ends, where no part of a name follows, and where they have ended before.
theorem width?_of_take (h : l.width? cs = some n) (ht : cs.take n = cs'.take n)
    (ho : l.isOpen → ∀ c ∈ (cs'.drop n).head?, isNamePart c = false ∨ c ∈ (cs.drop n).head?) :
    l.width? cs' = some n := by
  cases l
  case name =>
    cases cs
    case nil => cases h
    case cons c cs =>
      have hc := isNameStart_of_nameWidth? h
      obtain rfl : n = 1 + span isNamePart cs := by
        simp [width?, nameWidth?, hc] at h
        omega
      obtain ⟨tail, rfl, hc'⟩ := exists_of_take_append [c] cs _ ht
      rw [Nat.add_comm] at ho
      have hs : span isNamePart tail = span isNamePart cs := by
        refine span_of_head? rfl hc' fun d hd => ?_
        cases ho rfl d hd
        case inl hd => exact hd
        case inr hd => exact head?_drop_span d hd
      simp [width?, nameWidth?, hc, hs, Nat.add_comm]
  case integer =>
    have ⟨hs, hn⟩ := integerWidth?_eq_some.mp h
    refine integerWidth?_eq_some.mpr ⟨span_of_head? hs ht fun c hc => ?_, hn⟩
    cases ho rfl c hc
    case inl hc => exact isDigit_of_isNamePart hc
    case inr hc =>
      subst hs
      exact head?_drop_span c hc
  case string =>
    obtain ⟨body, rest, hb, rfl, rfl⟩ := stringWidth?_eq_some.mp h
    have ⟨tail, he, _⟩ : ∃ tail, cs' = '\"' :: (body ++ ['\"']) ++ tail ∧ _ :=
      exists_of_take_append _ rest 0 (by simpa using ht)
    exact stringWidth?_eq_some.mpr ⟨body, tail, hb, by simpa using he, rfl⟩
  case regex =>
    obtain ⟨body, rest, hb, hne, hs, rfl, rfl⟩ := regexWidth?_eq_some.mp h
    have ⟨tail, he, _⟩ : ∃ tail, cs' = '/' :: (body ++ ['/']) ++ tail ∧ _ :=
      exists_of_take_append _ rest 0 (by simpa using ht)
    exact regexWidth?_eq_some.mpr ⟨body, tail, hb, hne, hs, by simpa using he, rfl⟩
  case hexColour =>
    obtain ⟨rest, rfl, hd, rfl⟩ := hexWidth?_eq_some.mp h
    have ⟨tail, he, ht⟩ := exists_of_take_append ['#'] rest 6 ht
    exact hexWidth?_eq_some.mpr ⟨tail, he, le_span_of_take hd ht, rfl⟩
  case rgb => exact (rgbWidth?_of_take h).right.right cs' ht
  all_goals
    obtain ⟨hp, rfl⟩ := literalWidth?_eq_some.mp h
    rw [List.prefix_iff_eq_take, String.length_toList, ht] at hp
    exact literalWidth?_eq_some.mpr ⟨hp ▸ List.take_prefix _ cs', rfl⟩

-- No word is empty, and none reaches beyond the text.
theorem width?_bounds (h : l.width? cs = some n) : 0 < n ∧ n ≤ cs.length := by
  cases l
  case name =>
    cases cs
    case nil => cases h
    case cons c cs =>
      simp only [width?, nameWidth?] at h
      split at h <;> cases h
      have : span isNamePart cs ≤ cs.length := span_le_length
      simp only [List.length_cons]
      omega
  case integer =>
    have ⟨hs, hn⟩ := integerWidth?_eq_some.mp h
    exact ⟨Nat.pos_of_ne_zero hn, hs ▸ span_le_length⟩
  case string =>
    have ⟨body, rest, _, hcs, hn⟩ := stringWidth?_eq_some.mp h
    simp only [hn, hcs, List.length_cons, List.length_append]
    omega
  case regex =>
    have ⟨body, rest, _, _, _, hcs, hn⟩ := regexWidth?_eq_some.mp h
    simp only [hn, hcs, List.length_cons, List.length_append]
    omega
  case hexColour =>
    have ⟨rest, hcs, hd, hn⟩ := hexWidth?_eq_some.mp h
    have : span isHexDigit rest ≤ rest.length := span_le_length
    simp only [hn, hcs, List.length_cons]
    omega
  case rgb =>
    have ⟨hpos, hle, _⟩ := rgbWidth?_of_take h
    exact ⟨hpos, hle⟩
  all_goals
    have ⟨hp, hn⟩ := literalWidth?_eq_some.mp h
    subst hn
    rw [← String.length_toList]
    exact ⟨by decide, hp.length_le⟩

-- The readers in the order in which they are tried, and what is known of a word if one takes it.
theorem width?_of_first? (h : first? v cs = some (l, n)) :
    l.Admitted v cs ∧ l.width? cs = some n ∧ l.text.toList = cs.take n := by
  simp only [first?, Option.orElse_eq_or, HOrElse.hOrElse, OrElse.orElse, Option.or_eq_some_iff,
    Option.map_eq_some_iff, Prod.mk.injEq] at h
  obtain h | ⟨hrgb, h⟩ := h
  · split at h
    case isFalse => cases h
    case isTrue hv =>
      obtain ⟨_, hw, he⟩ := Option.map_eq_some_iff.mp h
      cases he
      exact ⟨hv, hw, String.toList_ofList⟩
  obtain ⟨_, hw, rfl, rfl⟩ | ⟨-, h⟩ := h
  · refine ⟨fun hv => ?_, hw, String.toList_ofList⟩
    rw [if_pos hv] at hrgb
    exact Option.map_eq_none_iff.mp hrgb
  -- Numbers, strings, patterns and colours, in this order.
  obtain ⟨_, hw, rfl, rfl⟩ | ⟨-, h⟩ := h
  · exact ⟨trivial, hw, String.toList_ofList⟩
  obtain ⟨_, hw, rfl, rfl⟩ | ⟨-, h⟩ := h
  · exact ⟨trivial, hw, String.toList_ofList⟩
  obtain ⟨_, hw, rfl, rfl⟩ | ⟨-, h⟩ := h
  · exact ⟨trivial, hw, String.toList_ofList⟩
  obtain ⟨_, hw, rfl, rfl⟩ | ⟨-, h⟩ := h
  · exact ⟨trivial, hw, String.toList_ofList⟩
  obtain ⟨l', hl, he⟩ := List.exists_of_findSome?_eq_some h
  obtain ⟨_, hw, he⟩ := Option.map_eq_some_iff.mp he
  cases he
  have ⟨hwidth, ha⟩ := width?_literal hl v cs
  have ⟨hp, hn⟩ := literalWidth?_eq_some.mp hw
  refine ⟨ha, hwidth ▸ hw, ?_⟩
  rw [hn, ← String.length_toList]
  exact List.prefix_iff_eq_take.mp hp

-- Now the other way round: no earlier reader takes a word away from its own one.

theorem first?_rgb (h : rgbWidth? cs = some n) :
    first? true cs = some (rgb (String.ofList (cs.take n)), n) := by
  simp [first?, h]

theorem first?_name (hr : v = true → rgbWidth? cs = none) (h : nameWidth? cs = some n) :
    first? v cs = some (name (String.ofList (cs.take n)), n) := by
  cases v
  case false => simp [first?, h]
  case true => simp [first?, hr rfl, h]

theorem isNameStart_of_isDigit (h : c.isDigit) : isNameStart c = false ∧ c ≠ 'r' := by
  have h9 : c.val.toNat ≤ 57 := by
    simp only [Char.isDigit, Bool.and_eq_true, decide_eq_true_eq] at h
    exact UInt32.le_iff_toNat_le.mp h.right
  constructor
  case right =>
    rintro rfl
    revert h9
    decide
  case left =>
    rw [Bool.eq_false_iff]
    intro hs
    have hdef : isNameStart c = (decide (c = '_') ||
        (decide ('A'.val ≤ c.val ∧ c.val ≤ 'Z'.val) || ('a'.val ≤ c.val && c.val ≤ 'z'.val))) :=
      rfl
    simp only [hdef, Bool.or_eq_true, Bool.and_eq_true, decide_eq_true_eq,
      UInt32.le_iff_toNat_le] at hs
    obtain rfl | ⟨ha, _⟩ | ⟨ha, _⟩ := hs
    · revert h9
      decide
    · have : 65 ≤ c.val.toNat := ha
      omega
    · have : 97 ≤ c.val.toNat := ha
      omega

theorem first?_integer (h : integerWidth? cs = some n) :
    first? v cs = some (integer (String.ofList (cs.take n)), n) := by
  cases cs
  case nil => cases h
  case cons c cs =>
    have ⟨hs, hr⟩ := isNameStart_of_isDigit (isDigit_of_integerWidth? h)
    simp [first?, rgbWidth?_cons hr, nameWidth?, hs, h]

theorem first?_string (h : stringWidth? cs = some n) :
    first? v cs = some (string (String.ofList (cs.take n)), n) := by
  have ⟨_, _, _, he, _⟩ := stringWidth?_eq_some.mp h
  subst he
  cases v <;> simp only [first?, h] <;> rfl

theorem first?_regex (h : regexWidth? cs = some n) :
    first? v cs = some (regex (String.ofList (cs.take n)), n) := by
  have ⟨_, _, _, _, _, he, _⟩ := regexWidth?_eq_some.mp h
  subst he
  cases v <;> simp only [first?, h] <;> rfl

theorem first?_hexColour (h : hexWidth? cs = some n) :
    first? v cs = some (hexColour (String.ofList (cs.take n)), n) := by
  have ⟨_, he, _, _⟩ := hexWidth?_eq_some.mp h
  subst he
  cases v <;> simp only [first?, h] <;> rfl

theorem first?_literal (h : l ∈ literals) (cs : List Char) :
    first? v (l.text.toList ++ cs) = some (l, l.text.length) := by
  simp only [literals, List.mem_cons, List.not_mem_nil, or_false] at h
  rcases h with rfl | rfl | rfl | rfl | rfl | rfl | rfl | rfl | rfl | rfl | rfl <;>
    cases v <;> rfl

theorem first?_of_width? (ha : l.Admitted v cs) (hw : l.width? cs = some n)
    (ht : l.text.toList = cs.take n) : first? v cs = some (l, n) := by
  have hs : l.text = String.ofList (cs.take n) := by rw [← ht, String.ofList_toList]
  cases l
  case rgb => cases ha; cases hs; exact first?_rgb hw
  case name => cases hs; exact first?_name ha hw
  case integer => cases hs; exact first?_integer hw
  case string => cases hs; exact first?_string hw
  case regex => cases hs; exact first?_regex hw
  case hexColour => cases hs; exact first?_hexColour hw
  all_goals
    obtain ⟨⟨rest, rfl⟩, rfl⟩ := literalWidth?_eq_some.mp hw
    exact first?_literal (by simp [literals]) rest

-- A text begins with the characters of its first word.
theorem text_of_first? (h : first? v cs = some (l, n)) :
    n = l.text.length ∧ cs = l.text.toList ++ cs.drop n := by
  have ⟨_, hw, ht⟩ := width?_of_first? h
  constructor
  case left =>
    rw [← String.length_toList, ht, List.length_take, Nat.min_eq_left (width?_bounds hw).right]
  case right => rw [ht, List.take_append_drop]

theorem exists_cons_of_first? (h : first? v (l.text.toList ++ cs) = some (l, n)) :
    ∃ c rest, l.text.toList = c :: rest ∧ c ≠ '(' := by
  have ⟨_, hw, ht⟩ := width?_of_first? h
  have ⟨hpos, hle⟩ := width?_bounds hw
  cases hl : l.text.toList
  case nil =>
    have := congrArg List.length (hl.symm.trans ht)
    rw [List.length_take, List.length_nil] at this
    omega
  case cons c rest =>
    refine ⟨c, rest, rfl, ?_⟩
    rintro rfl
    rw [hl] at h
    cases v <;> cases h

-- A word stands whatever comes after it. Only a name or a number could go on, and a name before a
-- round bracket could be the beginning of a colour.
theorem first?_replace {a b : List Char}
    (h : first? v (l.text.toList ++ a) = some (l, l.text.length))
    (ho : l.isOpen → ∀ c ∈ b.head?, c ≠ '(' ∧ (isNamePart c = false ∨ c ∈ a.head?)) :
    first? v (l.text.toList ++ b) = some (l, l.text.length) := by
  obtain ⟨ha, hw, -⟩ := width?_of_first? h
  have hdrop (cs : List Char) : (l.text.toList ++ cs).drop l.text.length = cs := by
    rw [← String.length_toList, List.drop_left]
  have htake (cs : List Char) : (l.text.toList ++ cs).take l.text.length = l.text.toList := by
    rw [← String.length_toList, List.take_left]
  have hw' : l.width? (l.text.toList ++ b) = some l.text.length := by
    refine width?_of_take hw (by rw [htake, htake]) fun hl => ?_
    rw [hdrop, hdrop]
    exact fun c hc => (ho hl c hc).right
  refine first?_of_width? ?_ hw' (htake b).symm
  cases l
  case name t =>
    intro hv
    by_contra hr
    unfold rgbWidth? at hr
    split at hr
    case h_2 => exact hr rfl
    case h_1 tail he =>
      have hl : t.toList.length = ['r', 'g', 'b'].length := by
        rw [he] at hw'
        exact String.length_toList.trans (Option.some.inj hw').symm
      have hs : t.toList ++ b = ['r', 'g', 'b'] ++ '(' :: tail := he
      exact (ho rfl '(' (by rw [(List.append_inj hs hl).right]; rfl)).left rfl
  all_goals exact ha

theorem first?_append (h : first? v (l.text.toList ++ cs) = some (l, l.text.length))
    (ho : l.isOpen → ∃ c rest, cs = c :: rest ∧ c ≠ '(') :
    first? v (l.text.toList ++ (cs ++ more)) = some (l, l.text.length) := by
  refine first?_replace h fun hl c hc => ?_
  obtain ⟨d, rest, rfl, hd⟩ := ho hl
  cases hc
  exact ⟨hd, .inr rfl⟩

-- A gap is a run of blanks or one comment.
theorem gapWidth?_eq_some : gapWidth? cs = some n ↔ (span isSpace cs = n ∧ 0 < n) ∨
    ∃ body rest, Enclosed body ∧ cs = '/' :: '*' :: (body ++ '*' :: '/' :: rest) ∧
      n = body.length + 4 := by
  have hblank (cs : List Char) : blankWidth? cs = some n ↔ span isSpace cs = n ∧ 0 < n := by
    unfold blankWidth?
    split <;> grind
  rw [gapWidth?, Option.orElse_eq_orElse, Option.orElse_eq_or, Option.or_eq_some_iff, hblank]
  constructor
  case mp =>
    rintro (h | ⟨-, h⟩)
    · exact .inl h
    unfold commentWidth? at h
    split at h
    case h_2 => cases h
    case h_1 cs =>
      have ⟨m, hm, he⟩ := Option.map_eq_some_iff.mp h
      have ⟨body, rest, hb, hcs, hl⟩ := exists_of_commentEnd? hm
      exact .inr ⟨body, rest, hb, by rw [hcs], by omega⟩
  case mpr =>
    rintro (h | ⟨body, rest, hb, rfl, rfl⟩)
    · exact .inl h
    · refine .inr ⟨rfl, ?_⟩
      rw [commentWidth?, commentEnd?_of_enclosed hb]
      rfl

theorem gapWidth?_pos (h : gapWidth? cs = some n) : 0 < n := by
  obtain ⟨_, hn⟩ | ⟨_, _, _, _, hn⟩ := gapWidth?_eq_some.mp h <;> omega

theorem gapWidth?_cons (hs : isSpace c = false) (hc : c = '/' → cs.head? ≠ some '*') :
    gapWidth? (c :: cs) = none := by
  rw [Option.eq_none_iff_forall_ne_some]
  intro n h
  obtain ⟨hn, hpos⟩ | ⟨body, rest, _, he, _⟩ := gapWidth?_eq_some.mp h
  · simp [span, hs] at hn
    omega
  · cases he
    exact hc rfl rfl

theorem isSpace_of_isNameStart (h : isNameStart c ∨ c.isDigit) : isSpace c = false := by
  rw [Bool.eq_false_iff]
  intro hs
  simp only [isSpace, Bool.or_eq_true, decide_eq_true_eq] at hs
  obtain (((rfl | rfl) | rfl) | rfl) | rfl := hs <;> revert h <;> decide

-- A text that begins with a word begins with no gap.
theorem gapWidth?_of_width? (h : l.width? cs = some n) : gapWidth? cs = none := by
  cases l
  case name =>
    cases cs
    case nil => rfl
    case cons c cs =>
      have hc := isNameStart_of_nameWidth? h
      refine gapWidth?_cons (isSpace_of_isNameStart (.inl hc)) ?_
      rintro rfl
      exact absurd hc (by decide)
  case integer =>
    cases cs
    case nil => rfl
    case cons c cs =>
      have hc := isDigit_of_integerWidth? h
      refine gapWidth?_cons (isSpace_of_isNameStart (.inr hc)) ?_
      rintro rfl
      exact absurd hc (by decide)
  case string =>
    have ⟨body, rest, _, he, _⟩ := stringWidth?_eq_some.mp h
    rw [he]
    rfl
  case regex =>
    have ⟨body, rest, _, hne, hs, he, _⟩ := regexWidth?_eq_some.mp h
    rw [he]
    refine gapWidth?_cons rfl fun _ => ?_
    rwa [List.head?_append_of_ne_nil _ hne]
  case hexColour =>
    have ⟨rest, he, _, _⟩ := hexWidth?_eq_some.mp h
    rw [he]
    rfl
  case rgb =>
    cases cs
    case nil => rfl
    case cons c cs =>
      by_cases hr : c = 'r'
      case pos => rw [hr]; rfl
      case neg => cases (rgbWidth?_cons hr).symm.trans h
  all_goals
    have ⟨⟨rest, he⟩, _⟩ := literalWidth?_eq_some.mp h
    rw [← he]
    rfl

end Lexeme

end Highlight
