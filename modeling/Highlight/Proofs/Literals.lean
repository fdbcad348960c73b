import Highlight.Proofs.Printing

namespace Highlight

open Document (inner unescape unescapeAll unescapeSlashes unquote patternSource)

namespace Text

variable {c mark : Char} {cs : List Char}

-- Whether the escape of `c` is among the escapes of a text, each of which takes two characters.
def escapes (c : Char) : List Char → Bool
  | '\\' :: d :: cs => d = c || escapes c cs
  | _ :: cs => escapes c cs
  | [] => false

theorem escapes_pair {d : Char} : escapes c ('\\' :: d :: cs) = (d = c || escapes c cs) := rfl

theorem escapes_char {d : Char} (h : d ≠ '\\') : escapes c (d :: cs) = escapes c cs := by
  simp [escapes, h]

namespace Escaped

theorem newline_notMem (h : Escaped mark cs) : '\n' ∉ cs := by
  induction h
  case nil => simp
  case pair hc _ hi => simp [hc.symm, hi]
  case char hn _ _ hi => simp [hn.symm, hi]

theorem head?_ne (h : Escaped mark cs) (hm : mark ≠ '\\') : cs.head? ≠ some mark := by
  cases h
  case nil => simp
  case pair => simpa using hm.symm
  case char hc _ => simpa using hc

theorem of_pair (h : Escaped mark ('\\' :: c :: cs)) : Escaped mark cs := by
  cases h
  case pair h => exact h
  case char hb _ _ _ => exact absurd rfl hb

theorem of_char (h : Escaped mark (c :: cs)) (hc : c ≠ '\\') : Escaped mark cs := by
  cases h
  case pair => exact absurd rfl hc
  case char h => exact h

-- A mark inside is escaped, so it is there just if its escape is.
theorem mark_mem_iff (h : Escaped mark cs) (hm : mark ≠ '\\') : mark ∈ cs ↔ escapes mark cs := by
  induction h
  case nil => simp [escapes]
  case pair c cs _ _ hi => simp [escapes_pair, hm, hi, eq_comm (a := mark)]
  case char hb _ hc _ hi => simp [escapes_char hb, hc.symm, hi]

-- No line break is written as it is, so one that is read comes from its escape.
theorem newline_mem_iff (h : Escaped mark cs) : '\n' ∈ unescapeAll cs ↔ escapes 'n' cs := by
  induction h
  case nil => simp [unescapeAll, escapes]
  case pair c cs hc _ hi =>
    have hu : '\n' = unescape c ↔ c = 'n' := by
      unfold unescape
      split <;> simp_all [hc.symm]
    simp [unescapeAll, escapes_pair, hu, hi]
  case char hb hn _ _ hi => simp [unescapeAll, escapes_char hb, hb, hn.symm, hi]

-- A slash without its backslash would end the pattern.
theorem slash_notMem (h : Escaped '/' cs) (hs : Escaped '/' (unescapeSlashes cs)) : '/' ∉ cs := by
  induction h
  case nil => simp
  case pair c cs hc h hi =>
    by_cases hslash : c = '/'
    case pos =>
      cases hslash
      rw [unescapeSlashes] at hs
      exact absurd rfl (hs.head?_ne (by decide))
    case neg =>
      -- The backslash belongs to `c`; a second one is followed by no slash.
      have he : unescapeSlashes ('\\' :: c :: cs) = '\\' :: c :: unescapeSlashes cs := by
        have hd := h.head?_ne (by decide)
        cases cs <;> simp_all [unescapeSlashes]
      rw [he] at hs
      simpa [Ne.symm hslash] using hi hs.of_pair
  case char c cs hb hn hm _ hi =>
    have he : unescapeSlashes (c :: cs) = c :: unescapeSlashes cs := by simp [unescapeSlashes, hb]
    rw [he] at hs
    simpa [hm.symm] using hi (hs.of_char hb)

end Escaped

end Text

theorem Document.slash_mem_unescapeSlashes {cs : List Char} :
    '/' ∈ unescapeSlashes cs ↔ '/' ∈ cs := by
  fun_induction unescapeSlashes cs
  case case1 => simp
  case case2 hi => simp [hi]
  case case3 => simp

theorem Segment.text_token (literal : String) :
    (Segment.token literal).text = Atom.quoteLiteral literal := by
  rw [token, text, Atom.text]

theorem Segment.text_pattern (p : Pattern) : (Segment.pattern p).text = "/" ++ p.source ++ "/" := by
  rw [pattern, text, Atom.text]

theorem Atom.mem_escaped {c : Char} {cs : List Char} (h : c ∈ cs) : c ∈ escaped cs := by
  refine List.mem_flatMap.mpr ⟨c, h, ?_⟩
  split <;> simp

namespace Lexeme

variable {l : Lexeme} {s : Segment} {t : String}

-- A string or a pattern, which marks enclose.
def isEnclosed : Lexeme → Bool
  | string _ | regex _ => true
  | _ => false

-- The escapes that are not printed.
def isLossy : Lexeme → Bool
  | string t => Text.escapes 'n' (inner t)
  | regex t => Text.escapes '/' (inner t)
  | _ => false

-- The word stands in some text, and as a part of a selector it makes the segment.
def Denotes (l : Lexeme) (s : Segment) : Prop :=
  l.Scanned ∧ ∃ p : Document.Part Position, p.lexemes = [l] ∧ p.segment.result = .ok s

theorem exists_of_scanned_string (h : (string t).Scanned) :
    ∃ body, t.toList = '\"' :: (body ++ ['\"']) ∧ Text.Escaped '\"' body := by
  have ⟨cs, hw⟩ := h.exists_width?
  have ⟨body, rest, hb, he, hl⟩ := stringWidth?_eq_some.mp hw
  exact ⟨body, toList_of_enclosed he hl, hb⟩

theorem denotes_string (h : (string t).Scanned) : (string t).Denotes (.token (unquote t)) :=
  ⟨h, .token none t, rfl, rfl⟩

theorem denotes_regex {p : Pattern} (h : (regex t).Scanned) (hp : p.source = patternSource t) :
    (regex t).Denotes (.pattern p) := by
  refine ⟨h, .pattern none Position.start t, rfl, ?_⟩
  rw [Document.Part.segment, Logged.result_bind, Document.compilePattern_eq_ok.mpr hp]
  rfl

-- What a literal makes is the token or the pattern between its marks.
theorem Denotes.inversion (h : l.Denotes s) (hl : l.isEnclosed) :
    (∃ t, l = string t ∧ s = .token (unquote t)) ∨
      ∃ t p, l = regex t ∧ s = .pattern p ∧ p.source = patternSource t := by
  obtain ⟨-, p, hp, hs⟩ := h
  -- A part of one word has no `>` before it.
  have alone {child : Option Position} {w : Lexeme} {ws : List Lexeme}
      (h : Document.arrow child ++ w :: ws = [l]) : child = none ∧ w = l := by
    cases child <;> simp_all [Document.arrow]
  cases p <;> rw [Document.Part.lexemes] at hp <;> obtain ⟨rfl, rfl⟩ := alone hp
  case kind | dotted | branch => cases hl
  case token t =>
    exact .inl ⟨t, rfl, by simpa [Document.Part.segment, Document.applyChild] using hs.symm⟩
  case pattern t =>
    rw [Document.Part.segment] at hs
    obtain ⟨p, hc, hs⟩ := Logged.bind_eq_ok.mp hs
    exact .inr ⟨t, p, rfl, by simpa [Document.applyChild] using hs.symm,
      Document.compilePattern_eq_ok.mp hc⟩

-- The escapes of a literal that are not printed are in what it stands for.
theorem newline_mem_unquote_iff (h : (string t).Scanned) :
    '\n' ∈ (unquote t).toList ↔ (string t).isLossy := by
  have ⟨body, he, hb⟩ := exists_of_scanned_string h
  rw [unquote, String.toList_ofList, isLossy, Document.inner_eq he, hb.newline_mem_iff]

theorem slash_mem_patternSource_iff (h : (regex t).Scanned) :
    '/' ∈ (patternSource t).toList ↔ (regex t).isLossy := by
  have ⟨body, he, hb, _⟩ := exists_of_scanned_regex h
  rw [patternSource, String.toList_ofList, isLossy, Document.inner_eq he,
    Document.slash_mem_unescapeSlashes, hb.mark_mem_iff (by decide)]

theorem Scanned.newline_notMem (h : l.Scanned) (hl : l.isEnclosed) : '\n' ∉ l.text.toList := by
  cases l <;> cases hl
  case string t =>
    obtain ⟨body, he, hb⟩ := exists_of_scanned_string h
    simp [text, he, hb.newline_notMem]
  case regex t =>
    obtain ⟨body, he, hb, _⟩ := exists_of_scanned_regex h
    simp [text, he, hb.newline_notMem]

theorem exists_of_not_lossy (h : l.Denotes s) (hl : l.isEnclosed) (hn : ¬l.isLossy) :
    ∃ l' : Lexeme, l'.label = l.label ∧ l'.text = s.text ∧ l'.Denotes s := by
  obtain ⟨t, rfl, rfl⟩ | ⟨t, p, rfl, rfl, hp⟩ := h.inversion hl
  case inl =>
    rw [← newline_mem_unquote_iff h.left] at hn
    have hs : (string (Atom.quoteLiteral (unquote t))).Scanned :=
      (Spells.nil.quoteLiteral hn).scanned _ (by simp)
    have hd := denotes_string hs
    rw [Atom.unquote_quoteLiteral] at hd
    exact ⟨string (Atom.quoteLiteral (unquote t)), rfl, (Segment.text_token _).symm, hd⟩
  case inr =>
    rw [← slash_mem_patternSource_iff h.left, ← hp] at hn
    refine ⟨regex t, rfl, ?_, h⟩
    rw [Segment.text_pattern, Pattern.eq_of_patternSource h.left hp hn, text]

theorem text_ne_of_lossy (h : l.Denotes s) (hl : l.isLossy) {l' : Lexeme} (hl' : l'.isEnclosed)
    (hs : l'.Scanned) : l'.text ≠ s.text := by
  intro he
  have enclosed : l.isEnclosed := by cases l <;> first | rfl | cases hl
  obtain ⟨t, rfl, rfl⟩ | ⟨t, p, rfl, rfl, hp⟩ := h.inversion enclosed
  case inl =>
    -- The line break is printed as it is, and no literal has one.
    have hn : '\n' ∈ (unquote t).toList := (newline_mem_unquote_iff h.left).mpr hl
    apply hs.newline_notMem hl'
    rw [he, Segment.text_token, Atom.toList_quoteLiteral]
    simp [Atom.mem_escaped hn]
  case inr =>
    have he : l'.text.toList = '/' :: (p.source.toList ++ ['/']) := by
      simp [he, Segment.text_pattern]
    cases l' <;> cases hl'
    case string t' =>
      obtain ⟨body, he', _⟩ := exists_of_scanned_string hs
      simp [text, he'] at he
    case regex t' =>
      obtain ⟨body', he', hb', _⟩ := exists_of_scanned_regex hs
      have hbody : body' = p.source.toList := by simpa [text, he'] using he
      obtain ⟨body, ht, hb, _⟩ := exists_of_scanned_regex h.left
      rw [hp, patternSource, Document.inner_eq ht, String.toList_ofList] at hbody
      rw [isLossy, Document.inner_eq ht, ← hb.mark_mem_iff (by decide)] at hl
      exact hb.slash_notMem (hbody ▸ hb') hl

-- A segment that is read from a literal is printed as a literal of the same class that is read as
-- the segment, if every escape of the literal is printed. Otherwise no literal looks as it is
-- printed.
theorem text_of_denotes (h : l.Denotes s) (hl : l.isEnclosed) :
    (¬l.isLossy → ∃ l' : Lexeme, l'.label = l.label ∧ l'.text = s.text ∧ l'.Denotes s) ∧
      (l.isLossy → ∀ l' : Lexeme, l'.isEnclosed → l'.Scanned → l'.text ≠ s.text) :=
  ⟨exists_of_not_lossy h hl, fun hn _ hl' hs => text_ne_of_lossy h hn hl' hs⟩

-- A tab, a backslash with `n` after it, and a quote: the tab is printed as it is.
theorem text_of_denotes_tab : ∃ l : Lexeme, l.label = "STRING" ∧
    l.text = "\"\t\\\\n\\\"\"" ∧ l.Denotes (.token "\t\\n\"") := by
  have scanned : (string "\"\\t\\\\n\\\"\"").Scanned := ⟨false, [], by decide +kernel⟩
  have h : (string "\"\\t\\\\n\\\"\"").Denotes (.token "\t\\n\"") := denotes_string scanned
  have ⟨l, hl, ht, hd⟩ := (text_of_denotes h rfl).left (by decide)
  rw [Segment.text_token] at ht
  exact ⟨l, hl, ht, hd⟩

-- The line break stands between the quotes as it is, and the first slash ends the pattern.
theorem text_of_lossy : ∃ s t : Segment,
    (string "\"\\n\"").Denotes s ∧ s.text = "\"\n\"" ∧
    (regex "/a\\/b/").Denotes t ∧ t.text = "/a/b/" ∧
    ∀ l : Lexeme, l.isEnclosed → l.Scanned → l.text ≠ s.text ∧ l.text ≠ t.text := by
  have hp : (Pattern.compile "a/b").toOption.isSome := by decide +kernel
  obtain ⟨p, hp⟩ := Option.isSome_iff_exists.mp hp
  have hp : p.source = "a/b" := Pattern.source_of_compile (Logged.toOption_eq_some.mp hp)
  have hs : (string "\"\\n\"").Denotes (.token "\n") :=
    denotes_string ⟨false, [], by decide +kernel⟩
  have ht : (regex "/a\\/b/").Denotes (.pattern p) :=
    denotes_regex ⟨false, [], by decide +kernel⟩ hp
  refine ⟨.token "\n", .pattern p, hs, ?_, ht, ?_, fun l hl h => ⟨?_, ?_⟩⟩
  case refine_1 => rw [Segment.text_token]; rfl
  case refine_2 => rw [Segment.text_pattern, hp]; rfl
  case refine_3 => exact text_ne_of_lossy hs (by decide) hl h
  case refine_4 => exact text_ne_of_lossy ht (by decide) hl h

end Lexeme

end Highlight
