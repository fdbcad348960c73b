import Highlight.Proofs.Painting

namespace Highlight

namespace Ansi

theorem strip_of_sequence {cs rest : List Char} (h : afterSequence? cs = some rest) :
    strip cs = strip rest := by
  rw [strip]
  split
  case h_1 h' => cases h.symm.trans h'; rfl
  case h_2 h' => cases h.symm.trans h'

@[simp] theorem strip_nil : strip [] = [] := by
  rw [strip]
  rfl

theorem strip_cons {c : Char} (h : c ≠ escape) (cs : List Char) :
    strip (c :: cs) = c :: strip cs := by
  have hn : afterSequence? (c :: cs) = none := by
    unfold afterSequence?
    split
    case h_1 he => exact absurd (List.cons.inj he).left h
    case h_2 => rfl
  rw [strip]
  split
  case h_1 h' => cases hn.symm.trans h'
  case h_2 => rfl

theorem isParameter_of_isCode {c : Char} (h : isCode c) : isParameter c := by
  simp only [isCode, Char.isDigit, Bool.or_eq_true, Bool.and_eq_true, decide_eq_true_eq] at h
  simp only [isParameter, Bool.and_eq_true, decide_eq_true_eq]
  obtain ⟨hl, hu⟩ | rfl := h
  · exact ⟨hl, Nat.le_trans hu (by decide)⟩
  · decide

-- The sequences for renditions are escape sequences.
theorem afterSequence?_sequence {code : String} (h : code.toList.all isCode) (rest : List Char) :
    afterSequence? ((sequence code).toList ++ rest) = some rest := by
  have hd : (code.toList ++ 'm' :: rest).dropWhile isParameter = 'm' :: rest := by
    rw [List.dropWhile_append_of_pos fun c hc => isParameter_of_isCode (List.all_eq_true.mp h c hc)]
    rfl
  have hs : (sequence code).toList ++ rest = '\x1b' :: '[' :: (code.toList ++ 'm' :: rest) := by
    simp [sequence]
  rw [hs, afterSequence?, hd]
  rfl

theorem Shows.strip_eq {out text : List Char} (h : Shows out text) : strip out = text := by
  induction h
  case nil => exact strip_nil
  case char c out text hc _ hi => rw [strip_cons hc, hi]
  case sequence code out text hc _ hi =>
    rw [strip_of_sequence (afterSequence?_sequence hc out), hi]

theorem not_mem_of_all_isCode {cs : List Char} (h : cs.all isCode) : escape ∉ cs := by
  intro hm
  have := List.all_eq_true.mp h _ hm
  revert this
  decide

end Ansi

namespace Text

variable {sep : Char} {cs : List Char}

theorem not_mem_of_mem_splitOn {part : List Char} (hp : part ∈ splitOn sep cs) : sep ∉ part := by
  fun_induction splitOn sep cs generalizing part <;> grind

theorem splitOn_concat (sep : Char) (cs : List Char) :
    (cs ++ [sep]).splitOn sep = cs.splitOn sep ++ [[]] := by
  have hn : ∀ part ∈ cs.splitOn sep ++ [[]], sep ∉ part := by
    simp only [List.forall_mem_append, ← splitOn_eq]
    exact ⟨fun part => not_mem_of_mem_splitOn, by simp⟩
  have hi := intercalate_concat_nil sep (List.splitOn_ne_nil sep cs)
  rw [List.intercalate_splitOn] at hi
  rw [← hi, List.splitOn_intercalate sep hn (by simp)]

-- A text ends with a separator just if an empty part follows another one at the end.
theorem getLast?_splitOn_iff : (1 < (cs.splitOn sep).length ∧ (cs.splitOn sep).getLast? = some []) ↔
    cs.getLast? = some sep := by
  constructor
  case mp =>
    intro ⟨hl, he⟩
    have ⟨parts, hp⟩ := List.getLast?_eq_some_iff.mp he
    have hne : parts ≠ [] := by
      rintro rfl
      simp [hp] at hl
    have hc : cs = [sep].intercalate parts ++ [sep] := by
      rw [← intercalate_concat_nil sep hne, ← hp, List.intercalate_splitOn]
    rw [hc, List.getLast?_concat]
  case mpr =>
    intro h
    have ⟨before, hb⟩ := List.getLast?_eq_some_iff.mp h
    have := List.length_pos_of_ne_nil (List.splitOn_ne_nil sep before)
    rw [hb, splitOn_concat]
    simpa using this

end Text

namespace Lines

-- What is shown of a line.
def visible (line : List String) : List Char :=
  Ansi.plain (line.flatMap String.toList)

-- A line whose pieces all show something, but no line break.
structure Legible (line : List String) : Prop where
  shows : Ansi.Shows (line.flatMap String.toList) (visible line)
  unbroken : '\n' ∉ visible line
  visible_eq_nil_iff : visible line = [] ↔ line = []

namespace Legible

theorem of_shows {line : List String} {part : List Char}
    (hs : Ansi.Shows (line.flatMap String.toList) part) (hb : '\n' ∉ part)
    (hn : part = [] ↔ line = []) : Legible line := by
  have hv : visible line = part := hs.plain_eq
  subst hv
  exact ⟨hs, hb, hn⟩

theorem nil : Legible [] :=
  of_shows .nil List.not_mem_nil ⟨fun _ => rfl, fun _ => rfl⟩

theorem append {x y : List String} (hx : Legible x) (hy : Legible y) : Legible (x ++ y) := by
  have hs : Ansi.Shows ((x ++ y).flatMap String.toList) (visible x ++ visible y) := by
    rw [List.flatMap_append]
    exact hx.shows.append hy.shows
  refine of_shows hs ?_ ?_
  · exact fun h => (List.mem_append.mp h).elim hx.unbroken hy.unbroken
  · rw [List.append_eq_nil_iff, List.append_eq_nil_iff, hx.visible_eq_nil_iff,
      hy.visible_eq_nil_iff]

end Legible

theorem legible_append {xs ys : Lines} (hx : ∀ line ∈ xs, Legible line)
    (hy : ∀ line ∈ ys, Legible line) : ∀ line ∈ append xs ys, Legible line := by
  fun_induction append xs ys
  case case1 => exact hy
  case case2 => exact hx
  case case3 x y ys =>
    have ⟨hy, hys⟩ := List.forall_mem_cons.mp hy
    exact List.forall_mem_cons.mpr ⟨(hx x List.mem_cons_self).append hy, hys⟩
  case case4 x xs ys _ _ hi =>
    have ⟨hx, hxs⟩ := List.forall_mem_cons.mp hx
    exact List.forall_mem_cons.mpr ⟨hx, hi hxs hy⟩

variable {painter : Painter}

theorem legible_ofSpan (surrounds : painter.Surrounds) {s : Span}
    (h : Ansi.escape ∉ s.shown.toList) : ∀ line ∈ ofSpan painter s, Legible line := by
  refine List.forall_mem_map.mpr fun part hm => ?_
  split
  case isTrue => exact .nil
  case isFalse hne =>
    have hs := s.style.shows_paint_ofList surrounds fun he => h (Text.mem_of_mem_splitOn hm he)
    exact .of_shows (by simpa using hs) (Text.not_mem_of_mem_splitOn hm) (by simp [hne])

theorem legible_ofSpans (surrounds : painter.Surrounds) {spans : List Span}
    (h : ∀ s ∈ spans, Ansi.escape ∉ s.shown.toList) :
    ∀ line ∈ ofSpans painter spans, Legible line := by
  induction spans
  case nil => exact List.forall_mem_singleton.mpr .nil
  case cons s spans hi =>
    have ⟨hs, hr⟩ := List.forall_mem_cons.mp h
    exact legible_append (legible_ofSpan surrounds hs) (hi hr)

-- However a text is cut into spans, its lines show the parts between its line breaks.
theorem map_visible_ofSpans (surrounds : painter.Surrounds) {spans : List Span}
    (h : ∀ s ∈ spans, Ansi.escape ∉ s.shown.toList) :
    (ofSpans painter spans).map visible = (spans.flatMap (·.shown.toList)).splitOn '\n' := by
  have hl := legible_ofSpans surrounds h
  have hs : Ansi.Shows (ofSpans painter spans).text
      (['\n'].intercalate ((ofSpans painter spans).map visible)) :=
    .intercalate (by decide) fun line hm => (hl line hm).shows
  have hn : (ofSpans painter spans).map visible ≠ [] := by simpa using ofSpans_ne_nil painter spans
  rw [← (shows_ofSpans surrounds h).plain_eq, hs.plain_eq, List.splitOn_intercalate '\n' _ hn]
  exact List.forall_mem_map.mpr fun line hm => (hl line hm).unbroken

theorem isEnded_ofSpans_iff (surrounds : painter.Surrounds) {spans : List Span}
    (h : ∀ s ∈ spans, Ansi.escape ∉ s.shown.toList) :
    (ofSpans painter spans).isEnded ↔ (spans.flatMap (·.shown.toList)).getLast? = some '\n' := by
  have he : (∃ line, (ofSpans painter spans).getLast? = some line ∧ visible line = []) ↔
      (ofSpans painter spans).getLast? = some [] := by
    constructor
    case mp =>
      intro ⟨line, hl, hv⟩
      have hm := List.mem_of_getLast? hl
      rw [hl, ((legible_ofSpans surrounds h) line hm).visible_eq_nil_iff.mp hv]
    case mpr =>
      intro hl
      exact ⟨[], hl, Ansi.plain_nil⟩
  rw [← Text.getLast?_splitOn_iff, ← map_visible_ofSpans surrounds h, List.length_map,
    List.getLast?_map, Option.map_eq_some_iff, he]
  simp [isEnded]

end Lines

-- What a slot shows: the content that is declared for it, or else its own text.
def Decorations.content (d : Decorations) (s : Slot) : String :=
  (d.get s).content?.getD (s.text?.getD "")

namespace Layout

-- The lines of a text. A line break at its end ends the last line and begins no other.
def parts (text : List Char) : List (List Char) :=
  if text.getLast? = some '\n' then (text.splitOn '\n').dropLast else text.splitOn '\n'

-- A line of a page: its number, flush right, and the margin before it, and the mark after it.
def pageLine (o : Layout) (d : Decorations) (width number : Nat) (part : List Char) : List Char :=
  (if o.lineNumbers then
    List.leftpad width ' ' (toString number).toList ++ (d.content .margin).toList else []) ++
    part ++ (if o.lineEndings then (d.content .lineEnding).toList else [])

def pageLines (o : Layout) (d : Decorations) (parts : List (List Char)) : List (List Char) :=
  let width := (toString parts.length).length
  parts.zipIdx.map fun (part, i) => o.pageLine d width (i + 1) part

-- What is to be seen of a text. Nothing but the text itself says where its lines end.
def page (o : Layout) (d : Decorations) (text : List Char) : List Char :=
  ['\n'].intercalate (o.pageLines d (parts text)) ++
    if text.getLast? = some '\n' then ['\n'] else []

variable {painter : Painter}

theorem shows_number (surrounds : painter.Surrounds) (d : Decorations) (number width : Nat) :
    Ansi.Shows (d.number painter number width).toList
      (List.leftpad width ' ' (toString number).toList) := by
  have hn : Ansi.escape ∉ List.leftpad width ' ' (toString number).toList := by
    rw [List.leftpad, List.mem_append, not_or]
    refine ⟨fun h => ?_, Ansi.not_mem_of_all_isCode (all_isCode_toString number)⟩
    cases List.eq_of_mem_replicate h
  exact d.lineNumber.shows_paint_ofList surrounds hn

-- Something that is there only if an option is on.
theorem shows_if {b : Prop} [Decidable b] {out : String} {text : List Char}
    (h : Ansi.Shows out.toList text) :
    Ansi.Shows (if b then out else "").toList (if b then text else []) := by
  split
  case isTrue => exact h
  case isFalse => exact .nil

variable {d : Decorations}

theorem shows_line (surrounds : painter.Surrounds) (o : Layout)
    (hm : Ansi.escape ∉ (d.content .margin).toList)
    (he : Ansi.escape ∉ (d.content .lineEnding).toList) (width number : Nat) {line : List String}
    (hl : Lines.Legible line) :
    Ansi.Shows (o.line painter d width number line).toList
      (o.pageLine d width number (Lines.visible line)) := by
  have hs : Ansi.Shows (String.join line).toList (Lines.visible line) := by
    rw [String.toList_join]
    exact hl.shows
  have hn : Ansi.Shows (d.number painter number width ++ d.painted painter .margin).toList
      (List.leftpad width ' ' (toString number).toList ++ (d.content .margin).toList) := by
    rw [String.toList_append]
    exact (shows_number surrounds d number width).append ((d.get .margin).shows_paint surrounds hm)
  rw [Layout.line, String.toList_append, String.toList_append]
  exact ((shows_if hn).append hs).append (shows_if ((d.get .lineEnding).shows_paint surrounds he))

theorem shows_lines (surrounds : painter.Surrounds) (o : Layout)
    (hm : Ansi.escape ∉ (d.content .margin).toList)
    (he : Ansi.escape ∉ (d.content .lineEnding).toList) {lines : Lines}
    (hl : ∀ line ∈ lines, Lines.Legible line) :
    Ansi.Shows ("\n".intercalate (o.lines painter d lines)).toList
      (['\n'].intercalate (o.pageLines d (lines.map Lines.visible))) := by
  rw [String.toList_intercalate, Layout.lines, pageLines, List.length_map, List.zipIdx_map,
    List.map_map, List.map_map]
  refine .intercalate (by decide) fun entry hi => ?_
  exact shows_line surrounds o hm he _ _ (hl entry.1 (List.fst_mem_of_mem_zipIdx hi))

theorem shows_page (surrounds : painter.Surrounds) (o : Layout)
    (hm : Ansi.escape ∉ (d.content .margin).toList)
    (he : Ansi.escape ∉ (d.content .lineEnding).toList) {spans : List Span}
    (h : ∀ s ∈ spans, Ansi.escape ∉ s.shown.toList) :
    Ansi.Shows (o.render painter d spans).toList (o.page d (spans.flatMap (·.shown.toList))) := by
  have hl := Lines.legible_ofSpans surrounds h
  have hv := Lines.map_visible_ofSpans surrounds h
  rw [render, page, parts]
  split
  case isTrue hd =>
    have ht := (Lines.isEnded_ofSpans_iff surrounds h).mp hd
    have hs := shows_lines surrounds o hm he fun line hm => hl line (List.dropLast_subset _ hm)
    rw [List.map_dropLast, hv] at hs
    rw [if_pos ht, if_pos ht, String.toList_append]
    exact hs.append (.refl (by decide))
  case isFalse hd =>
    have ht := mt (Lines.isEnded_ofSpans_iff surrounds h).mpr hd
    have hs := shows_lines surrounds o hm he hl
    rw [hv] at hs
    rw [if_neg ht, if_neg ht, List.append_nil]
    exact hs

-- However a text is cut into spans, and however these are painted, the same page is seen.
theorem render_page (surrounds : painter.Surrounds) (o : Layout)
    (hm : Ansi.escape ∉ (d.content .margin).toList)
    (he : Ansi.escape ∉ (d.content .lineEnding).toList) {spans : List Span}
    (h : ∀ s ∈ spans, Ansi.escape ∉ s.shown.toList) :
    Ansi.strip (o.render painter d spans).toList = o.page d (spans.flatMap (·.shown.toList)) ∧
      ∀ spans' : List Span,
        spans'.flatMap (·.shown.toList) = spans.flatMap (·.shown.toList) →
        Ansi.strip (o.render painter d spans').toList =
          Ansi.strip (o.render painter d spans).toList := by
  have hs := (shows_page surrounds o hm he h).strip_eq
  refine ⟨hs, fun spans' ht => ?_⟩
  have h' : ∀ s ∈ spans', Ansi.escape ∉ s.shown.toList := by
    intro s hs hc
    have hc : Ansi.escape ∈ spans'.flatMap (·.shown.toList) := List.mem_flatMap.mpr ⟨s, hs, hc⟩
    rw [ht] at hc
    have ⟨s, hs, hc⟩ := List.mem_flatMap.mp hc
    exact h s hs hc
  rw [(shows_page surrounds o hm he h').strip_eq, ht, hs]

-- A line break within a span, others in content that stands for a text, and nothing at all in
-- place of a text. There are ten lines, so a number of one digit has a blank before it.
def Spans.broken : List Span :=
  [⟨"a\nb", { bold := some { value := true } }⟩,
    ⟨"x", { content := some { value := "\n\n\n\n\n\n\nc" } }⟩,
    ⟨"", ∅⟩,
    ⟨"y", { content := some { value := "" } }⟩,
    ⟨"d\n", { bold := some { value := true } }⟩,
    ⟨"e\n", ∅⟩]

theorem render_page_broken :
    (∀ s ∈ Spans.broken, Ansi.escape ∉ s.shown.toList) ∧
    Ansi.strip (render ⟨true, true⟩ .ansi {} Spans.broken).toList =
      (" 1 | a$\n 2 | b$\n 3 | $\n 4 | $\n 5 | $\n 6 | $\n 7 | $\n 8 | $\n 9 | cd$\n" ++
        "10 | e$\n").toList := by
  have h : ∀ s ∈ Spans.broken, Ansi.escape ∉ s.shown.toList := by decide +kernel
  refine ⟨h, ?_⟩
  rw [(render_page Painter.surrounds_ansi ⟨true, true⟩ (by decide +kernel) (by decide +kernel)
    h).left]
  decide +kernel

end Layout

end Highlight
