import Highlight.Layout
import Highlight.Style.Terminal
import Mathlib.Data.List.Basic

namespace Highlight

namespace Ansi

-- The characters of a code.
def isCode (c : Char) : Bool :=
  c.isDigit || c = ';'

-- What follows the sequence for a rendition that the text begins with, if it begins with one.
def afterRendition? : List Char → Option (List Char)
  | '\x1b' :: '[' :: cs => match cs.dropWhile isCode with
    | 'm' :: rest => some rest
    | _ => none
  | _ => none

theorem afterRendition?_length {cs rest : List Char} (h : afterRendition? cs = some rest) :
    rest.length < cs.length := by
  unfold afterRendition? at h
  split at h
  case h_2 => cases h
  case h_1 cs =>
    have hl := (List.dropWhile_sublist isCode (l := cs)).length_le
    split at h
    case h_2 => cases h
    case h_1 he =>
      cases h
      rw [he] at hl
      simp only [List.length_cons] at hl ⊢
      omega

-- The text without the sequences for renditions.
def plain (cs : List Char) : List Char :=
  match _h : afterRendition? cs with
  | some rest => plain rest
  | none => match cs with
    | [] => []
    | c :: cs => c :: plain cs
termination_by cs.length
decreasing_by
  · exact afterRendition?_length _h
  · simp

theorem plain_of_rendition {cs rest : List Char} (h : afterRendition? cs = some rest) :
    plain cs = plain rest := by
  rw [plain]
  split
  case h_1 h' => cases h.symm.trans h'; rfl
  case h_2 h' => cases h.symm.trans h'

@[simp] theorem plain_nil : plain [] = [] := by
  rw [plain]
  rfl

theorem plain_cons {c : Char} (h : c ≠ escape) (cs : List Char) :
    plain (c :: cs) = c :: plain cs := by
  have hn : afterRendition? (c :: cs) = none := by
    unfold afterRendition?
    split
    case h_1 he => exact absurd (List.cons.inj he).left h
    case h_2 => rfl
  rw [plain]
  split
  case h_1 h' => cases hn.symm.trans h'
  case h_2 => rfl

theorem afterRendition?_sequence {code : String} (h : code.toList.all isCode)
    (rest : List Char) : afterRendition? ((sequence code).toList ++ rest) = some rest := by
  have hd : (code.toList ++ 'm' :: rest).dropWhile isCode = 'm' :: rest := by
    rw [List.dropWhile_append_of_pos (List.all_eq_true.mp h)]
    rfl
  have hs : (sequence code).toList ++ rest = '\x1b' :: '[' :: (code.toList ++ 'm' :: rest) := by
    simp [sequence]
  rw [hs, afterRendition?, hd]
  rfl

-- The first text is the second one with sequences put between its characters, none of which is an
-- escape.
inductive Shows : List Char → List Char → Prop
  | nil : Shows [] []
  | char {c : Char} {out text : List Char} (h : c ≠ escape) :
    Shows out text → Shows (c :: out) (c :: text)
  | sequence {code : String} {out text : List Char} (h : code.toList.all isCode) :
    Shows out text → Shows ((sequence code).toList ++ out) text

namespace Shows

variable {out out' text text' : List Char}

theorem plain_eq (h : Shows out text) : plain out = text := by
  induction h
  case nil => exact plain_nil
  case char c out text hc _ hi => rw [plain_cons hc, hi]
  case sequence code out text hc _ hi =>
    rw [plain_of_rendition (afterRendition?_sequence hc out), hi]

theorem append (h : Shows out text) (h' : Shows out' text') :
    Shows (out ++ out') (text ++ text') := by
  induction h
  case nil => exact h'
  case char hc _ hi => exact .char hc hi
  case sequence hc _ hi =>
    rw [List.append_assoc]
    exact .sequence hc hi

theorem refl (h : escape ∉ text) : Shows text text := by
  induction text
  case nil => exact .nil
  case cons c text hi =>
    rw [List.mem_cons, not_or] at h
    exact .char (Ne.symm h.left) (hi h.right)

theorem reset : Shows Ansi.reset.toList [] := by
  rw [← List.append_nil Ansi.reset.toList]
  exact .sequence rfl .nil

theorem sequences {codes : List String} (hc : ∀ code ∈ codes, code.toList.all isCode) :
    Shows (String.join (codes.map Ansi.sequence)).toList [] := by
  rw [String.toList_join, List.flatMap_map]
  induction codes
  case nil => exact .nil
  case cons code codes hi =>
    have ⟨hd, ht⟩ := List.forall_mem_cons.mp hc
    exact .sequence hd (hi ht)

theorem flatMap {α : Type} {f g : α → List Char} {l : List α} (h : ∀ a ∈ l, Shows (f a) (g a)) :
    Shows (l.flatMap f) (l.flatMap g) := by
  induction l
  case nil => exact .nil
  case cons a l hi =>
    have ⟨ha, hl⟩ := List.forall_mem_cons.mp h
    exact ha.append (hi hl)

theorem intercalate {α : Type} {f g : α → List Char} {sep : List Char} {l : List α}
    (hs : escape ∉ sep) (h : ∀ a ∈ l, Shows (f a) (g a)) :
    Shows (sep.intercalate (l.map f)) (sep.intercalate (l.map g)) := by
  induction l
  case nil => exact .nil
  case cons a l hi =>
    have ⟨ha, hl⟩ := List.forall_mem_cons.mp h
    cases l
    case nil => simpa using ha
    case cons b l =>
      simp only [List.map_cons, ne_eq, reduceCtorEq, not_false_eq_true,
        List.intercalate_cons_of_ne_nil] at hi ⊢
      exact (ha.append (refl hs)).append (hi hl)

end Shows

end Ansi

theorem all_isCode_toString (n : Nat) : (toString n).toList.all Ansi.isCode := by
  refine List.all_eq_true.mpr fun c h => ?_
  have hd : c ∈ Nat.toDigits 10 n := by simpa using h
  simp [Ansi.isCode, Nat.isDigit_of_mem_toDigits (by decide) (by decide) hd]

theorem Ink.all_isCode_code (ink : Ink) (background : Bool) :
    (ink.code background).toList.all Ansi.isCode := by
  have hm : (if background then "48" else "38").toList.all Ansi.isCode := by
    cases background <;> rfl
  have hp : ";5;".toList.all Ansi.isCode := rfl
  have hr : ";2;".toList.all Ansi.isCode := rfl
  have hs : ";".toList.all Ansi.isCode := rfl
  cases ink
  case shade s => exact all_isCode_toString _
  case palette n =>
    simp only [code, String.toList_append, List.all_append, hm, hp, all_isCode_toString,
      Bool.and_self]
  case rgb r g b =>
    simp only [code, String.toList_append, List.all_append, hm, hr, hs, all_isCode_toString,
      Bool.and_self]

theorem Rendition.all_isCode_of_mem_codes {r : Rendition} {code : String} (h : code ∈ r.codes) :
    code.toList.all Ansi.isCode := by
  simp only [codes, List.mem_append, Option.mem_toList, Option.map_eq_some_iff,
    List.mem_filterMap] at h
  obtain (⟨ink, _, rfl⟩ | ⟨ink, _, rfl⟩) | ⟨e, _, on, _, rfl⟩ := h
  · exact ink.all_isCode_code false
  · exact ink.all_isCode_code true
  · exact all_isCode_toString _

namespace Painter

-- What is documented of the painter: it puts sequences for renditions before a text, and after it
-- the one that ends them all.
def Surrounds (painter : Painter) : Prop :=
  ∀ r text, ∃ codes : List String, (∀ code ∈ codes, code.toList.all Ansi.isCode) ∧
    painter r text = String.join (codes.map Ansi.sequence) ++ text ++ Ansi.reset

theorem surrounds_ansi : ansi.Surrounds :=
  fun r _ => ⟨r.codes, fun _ => Rendition.all_isCode_of_mem_codes, rfl⟩

end Painter

namespace Style

variable {painter : Painter}

theorem paint_of_isEmpty {s : Style} (h : s.build.isEmpty) (painter : Painter) (text : String) :
    s.paint painter text = text := by
  simp [paint, h]

theorem paint_nil (s : Style) (painter : Painter) : s.paint painter "" = "" := by
  simp [paint]

theorem shows_paint (surrounds : painter.Surrounds) (s : Style) {text : String}
    (h : Ansi.escape ∉ text.toList) : Ansi.Shows (s.paint painter text).toList text.toList := by
  rw [paint]
  split
  case isTrue => exact .refl h
  case isFalse =>
    have ⟨codes, hc, he⟩ := surrounds s.build text
    have shown := ((Ansi.Shows.sequences hc).append (.refl h)).append .reset
    rw [List.nil_append, List.append_nil] at shown
    rwa [he, String.toList_append, String.toList_append]

theorem shows_paint_ofList (surrounds : painter.Surrounds) (s : Style) {text : List Char}
    (h : Ansi.escape ∉ text) : Ansi.Shows (s.paint painter (String.ofList text)).toList text := by
  rw [← String.toList_ofList (l := text)] at h
  simpa using s.shows_paint surrounds h

end Style

namespace Text

theorem splitOn_eq (sep : Char) (cs : List Char) : splitOn sep cs = cs.splitOn sep := by
  induction cs
  case nil => rfl
  case cons c cs hi =>
    rw [splitOn, List.splitOn_cons_eq_if_modifyHead, hi]
    by_cases hc : c = sep
    case pos => simp [hc]
    case neg =>
      cases hs : cs.splitOn sep
      case nil => exact absurd hs (List.splitOn_ne_nil sep cs)
      case cons part rest => simp [hc]

theorem mem_of_mem_splitOn {sep c : Char} {cs part : List Char} (hp : part ∈ splitOn sep cs)
    (hc : c ∈ part) : c ∈ cs := by
  fun_induction splitOn sep cs generalizing part <;> grind

-- A last part that is empty adds nothing but the separator before it.
theorem intercalate_concat_nil (sep : Char) {parts : List (List Char)} (h : parts ≠ []) :
    [sep].intercalate (parts ++ [[]]) = [sep].intercalate parts ++ [sep] := by
  induction parts
  case nil => exact absurd rfl h
  case cons part parts hi =>
    cases parts
    case nil => simp
    case cons next parts =>
      have hn := List.cons_ne_nil next parts
      have hc := List.append_ne_nil_of_left_ne_nil hn [[]]
      rw [List.cons_append, List.intercalate_cons_of_ne_nil hc, hi hn,
        List.intercalate_cons_of_ne_nil hn]
      simp

end Text

namespace Lines

-- The characters of lines of pieces, with a line break between two lines.
def text (lines : Lines) : List Char :=
  ['\n'].intercalate (lines.map (·.flatMap String.toList))

theorem append_ne_nil {xs ys : Lines} (h : ys ≠ []) : append xs ys ≠ [] := by
  fun_cases append xs ys <;> simp_all

theorem text_cons (line : List String) {lines : Lines} (h : lines ≠ []) :
    text (line :: lines) = line.flatMap String.toList ++ '\n' :: text lines := by
  rw [text, List.map_cons, List.intercalate_cons_of_ne_nil (by simpa using h)]
  simp [text]

-- Running lines on with others breaks no line between them.
theorem text_append {xs ys : Lines} (hx : xs ≠ []) (hy : ys ≠ []) :
    text (append xs ys) = text xs ++ text ys := by
  induction xs
  case nil => exact absurd rfl hx
  case cons x xs hi =>
    cases xs
    case nil =>
      have ⟨y, ys, he⟩ := List.exists_cons_of_ne_nil hy
      subst he
      cases ys <;> simp [append, text]
    case cons x' xs =>
      have ha : append (x :: x' :: xs) ys = x :: append (x' :: xs) ys := by
        rw [append]
        all_goals simp
      rw [ha, text_cons x (append_ne_nil hy), hi (List.cons_ne_nil _ _),
        text_cons x (List.cons_ne_nil _ _)]
      simp

variable {painter : Painter}

theorem ofSpan_ne_nil (painter : Painter) (s : Span) : ofSpan painter s ≠ [] := by
  simp [ofSpan, Text.splitOn_eq]

theorem text_ofSpan (painter : Painter) (s : Span) : (ofSpan painter s).text =
    ['\n'].intercalate ((Text.splitOn '\n' s.shown.toList).map fun part =>
      (s.style.paint painter (String.ofList part)).toList) := by
  rw [text, ofSpan, List.map_map]
  refine congrArg _ <| List.map_congr_left fun part _ => ?_
  by_cases hp : part = []
  case pos => simp [hp, s.style.paint_nil painter]
  case neg => simp [hp]

theorem shows_ofSpan (surrounds : painter.Surrounds) {s : Span}
    (h : Ansi.escape ∉ s.shown.toList) :
    Ansi.Shows (ofSpan painter s).text s.shown.toList := by
  have hs : Ansi.Shows (ofSpan painter s).text
      (['\n'].intercalate ((Text.splitOn '\n' s.shown.toList).map id)) := by
    rw [text_ofSpan]
    refine .intercalate (by decide) fun part hp => ?_
    exact s.style.shows_paint_ofList surrounds fun he => h (Text.mem_of_mem_splitOn hp he)
  rw [List.map_id, Text.splitOn_eq, List.intercalate_splitOn] at hs
  exact hs

theorem text_ofSpan_of_isEmpty {s : Span} (h : s.style.build.isEmpty) (painter : Painter) :
    (ofSpan painter s).text = s.shown.toList := by
  rw [text_ofSpan]
  simp [Style.paint_of_isEmpty h, Text.splitOn_eq, List.intercalate_splitOn]

theorem ofSpans_ne_nil (painter : Painter) (spans : List Span) : ofSpans painter spans ≠ [] := by
  induction spans
  case nil => simp [ofSpans]
  case cons s spans hi => exact append_ne_nil hi

theorem text_ofSpans (painter : Painter) (spans : List Span) :
    (ofSpans painter spans).text = spans.flatMap fun s => (ofSpan painter s).text := by
  induction spans
  case nil => rfl
  case cons s spans hi =>
    rw [List.flatMap_cons, ← hi]
    exact text_append (ofSpan_ne_nil painter s) (ofSpans_ne_nil painter spans)

theorem shows_ofSpans (surrounds : painter.Surrounds) {spans : List Span}
    (h : ∀ s ∈ spans, Ansi.escape ∉ s.shown.toList) :
    Ansi.Shows (ofSpans painter spans).text (spans.flatMap (·.shown.toList)) := by
  rw [text_ofSpans]
  exact .flatMap fun s hs => shows_ofSpan surrounds (h s hs)

theorem text_concat_nil {lines : Lines} (h : lines ≠ []) :
    text (lines ++ [[]]) = lines.text ++ ['\n'] := by
  have hn : lines.map (·.flatMap String.toList) ≠ [] := by simpa using h
  simpa [text] using Text.intercalate_concat_nil '\n' hn

theorem exists_of_isEnded {lines : Lines} (h : lines.isEnded) :
    ∃ ended, ended ≠ [] ∧ lines = ended ++ [[]] := by
  simp only [isEnded, gt_iff_lt, Bool.and_eq_true, decide_eq_true_eq] at h
  have ⟨ended, he⟩ := List.getLast?_eq_some_iff.mp h.right
  refine ⟨ended, ?_, he⟩
  rintro rfl
  rw [he] at h
  exact absurd h.left (by decide)

end Lines

namespace Layout

variable {painter : Painter}

theorem lines_plain (painter : Painter) (d : Decorations) (lines : Lines) :
    Layout.lines {} painter d lines = lines.map String.join := by
  conv_rhs => rw [← List.zipIdx_map_fst 0 lines, List.map_map]
  simp [Layout.lines, line, Function.comp_def]

theorem intercalate_lines (painter : Painter) (d : Decorations) (lines : Lines) :
    ("\n".intercalate (Layout.lines {} painter d lines)).toList = lines.text := by
  rw [lines_plain, String.toList_intercalate, List.map_map, Lines.text]
  simp [Function.comp_def]

-- Without options there is nothing around the lines.
theorem render_plain (painter : Painter) (d : Decorations) (spans : List Span) :
    (render {} painter d spans).toList = (Lines.ofSpans painter spans).text := by
  rw [render]
  split
  case isFalse => exact intercalate_lines painter d _
  case isTrue h =>
    have ⟨ended, hn, he⟩ := Lines.exists_of_isEnded h
    rw [String.toList_append, intercalate_lines, he, List.dropLast_concat, Lines.text_concat_nil hn]
    rfl

theorem shows_render (surrounds : painter.Surrounds) {spans : List Span} (d : Decorations)
    (h : ∀ s ∈ spans, Ansi.escape ∉ s.shown.toList) :
    Ansi.Shows (render {} painter d spans).toList (spans.flatMap (·.shown.toList)) := by
  rw [render_plain]
  exact Lines.shows_ofSpans surrounds h

-- Styles that set nothing a painter is told leave the text as it is.
theorem render_of_isEmpty {spans : List Span} (painter : Painter) (d : Decorations)
    (h : ∀ s ∈ spans, s.style.build.isEmpty) :
    (render {} painter d spans).toList = spans.flatMap (·.shown.toList) := by
  rw [render_plain, Lines.text_ofSpans]
  exact List.flatMap_congr fun s hs => Lines.text_ofSpan_of_isEmpty (h s hs) painter

end Layout

end Highlight
