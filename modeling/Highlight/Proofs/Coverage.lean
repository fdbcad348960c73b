import Highlight.Proofs.Painting
import Highlight.Proofs.Traversal

namespace Highlight

theorem bind_eq_ok {ε α β : Type} {x : Except ε α} {f : α → Except ε β} {b : β} :
    x >>= f = .ok b ↔ ∃ a, x = .ok a ∧ f a = .ok b := by
  cases x <;> simp [bind, Except.bind]

namespace Sheet

variable {P : Style → Prop} {sheet : Sheet} {token : Option String}

-- One step for each match, whatever its kind.
theorem foldlM_mergeReach_keeps (hm : ∀ s t, P s → P t → P (s.merge t)) (hb : P sheet.style)
    (hr : ∀ history trail style, sheet.resolve history trail token = .ok style → P style)
    {reaches : List Reach} {style result : Style} (hs : P style)
    (h : reaches.foldlM (sheet.mergeReach token) style = .ok result) : P result := by
  induction reaches generalizing style
  case nil => cases h; exact hs
  case cons reach reaches hi =>
    have ⟨next, hn, h⟩ := bind_eq_ok.mp h
    refine hi ?_ h
    cases reach
    case base => cases hn; exact hm _ _ hs hb
    case further history trail =>
      have ⟨nested, hnested, he⟩ := bind_eq_ok.mp hn
      cases he
      exact hm _ _ hs (hr history trail nested hnested)

mutual

-- Resolving merges base styles and does nothing else, so it keeps what merging keeps.
theorem resolve_keeps (hm : ∀ s t, P s → P t → P (s.merge t)) (token : Option String) :
    (sheet : Sheet) → (before : Selector) → (∀ entry ∈ sheet.walkFrom before, P entry.2.style) →
    ∀ history trail style, sheet.resolve history trail token = .ok style → P style
  | .node base scopes, before, h => fun history trail style hr => by
    have ⟨hb, hs⟩ := List.forall_mem_cons.mp h
    exact resolveScopes_keeps hm token scopes before hs history trail base style hb hr
termination_by structural sheet => sheet

theorem resolveScopes_keeps (hm : ∀ s t, P s → P t → P (s.merge t)) (token : Option String) :
    (scopes : List (Segment × Sheet)) → (before : Selector) →
    (∀ entry ∈ walkScopes before scopes, P entry.2.style) →
    ∀ history trail style result, P style →
      resolveScopes scopes history trail token style = .ok result → P result
  | [], _, _ => fun _ _ _ _ hs hr => by cases hr; exact hs
  | (segment, sheet) :: rest, before, h => fun history trail style result hs hr => by
    have ⟨hn, hrest⟩ := List.forall_mem_append.mp h
    have hb : P sheet.style := by
      cases sheet
      exact hn _ List.mem_cons_self
    rw [resolveScopes_cons] at hr
    have ⟨reaches, _, hr⟩ := bind_eq_ok.mp hr
    have ⟨next, hnext, hr⟩ := bind_eq_ok.mp hr
    have hk := foldlM_mergeReach_keeps hm hb (resolve_keeps hm token sheet _ hn) hs hnext
    exact resolveScopes_keeps hm token rest before hrest history trail next result hk hr
termination_by structural scopes => scopes

end

end Sheet

namespace Walk

variable {sheet : Sheet} {source : List Char} {w : Walk} {leaves : List (Trail × Leaf)}
  {spans : List Span}

theorem toList_slice (source : List Char) (start stop : Nat) :
    (slice source start stop).toList = (source.drop start).take (stop - start) := by
  simp [slice]

-- Two slices that meet.
theorem slice_append_drop {start stop : Nat} (h : start ≤ stop) :
    (slice source start stop).toList ++ source.drop stop = source.drop start := by
  have hd : source.drop stop = (source.drop start).drop (stop - start) := by
    rw [List.drop_drop, Nat.add_sub_cancel' h]
  rw [toList_slice, hd, List.take_append_drop]

-- The tokens carry their places in the source, and each of them starts where the one before it ends
-- or later. The first one starts at `offset` or later.
inductive Placed (source : List Char) : Nat → List (Trail × Leaf) → Prop
  | nil {offset : Nat} : Placed source offset []
  | cons {offset start stop : Nat} {trail : Trail} {l : Leaf} {rest : List (Trail × Leaf)}
    (hstart : l.start = some start) (hstop : l.stop = some stop) (after : offset ≤ start)
    (le : start ≤ stop) (text : l.text = slice source start stop) :
    Placed source stop rest → Placed source offset ((trail, l) :: rest)

-- What a step yields: the text before the leaf in the base style, and the leaf in its own style.
theorem step_eq_ok {trail : Trail} {l : Leaf} {w' : Walk}
    (h : w.step sheet source trail l = .ok (spans, w')) :
    ∃ style, sheet.resolve w.history trail (some l.text) = .ok style ∧
      spans = w.gap sheet source l ++ [⟨l.text, style⟩] ∧
      w'.offset = max w.offset (l.stop.getD w.offset) := by
  unfold step at h
  cases hs : sheet.resolve w.history trail (some l.text)
  case error e => rw [hs] at h; cases h
  case ok style =>
    cases hr : w.history.record trail l.text
    case error e => rw [hs, hr] at h; cases h
    case ok history =>
      rw [hs, hr] at h
      cases h
      exact ⟨style, rfl, rfl, rfl⟩

theorem run_cons_eq_ok {trail : Trail} {l : Leaf} {rest : List (Trail × Leaf)}
    (h : w.run sheet source ((trail, l) :: rest) = .ok spans) :
    ∃ first w' more, w.step sheet source trail l = .ok (first, w') ∧
      w'.run sheet source rest = .ok more ∧ spans = first ++ more := by
  have ⟨⟨first, w'⟩, hs, h⟩ := bind_eq_ok.mp h
  have ⟨more, hr, h⟩ := bind_eq_ok.mp h
  cases h
  exact ⟨first, w', more, hs, hr, rfl⟩

-- Every style is the base style of the sheet or one that it resolves to.
theorem styles_of_run {P : Style → Prop} (hb : P sheet.style)
    (hr : ∀ history trail token style, sheet.resolve history trail token = .ok style → P style)
    (h : w.run sheet source leaves = .ok spans) : ∀ s ∈ spans, P s.style := by
  induction leaves generalizing w spans
  case nil =>
    cases h
    split <;> simp [hb]
  case cons leaf rest hi =>
    have ⟨first, w', more, hs, hmore, he⟩ := run_cons_eq_ok h
    have ⟨style, hstyle, hfirst, _⟩ := step_eq_ok hs
    have hg : ∀ s ∈ w.gap sheet source leaf.2, P s.style := by
      rw [gap]
      split <;> simp [hb]
    rw [he, hfirst]
    simp only [List.forall_mem_append, List.forall_mem_singleton]
    exact ⟨⟨hg, hr _ _ _ _ hstyle⟩, hi hmore⟩

theorem texts_gap {l : Leaf} {start : Nat} (hs : l.start = some start) :
    (w.gap sheet source l).flatMap (·.text.toList) = (slice source w.offset start).toList := by
  rw [gap, hs, Option.getD_some]
  split
  case isTrue => simp
  case isFalse hn => simp [toList_slice, Nat.sub_eq_zero_of_le (Nat.le_of_not_gt hn)]

-- The run lemma: the spans from a point on are what is left of the source there. One step goes from
-- the offset of the walk to the end of the leaf.
theorem texts_of_run (hp : Placed source w.offset leaves)
    (h : w.run sheet source leaves = .ok spans) :
    spans.flatMap (·.text.toList) = source.drop w.offset := by
  induction leaves generalizing w spans
  case nil =>
    cases h
    split
    case isTrue => simp [toList_slice, List.take_of_length_le]
    case isFalse hn => simp [List.drop_eq_nil_of_le (Nat.le_of_not_gt hn)]
  case cons leaf rest hi =>
    have ⟨first, w', more, hs, hmore, he⟩ := run_cons_eq_ok h
    have ⟨style, _, hfirst, ho⟩ := step_eq_ok hs
    obtain _ | @⟨_, start, stop, _, _, _, hstart, hstop, hafter, hle, htext, hrest⟩ := hp
    have ho : w'.offset = stop := by
      rw [ho, hstop, Option.getD_some, Nat.max_eq_right (Nat.le_trans hafter hle)]
    rw [← ho] at hrest
    calc spans.flatMap (·.text.toList)
      _ = (slice source w.offset start).toList ++
            ((slice source start stop).toList ++ source.drop stop) := by
        rw [he, hfirst, List.flatMap_append, List.flatMap_append, texts_gap hstart,
          hi hrest hmore, ho]
        simp [htext]
      _ = source.drop w.offset := by
        rw [slice_append_drop hle, slice_append_drop hafter]

end Walk

namespace Tree

theorem spans_of_wellFormed {sheet : Sheet} (t : Tree) (source : String) (h : sheet.WellFormed) :
    ∃ spans, t.spans sheet source = .ok spans := by
  have hs := t.spans_eq sheet source (List.append_nil t.leaves).symm
  have ⟨history, hr, _⟩ := recordAll_visited (List.prefix_refl t.leaves)
  obtain ⟨e, hv, hw⟩ | ⟨e, hv, hw⟩ | ⟨spans, w, hv, _⟩ :=
    Walk.visit_cases sheet source.toList {} t.leaves
  · exact absurd h hw
  · cases hr.symm.trans hw
  · exact ⟨_, by rw [hs, hv]; rfl⟩

theorem styles_of_spans {P : Style → Prop} {t : Tree} {sheet : Sheet} {source : String}
    {spans : List Span} (hm : ∀ s u, P s → P u → P (s.merge u))
    (hw : ∀ entry ∈ sheet.walk, P entry.2.style) (h : t.spans sheet source = .ok spans) :
    ∀ s ∈ spans, P s.style := by
  have hb : P sheet.style := by
    cases sheet
    exact hw _ List.mem_cons_self
  exact Walk.styles_of_run hb
    (fun history trail token => sheet.resolve_keeps hm token [] hw history trail) h

-- Without other content, what is shown is the text itself.
theorem shown_of_spans {t : Tree} {sheet : Sheet} {source : String} {spans : List Span}
    (hp : Walk.Placed source.toList 0 t.leaves) (hc : ∀ s ∈ spans, s.style.content = none)
    (h : t.spans sheet source = .ok spans) :
    spans.flatMap (·.shown.toList) = source.toList := by
  have ht : spans.flatMap (·.text.toList) = source.toList := Walk.texts_of_run hp h
  rw [← ht]
  refine List.flatMap_congr fun s hs => ?_
  simp [Span.shown, Style.content?, hc s hs]

-- Nothing of the source is lost, duplicated or moved: the spans of a walk are the source cut into
-- pieces, and without the sequences for renditions it is also what is rendered, up to its last line
-- break. With the empty sheet there are no such sequences.
theorem spans_cover (t : Tree) (source : String) (painter : Painter) (d : Decorations)
    (hp : Walk.Placed source.toList 0 t.leaves) :
    (∀ sheet : Sheet, (sheet.WellFormed → ∃ spans, t.spans sheet source = .ok spans) ∧
      ∀ spans, t.spans sheet source = .ok spans →
        String.join (spans.map (·.text)) = source ∧
        (painter.Surrounds → Ansi.escape ∉ source.toList →
          (∀ entry ∈ sheet.walk, entry.2.style.content = none) →
          Ansi.plain (Layout.render {} painter d spans).toList = source.toList)) ∧
    ∃ spans, t.spans ∅ source = .ok spans ∧ Layout.render {} painter d spans = source := by
  refine ⟨fun sheet => ⟨t.spans_of_wellFormed source, fun spans h =>
    ⟨?_, fun surrounds he hn => ?_⟩⟩, ?_⟩
  case refine_1 =>
    rw [← String.toList_inj, String.toList_join, List.flatMap_map]
    exact Walk.texts_of_run hp h
  case refine_2 =>
    have hc := styles_of_spans (P := fun s => s.content = none)
      (fun s u hs hu => by simp [hs, hu]) hn h
    have hshown := shown_of_spans hp hc h
    have hs := Layout.shows_render surrounds d fun s hs hm =>
      he <| hshown ▸ List.mem_flatMap_of_mem hs hm
    rw [hs.plain_eq, hshown]
  case refine_3 =>
    have hw : ∀ entry ∈ (∅ : Sheet).walk, entry.2.style = ∅ :=
      List.forall_mem_singleton.mpr rfl
    have ⟨spans, h⟩ := t.spans_of_wellFormed source
      (show (∅ : Sheet).WellFormed from .node (by simp) .nil (by simp))
    refine ⟨spans, h, ?_⟩
    have hs := styles_of_spans (P := (· = ∅)) (fun s u hs hu => by rw [hs, hu]; rfl) hw h
    have hc : ∀ s ∈ spans, s.style.content = none := fun s hm => by rw [hs s hm]; rfl
    have hn : ∀ s ∈ spans, s.style.build.isEmpty := fun s hm => by rw [hs s hm]; rfl
    rw [← String.toList_inj, Layout.render_of_isEmpty painter d hn, shown_of_spans hp hc h]

-- A call over three lines, with blanks between its tokens and a line break at the end.
def broken : Tree :=
  .node "call" [.leaf ⟨"word", "f", some 0, some 1⟩, .absent, .node "list" [
    .leaf ⟨"mark", "(", some 2, some 3⟩, .leaf ⟨"text", "\"a\nb\"", some 4, some 9⟩,
    .leaf ⟨"mark", ")", some 9, some 10⟩]]

def coloured : Sheet :=
  .node { dim := some ⟨true, false⟩ } [
    (.kind "call", .node { foreground := some ⟨.palette 17, false⟩ } [])]

theorem spans_cover_broken :
    ∃ spans, broken.spans coloured "f (\n\"a\nb\")\n" = .ok spans ∧
      String.join (spans.map (·.text)) = "f (\n\"a\nb\")\n" ∧
      Ansi.plain (Layout.render {} .ansi {} spans).toList = "f (\n\"a\nb\")\n".toList := by
  have hp : Walk.Placed "f (\n\"a\nb\")\n".toList 0 broken.leaves :=
    .cons rfl rfl (by decide) (by decide) rfl <| .cons rfl rfl (by decide) (by decide) rfl <|
      .cons rfl rfl (by decide) (by decide) rfl <| .cons rfl rfl (by decide) (by decide) rfl .nil
  have leaf (style : Style) : Sheet.WellFormed (.node style []) := .node (by simp) .nil (by simp)
  have wf : coloured.WellFormed := .node (by decide) (.cons (by simp) .nil) (by simp [leaf])
  have ⟨hs, hc⟩ := (spans_cover broken _ .ansi {} hp).left coloured
  have ⟨spans, h⟩ := hs wf
  have ⟨ht, hr⟩ := hc spans h
  exact ⟨spans, h, ht, hr Painter.surrounds_ansi (by decide) (by decide)⟩

end Tree

end Highlight
