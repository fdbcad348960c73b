import Highlight.Proofs.Coverage
import Highlight.Proofs.Origins
import Highlight.Proofs.Sharing

namespace Highlight

open Document (Value Setup Declaration Written)

namespace Segment

variable {s t : Segment} {selector : Selector}

theorem ofBranch_eq_ok : ofBranch selector = .ok t ↔
    selector ≠ [] ∧ (∀ s ∈ selector, s.isDotted = false) ∧ t = .branch selector := by
  unfold ofBranch
  split
  case isTrue he => simp [List.isEmpty_iff.mp he]
  case isFalse he =>
    have hne : selector ≠ [] := by simpa using he
    split
    case isTrue hd =>
      have ⟨s, hm, hs⟩ := List.any_eq_true.mp hd
      simp only [reduceCtorEq, false_iff, not_and]
      intro _ h
      rw [h s hm] at hs
      cases hs
    case isFalse hd =>
      have hn : ∀ s ∈ selector, s.isDotted = false := by simpa using hd
      simp only [Except.ok.injEq, hne, ne_eq, not_false_eq_true, true_and]
      exact ⟨fun h => ⟨hn, h.symm⟩, fun h => h.right.symm⟩

theorem legalBranch_of_forall (h : ∀ s ∈ selector, s.wellFormed)
    (hd : ∀ s ∈ selector, s.isDotted = false) : legalBranch selector := by
  induction selector
  case nil => rfl
  case cons s rest hi =>
    have ⟨hs, hr⟩ := List.forall_mem_cons.mp h
    have ⟨hds, hdr⟩ := List.forall_mem_cons.mp hd
    exact legalBranch_cons.mpr ⟨hs, hds, hi hr hdr⟩

theorem wellFormed_of_ofBranch (h : ∀ s ∈ selector, s.wellFormed)
    (hb : ofBranch selector = .ok t) : t.wellFormed := by
  have ⟨hne, hd, ht⟩ := ofBranch_eq_ok.mp hb
  simp [ht, wellFormed, hne, legalBranch_of_forall h hd]

end Segment

namespace Document

theorem check_eq_ok {ε β : Type} {cause : ε → Cause} {m : Position} {r : Except ε β} {b : β} :
    (check cause m r).result = .ok b ↔ r = .ok b := by
  cases r <;> simp [check]

theorem applyChild_eq_ok {child : Option Position} {s t : Segment} :
    (applyChild child s).result = .ok t ↔
      (child = none ∧ t = s) ∨ ∃ m a, child = some m ∧ s = .atom a ∧ t = .child a := by
  cases child
  case none => simp [applyChild, eq_comm]
  case some m =>
    rw [applyChild, check_eq_ok]
    cases s <;> simp [Segment.asChild, eq_comm]

theorem wellFormed_of_applyChild {child : Option Position} {s t : Segment}
    (h : (applyChild child s).result = .ok t) (hs : s.wellFormed) : t.wellFormed := by
  obtain ⟨-, rfl⟩ | ⟨_, a, -, -, rfl⟩ := applyChild_eq_ok.mp h
  · exact hs
  · rfl

mutual

-- A segment is legal at every depth, since what it is made of is checked before it.
theorem Part.wellFormed_of_segment : (p : Part Position) → ∀ s, p.segment.result = .ok s →
    s.wellFormed
  | .kind .. | .dotted .. | .token .. => fun s h => by
    rw [Part.segment] at h
    exact wellFormed_of_applyChild h rfl
  | .pattern .. => fun s h => by
    rw [Part.segment] at h
    have ⟨p, _, h⟩ := Logged.bind_eq_ok.mp h
    exact wellFormed_of_applyChild h rfl
  | .branch _ _ first rest => fun s h => by
    rw [Part.segment] at h
    have ⟨t, ht, h⟩ := Logged.bind_eq_ok.mp h
    have ⟨ts, hts, h⟩ := Logged.bind_eq_ok.mp h
    have ⟨b, hb, h⟩ := Logged.bind_eq_ok.mp h
    have hw : ∀ s ∈ t :: ts, s.wellFormed := List.forall_mem_cons.mpr
      ⟨first.wellFormed_of_segment t ht, wellFormed_of_segments rest ts hts⟩
    exact wellFormed_of_applyChild h (Segment.wellFormed_of_ofBranch hw (check_eq_ok.mp hb))
termination_by structural p => p

theorem wellFormed_of_segments : (ps : List (Part Position)) → ∀ ss, (segments ps).result = .ok ss →
    ∀ s ∈ ss, s.wellFormed
  | [] => fun ss h => by
    cases h
    simp
  | p :: ps => fun ss h => by
    rw [segments] at h
    have ⟨t, ht, h⟩ := Logged.bind_eq_ok.mp h
    have ⟨ts, hts, h⟩ := Logged.bind_eq_ok.mp h
    cases h
    exact List.forall_mem_cons.mpr
      ⟨p.wellFormed_of_segment t ht, wellFormed_of_segments ps ts hts⟩
termination_by structural ps => ps

end

-- The written words that a name or the digits of a colour can be read from.
def Value.word? : Value → Option String
  | .name t | .hexColour t | .rgb t => some t
  | .string _ | .integer _ => none

-- The colours that values stand for.
inductive Value.Denotes : Value → Colour → Prop
  | index {t : String} {n : Nat} (hr : Text.Decimal.read t.toList = .ok n) (h : n < 256) :
    Denotes (.integer t) (.palette ⟨n, h⟩)
  | channels {t : String} {r g b : Nat}
    (hd : List.Forall₂ (fun run n => Text.Decimal.read run = .ok n) (digitRuns t.toList) [r, g, b])
    (hr : r < 256) (hg : g < 256) (hb : b < 256) :
    Denotes (.rgb t) (.rgb ⟨r, hr⟩ ⟨g, hg⟩ ⟨b, hb⟩)
  | digits {v : Value} {t : String} {c : Colour} (hv : v.word? = some t)
    (h : Colour.ofHex? t.toList = some c) : Denotes v c
  | name {v : Value} {t : String} {n : ColourName} (hv : v.word? = some t)
    (hn : n ∈ ColourName.all) (h : Text.lowerText t = n.text) : Denotes v (.named n)

theorem denotes_of_ofText {v : Value} {t : String} {c : Colour} (hv : v.word? = some t)
    (h : Colour.ofText t = .ok c) : v.Denotes c := by
  rw [Colour.ofText] at h
  split at h
  case h_1 c' hc =>
    cases h
    exact .digits hv hc
  case h_2 =>
    rw [Colour.ofName] at h
    split at h
    case h_2 => cases h
    case h_1 n hn =>
      cases h
      have ⟨hm, ht⟩ : n ∈ ColourName.all ∧ n.text = Text.lowerText t := by
        have := List.find?_some hn
        exact ⟨List.mem_of_find?_eq_some hn, by simpa using this⟩
      exact .name hv hm ht.symm

theorem byte?_eq_some {n : Nat} {i : Fin 256} :
    Colour.byte? n = some i ↔ ∃ h : n < 256, i = ⟨n, h⟩ := by
  unfold Colour.byte?
  split
  case isTrue h =>
    have hn : n < 256 := by omega
    simp [hn, eq_comm]
  case isFalse h =>
    have hn : ¬n < 256 := by omega
    simp [hn]

theorem channel_eq_ok {n : Nat} {i : Fin 256} :
    Colour.channel n = .ok i ↔ ∃ h : n < 256, i = ⟨n, h⟩ := by
  rw [← byte?_eq_some]
  unfold Colour.channel
  cases Colour.byte? n <;> simp

theorem mapError_eq_ok {ε δ β : Type} {f : ε → δ} {x : Except ε β} {b : β} :
    x.mapError f = .ok b ↔ x = .ok b := by
  cases x <;> simp [Except.mapError]

theorem readNumber_eq_ok {m : Position} {digits : List Char} {n : Nat} :
    (readNumber m digits).result = .ok n ↔ Text.Decimal.read digits = .ok n :=
  check_eq_ok

theorem denotes_of_rgb {t : String} {m : Position} {content : Content} {property : String}
    {c : Colour} (hv : ((Value.rgb t).content m).result = .ok content)
    (hc : contentColour property content = .ok c) : (Value.rgb t).Denotes c := by
  have ⟨channels, hm, hv⟩ := Logged.bind_eq_ok.mp hv
  have hm := (Logged.mapM_eq_ok.mp hm).imp fun _ _ => readNumber_eq_ok.mp
  split at hv
  case h_2 =>
    cases hv
    exact denotes_of_ofText rfl (mapError_eq_ok.mp hc)
  case h_1 r g b =>
    have ⟨c', hcheck, hv⟩ := Logged.bind_eq_ok.mp hv
    cases hv
    cases hc
    have ⟨red, hred, h⟩ := bind_eq_ok.mp (check_eq_ok.mp hcheck)
    have ⟨green, hgreen, h⟩ := bind_eq_ok.mp h
    have ⟨blue, hblue, h⟩ := bind_eq_ok.mp h
    cases h
    obtain ⟨hr, rfl⟩ := channel_eq_ok.mp hred
    obtain ⟨hg, rfl⟩ := channel_eq_ok.mp hgreen
    obtain ⟨hb, rfl⟩ := channel_eq_ok.mp hblue
    exact .channels hm hr hg hb

-- The checks of a value leave those that stand for a colour.
theorem denotes_of_contentColour {v : Value} {m : Position} {content : Content} {property : String}
    {c : Colour} (hv : (v.content m).result = .ok content)
    (hc : contentColour property content = .ok c) : v.Denotes c := by
  cases v
  case string t =>
    cases hv
    cases hc
  case integer t =>
    have ⟨n, hn, hv⟩ := Logged.bind_eq_ok.mp hv
    cases hv
    rw [contentColour, mapError_eq_ok, Colour.ofIndex] at hc
    split at hc
    case h_2 => cases hc
    case h_1 i hb =>
      cases hc
      obtain ⟨h, rfl⟩ := byte?_eq_some.mp hb
      exact .index (readNumber_eq_ok.mp hn) h
  case hexColour t | name t =>
    cases hv
    exact denotes_of_ofText rfl (mapError_eq_ok.mp hc)
  case rgb t => exact denotes_of_rgb hv hc

theorem contentColour_of_setup {property : String} {important : Bool} {content : Content}
    {v : Setting Colour} (h : setup property important content = .ok ⟨.foreground, v⟩ ∨
      setup property important content = .ok ⟨.background, v⟩) :
    contentColour property content = .ok v.value := by
  unfold setup at h
  split at h
  case isTrue =>
    obtain h | h := h
    · have ⟨c, hc, h⟩ := bind_eq_ok.mp h
      cases h
      exact hc
    · have ⟨c, _, h⟩ := bind_eq_ok.mp h
      cases h
  split at h
  case isTrue =>
    obtain h | h := h
    · have ⟨c, _, h⟩ := bind_eq_ok.mp h
      cases h
    · have ⟨c, hc, h⟩ := bind_eq_ok.mp h
      cases h
      exact hc
  -- No other property is for a colour.
  split at h
  case isTrue => split at h <;> simp at h
  split at h
  case h_2 => simp at h
  case h_1 => split at h <;> simp at h

-- A colour that a declaration sets is what its value stands for.
theorem denotes_of_checked {v : Setting Colour}
    (h : Setup.Checked ⟨.foreground, v⟩ ∨ Setup.Checked ⟨.background, v⟩) :
    ∃ value : Value, value.Denotes v.value := by
  have hd {s : Setup} (h : s.Checked) : ∃ d : Declaration Position, ∃ content,
      (d.value.content d.valueMark).result = .ok content ∧
      setup d.property d.important content = .ok s := by
    have ⟨d, hd⟩ := h
    have ⟨content, hc, hs⟩ := Logged.bind_eq_ok.mp hd
    exact ⟨d, content, hc, check_eq_ok.mp hs⟩
  obtain h | h := h
  · have ⟨d, content, hc, hs⟩ := hd h
    exact ⟨d.value, denotes_of_contentColour hc (contentColour_of_setup (.inl hs))⟩
  · have ⟨d, content, hc, hs⟩ := hd h
    exact ⟨d.value, denotes_of_contentColour hc (contentColour_of_setup (.inr hs))⟩

end Document

namespace Sheet

variable {s : Sheet}

theorem WellFormed.of_written (h : s.Ordered)
    (hw : ∀ path style, s.styleAt path = some style → ∀ segment ∈ path, Written segment) :
    s.WellFormed := by
  induction h
  case node style scopes sorted nested hi =>
    have hat {scope : Segment × Sheet} (hm : scope ∈ scopes) (path : Selector) :
        (Sheet.node style scopes).styleAt (scope.1 :: path) = scope.2.styleAt path := by
      rw [styleAt_cons, Sheet.scopes, sorted.get?_of_mem hm]
      rfl
    refine .node (fun scope hm => ?_) sorted fun scope hm => hi scope hm fun path style hs => ?_
    case refine_1 =>
      have ⟨p, hp, _⟩ := hw [scope.1] _ (hat hm []) scope.1 List.mem_cons_self
      exact p.wellFormed_of_segment _ hp
    case refine_2 =>
      have := hw (scope.1 :: path) style ((hat hm path).trans hs)
      exact (List.forall_mem_cons.mp this).right

theorem Obtained.wellFormed (h : s.Obtained) : s.WellFormed :=
  .of_written h.traced.ordered fun path style hs => (h.traced.contents path style hs).left

end Sheet

-- Painting puts sequences for renditions before and after a text, and nothing else.
theorem Style.paint_eq {painter : Painter} (surrounds : painter.Surrounds) (style : Style)
    (text : String) : ∃ before after,
    style.paint painter text = before ++ text ++ after ∧ Ansi.plain before.toList = [] ∧
      Ansi.plain after.toList = [] := by
  rw [paint]
  split
  case isTrue => exact ⟨"", "", by simp, by simp, by simp⟩
  case isFalse =>
    obtain ⟨codes, hc, he⟩ := surrounds style.build text
    exact ⟨_, Ansi.reset, he, (Ansi.Shows.sequences hc).plain_eq, Ansi.Shows.reset.plain_eq⟩

namespace Sheet

variable {s : Sheet}

-- Resolving merges settings of the sheet and makes none of its own.
theorem mem_walk_of_resolve {history : History} {trail : Trail} {token : Option String}
    {style : Style} (h : s.resolve history trail token = .ok style) {a : Attribute}
    {v : Setting a.Value} (hv : style.get a = some v) :
    ∃ entry ∈ s.walk, entry.2.style.get a = some v := by
  let Kept (style : Style) : Prop :=
    ∀ v, style.get a = some v → ∃ entry ∈ s.walk, entry.2.style.get a = some v
  have hm (t u : Style) (ht : Kept t) (hu : Kept u) : Kept (t.merge u) := by
    intro v hv
    rw [Style.get_merge] at hv
    exact (Setting.eq_some_of_cascade hv).elim (ht v) (hu v)
  have hw : ∀ entry ∈ s.walk, Kept entry.2.style := fun entry hm v hv => ⟨entry, hm, hv⟩
  exact resolve_keeps hm token s [] hw history trail style h v hv

-- Every position is resolved, whatever has been visited before it. The settings that it gets are
-- settings of the sheet, each of which passed its check, so the colours are ones that a value can
-- stand for. Patterns can be had from every store, and every text can be painted.
theorem resolve_obtained (h : s.Obtained) (history : History) (trail : Trail)
    (token : Option String) :
    ∃ style, s.resolve history trail token = .ok style ∧
      (∀ a v, style.get a = some v →
        (∃ entry ∈ s.walk, entry.2.style.get a = some v) ∧ Setup.Checked ⟨a, v⟩) ∧
      (∀ v, style.foreground = some v ∨ style.background = some v →
        ∃ value : Value, value.Denotes v.value) ∧
      (∀ (store : PatternStore) (p : Pattern),
        ∃ store', (PatternStore.fetch p.source).run store = (.ok p, store')) ∧
      (∀ code ∈ style.build.codes, code.toList.all Ansi.isCode) ∧
      ∀ painter : Painter, painter.Surrounds → ∀ text, ∃ before after,
        style.paint painter text = before ++ text ++ after ∧
          Ansi.plain before.toList = [] ∧ Ansi.plain after.toList = [] := by
  have hr := resolve_eq_foldl token s h.wellFormed history trail
  have hchecked {a : Attribute} {v : Setting a.Value}
      (hm : ∃ entry ∈ s.walk, entry.2.style.get a = some v) : Setup.Checked ⟨a, v⟩ := by
    have ⟨entry, hm, hv⟩ := hm
    exact (h.traced.contents _ _ (styleAt_of_mem_walk h.traced.ordered hm)).right a v hv
  refine ⟨_, hr, fun a v hv => ?_, fun v hv => ?_, PatternStore.fetch_source,
    fun _ => Rendition.all_isCode_of_mem_codes, fun _ surrounds => Style.paint_eq surrounds _⟩
  case refine_1 =>
    have hm := mem_walk_of_resolve hr hv
    exact ⟨hm, hchecked hm⟩
  case refine_2 =>
    refine Document.denotes_of_checked (hv.imp (fun hv => ?_) fun hv => ?_)
    · exact hchecked (mem_walk_of_resolve (a := .foreground) hr hv)
    · exact hchecked (mem_walk_of_resolve (a := .background) hr hv)

-- Branch checks in a branch check, a pattern, and colours in two texts that are merged.
theorem resolve_obtained_merged : ∃ s t,
    (ofText ⟨[]⟩ .root "[[> call] /a+/] word. { background: rgb(1, 2, 3); }").result = .ok s ∧
    (ofText ⟨[]⟩ .root "call { colour: BrPurple !important; } \"x\" { colour: 12; }").result =
      .ok t ∧
    ∃ style, (s.merge t).resolve [.node "call" [.leaf "a"]] [⟨"call", 1⟩, ⟨"word", 0⟩] (some "x") =
        .ok style ∧
      (∀ v, style.foreground = some v ∨ style.background = some v →
        ∃ value : Value, value.Denotes v.value) ∧
      ∃ before after, style.paint .ansi "x" = before ++ "x" ++ after ∧
        Ansi.plain before.toList = [] ∧ Ansi.plain after.toList = [] := by
  have obtains (text : String) (h : (ofText ⟨[]⟩ .root text).value?.isSome) :
      ∃ s, (ofText ⟨[]⟩ .root text).result = .ok s := by
    have ⟨s, hs⟩ := Option.isSome_iff_exists.mp h
    exact ⟨s, Logged.value?_eq_some.mp hs⟩
  have ⟨s, hs⟩ := obtains "[[> call] /a+/] word. { background: rgb(1, 2, 3); }" (by decide +kernel)
  have ⟨t, ht⟩ := obtains "call { colour: BrPurple !important; } \"x\" { colour: 12; }"
    (by decide +kernel)
  have ⟨style, hr, _, hc, _, _, hp⟩ := resolve_obtained (.merge (.text hs) (.text ht))
    [.node "call" [.leaf "a"]] [⟨"call", 1⟩, ⟨"word", 0⟩] (some "x")
  exact ⟨s, t, hs, ht, style, hr, hc, hp .ansi Painter.surrounds_ansi "x"⟩

end Sheet

end Highlight
