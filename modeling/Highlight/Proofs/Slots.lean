import Highlight.Proofs.Application
import Highlight.Proofs.Coverage
import Highlight.Proofs.Preparing

namespace Highlight

open Sheet (Scopes)

-- A style that is missing changes as much as an empty one.
theorem Style.foldl_merge_filterMap {α : Type} (f : α → Option Style) (l : List α) (s : Style) :
    (l.filterMap f).foldl merge s = (l.map fun a => (f a).getD ∅).foldl merge s := by
  induction l generalizing s
  case nil => rfl
  case cons a l hi =>
    cases ha : f a
    case none   => simp [ha, hi]
    case some t => simp [ha, hi]

namespace Segment

-- The segments that match a single step of a kind, in canonical order.
def matching (name : String) : List Segment :=
  [.atom (.kind name), .atom (.lastKind name), .child (.kind name), .child (.lastKind name)]

theorem pairwise_matching (name : String) :
    (matching name).Pairwise fun s t => s.cmp t = .lt := by
  simp only [matching, List.pairwise_cons, List.forall_mem_cons, List.not_mem_nil, false_implies,
    implies_true, List.Pairwise.nil, and_true]
  exact ⟨⟨rfl, rfl, rfl⟩, ⟨rfl, rfl⟩, rfl⟩

variable {s : Segment} {base : Style} {nested : History → Trail → List Style}

-- A branch check is not empty, and without a history nothing satisfies it.
theorem contributions_branch {selector : List Segment} (h : (branch selector).wellFormed)
    (trail : Trail) (token : Option String) :
    (branch selector).contributions base nested [] trail token = [] := by
  have hs : History.satisfies [] selector = .ok false := by
    simp only [wellFormed, Bool.and_eq_true, Bool.not_eq_true'] at h
    exact congrArg Except.ok h.left
  rw [contributions, hs]

-- At the end of a trail, with neither a history nor a text, nothing is left to match.
theorem contributions_nil (h : s.wellFormed) : s.contributions base nested [] [] none = [] := by
  cases s
  case atom a          => cases a <;> simp [contributions]
  case child a         => cases a <;> simp [contributions]
  case branch selector => exact contributions_branch h [] none
  case foreign         => rfl

theorem contributions_step (h : s.wellFormed) (step : Step) (hn : nested [] [] = [base]) :
    s.contributions base nested [] [step] none =
      if s ∈ matching step.kind then [base] else [] := by
  have hl : History.latest [] 1 = [] := rfl
  cases s
  case atom a  => cases a <;> simp [contributions, matching, hl, hn, @eq_comm _ step.kind]
  case child a => cases a <;> simp [contributions, matching, hl, hn, @eq_comm _ step.kind]
  case branch selector =>
    rw [contributions_branch h]
    simp [matching]
  case foreign => cases h

end Segment

namespace Sheet

variable {s : Sheet}

theorem scopesContributions_nil {scopes : Scopes} (legal : ∀ scope ∈ scopes, scope.1.wellFormed) :
    scopesContributions scopes [] [] none = [] := by
  induction scopes
  case nil => rfl
  case cons scope rest hi =>
    have ⟨hl, hls⟩ := List.forall_mem_cons.mp legal
    rw [scopesContributions, hi hls, Segment.contributions_nil hl]
    rfl

theorem WellFormed.contributions_nil (h : s.WellFormed) :
    s.contributions [] [] none = [s.style] := by
  cases h
  case node legal _ _ =>
    rw [contributions, scopesContributions_nil legal]
    rfl

theorem scopesContributions_step {scopes : Scopes} (legal : ∀ scope ∈ scopes, scope.1.wellFormed)
    (nested : ∀ scope ∈ scopes, scope.2.WellFormed) (step : Step) :
    scopesContributions scopes [] [step] none =
      (scopes.filter (·.1 ∈ Segment.matching step.kind)).map (·.2.style) := by
  induction scopes
  case nil => rfl
  case cons scope rest hi =>
    have ⟨hl, hls⟩ := List.forall_mem_cons.mp legal
    have ⟨hn, hns⟩ := List.forall_mem_cons.mp nested
    rw [scopesContributions, hi hls hns, Segment.contributions_step hl step hn.contributions_nil]
    by_cases hm : scope.1 ∈ Segment.matching step.kind
    case pos => rw [if_pos hm, List.filter_cons_of_pos (by simpa using hm)]; rfl
    case neg => rw [if_neg hm, List.filter_cons_of_neg (by simpa using hm)]; rfl

namespace Scopes

variable {scopes : Scopes}

theorem Sorted.get?_eq_some (h : scopes.Sorted) {segment : Segment} :
    get? segment scopes = some s ↔ (segment, s) ∈ scopes :=
  ⟨mem_of_get?, h.get?_of_mem⟩

-- Looking up segments in canonical order comes to the same as going through a level.
theorem Sorted.filter_mem (h : scopes.Sorted) {segments : List Segment}
    (hs : segments.Pairwise fun s t => s.cmp t = .lt) :
    scopes.filter (·.1 ∈ segments) =
      segments.filterMap fun q => (get? q scopes).map fun d => (q, d) := by
  have hl : Sorted (scopes.filter (·.1 ∈ segments)) := List.Pairwise.filter _ h
  have hr : Sorted (segments.filterMap fun q => (get? q scopes).map fun d => (q, d)) := by
    refine hs.filterMap _ fun q r hqr a ha b hb => ?_
    obtain ⟨d, _, rfl⟩ := Option.map_eq_some_iff.mp ha
    obtain ⟨e, _, rfl⟩ := Option.map_eq_some_iff.mp hb
    exact hqr
  refine hl.ext hr fun q => Option.ext fun d => ?_
  simp only [hl.get?_eq_some, hr.get?_eq_some, List.mem_filter, List.mem_filterMap,
    Option.map_eq_some_iff, h.get?_eq_some, decide_eq_true_eq, Prod.mk.injEq]
  constructor
  case mp  => exact fun ⟨hd, hq⟩ => ⟨q, hq, d, hd, rfl, rfl⟩
  case mpr => rintro ⟨_, hq, _, hd, rfl, rfl⟩; exact ⟨hd, hq⟩

end Scopes

theorem styleAt_singleton (s : Sheet) (segment : Segment) :
    s.styleAt [segment] = (Scopes.get? segment s.scopes).map style := by
  rw [styleAt_cons]
  exact Option.map_eq_bind.symm

-- The base style of the sheet, and the base styles of the scopes that match the step.
theorem WellFormed.resolve_step (h : s.WellFormed) (step : Step) :
    s.resolve [] [step] none = .ok
      ((([] :: (Segment.matching step.kind).map ([·])).filterMap s.styleAt).foldl
        Style.merge ∅) := by
  rw [resolve_eq_foldl none s h]
  cases h
  case node style scopes legal sorted nested =>
    rw [contributions, scopesContributions_step legal nested,
      Scopes.Sorted.filter_mem sorted (Segment.pairwise_matching step.kind)]
    simp only [List.filterMap_cons, List.map_filterMap, List.filterMap_map, styleAt_nil,
      Option.map_map, Function.comp_def, styleAt_singleton]
    rfl

end Sheet

namespace Slot

-- The selectors of a sheet that are for the slot, in the order in which their styles are merged.
def selectors (slot : Slot) : List Selector :=
  [] :: (Segment.matching slot.name).map ([·])

theorem resolve_eq {s : Sheet} (h : s.WellFormed) (slot : Slot) :
    slot.resolve s = .ok ((slot.selectors.filterMap s.styleAt).foldl Style.merge slot.style) := by
  rw [resolve, h.resolve_step ⟨slot.name, 0⟩]
  refine congrArg Except.ok ?_
  rw [← Style.foldl_merge, Style.merge_empty]
  rfl

end Slot

namespace Decorations

theorem resolve_of_ofSheet {s : Sheet} {d : Decorations} (h : ofSheet s = .ok d) (slot : Slot) :
    slot.resolve s = .ok (d.get slot) := by
  simp only [ofSheet, bind_eq_ok] at h
  obtain ⟨_, h₁, _, h₂, _, h₃, _, h₄, _, h₅, _, h₆, _, h₇, hd⟩ := h
  cases hd
  cases slot <;> assumption

theorem exists_ofSheet {s : Sheet} (h : s.WellFormed) : ∃ d, ofSheet s = .ok d ∧ ∀ slot : Slot,
    d.get slot = (slot.selectors.filterMap s.styleAt).foldl Style.merge slot.style := by
  have ⟨d, hd⟩ := ofSheet_of_wellFormed h
  refine ⟨d, hd, fun slot => ?_⟩
  exact Except.ok.inj ((resolve_of_ofSheet hd slot).symm.trans (slot.resolve_eq h))

-- A slot has its own style with the base style of the sheet and those of four scopes at the top
-- merged over it. A sheet that differs in nothing but other scopes, at whatever depth, has the same
-- slots.
theorem ofSheet_merges_selectors {s : Sheet} (h : s.WellFormed) :
    ∃ d, ofSheet s = .ok d ∧ ∀ slot : Slot,
      d.get slot = (slot.selectors.filterMap s.styleAt).foldl Style.merge slot.style ∧
      ∀ t : Sheet, t.WellFormed →
        (∀ selector ∈ slot.selectors,
          (t.styleAt selector).getD ∅ = (s.styleAt selector).getD ∅) →
        ∃ d', ofSheet t = .ok d' ∧ d'.get slot = d.get slot := by
  have ⟨d, hd, hs⟩ := exists_ofSheet h
  refine ⟨d, hd, fun slot => ⟨hs slot, fun t ht alike => ?_⟩⟩
  have ⟨d', hd', ht'⟩ := exists_ofSheet ht
  refine ⟨d', hd', ?_⟩
  rw [hs, ht', Style.foldl_merge_filterMap, Style.foldl_merge_filterMap,
    List.map_congr_left alike]

-- Rules for the margin among others: below another kind, behind a branch check, below the margin
-- itself, and for texts.
def crowded : Sheet :=
  .node { dim := some ⟨true, false⟩ } [
    (.kind "comment", .node ∅ [(.kind "margin", .node { reverse := some ⟨true, true⟩ } [])]),
    (.kind "margin", .node { bold := some ⟨true, false⟩ } [
      (.token " | ", .node { reverse := some ⟨true, true⟩ } [])]),
    (.token " | ", .node { reverse := some ⟨true, true⟩ } []),
    (.lastKind "margin", .node { content := some ⟨"|", false⟩ } []),
    (.child (.lastKind "margin"), .node { bold := some ⟨false, false⟩ } []),
    (.branch [.kind "margin"], .node { reverse := some ⟨true, true⟩ } [
      (.kind "margin", .node { reverse := some ⟨true, true⟩ } [])])]

-- The rules that are left for the margin.
def spare : Sheet :=
  .node { dim := some ⟨true, false⟩ } [
    (.kind "margin", .node { bold := some ⟨true, false⟩ } []),
    (.lastKind "margin", .node { content := some ⟨"|", false⟩ } []),
    (.child (.lastKind "margin"), .node { bold := some ⟨false, false⟩ } [])]

theorem ofSheet_merges_selectors_crowded : crowded.WellFormed ∧ spare.WellFormed ∧
    ∃ d, ofSheet crowded = .ok d ∧
      d.get .margin =
        { content := some ⟨"|", false⟩, bold := some ⟨false, false⟩, dim := some ⟨true, false⟩ } ∧
      ∃ d', ofSheet spare = .ok d' ∧ d'.get .margin = d.get .margin := by
  have hc : crowded.WellFormed := by
    refine .node (by decide) (by decide +kernel) ?_
    simp only [List.forall_mem_cons, List.not_mem_nil, false_implies, implies_true, and_true]
    exact ⟨.single rfl (.leaf _), .single rfl (.leaf _), .leaf _, .leaf _, .leaf _,
      .single rfl (.leaf _)⟩
  have hs : spare.WellFormed := by
    exact .node (by decide) (by decide +kernel) (by simp [Sheet.WellFormed.leaf])
  have ⟨d, hd, hm⟩ := ofSheet_merges_selectors hc
  refine ⟨hc, hs, d, hd, ?_, (hm .margin).right spare hs (by decide +kernel)⟩
  rw [(hm .margin).left]
  decide +kernel

end Decorations

end Highlight
