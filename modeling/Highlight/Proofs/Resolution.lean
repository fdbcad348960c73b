import Highlight.Proofs.Cascade
import Highlight.Proofs.Query
import Highlight.Sheet.Resolve

namespace Highlight

namespace Segment

-- What a scope contributes to a position: `base` is the base style of its sheet and `nested` the
-- contributions of that sheet against another history and the rest of the trail.
def contributions (base : Style) (nested : History → Trail → List Style) (history : History)
    (trail : Trail) (token : Option String) : Segment → List Style
  | atom (.kind name) =>
    -- From the last step of the trail to the first, so that outer nodes come later.
    (List.range trail.length).reverse.flatMap fun i =>
      if trail[i]?.any (·.kind = name) then nested (history.latest (i + 1)) (trail.drop (i + 1))
      else []
  | child (.kind name) => match trail with
    | [] => []
    | s :: rest => if s.kind = name then nested (history.latest 1) rest else []
  | branch selector => match history.satisfies selector with
    | .ok true => nested history trail
    | _ => []
  | atom (.token literal) | child (.token literal) =>
    if trail = [] ∧ token = some literal then [base] else []
  | atom (.pattern p) | child (.pattern p) =>
    if trail = [] ∧ token.any p.occursIn then [base] else []
  | atom (.lastKind name) => if trail.getLast?.any (·.kind = name) then [base] else []
  | child (.lastKind name) =>
    if trail.length = 1 ∧ trail.head?.any (·.kind = name) then [base] else []
  | foreign _ => []

end Segment

namespace Sheet

-- At every level the segments are ones that can be built, and they stand in canonical order, which
-- also means that no two of them are the same.
inductive WellFormed : Sheet → Prop
  | node {style : Style} {scopes : Scopes}
    (legal : ∀ scope ∈ scopes, scope.1.wellFormed)
    (ordered : scopes.Pairwise fun a b => a.1.cmp b.1 = .lt)
    (nested : ∀ scope ∈ scopes, scope.2.WellFormed) : WellFormed (.node style scopes)

mutual

-- The base styles that a sheet contributes to a position, its own one first.
def contributions : Sheet → History → Trail → Option String → List Style
  | node style scopes, history, trail, token =>
    style :: scopesContributions scopes history trail token
termination_by structural s => s

def scopesContributions : List (Segment × Sheet) → History → Trail → Option String → List Style
  | [], _, _, _ => []
  | (segment, sheet) :: rest, history, trail, token =>
    segment.contributions sheet.style (fun h t => sheet.contributions h t token) history trail
      token ++ scopesContributions rest history trail token
termination_by structural s => s

end

end Sheet

namespace Reach

-- What a single match contributes.
def contributions (style : Style) (nested : History → Trail → List Style) : Reach → List Style
  | further history trail => nested history trail
  | base => [style]

theorem flatMap_base {b p : Prop} [Decidable b] [Decidable p] (h : b ↔ p) (style : Style)
    (nested : History → Trail → List Style) :
    (if b then [Reach.base] else []).flatMap (contributions style nested) =
      if p then [style] else [] := by
  by_cases hp : p
  case pos => simp [hp, h.mpr hp, contributions]
  case neg => simp [hp, mt h.mp hp]

end Reach

namespace Segment

variable {s : Segment}

theorem flatMap_occurrences (name : String) (trail : Trail) (f : Nat → List Style) :
    (occurrences name trail).flatMap f =
      (List.range trail.length).reverse.flatMap fun i =>
        if trail[i]?.any (·.kind = name) then f i else [] := by
  unfold occurrences
  induction (List.range trail.length).reverse
  case nil => rfl
  case cons i is hi =>
    by_cases h : trail[i]?.any (·.kind = name)
    case pos => simp [h, hi]
    case neg => simp [h, hi]

-- A segment that can be built has a list of matches against every position, and the matches
-- contribute what the segment does.
theorem reaches_contributions (h : s.wellFormed) (history : History) (trail : Trail)
    (token : Option String) (base : Style) (nested : History → Trail → List Style) :
    ∃ reaches, s.reaches history trail token = .ok reaches ∧
      reaches.flatMap (Reach.contributions base nested) =
        s.contributions base nested history trail token := by
  cases s
  case atom a =>
    cases a
    case kind name =>
      refine ⟨_, rfl, ?_⟩
      rw [List.flatMap_map, flatMap_occurrences]
      rfl
    case lastKind => exact ⟨_, rfl, Reach.flatMap_base Iff.rfl base nested⟩
    case token | pattern =>
      exact ⟨_, rfl, Reach.flatMap_base (by cases token <;> simp [Atom.accepts]) base nested⟩
  case child a =>
    cases a
    case kind name =>
      refine ⟨_, rfl, ?_⟩
      cases trail
      case nil => rfl
      case cons step rest =>
        by_cases hk : step.kind = name <;> simp [contributions, hk, Reach.contributions]
    case lastKind name =>
      refine ⟨_, rfl, ?_⟩
      obtain _ | ⟨step, _ | _⟩ := trail
      case nil       => rfl
      case cons.cons => rfl
      case cons.nil  => exact Reach.flatMap_base (by simp) base nested
    case token | pattern =>
      exact ⟨_, rfl, Reach.flatMap_base (by cases token <;> simp [Atom.accepts]) base nested⟩
  case branch selector =>
    have ⟨b, hb⟩ := history.satisfies_answers h
    cases b
    case true =>
      exact ⟨[.further history trail], by simp [reaches, hb, bind, Except.bind, pure, Except.pure],
        by simp [contributions, hb, Reach.contributions]⟩
    case false =>
      exact ⟨[], by simp [reaches, hb, bind, Except.bind, pure, Except.pure],
        by simp [contributions, hb]⟩
  case foreign => cases h

end Segment

namespace Sheet

variable {sheet : Sheet} {token : Option String}

-- One step of the loop over the matches of a scope.
def mergeReach (sheet : Sheet) (token : Option String) (style : Style) :
    Reach → Except QueryError Style
  | .further history trail => do return style.merge (← sheet.resolve history trail token)
  | .base => return style.merge sheet.style

theorem resolveScopes_cons (segment : Segment) (sheet : Sheet) (rest : Scopes) (history : History)
    (trail : Trail) (token : Option String) (style : Style) :
    resolveScopes ((segment, sheet) :: rest) history trail token style = (do
      let reaches ← segment.reaches history trail token
      let style ← reaches.foldlM (sheet.mergeReach token) style
      resolveScopes rest history trail token style) :=
  rfl

-- A sheet resolves to the cascade of what it contributes, whatever the position.
def ResolvesFlat (sheet : Sheet) (token : Option String) : Prop :=
  ∀ history trail, sheet.resolve history trail token =
    .ok ((sheet.contributions history trail token).foldl Style.merge ∅)

-- A nested sheet is folded into one style before it is merged. As merging is associative, this is
-- the same as merging its contributions one by one.
theorem mergeReach_eq (h : sheet.ResolvesFlat token) (style : Style) (reach : Reach) :
    sheet.mergeReach token style reach = .ok
      ((reach.contributions sheet.style fun h t => sheet.contributions h t token).foldl
        Style.merge style) := by
  cases reach
  case base => rfl
  case further history trail =>
    have hm : ∀ styles : List Style,
        styles.foldl Style.merge style = style.merge (styles.foldl Style.merge ∅) := by
      intro styles
      rw [← Style.foldl_merge, Style.merge_empty]
    simp only [mergeReach, h history trail, Reach.contributions, hm]
    rfl

theorem foldlM_mergeReach (h : sheet.ResolvesFlat token) (reaches : List Reach) (style : Style) :
    reaches.foldlM (sheet.mergeReach token) style = .ok
      ((reaches.flatMap (Reach.contributions sheet.style fun h t =>
        sheet.contributions h t token)).foldl Style.merge style) := by
  induction reaches generalizing style
  case nil => rfl
  case cons reach reaches hi =>
    rw [List.foldlM_cons, mergeReach_eq h, List.flatMap_cons, List.foldl_append]
    exact hi _

mutual

theorem resolve_eq_foldl (token : Option String) :
    (sheet : Sheet) → sheet.WellFormed → sheet.ResolvesFlat token
  | .node style scopes, .node legal _ nested => fun history trail => by
    rw [resolve, resolveScopes_eq_foldl token scopes legal nested, contributions, List.foldl_cons,
      Style.empty_merge]
termination_by structural s => s

theorem resolveScopes_eq_foldl (token : Option String) :
    (scopes : List (Segment × Sheet)) → (∀ scope ∈ scopes, scope.1.wellFormed) →
    (∀ scope ∈ scopes, scope.2.WellFormed) → ∀ history trail style,
    resolveScopes scopes history trail token style =
      .ok ((scopesContributions scopes history trail token).foldl Style.merge style)
  | [], _, _ => fun _ _ _ => rfl
  | (segment, sheet) :: rest, legal, nested => fun history trail style => by
    have ⟨hl, hls⟩ := List.forall_mem_cons.mp legal
    have ⟨hn, hns⟩ := List.forall_mem_cons.mp nested
    have ⟨reaches, hr, hc⟩ := segment.reaches_contributions hl history trail token
      sheet.style fun h t => sheet.contributions h t token
    rw [resolveScopes_cons, hr, scopesContributions, List.foldl_append, ← hc]
    simp only [bind, Except.bind]
    rw [foldlM_mergeReach (resolve_eq_foldl token sheet hn)]
    exact resolveScopes_eq_foldl token rest hls hns history trail _
termination_by structural s => s

end

-- The cascade theorem: resolving a position never fails, and for each attribute it yields the last
-- important setting among the contributions, or the last one if no contribution marks it important.
theorem resolve_prevailing (h : sheet.WellFormed) (history : History) (trail : Trail)
    (token : Option String) :
    ∃ style, sheet.resolve history trail token = .ok style ∧ ∀ a,
      style.get a = Setting.prevailing
        ((sheet.contributions history trail token).filterMap (·.get a)) ∧
      (style.get a = none ↔ ∀ c ∈ sheet.contributions history trail token, c.get a = none) := by
  refine ⟨_, resolve_eq_foldl token sheet h history trail, fun a => ?_⟩
  rw [Style.get_foldl_merge_empty]
  refine ⟨rfl, ?_⟩
  rw [Setting.prevailing_eq_none_iff, List.filterMap_eq_nil_iff]

-- An important setting below a kind, with settings that are not important above, below and after.
def contested : Sheet :=
  .node { bold := some ⟨false, false⟩ } [
    (.kind "call", .node { bold := some ⟨true, true⟩ } [
      (.branch [.token "async"], .node { bold := some ⟨false, false⟩ } [])]),
    (.lastKind "name", .node { bold := some ⟨false, false⟩, dim := some ⟨true, false⟩ } [])]

theorem resolve_prevailing_contested :
    contested.WellFormed ∧ ∃ style,
      contested.resolve [.node "call" [.node "word" [.leaf "async"]]]
        [⟨"call", 0⟩, ⟨"name", 1⟩] (some "f") = .ok style ∧
      style.get (.effect .bold) = some ⟨true, true⟩ ∧
      style.get (.effect .dim) = some ⟨true, false⟩ ∧ style.get .content = none := by
  have leaf (style : Style) : WellFormed (.node style []) := .node (by simp) .nil (by simp)
  have wf : contested.WellFormed := by
    refine .node (by decide) ?_ ?_
    case refine_1 => exact .cons (by simp; rfl) (.cons (by simp) .nil)
    case refine_2 =>
      refine List.forall_mem_cons.mpr ⟨?_, by simp [leaf]⟩
      exact .node (by decide) (.cons (by simp) .nil) (by simp [leaf])
  have ⟨style, hs, hc⟩ := resolve_prevailing wf
    [.node "call" [.node "word" [.leaf "async"]]] [⟨"call", 0⟩, ⟨"name", 1⟩] (some "f")
  refine ⟨wf, style, hs, ?_⟩
  simp only [(hc _).left]
  exact ⟨rfl, rfl, rfl⟩

end Sheet

end Highlight
