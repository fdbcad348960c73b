import Highlight.Proofs.Findings
import Highlight.Proofs.Origins

namespace Highlight

open Sheet (Scopes)

namespace Segment

-- A segment that only matches leaves takes nothing but the base style of its sheet.
theorem eq_base_of_mem_reaches {s : Segment} (h : s.isTerminal) {history : History} {trail : Trail}
    {token : Option String} {reaches : List Reach}
    (hr : s.reaches history trail token = .ok reaches) : ∀ r ∈ reaches, r = .base := by
  have hi (p : Prop) [Decidable p] : ∀ r ∈ if p then [Reach.base] else [], r = .base := by
    split <;> simp
  cases s
  case atom a =>
    cases a
    case kind => cases h
    all_goals cases hr; exact hi _
  case child a =>
    cases a
    case kind => cases h
    case lastKind =>
      cases hr
      split
      case h_1 => exact hi _
      case h_2 => simp
    all_goals cases hr; exact hi _
  case branch => cases h
  case foreign => cases h

-- The matches of a segment, of which there are none if it cannot be asked for any.
def found (s : Segment) (history : History) (trail : Trail) (token : Option String) :
    List Reach :=
  match s.reaches history trail token with
  | .ok reaches => reaches
  | .error _ => []

theorem isTerminal_of_mem_found {s : Segment} {history history' : History}
    {trail trail' : Trail} {token : Option String}
    (h : Reach.further history' trail' ∈ s.found history trail token) : s.isTerminal = false := by
  by_contra ht
  rw [found] at h
  split at h
  case h_1 hr => cases eq_base_of_mem_reaches (by simpa using ht) hr _ h
  case h_2    => cases h

end Segment

-- Only the last segment of a selector may be one that only matches leaves.
def Selector.Passable (selector : Selector) : Prop :=
  ∀ segment ∈ selector.dropLast, segment.isTerminal = false

theorem Selector.passable_cons {segment : Segment} {rest : Selector} :
    Passable (segment :: rest) ↔ (rest ≠ [] → segment.isTerminal = false) ∧ rest.Passable := by
  cases rest
  case nil            => simp [Passable]
  case cons next rest => simp [Passable, List.dropLast]

-- The scopes that apply by a single match of `own`, whose sheet applies `nested` further on.
def Reach.applied (own : Selector × Style) (nested : History → Trail → List (Selector × Style)) :
    Reach → List (Selector × Style)
  | further history trail => nested history trail
  | base => [own]

namespace Sheet

mutual

-- The scopes that apply to a position, with their selectors and in the order in which their base
-- styles are merged.
def appliedFrom (before : Selector) :
    Sheet → History → Trail → Option String → List (Selector × Style)
  | node style scopes, history, trail, token =>
    (before, style) :: scopesApplied before scopes history trail token
termination_by structural s => s

def scopesApplied (before : Selector) :
    List (Segment × Sheet) → History → Trail → Option String → List (Selector × Style)
  | [], _, _, _ => []
  | (segment, sheet) :: rest, history, trail, token =>
    (segment.found history trail token).flatMap (Reach.applied (before ++ [segment], sheet.style)
      fun h t => sheet.appliedFrom (before ++ [segment]) h t token) ++
      scopesApplied before rest history trail token
termination_by structural s => s

end

def applied (s : Sheet) (history : History) (trail : Trail) (token : Option String) :
    List (Selector × Style) :=
  s.appliedFrom [] history trail token

variable {s : Sheet} {history : History} {trail : Trail} {token : Option String}

theorem WellFormed.ordered (h : s.WellFormed) : s.Ordered := by
  induction h
  case node legal sorted nested hi => exact .node sorted hi

theorem WellFormed.leaf (style : Style) : WellFormed (.node style []) :=
  .node (by simp) .nil (by simp)

theorem WellFormed.single {style : Style} {segment : Segment} (hs : segment.wellFormed)
    (h : s.WellFormed) : WellFormed (.node style [(segment, s)]) :=
  .node (by simpa using hs) (List.pairwise_singleton _ _) (by simpa using h)

theorem WellFormed.of_mem (h : s.WellFormed) {scope : Segment × Sheet} (hm : scope ∈ s.scopes) :
    scope.1.wellFormed ∧ scope.2.WellFormed := by
  cases h
  case node legal _ nested => exact ⟨legal scope hm, nested scope hm⟩

theorem map_snd_scopesApplied {scopes : Scopes} (legal : ∀ scope ∈ scopes, scope.1.wellFormed)
    (nested : ∀ scope ∈ scopes, ∀ before history trail,
      (scope.2.appliedFrom before history trail token).map (·.2) =
        scope.2.contributions history trail token) (before : Selector) :
    (scopesApplied before scopes history trail token).map (·.2) =
      scopesContributions scopes history trail token := by
  induction scopes
  case nil => rfl
  case cons scope rest hi =>
    have ⟨hl, hls⟩ := List.forall_mem_cons.mp legal
    have ⟨hn, hns⟩ := List.forall_mem_cons.mp nested
    have ⟨reaches, hr, hc⟩ := scope.1.reaches_contributions hl history trail token scope.2.style
      fun h t => scope.2.contributions h t token
    have hf : scope.1.found history trail token = reaches := by rw [Segment.found, hr]
    rw [scopesApplied, scopesContributions, List.map_append, hi hls hns, hf, ← hc,
      List.map_flatMap]
    congr 2
    funext reach
    cases reach
    case base => rfl
    case further => exact hn ..

-- The labels apart, the scopes that apply are the contributions.
theorem map_snd_appliedFrom (h : s.WellFormed) (before : Selector) :
    (s.appliedFrom before history trail token).map (·.2) = s.contributions history trail token := by
  induction h generalizing before history trail
  case node style scopes legal _ _ hi =>
    rw [appliedFrom, contributions, List.map_cons,
      map_snd_scopesApplied legal fun scope hs before history trail => hi scope hs before]

theorem resolve_eq_foldl_applied (h : s.WellFormed) (history : History) (trail : Trail)
    (token : Option String) :
    s.resolve history trail token =
      .ok (((s.applied history trail token).map (·.2)).foldl Style.merge ∅) := by
  rw [applied, map_snd_appliedFrom h]
  exact resolve_eq_foldl token s h history trail

theorem mem_scopesApplied {scopes : Scopes} {before : Selector} {entry : Selector × Style} :
    entry ∈ scopesApplied before scopes history trail token ↔ ∃ scope ∈ scopes,
      ∃ reach ∈ scope.1.found history trail token,
        entry ∈ reach.applied (before ++ [scope.1], scope.2.style)
          fun h t => scope.2.appliedFrom (before ++ [scope.1]) h t token := by
  induction scopes
  case nil => simp [scopesApplied]
  case cons scope rest hi => simp only [scopesApplied, List.mem_append, List.mem_flatMap, hi,
    List.exists_mem_cons_iff]

theorem appliedFrom_eq (s : Sheet) (before : Selector) :
    s.appliedFrom before history trail token =
      (before, s.style) :: scopesApplied before s.scopes history trail token := by
  cases s
  rfl

-- No scope applies that stands below a segment which only matches leaves.
theorem WellFormed.path_of_mem_appliedFrom (h : s.WellFormed) {before : Selector}
    {entry : Selector × Style} (hm : entry ∈ s.appliedFrom before history trail token) :
    ∃ path, entry.1 = before ++ path ∧ path.Passable := by
  induction h generalizing before history trail
  case node style scopes legal _ _ hi =>
    rw [appliedFrom] at hm
    cases hm
    case head => exact ⟨[], by simp, nofun⟩
    case tail hm =>
      have ⟨scope, hs, reach, hr, hm⟩ := mem_scopesApplied.mp hm
      cases reach
      case base =>
        cases List.mem_singleton.mp hm
        exact ⟨[scope.1], rfl, nofun⟩
      case further history' trail' =>
        have ⟨path, hp, hn⟩ := hi scope hs hm
        refine ⟨scope.1 :: path, by simpa using hp, Selector.passable_cons.mpr ⟨fun _ => ?_, hn⟩⟩
        exact Segment.isTerminal_of_mem_found hr

end Sheet

namespace Segment

-- Patterns and branch checks may match nothing, wherever they stand.
def isConditional : Segment → Bool
  | atom (.pattern _) | child (.pattern _) | branch _ => true
  | _ => false

variable {s : Segment}

theorem exists_base_mem_found (hc : s.isConditional = false) (ht : s.isTerminal) :
    ∃ trail token, Reach.base ∈ s.found [] trail token := by
  cases s
  case atom a =>
    cases a
    case kind          => cases ht
    case pattern       => cases hc
    case token literal => exact ⟨[], some literal, by simp [found, reaches, Atom.accepts]⟩
    case lastKind name => exact ⟨[⟨name, 0⟩], none, by simp [found, reaches]⟩
  case child a =>
    cases a
    case kind          => cases ht
    case pattern       => cases hc
    case token literal => exact ⟨[], some literal, by simp [found, reaches, Atom.accepts]⟩
    case lastKind name => exact ⟨[⟨name, 0⟩], none, by simp [found, reaches]⟩
  case branch => cases ht
  case foreign => cases ht

theorem exists_further_mem_found (hw : s.wellFormed) (hc : s.isConditional = false)
    (ht : s.isTerminal = false) :
    ∃ step, ∀ trail token, Reach.further [] trail ∈ s.found [] (step :: trail) token := by
  have hl : History.latest [] 1 = [] := rfl
  cases s
  case atom a =>
    cases a
    case kind name =>
      refine ⟨⟨name, 0⟩, fun trail token => List.mem_map.mpr ⟨0, ?_, by simp [hl]⟩⟩
      simp [occurrences]
    all_goals cases ht
  case child a =>
    cases a
    case kind name => exact ⟨⟨name, 0⟩, fun trail token => by simp [found, reaches, hl]⟩
    all_goals cases ht
  case branch => cases hc
  case foreign => cases hw

end Segment

namespace Sheet

variable {s t : Sheet}

theorem exists_mem_appliedFrom (h : s.WellFormed) {path : Selector} (ht : s.at? path = some t)
    (hc : ∀ segment ∈ path, segment.isConditional = false)
    (hp : path.Passable) :
    ∃ trail token, ∀ before, (before ++ path, t.style) ∈ s.appliedFrom before [] trail token := by
  induction path generalizing s
  case nil =>
    cases ht
    exact ⟨[], none, fun before => by simp [appliedFrom_eq]⟩
  case cons segment rest hi =>
    have ⟨d, hd, ht⟩ := Option.bind_eq_some_iff.mp ht
    have hm := Scopes.mem_of_get? hd
    have ⟨hs, hcs⟩ := List.forall_mem_cons.mp hc
    have ⟨hn, hp⟩ := Selector.passable_cons.mp hp
    -- It is enough to find a match by which the scope applies.
    suffices ∃ trail token, ∃ reach ∈ segment.found [] trail token, ∀ before,
        (before ++ segment :: rest, t.style) ∈ reach.applied (before ++ [segment], d.style)
          fun h t => d.appliedFrom (before ++ [segment]) h t token by
      have ⟨trail, token, reach, hr, ha⟩ := this
      refine ⟨trail, token, fun before => ?_⟩
      rw [appliedFrom_eq]
      exact List.mem_cons_of_mem _ (mem_scopesApplied.mpr ⟨(segment, d), hm, reach, hr, ha before⟩)
    cases hterm : segment.isTerminal
    case true =>
      obtain rfl : rest = [] := by
        by_contra he
        simp [hn he] at hterm
      cases ht
      have ⟨trail, token, hb⟩ := Segment.exists_base_mem_found hs hterm
      exact ⟨trail, token, .base, hb, fun before => by simp [Reach.applied]⟩
    case false =>
      have ⟨hw, hd⟩ := h.of_mem hm
      have ⟨step, hf⟩ := Segment.exists_further_mem_found hw hs hterm
      have ⟨trail, token, ha⟩ := hi hd ht hcs hp
      refine ⟨step :: trail, token, .further [] trail, hf trail token, fun before => ?_⟩
      simpa [Reach.applied] using ha (before ++ [segment])

end Sheet

-- A scope and all those above it are well placed.
theorem Lint.forall_misplaced? {selector : Selector} :
    (∀ q, q <+: selector → misplaced? q = none) ↔ selector.Passable := by
  constructor
  case mp =>
    intro h segment hm
    have ⟨before, after, hd⟩ := List.append_of_mem hm
    have hn : selector ≠ [] := by
      rintro rfl
      cases hm
    obtain ⟨nested, rest, ha⟩ := List.exists_cons_of_ne_nil
      (List.append_ne_nil_of_right_ne_nil after (List.cons_ne_nil (selector.getLast hn) []))
    have hs : selector = before ++ [segment, nested] ++ rest := by
      rw [← List.dropLast_append_getLast hn, hd, List.append_assoc, List.cons_append, ha]
      simp
    have := h _ ⟨rest, hs.symm⟩
    rw [misplaced?_append] at this
    by_contra ht
    simp [ht] at this
  case mpr =>
    rintro h q ⟨rest, rfl⟩
    by_contra hq
    have ⟨before, last, nested, he, ht⟩ := isSome_misplaced?.mp (Option.isSome_iff_ne_none.mpr hq)
    have := h last (by simp [he])
    simp [ht] at this

namespace Sheet

variable {s : Sheet}

-- The linter finds every scope that cannot apply because of what stands above it, and no other.
theorem applied_iff_not_misplaced (h : s.WellFormed) {selector : Selector} {d : Sheet}
    (hm : (selector, d) ∈ s.walk) (hc : ∀ segment ∈ selector, segment.isConditional = false) :
    (Lint.unreachableScopes s).Perm (s.walk.filterMap fun entry => Lint.misplaced? entry.1) ∧
    ((∀ q, q <+: selector → Lint.misplaced? q = none) ↔
      ∃ trail token, (selector, d.style) ∈ s.applied [] trail token ∧
        s.resolve [] trail token =
          .ok (((s.applied [] trail token).map (·.2)).foldl Style.merge ∅)) := by
  refine ⟨Lint.unreachableScopes_perm s, ?_⟩
  rw [Lint.forall_misplaced?]
  constructor
  case mp =>
    intro hp
    have ⟨path, he, ht⟩ := at?_of_mem_walkFrom s h.ordered [] _ hm
    obtain rfl : selector = path := he
    have ⟨trail, token, ha⟩ := exists_mem_appliedFrom h ht hc hp
    exact ⟨trail, token, ha [], resolve_eq_foldl_applied h [] trail token⟩
  case mpr =>
    intro ⟨trail, token, ha, _⟩
    have ⟨path, he, hp⟩ := h.path_of_mem_appliedFrom ha
    obtain rfl : selector = path := he
    exact hp

-- Scopes below one another: a kind twice, one right below the other, and a token right below these.
def layered : Sheet :=
  .node ∅ [
    (.kind "list", .node ∅ [
      (.child (.kind "list"), .node { dim := some ⟨true, false⟩ } [
        (.child (.token "x"), .node { bold := some ⟨true, false⟩ } [])]),
      (.branch [.token "y"], .node { bold := some ⟨false, false⟩ } [])])]

theorem applied_iff_not_misplaced_layered : layered.WellFormed ∧ ∃ trail token,
    ([.kind "list", .child (.kind "list"), .child (.token "x")], { bold := some ⟨true, false⟩ }) ∈
      layered.applied [] trail token := by
  have wf : layered.WellFormed := by
    refine .single rfl (.node (by decide) (.cons (by simp; rfl) (.cons (by simp) .nil)) ?_)
    exact List.forall_mem_cons.mpr ⟨.single rfl (.leaf _), by simp [WellFormed.leaf]⟩
  have hm : ([.kind "list", .child (.kind "list"), .child (.token "x")],
      .node { bold := some ⟨true, false⟩ } []) ∈ layered.walk := by
    simp [layered, walk, walkFrom, walkScopes]
  have ⟨_, hr⟩ := applied_iff_not_misplaced wf hm (by decide)
  have hp : Selector.Passable [.kind "list", .child (.kind "list"), .child (.token "x")] :=
    show ∀ segment ∈ _, _ by decide
  have ⟨trail, token, ha, _⟩ := hr.mp (Lint.forall_misplaced?.mpr hp)
  exact ⟨wf, trail, token, ha⟩

end Sheet

end Highlight
