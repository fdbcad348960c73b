import Highlight.Proofs.Construction

namespace Highlight

namespace Segment

theorem cmpList_append_left (p q r : List Segment) : cmpList (p ++ q) (p ++ r) = cmpList q r := by
  induction p
  case nil => rfl
  case cons s p hi =>
    rw [List.cons_append, List.cons_append, cmpList, cmp_self, hi]
    rfl

-- A proper beginning comes first.
theorem cmpList_of_isPrefix {p q : List Segment} (h : p <+: q) (hn : p ≠ q) :
    cmpList p q = .lt := by
  have ⟨rest, he⟩ := h
  subst he
  cases rest
  case nil => simp at hn
  case cons s rest =>
    have hc := cmpList_append_left p [] (s :: rest)
    rw [List.append_nil] at hc
    exact hc

end Segment

namespace Sheet

variable {s t : Sheet} {f g : Sheet → Sheet}

theorem pairwise_walkScopes {scopes : Scopes} (sorted : scopes.Sorted)
    (nested : ∀ scope ∈ scopes, scope.2.Ordered)
    (hw : ∀ scope ∈ scopes, ∀ before, (scope.2.walkFrom before).Pairwise fun a b =>
      Segment.cmpList a.1 b.1 = .lt) (before : Selector) :
    (walkScopes before scopes).Pairwise fun a b => Segment.cmpList a.1 b.1 = .lt := by
  induction scopes
  case nil => exact .nil
  case cons scope rest hi =>
    have ⟨hlt, hr⟩ := List.pairwise_cons.mp sorted
    have ⟨hn, hns⟩ := List.forall_mem_cons.mp nested
    have ⟨hd, hds⟩ := List.forall_mem_cons.mp hw
    refine List.pairwise_append.mpr ⟨hd _, hi hr hns hds, fun a ha b hb => ?_⟩
    -- The two go different ways after what they have in common.
    have ⟨path, hp, _⟩ := at?_of_mem_walkFrom scope.2 hn _ a ha
    have ⟨scope', hs, path', hp', _⟩ := at?_of_mem_walkScopes rest hns before b hb
    rw [hp, hp', List.append_assoc, Segment.cmpList_append_left]
    exact Ordering.then_eq_lt.mpr (.inl (hlt scope' hs))

theorem Ordered.pairwise_walkFrom (h : s.Ordered) (before : Selector) :
    (s.walkFrom before).Pairwise fun a b => Segment.cmpList a.1 b.1 = .lt := by
  induction h generalizing before
  case node style scopes sorted nested hi =>
    refine List.pairwise_cons.mpr ⟨fun b hb => ?_, pairwise_walkScopes sorted nested hi before⟩
    have ⟨scope, _, path, hp, _⟩ := at?_of_mem_walkScopes scopes nested before b hb
    exact hp ▸ Segment.cmpList_of_isPrefix ⟨scope.1 :: path, rfl⟩ (by simp)

theorem Ordered.mem_walk_iff (h : s.Ordered) {selector : Selector} {d : Sheet} :
    (selector, d) ∈ s.walk ↔ s.at? selector = some d := by
  constructor
  case mp =>
    intro hm
    have ⟨path, hp, hd⟩ := at?_of_mem_walkFrom s h [] _ hm
    obtain rfl : selector = path := hp
    exact hd
  case mpr => exact fun hd => mem_walkFrom_of_at? hd []

-- All scopes above a scope are listed before it.
theorem Ordered.mem_of_walk_eq (h : s.Ordered) {before after : List (Selector × Sheet)}
    {entry : Selector × Sheet} (hw : s.walk = before ++ entry :: after) {p : Selector}
    (hp : p <+: entry.1) (hn : p ≠ entry.1) : ∃ d, (p, d) ∈ before := by
  have ⟨rest, he⟩ := hp
  have hm : (p ++ rest, entry.2) ∈ s.walk := by rw [hw, he]; simp
  have ⟨d, hd⟩ := exists_mem_walk_of_append h hm
  have hsort := h.pairwise_walkFrom []
  rw [← walk, hw] at hsort
  rw [hw, List.mem_append, List.mem_cons] at hd
  obtain hd | rfl | hd := hd
  · exact ⟨d, hd⟩
  · exact absurd rfl hn
  · have hlt := (List.pairwise_cons.mp (List.pairwise_append.mp hsort).right.left).left _ hd
    rw [Segment.cmpList_eq_swap, Segment.cmpList_of_isPrefix hp hn] at hlt
    cases hlt

theorem WellFormed.of_at? (h : s.WellFormed) {path : Selector} (hd : s.at? path = some t) :
    t.WellFormed ∧ ∀ segment ∈ path, segment.wellFormed := by
  induction path generalizing s
  case nil =>
    cases hd
    exact ⟨h, nofun⟩
  case cons segment path hi =>
    have ⟨d, hg, hd⟩ := Option.bind_eq_some_iff.mp hd
    have ⟨hs, hw⟩ := h.of_mem (Scopes.mem_of_get? hg)
    have ⟨ht, hp⟩ := hi hw hd
    exact ⟨ht, List.forall_mem_cons.mpr ⟨hs, hp⟩⟩

theorem Scopes.update_update (segment : Segment) (scopes : Scopes) :
    update segment g (update segment f scopes) = update segment (fun d => g (f d)) scopes := by
  induction scopes
  case nil => simp [update, Segment.cmp_self]
  case cons scope rest hi =>
    rw [update, update]
    split
    case h_1 => simp [update, Segment.cmp_self]
    case h_2 h => simp [update, h]
    case h_3 h => simp [update, h, hi]

theorem updateAt_append (path more : Selector) (s : Sheet) :
    s.updateAt (path ++ more) f = s.updateAt path (updateAt more f) := by
  induction path generalizing s
  case nil => rfl
  case cons segment path hi =>
    rw [List.cons_append, updateAt, updateAt, funext hi]

theorem updateAt_updateAt (selector : Selector) (s : Sheet) :
    (s.updateAt selector f).updateAt selector g = s.updateAt selector fun d => g (f d) := by
  induction selector generalizing s
  case nil => rfl
  case cons segment rest hi =>
    rw [updateAt, updateAt, updateAt, ← funext hi]
    exact congrArg (node s.style) (Scopes.update_update segment s.scopes)

-- Declares the base styles of sheets at the ends of their selectors, one after the other.
def replay (entries : List (Selector × Sheet)) (s : Sheet) : Sheet :=
  entries.foldl (fun s entry => s.declareAt entry.1 entry.2.style) s

mutual

-- What the list of a sheet below some selector makes of a sheet: the listed one is merged there.
theorem replay_walkFrom : (t : Sheet) → (before : Selector) → (s : Sheet) →
    replay (t.walkFrom before) s = s.updateAt before (·.merge t)
  | .node style scopes, before, s => replay_walkScopes scopes before (·.declare style) s
termination_by structural t => t

theorem replay_walkScopes : (scopes : List (Segment × Sheet)) → (before : Selector) →
    (f : Sheet → Sheet) → (s : Sheet) →
    replay (walkScopes before scopes) (s.updateAt before f) =
      s.updateAt before fun d => (f d).mergeScopes scopes
  | [], _, _, _ => rfl
  | (segment, sheet) :: rest, before, f, s => by
    rw [walkScopes, replay, List.foldl_append, ← replay, ← replay,
      replay_walkFrom sheet (before ++ [segment]), updateAt_append, updateAt_updateAt]
    exact replay_walkScopes rest before _ s
termination_by structural scopes => scopes

end

theorem Ordered.replay_walk (h : s.Ordered) : replay s.walk ∅ = s := by
  rw [walk, replay_walkFrom]
  exact empty_merge h

theorem WellFormed.pairwise_before (h : s.WellFormed) :
    s.scopes.Pairwise fun a b => a.1.Before b.1 :=
  h.sorted.imp_of_mem fun ha hb hlt => Segment.before_of_cmp (h.legal _ ha) (h.legal _ hb) hlt

-- A sheet that has been built is in canonical order by the keys of its segments. Walking through it
-- lists the scopes that it has, each of them once and after those above it, in the lexicographic
-- order of keys. The list is enough to build the sheet again, and no change that this takes meets
-- an obstacle.
theorem walk_canonical (h : s.Built) :
    (∀ entry ∈ s.walk, entry.2.scopes.Pairwise (fun a b => a.1.Before b.1) ∧
      (entry.2.scopes.map (·.1)).Nodup) ∧
    s.walk.head? = some ([], s) ∧
    (∀ selector d, (selector, d) ∈ s.walk ↔ s.at? selector = some d) ∧
    (s.walk.map (·.1)).Nodup ∧
    (∀ before entry after, s.walk = before ++ entry :: after →
      ∀ p, p <+: entry.1 → p ≠ entry.1 → ∃ d, (p, d) ∈ before) ∧
    (s.walk.map (·.1)).Pairwise Selector.Before ∧
    replay s.walk ∅ = s ∧
    ∀ selector f, (∀ segment ∈ selector, segment.wellFormed) →
      s.attemptAt selector f = ⟨s.updateAt selector f, none⟩ := by
  have wf := h.wellFormed
  have ordered := wf.ordered
  have sorted := ordered.pairwise_walkFrom []
  have hat {entry : Selector × Sheet} (hm : entry ∈ s.walk) :
      entry.2.WellFormed ∧ ∀ segment ∈ entry.1, segment.wellFormed :=
    wf.of_at? (ordered.mem_walk_iff.mp hm)
  refine ⟨fun entry hm => ⟨(hat hm).left.pairwise_before, ?_⟩, by simp [walk, walkFrom_eq],
    fun selector d => ordered.mem_walk_iff, ?_, fun before entry after hw p hp hn =>
      ordered.mem_of_walk_eq hw hp hn, ?_, ordered.replay_walk,
    fun selector f legal => attemptAt_eq wf legal f⟩
  case refine_1 =>
    refine List.pairwise_map.mpr ((hat hm).left.sorted.imp fun hlt he => ?_)
    simp [he, Segment.cmp_self] at hlt
  case refine_2 =>
    refine List.pairwise_map.mpr (sorted.imp fun hlt he => ?_)
    simp [he, Segment.cmpList_self] at hlt
  case refine_3 =>
    refine List.pairwise_map.mpr (sorted.imp_of_mem fun ha hb hlt => ?_)
    exact Selector.before_of_cmpList (hat ha).right (hat hb).right hlt

-- Scopes out of order, the first of which is given twice, with an empty scope on the way to
-- another.
def scattered : Scopes := [
  (.branch [.token "x"], .node { bold := some ⟨true, false⟩ } []),
  (.child (.kind "name"), declareAt [.lastKind "word"] { dim := some ⟨true, true⟩ } ∅),
  (.token "b", ∅),
  (.kind "call", .node { dim := some ⟨false, false⟩ } []),
  (.branch [.token "x"], .node { blink := some ⟨true, false⟩ } [])]

theorem walk_canonical_scattered : ∃ s, ofScopes? ∅ scattered = .ok s ∧ s.Built ∧
    s.walk.map (·.1) = [[], [.kind "call"], [.token "b"], [.child (.kind "name")],
      [.child (.kind "name"), .lastKind "word"], [.branch [.token "x"]]] ∧
    (s.walk.map (·.1)).Pairwise Selector.Before ∧ replay s.walk ∅ = s := by
  have leaf (style : Style) : Built (.node style []) := by
    refine .scopes ?_ ?_ (show ofScopes? style [] = .ok _ from rfl)
    all_goals simp
  have built : Built (ofScopes ∅ scattered) := by
    refine .scopes (show ∀ scope ∈ scattered, _ by decide) ?_ rfl
    simp only [scattered, List.forall_mem_cons]
    exact ⟨leaf _, .declareAt (by decide) .empty, .empty, leaf _, leaf _, by simp⟩
  have ⟨_, _, _, _, _, before, again, _⟩ := walk_canonical built
  exact ⟨_, rfl, built, rfl, before, again⟩

end Sheet

end Highlight
