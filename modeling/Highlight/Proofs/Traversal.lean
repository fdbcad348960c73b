import Highlight.Proofs.Recording
import Highlight.Proofs.Resolution
import Highlight.Span

namespace Highlight

namespace Tree

theorem places_of_mem_leavesFrom {t : Tree} {trail : Trail} {i : Nat} {a : Trail × Leaf}
    (h : a ∈ t.leavesFrom trail i) : t.places = 1 := by
  cases t
  case node   => rfl
  case leaf   => rfl
  case absent => simp [leavesFrom] at h

mutual

-- The leaves of a tree lie at the place of the tree or below it.
theorem trail_of_mem_leavesFrom : (t : Tree) → (trail : Trail) → (i : Nat) →
    (a : Trail × Leaf) → a ∈ t.leavesFrom trail i →
    ∃ (s : Step) (rest : Trail), a.1 = trail ++ s :: rest ∧ s.index = i ∧ rest.Counted
  | node kind children, _, i, a, h => by
    have ⟨s, rest, hs, hi, hr⟩ := trail_of_mem_leavesBelow children _ _ a h
    refine ⟨⟨kind, i⟩, s :: rest, by simp [hs], rfl, fun u hu => ?_⟩
    cases hu
    case head    => omega
    case tail hu => exact hr u hu
  | leaf l, trail, i, a, h => by
    have : a = (trail ++ [⟨l.kind, i⟩], l) := by simpa [leavesFrom] using h
    exact ⟨⟨l.kind, i⟩, [], by simp [this], rfl, by simp [Trail.Counted]⟩
  | absent, _, _, _, h => by simp [leavesFrom] at h
termination_by structural t => t

theorem trail_of_mem_leavesBelow : (ts : List Tree) → (trail : Trail) → (i : Nat) →
    (a : Trail × Leaf) → a ∈ leavesBelow trail i ts →
    ∃ (s : Step) (rest : Trail), a.1 = trail ++ s :: rest ∧ i ≤ s.index ∧ rest.Counted
  | [], _, _, _, h => by simp [leavesBelow] at h
  | t :: ts, _, i, a, h => by
    rw [leavesBelow, List.mem_append] at h
    cases h
    case inl h =>
      have ⟨s, rest, hs, hi, hr⟩ := trail_of_mem_leavesFrom t _ _ a h
      exact ⟨s, rest, hs, by omega, hr⟩
    case inr h =>
      have ⟨s, rest, hs, hi, hr⟩ := trail_of_mem_leavesBelow ts _ _ a h
      exact ⟨s, rest, hs, by omega, hr⟩
termination_by structural t => t

end

mutual

theorem pairwise_leavesFrom : (t : Tree) → (trail : Trail) → (i : Nat) →
    (t.leavesFrom trail i).Pairwise fun a b => a.1.Precedes b.1
  | node kind children, trail, i => pairwise_leavesBelow children (trail ++ [(⟨kind, i⟩ : Step)]) 0
  | leaf _, _, _ => List.pairwise_singleton _ _
  | absent, _, _ => List.Pairwise.nil
termination_by structural t => t

theorem pairwise_leavesBelow : (ts : List Tree) → (trail : Trail) → (i : Nat) →
    (leavesBelow trail i ts).Pairwise fun a b => a.1.Precedes b.1
  | [], _, _ => List.Pairwise.nil
  | t :: ts, trail, i => by
    refine List.pairwise_append.mpr ⟨pairwise_leavesFrom t trail i, pairwise_leavesBelow ts _ _, ?_⟩
    intro a ha b hb
    have ⟨s, q, hs, hi, _⟩ := trail_of_mem_leavesFrom t _ _ a ha
    have ⟨u, p, hu, hj, _⟩ := trail_of_mem_leavesBelow ts _ _ b hb
    have := places_of_mem_leavesFrom ha
    rw [hs, hu]
    exact .append trail <| .next (by omega)
termination_by structural t => t

end

theorem counted_leaves {t : Tree} {a : Trail × Leaf} (h : a ∈ t.leaves) : a.1.Counted := by
  have ⟨s, rest, hs, hi, hr⟩ := trail_of_mem_leavesFrom t _ _ a h
  intro u hu
  simp only [hs, List.nil_append, List.mem_cons] at hu
  cases hu
  case inl hu => subst hu; omega
  case inr hu => exact hr u hu

-- What has been visited after a part of the walk over a tree can be recorded, and is what the
-- history then holds.
theorem recordAll_visited {t : Tree} {visited : List (Trail × Leaf)} (h : visited <+: t.leaves) :
    ∃ history, History.recordAll [] visited = .ok history ∧
      history.chains = visited.map fun leaf => (leaf.1.kinds, leaf.2.text) := by
  have hp := (pairwise_leavesFrom t [] 0).sublist h.sublist
  have hc : ∀ leaf ∈ visited, leaf.1.Counted := fun leaf hl => counted_leaves (h.subset hl)
  have ⟨history, hr, _, hh⟩ := History.recordAll_of_pairwise hp hc
  exact ⟨history, hr, hh⟩

end Tree

namespace Walk

variable (sheet : Sheet) (source : List Char)

-- A part of a walk: the spans of some leaves, and how far the walk has come after them.
def visit (w : Walk) : List (Trail × Leaf) → Except WalkError (List Span × Walk)
  | [] => .ok ([], w)
  | (trail, l) :: rest => do
    let (spans, w) ← w.step sheet source trail l
    let (more, w) ← visit w rest
    return (spans ++ more, w)

-- Every walk can be cut anywhere.
theorem run_append (w : Walk) (visited rest : List (Trail × Leaf)) :
    w.run sheet source (visited ++ rest) = (do
      let (spans, w) ← w.visit sheet source visited
      return spans ++ (← w.run sheet source rest)) := by
  induction visited generalizing w
  case nil => exact (LawfulFunctor.id_map (w.run sheet source rest)).symm
  case cons leaf visited hi =>
    simp only [List.cons_append, run, visit, hi, bind_assoc, pure_bind, List.append_assoc]

-- A step fails only where resolving or recording does, and otherwise records the leaf.
theorem step_cases (w : Walk) (trail : Trail) (l : Leaf) :
    (∃ e, w.step sheet source trail l = .error (.query e) ∧
      sheet.resolve w.history trail (some l.text) = .error e) ∨
    (∃ e, w.step sheet source trail l = .error (.record e) ∧
      w.history.record trail l.text = .error e) ∨
    ∃ spans w', w.step sheet source trail l = .ok (spans, w') ∧
      w.history.record trail l.text = .ok w'.history := by
  unfold step
  cases sheet.resolve w.history trail (some l.text)
  case error e => exact .inl ⟨e, rfl, rfl⟩
  case ok style =>
    cases w.history.record trail l.text
    case error e    => exact .inr <| .inl ⟨e, rfl, rfl⟩
    case ok history => exact .inr <| .inr ⟨_, _, rfl, rfl⟩

-- The same for a part of a walk: what it records are its leaves, as long as none is refused.
theorem visit_cases (w : Walk) (leaves : List (Trail × Leaf)) :
    (∃ e, w.visit sheet source leaves = .error (.query e) ∧ ¬sheet.WellFormed) ∨
    (∃ e, w.visit sheet source leaves = .error (.record e) ∧
      w.history.recordAll leaves = .error e) ∨
    ∃ spans w', w.visit sheet source leaves = .ok (spans, w') ∧
      w.history.recordAll leaves = .ok w'.history := by
  induction leaves generalizing w
  case nil => exact .inr <| .inr ⟨[], w, rfl, rfl⟩
  case cons leaf leaves hi =>
    simp only [visit, History.recordAll, List.foldlM_cons]
    obtain ⟨e, hs, hr⟩ | ⟨e, hs, hr⟩ | ⟨spans, w', hs, hr⟩ :=
      step_cases sheet source w leaf.1 leaf.2
    · refine .inl ⟨e, by rw [hs]; rfl, fun wf => ?_⟩
      simp [sheet.resolve_eq_foldl (some leaf.2.text) wf w.history leaf.1] at hr
    · exact .inr <| .inl ⟨e, by rw [hs]; rfl, by rw [hr]; rfl⟩
    · rw [hs, hr]
      obtain ⟨e, hv, hw⟩ | ⟨e, hv, hw⟩ | ⟨more, w'', hv, hw⟩ := hi w'
      · exact .inl ⟨e, by simp only [bind, Except.bind, hv], hw⟩
      · exact .inr <| .inl ⟨e, by simp only [bind, Except.bind, hv], hw⟩
      · exact .inr <| .inr ⟨spans ++ more, w'', by simp only [bind, Except.bind, hv]; rfl, hw⟩

theorem recordAll_of_visit {w w' : Walk} {leaves : List (Trail × Leaf)} {spans : List Span}
    (h : w.visit sheet source leaves = .ok (spans, w')) :
    w.history.recordAll leaves = .ok w'.history := by
  obtain ⟨e, hv, _⟩ | ⟨e, hv, _⟩ | ⟨spans', w'', hv, hw⟩ := visit_cases sheet source w leaves
  · simp [h] at hv
  · simp [h] at hv
  · simp only [h, Except.ok.injEq, Prod.mk.injEq] at hv
    rw [hv.right, hw]

end Walk

namespace Tree

theorem spans_eq (t : Tree) (sheet : Sheet) (source : String) {visited rest : List (Trail × Leaf)}
    (h : t.leaves = visited ++ rest) :
    t.spans sheet source = (do
      let (spans, w) ← Walk.visit sheet source.toList {} visited
      return spans ++ (← w.run sheet source.toList rest)) := by
  rw [spans, h, Walk.run_append]

-- The walk over a tree never fails to record a leaf, and with a sheet that is well formed it never
-- fails at all. Wherever it is cut, the history at that point holds the leaves visited before it,
-- in their order, each below the kinds of its own nodes.
theorem spans_records_visited (t : Tree) (sheet : Sheet) (source : String) :
    (∀ e, t.spans sheet source ≠ .error (.record e)) ∧
    (sheet.WellFormed → ∃ spans, t.spans sheet source = .ok spans) ∧
    ∀ visited rest, t.leaves = visited ++ rest →
      t.spans sheet source = (do
        let (spans, w) ← Walk.visit sheet source.toList {} visited
        return spans ++ (← w.run sheet source.toList rest)) ∧
      ∃ history, History.recordAll [] visited = .ok history ∧
        history.chains = visited.map (fun a => (a.1.kinds, a.2.text)) ∧
        ∀ spans w, Walk.visit sheet source.toList {} visited = .ok (spans, w) →
          w.history = history := by
  have hs := t.spans_eq sheet source (List.append_nil t.leaves).symm
  have ⟨history, hr, _⟩ := recordAll_visited (List.prefix_refl t.leaves)
  have hv := Walk.visit_cases sheet source.toList {} t.leaves
  refine ⟨fun e he => ?_, fun wf => ?_, fun visited rest h => ⟨t.spans_eq sheet source h, ?_⟩⟩
  · obtain ⟨e', hv, _⟩ | ⟨e', hv, hw⟩ | ⟨spans, w, hv, _⟩ := hv
    · rw [hs, hv] at he
      cases he
    · simp [hr] at hw
    · rw [hs, hv] at he
      cases he
  · obtain ⟨e', hv, hw⟩ | ⟨e', hv, hw⟩ | ⟨spans, w, hv, _⟩ := hv
    · exact absurd wf hw
    · simp [hr] at hw
    · exact ⟨_, by rw [hs, hv]; rfl⟩
  · have ⟨history, hr, hc⟩ := recordAll_visited (h ▸ List.prefix_append visited rest)
    refine ⟨history, hr, hc, fun spans w hv => ?_⟩
    have := hr.symm.trans <| Walk.recordAll_of_visit sheet source.toList hv
    exact (Except.ok.inj this).symm

-- A tree in which a node without leaves takes a place among its siblings.
def drifting : Tree :=
  .node "call" [.node "empty" [], .absent, .node "name" [.leaf ⟨"word", "f", none, none⟩],
    .node "list" [.leaf ⟨"mark", "(", none, none⟩, .leaf ⟨"word", "x", none, none⟩,
      .leaf ⟨"mark", ")", none, none⟩]]

theorem spans_records_visited_drifting :
    (∃ spans, drifting.spans ∅ "f(x)" = .ok spans) ∧
    ∃ history, History.recordAll [] drifting.leaves = .ok history ∧
      history.chains = [(["call", "name", "word"], "f"), (["call", "list", "mark"], "("),
        (["call", "list", "word"], "x"), (["call", "list", "mark"], ")")] := by
  have ⟨_, hs, hv⟩ := spans_records_visited drifting ∅ "f(x)"
  have ⟨_, history, hr, hc, _⟩ := hv drifting.leaves [] (List.append_nil _).symm
  exact ⟨hs <| .node (by simp) .nil (by simp), history, hr, hc⟩

end Tree

end Highlight
