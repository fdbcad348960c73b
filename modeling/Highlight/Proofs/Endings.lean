import Highlight.Proofs.Application
import Highlight.Proofs.Chains

namespace Highlight

namespace Segment

-- A token or a pattern, anywhere further down or right below.
inductive Textual : Segment → Prop
  | token {literal : String} : Textual (atom (.token literal))
  | pattern {p : Pattern} : Textual (atom (.pattern p))
  | childToken {literal : String} : Textual (child (.token literal))
  | childPattern {p : Pattern} : Textual (child (.pattern p))

variable {t : Segment} {rest : List Segment}

theorem Textual.isTerminal (h : t.Textual) : t.isTerminal := by
  cases h <;> rfl

-- The text of a leaf is compared with the first token or pattern, and that is the answer.
theorem leafSatisfies_append_text (token : String) (ht : t.Textual) (pre : List Segment) :
    leafSatisfies token (pre ++ t :: rest) = leafSatisfies token (pre ++ [t]) := by
  induction pre
  case nil           => cases ht <;> rfl
  case cons s pre hi => simp only [List.cons_append, leafSatisfies, hi]

theorem nodeSatisfies_append_text (kind : String) {below : List Segment → Answer} (ht : t.Textual)
    (hb : ∀ pre, below (pre ++ t :: rest) = below (pre ++ [t])) (pre : List Segment) :
    nodeSatisfies kind below (pre ++ t :: rest) = nodeSatisfies kind below (pre ++ [t]) := by
  induction pre
  case nil =>
    cases ht
    case token        => exact hb []
    case pattern      => exact hb []
    case childToken   => rfl
    case childPattern => rfl
  case cons s pre hi =>
    -- A node asks the visits below it for the whole selector as well as for what follows the head.
    have hs := hb (s :: pre)
    simp only [List.cons_append, nodeSatisfies, hi] at hs ⊢
    cases s
    case atom a  => cases a <;> simp only [nodeMeets, hb, hs]
    case child a => cases a <;> simp only [nodeMeets, hb]
    case branch  => simp only [nodeMeets]
    case foreign => rfl

end Segment

namespace Visit

variable {t : Segment} {rest : Selector}

mutual

theorem satisfies_append_text (ht : t.Textual) : (v : Visit) → (pre : Selector) →
    v.satisfies (pre ++ t :: rest) = v.satisfies (pre ++ [t])
  | .leaf token, pre => Segment.leafSatisfies_append_text token ht pre
  | .node kind below, pre =>
    Segment.nodeSatisfies_append_text kind ht (someSatisfies_append_text ht below) pre
termination_by structural v => v

theorem someSatisfies_append_text (ht : t.Textual) : (vs : List Visit) → (pre : Selector) →
    someSatisfies vs (pre ++ t :: rest) = someSatisfies vs (pre ++ [t])
  | [], pre => by cases pre <;> rfl
  | v :: vs, pre => by
    simp only [someSatisfies, satisfies_append_text ht v pre, someSatisfies_append_text ht vs pre]
termination_by structural vs => vs

end

end Visit

-- A branch check is answered by what it asks for up to a token or a pattern, whatever follows. No
-- rule of a sheet applies below a token or a pattern, and the linter says so of each that is there.
theorem History.satisfies_beneath_text (h : History) (pre : Selector) {t : Segment}
    (ht : t.Textual) (u : Segment) (post : Selector) :
    h.satisfies (pre ++ t :: u :: post) = h.satisfies (pre ++ [t]) ∧
    ∀ s : Sheet, s.WellFormed →
      (∀ history trail token,
        s.resolve history trail token =
          .ok (((s.applied history trail token).map (·.2)).foldl Style.merge ∅) ∧
        ∀ entry ∈ s.applied history trail token, entry.1 ≠ pre ++ t :: u :: post) ∧
      ∀ d, (pre ++ t :: u :: post, d) ∈ s.walk →
        Lint.unreachable (pre ++ [t]) t u ∈ Lint.unreachableScopes s := by
  refine ⟨Visit.someSatisfies_append_text ht h pre, fun s wf => ⟨?_, fun d hd => ?_⟩⟩
  case refine_1 =>
    intro history trail token
    refine ⟨s.resolve_eq_foldl_applied wf history trail token, fun entry hm he => ?_⟩
    have ⟨path, hp, hn⟩ := wf.path_of_mem_appliedFrom hm
    obtain rfl : pre ++ t :: u :: post = path := he.symm.trans hp
    have := hn t (by simp)
    simp [ht.isTerminal] at this
  case refine_2 =>
    have hd : ((pre ++ [t, u]) ++ post, d) ∈ s.walk := by simpa using hd
    have ⟨e, he⟩ := Sheet.exists_mem_walk_of_append wf.ordered hd
    refine (Lint.unreachableScopes_perm s).mem_iff.mpr (List.mem_filterMap.mpr ⟨_, he, ?_⟩)
    simp [Lint.misplaced?_append, ht.isTerminal]

-- A rule below a token, which stands right below a kind.
def Sheet.overgrown : Sheet :=
  .node ∅ [(.kind "call", .node { dim := some ⟨true, false⟩ } [
    (.child (.token "f"), .node ∅ [(.kind "name", .node { bold := some ⟨true, false⟩ } [])])])]

-- The token is there, but not right below the kind.
theorem History.satisfies_beneath_text_overgrown :
    (∃ h : History, record [] [⟨"call", 0⟩, ⟨"word", 0⟩] "f" = .ok h ∧
      h.satisfies [.kind "call", .child (.token "f"), .kind "name"] = .ok false) ∧
    Sheet.overgrown.WellFormed ∧
    Lint.unreachable [.kind "call", .child (.token "f")] (.child (.token "f")) (.kind "name") ∈
      Lint.unreachableScopes Sheet.overgrown := by
  let h : History := [.node "call" [.node "word" [.leaf "f"]]]
  have ht : (Segment.child (.token "f")).Textual := .childToken
  have ⟨hs, hl⟩ := satisfies_beneath_text h [.kind "call"] ht (.kind "name") []
  have wf : Sheet.overgrown.WellFormed := .single rfl (.single rfl (.single rfl (.leaf _)))
  refine ⟨⟨h, rfl, hs.trans rfl⟩, wf, (hl _ wf).right (.node { bold := some ⟨true, false⟩ } []) ?_⟩
  simp [Sheet.overgrown, Sheet.walk, Sheet.walkFrom, Sheet.walkScopes]

-- A leaf satisfies a selector that asks for a node below it.
theorem History.satisfies_kind_beneath_token : ∃ h : History,
    record [] [⟨"word", 0⟩] "x" = .ok h ∧
      h.satisfies [.token "x", .kind "name"] = .ok true :=
  ⟨[.node "word" [.leaf "x"]], rfl, rfl⟩

end Highlight
