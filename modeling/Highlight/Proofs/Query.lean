import Highlight.History

namespace Highlight

namespace Segment

theorem legalBranch_cons {s : Segment} {rest : List Segment} :
    legalBranch (s :: rest) ↔ s.wellFormed ∧ s.isDotted = false ∧ legalBranch rest := by
  simp [legalBranch, and_assoc]

theorem legalBranch_of_wellFormed {selector : List Segment} (h : (branch selector).wellFormed) :
    legalBranch selector := by
  simp [wellFormed] at h
  exact h.right

-- Decides by the first answer whether the second one is asked for.
theorem answers_bind {x y : Answer} (hx : ∃ b, x = .ok b) (hy : ∃ b, y = .ok b) :
    ∃ b, (do if ← x then y else return false : Answer) = .ok b := by
  have ⟨b, hb⟩ := hx
  subst hb
  cases b
  case false => exact ⟨false, rfl⟩
  case true  => exact hy

mutual

theorem leafMeets_answers (token : String) {rest : Unit → Answer} (hr : ∃ b, rest () = .ok b) :
    (s : Segment) → s.wellFormed → s.isDotted = false → ∃ b, s.leafMeets token rest = .ok b
  | atom (.kind _), _, _ | atom (.token _), _, _ | atom (.pattern _), _, _ => ⟨_, rfl⟩
  | child (.kind _), _, _ | child (.token _), _, _ | child (.pattern _), _, _ => ⟨_, rfl⟩
  | branch selector, hw, _ =>
    answers_bind (leafSatisfies_answers token selector (legalBranch_of_wellFormed hw)) hr
termination_by structural s => s

theorem leafSatisfies_answers (token : String) :
    (selector : List Segment) → legalBranch selector → ∃ b, leafSatisfies token selector = .ok b
  | [], _ => ⟨true, rfl⟩
  | s :: rest, h =>
    have ⟨hw, hd, hr⟩ := legalBranch_cons.mp h
    leafMeets_answers token (leafSatisfies_answers token rest hr) s hw hd
termination_by structural s => s

end

-- A node hands the head of a selector on to the visits below it, so these have to answer not only
-- for what follows the head but for the selector as a whole.
def Answers (below : List Segment → Answer) : Prop :=
  ∀ selector, legalBranch selector → ∃ b, below selector = .ok b

variable {below : List Segment → Answer}

theorem Answers.kind {kind name : String} {tail : List Segment} {rest : Unit → Answer}
    (hb : Answers below) (ht : legalBranch tail) :
    ∃ b, (Segment.kind name).nodeMeets kind below tail rest = .ok b := by
  have hs : legalBranch (Segment.kind name :: tail) := legalBranch_cons.mpr ⟨rfl, rfl, ht⟩
  have ⟨b, hb₁⟩ := hb tail ht
  have ⟨c, hc⟩ := hb _ hs
  simp only [Segment.kind, nodeMeets] at hc ⊢
  by_cases hk : name = kind
  case neg => exact ⟨c, by simpa [hk] using hc⟩
  case pos =>
    cases b
    case true  => exact ⟨true, by simp [hk, hb₁, bind, Except.bind, pure, Except.pure]⟩
    case false => exact ⟨c, by simpa [hk, hb₁, bind, Except.bind] using hk ▸ hc⟩

mutual

theorem nodeMeets_answers (kind : String) (hb : Answers below) {tail : List Segment}
    {rest : Unit → Answer} (ht : legalBranch tail) (hr : ∃ b, rest () = .ok b) :
    (s : Segment) → s.wellFormed → s.isDotted = false →
    ∃ b, s.nodeMeets kind below tail rest = .ok b
  | atom (.kind _), _, _ => hb.kind ht
  | atom (.token _), _, _ | atom (.pattern _), _, _ => hb _ <| legalBranch_cons.mpr ⟨rfl, rfl, ht⟩
  | child (.kind name), _, _ => by
    by_cases hk : name = kind
    case pos => simpa [nodeMeets, hk] using hb tail ht
    case neg => exact ⟨false, by simp [nodeMeets, hk]⟩
  | child (.token _), _, _ | child (.pattern _), _, _ => ⟨false, rfl⟩
  | branch selector, hw, _ =>
    answers_bind (nodeSatisfies_answers kind hb selector (legalBranch_of_wellFormed hw)) hr
termination_by structural s => s

theorem nodeSatisfies_answers (kind : String) (hb : Answers below) :
    (selector : List Segment) → legalBranch selector →
    ∃ b, nodeSatisfies kind below selector = .ok b
  | [], _ => ⟨true, rfl⟩
  | s :: rest, h =>
    have ⟨hw, hd, hr⟩ := legalBranch_cons.mp h
    nodeMeets_answers kind hb hr (nodeSatisfies_answers kind hb rest hr) s hw hd
termination_by structural s => s

end

end Segment

mutual

theorem Visit.satisfies_answers : (v : Visit) → Segment.Answers v.satisfies
  | .leaf token => Segment.leafSatisfies_answers token
  | .node kind below => Segment.nodeSatisfies_answers kind (Visit.someSatisfies_answers below)
termination_by structural v => v

theorem Visit.someSatisfies_answers : (vs : List Visit) → Segment.Answers (Visit.someSatisfies vs)
  | [] => fun selector _ => ⟨selector.isEmpty, rfl⟩
  | v :: rest => fun selector h => by
    have ⟨b, hb⟩ := Visit.satisfies_answers v selector h
    cases b
    case true  => exact ⟨true, by simp [someSatisfies, hb, bind, Except.bind, pure, Except.pure]⟩
    case false =>
      have ⟨c, hc⟩ := Visit.someSatisfies_answers rest selector h
      exact ⟨c, by simp [someSatisfies, hb, hc, bind, Except.bind]⟩
termination_by structural v => v

end

-- Every history answers every branch check that passes the checks on segments.
theorem History.satisfies_answers (h : History) {selector : Selector}
    (hs : (Segment.branch selector).wellFormed) : ∃ b, h.satisfies selector = .ok b :=
  Visit.someSatisfies_answers h selector (Segment.legalBranch_of_wellFormed hs)

end Highlight
