import Highlight.Tree
import Mathlib.Data.List.Induction

namespace Highlight

namespace Trail

-- A walk comes to the first position earlier. Neither of the two lies below the other.
inductive Precedes : Trail → Trail → Prop
  | next {s t : Step} {q p : Trail} : s.index < t.index → Precedes (s :: q) (t :: p)
  | deeper {s : Step} {q p : Trail} : Precedes q p → Precedes (s :: q) (s :: p)

namespace Precedes

theorem append {q p : Trail} (c : Trail) (h : Precedes q p) : Precedes (c ++ q) (c ++ p) := by
  induction c
  case nil         => exact h
  case cons s c hi => exact .deeper hi

theorem trans {q p r : Trail} (h₁ : Precedes q p) (h₂ : Precedes p r) : Precedes q r := by
  induction h₁ generalizing r
  case next h =>
    cases h₂
    case next h'   => exact .next (by omega)
    case deeper h' => exact .next h
  case deeper h hi =>
    cases h₂
    case next h'   => exact .next h'
    case deeper h' => exact .deeper (hi h')

end Precedes

-- Places are counted from zero, as a walk does.
def Counted (trail : Trail) : Prop :=
  ∀ s ∈ trail, 0 ≤ s.index

theorem Counted.tail {s : Step} {rest : Trail} (h : Counted (s :: rest)) : Counted rest :=
  fun u hu => h u (List.mem_cons_of_mem s hu)

def kinds (trail : Trail) : List String :=
  trail.map (·.kind)

end Trail

mutual

-- The ways from a visit down to the leaves below it: the kinds of the nodes, and the text.
def Visit.chains : Visit → List (List String × String)
  | .leaf token => [([], token)]
  | .node kind below => (Visit.chainsBelow below).map fun c => (kind :: c.1, c.2)
termination_by structural v => v

def Visit.chainsBelow : List Visit → List (List String × String)
  | [] => []
  | v :: vs => v.chains ++ Visit.chainsBelow vs
termination_by structural v => v

end

namespace History

-- The leaves of a history from left to right, each with the kinds of the nodes above it.
def chains (h : History) : List (List String × String) :=
  Visit.chainsBelow h

@[simp] theorem chains_nil : chains [] = [] := rfl

@[simp] theorem chains_append (g h : History) : chains (g ++ h) = chains g ++ chains h := by
  induction g
  case nil => rfl
  case cons v g hi =>
    simp only [chains, List.cons_append, Visit.chainsBelow, List.append_assoc] at hi ⊢
    rw [hi]

@[simp] theorem chains_leaf (token : String) : chains [.leaf token] = [([], token)] := rfl

@[simp] theorem chains_node (kind : String) (below : History) :
    chains [.node kind below] = below.chains.map fun c => (kind :: c.1, c.2) := by
  simp [chains, Visit.chainsBelow, Visit.chains]

theorem chains_chain (trail : Trail) (token : String) :
    chains [Visit.chain trail token] = [(trail.kinds, token)] := by
  induction trail
  case nil             => rfl
  case cons s trail hi => simp [Visit.chain, hi, Trail.kinds]

-- A place that lies beyond the visits starts a new branch.
theorem record_of_length_le {h : History} {s : Step} (rest : Trail) (token : String)
    (hl : (h.length : Int) ≤ s.index) :
    h.record (s :: rest) token = .ok (h ++ [Visit.chain (s :: rest) token]) := by
  rw [record, if_neg (by omega)]

-- The place of the last visit leads into it.
theorem record_last {before below : History} {s : Step} (kind : String) (rest : Trail)
    (token : String) (hl : (before.length : Int) = s.index) :
    record (before ++ [.node kind below]) (s :: rest) token =
      (below.record rest token).map fun below => before ++ [.node kind below] := by
  have hlt : s.index < ((before ++ [Visit.node kind below]).length : Nat) := by simp; omega
  have hp : place? (before ++ [Visit.node kind below]).length s.index = some before.length := by
    rw [place?, if_pos (by omega), ← hl, Int.toNat_natCast]
  rw [record, if_pos hlt]
  simp only [hp]
  simp

theorem record_nil {trail : Trail} (token : String) (hc : trail.Counted) :
    record [] trail token = .ok [Visit.chain trail token] := by
  cases trail
  case nil         => rfl
  case cons s rest => exact record_of_length_le rest token (hc s (by simp))

-- What a leaf recorded at a position leaves behind: at every level on the way there are at most as
-- many visits as places up to the one taken. If there are just as many, the last visit is the node
-- that was taken and leads on; if there are fewer, the same place will start a new branch again.
inductive Frontier : Trail → History → Prop
  | leaf {h : History} : Frontier [] h
  | short {s : Step} {rest : Trail} {h : History} : (h.length : Int) ≤ s.index →
    Frontier (s :: rest) h
  | level {s : Step} {rest : Trail} {before below : History} : (before.length : Int) = s.index →
    Frontier rest below → Frontier (s :: rest) (before ++ [.node s.kind below])

namespace Frontier

variable {h : History} {q p : Trail} {s : Step} {rest : Trail}

theorem length_le (f : Frontier (s :: rest) h) : (h.length : Int) ≤ s.index + 1 := by
  cases f
  case short hl   => omega
  case level hl _ => simp; omega

theorem chain {trail : Trail} (hc : trail.Counted) (token : String) :
    Frontier trail [Visit.chain trail token] := by
  induction trail
  case nil => exact .leaf
  case cons s trail hi =>
    have hs := hc s (by simp)
    by_cases h₀ : s.index = 0
    case pos =>
      have hl : (([] : History).length : Int) = s.index := by simp [h₀]
      exact .level hl (hi hc.tail)
    case neg => exact .short (by simp; omega)

theorem append_chain (hc : Trail.Counted (s :: rest)) (token : String)
    (hl : (h.length : Int) ≤ s.index) :
    Frontier (s :: rest) (h ++ [Visit.chain (s :: rest) token]) := by
  by_cases he : (h.length : Int) = s.index
  case pos => exact .level he (chain hc.tail token)
  case neg => exact .short (by simp; omega)

-- The step of a walk: whatever comes after the last recorded position can be recorded, and the new
-- leaf becomes the last one of the history.
theorem record (f : Frontier q h) (hp : q.Precedes p) (hc : p.Counted) (token : String) :
    ∃ h', h.record p token = .ok h' ∧ Frontier p h' ∧
      h'.chains = h.chains ++ [(p.kinds, token)] := by
  have fresh {h : History} {s : Step} {rest : Trail} (hc : Trail.Counted (s :: rest))
      (hl : (h.length : Int) ≤ s.index) : ∃ h', h.record (s :: rest) token = .ok h' ∧
      Frontier (s :: rest) h' ∧ h'.chains = h.chains ++ [(Trail.kinds (s :: rest), token)] :=
    ⟨_, record_of_length_le rest token hl, append_chain hc token hl, by simp [chains_chain]⟩
  induction hp generalizing h
  case next s t q p hlt =>
    have := f.length_le
    exact fresh hc (by omega)
  case deeper s q p hp hi =>
    cases f
    case short hl => exact fresh hc hl
    case level before below hl f =>
      have ⟨below', hr, f', hb⟩ := hi f hc.tail
      refine ⟨before ++ [.node s.kind below'], ?_, .level hl f', ?_⟩
      · rw [record_last s.kind p token hl, hr]
        rfl
      · simp [hb, Trail.kinds]

end Frontier

-- Records leaves one after the other.
def recordAll (h : History) (leaves : List (Trail × Leaf)) : Except RecordError History :=
  leaves.foldlM (fun h leaf => h.record leaf.1 leaf.2.text) h

theorem recordAll_concat (h : History) (leaves : List (Trail × Leaf)) (leaf : Trail × Leaf) :
    h.recordAll (leaves ++ [leaf]) =
      (h.recordAll leaves).bind fun h => h.record leaf.1 leaf.2.text := by
  simp only [recordAll, List.foldlM_append, List.foldlM_cons, List.foldlM_nil, bind_pure]
  rfl

theorem recordAll_singleton {trail : Trail} (hc : trail.Counted) (l : Leaf) :
    recordAll [] [(trail, l)] = .ok [Visit.chain trail l.text] := by
  simp only [recordAll, List.foldlM_cons, List.foldlM_nil, bind_pure]
  exact record_nil l.text hc

-- The run of a walk: leaves at positions that come one after the other are all recorded, and the
-- history holds just them, in order.
theorem recordAll_of_pairwise {leaves : List (Trail × Leaf)}
    (hp : leaves.Pairwise fun a b => a.1.Precedes b.1) (hc : ∀ leaf ∈ leaves, leaf.1.Counted) :
    ∃ h, recordAll [] leaves = .ok h ∧ (∀ last ∈ leaves.getLast?, Frontier last.1 h) ∧
      h.chains = leaves.map fun leaf => (leaf.1.kinds, leaf.2.text) := by
  induction leaves using List.reverseRecOn
  case nil => exact ⟨[], rfl, by simp, rfl⟩
  case append_singleton leaves leaf hi =>
    have ⟨hp₁, _, hp₂⟩ := List.pairwise_append.mp hp
    have ⟨h, hr, hf, hh⟩ := hi hp₁ fun l hl => hc l (by simp [hl])
    have hl := hc leaf (by simp)
    rw [recordAll_concat, hr]
    cases he : leaves.getLast?
    case none =>
      have : leaves = [] := List.getLast?_eq_none_iff.mp he
      subst this
      cases hr
      refine ⟨_, record_nil leaf.2.text hl, ?_, by simp [chains_chain]⟩
      simpa using Frontier.chain hl leaf.2.text
    case some last =>
      have hlast := hp₂ last (List.mem_of_getLast? he) leaf (by simp)
      have ⟨h', hr', hf', hh'⟩ := (hf last he).record hlast hl leaf.2.text
      exact ⟨h', hr', by simpa using hf', by simp [hh', hh]⟩

end History

end Highlight
