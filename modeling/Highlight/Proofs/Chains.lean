import Highlight.Proofs.Query
import Highlight.Proofs.Recording

namespace Highlight

-- Whether the atom asks for the text of a leaf.
def Atom.isText : Atom → Bool
  | token _ | pattern _ => true
  | kind _ | lastKind _ => false

namespace Selector

-- Kinds, anywhere further down or right below, and at most one token or pattern, which comes last.
inductive Straight : Selector → Prop
  | nil : Straight []
  | kind {name : String} {rest : Selector} : Straight rest → Straight (.atom (.kind name) :: rest)
  | childKind {name : String} {rest : Selector} : Straight rest →
    Straight (.child (.kind name) :: rest)
  | text {a : Atom} : a.isText → Straight [.atom a]
  | childText {a : Atom} : a.isText → Straight [.child a]

theorem isDotted_of_isText {a : Atom} (h : a.isText) :
    (Segment.atom a).isDotted = false ∧ (Segment.child a).isDotted = false := by
  cases a <;> simp [Atom.isText, Segment.isDotted] at h ⊢

theorem Straight.legalBranch {selector : Selector} (h : Straight selector) :
    Segment.legalBranch selector := by
  induction h
  case nil            => rfl
  case kind hi        => exact Segment.legalBranch_cons.mpr ⟨rfl, rfl, hi⟩
  case childKind hi   => exact Segment.legalBranch_cons.mpr ⟨rfl, rfl, hi⟩
  case text a ha      => exact Segment.legalBranch_cons.mpr ⟨rfl, (isDotted_of_isText ha).left, rfl⟩
  case childText a ha =>
    exact Segment.legalBranch_cons.mpr ⟨rfl, (isDotted_of_isText ha).right, rfl⟩

-- The kinds of the nodes on the way to a leaf and the text of the leaf meet a selector. A kind
-- passes over nodes up to one that it names, and `>` over none. What remains when a selector is
-- used up does not matter; a token or a pattern after `>` is right below the last node only if no
-- kind remains.
inductive Meets : Selector → List String → String → Prop
  | nil {kinds : List String} {text : String} : Meets [] kinds text
  | kind {name : String} {rest : Selector} {kinds : List String} {text : String}
    (passed : List String) : Meets rest kinds text →
    Meets (.atom (.kind name) :: rest) (passed ++ name :: kinds) text
  | childKind {name : String} {rest : Selector} {kinds : List String} {text : String} :
    Meets rest kinds text → Meets (.child (.kind name) :: rest) (name :: kinds) text
  | text {a : Atom} {kinds : List String} {text : String} : a.accepts text →
    Meets [.atom a] kinds text
  | childText {a : Atom} {text : String} : a.accepts text → Meets [.child a] [] text

section

variable {name k : String} {a : Atom} {rest : Selector} {kinds : List String} {text : String}

theorem meets_kind_nil : ¬Meets (.atom (.kind name) :: rest) [] text := by
  generalize hk : ([] : List String) = kinds
  rintro (_ | ⟨passed, _⟩ | _ | ha | _)
  · simp at hk
  · cases ha

theorem meets_kind_cons : Meets (.atom (.kind name) :: rest) (k :: kinds) text ↔
    name = k ∧ Meets rest kinds text ∨ Meets (.atom (.kind name) :: rest) kinds text := by
  constructor
  case mp =>
    generalize hk : k :: kinds = all
    rintro (_ | ⟨passed, h⟩ | _ | ha | _)
    · cases passed
      case nil           => cases hk; exact .inl ⟨rfl, h⟩
      case cons p passed => cases hk; exact .inr (.kind passed h)
    · cases ha
  case mpr =>
    rintro (⟨rfl, h⟩ | h)
    · exact .kind [] h
    · generalize hs : Segment.atom (.kind name) :: rest = selector at h
      cases h
      case nil           => cases hs
      case kind passed h => cases hs; exact .kind (k :: passed) h
      case childKind     => cases hs
      case text ha       => cases hs; cases ha
      case childText     => cases hs

theorem meets_childKind_nil : ¬Meets (.child (.kind name) :: rest) [] text := by
  rintro (_ | _ | _ | _ | ha)
  cases ha

theorem meets_childKind_cons : Meets (.child (.kind name) :: rest) (k :: kinds) text ↔
    name = k ∧ Meets rest kinds text := by
  constructor
  case mp  => rintro (_ | _ | h); exact ⟨rfl, h⟩
  case mpr => rintro ⟨rfl, h⟩; exact .childKind h

theorem meets_text (h : a.isText) : Meets [.atom a] kinds text ↔ a.accepts text := by
  constructor
  case mp =>
    rintro (_ | _ | _ | ha)
    case kind => cases h
    case text => exact ha
  case mpr => exact .text

theorem meets_childText (h : a.isText) :
    Meets [.child a] kinds text ↔ kinds = [] ∧ a.accepts text := by
  constructor
  case mp =>
    rintro (_ | _ | _ | _ | ha)
    case childKind => cases h
    case childText => exact ⟨rfl, ha⟩
  case mpr => rintro ⟨rfl, ha⟩; exact .childText ha

end

end Selector

namespace Visit

-- No node stands without a visit below it.
inductive Grounded : Visit → Prop
  | leaf {token : String} : Grounded (.leaf token)
  | node {kind : String} {below : List Visit} (inhabited : below ≠ [])
    (nested : ∀ v ∈ below, v.Grounded) : Grounded (.node kind below)

theorem Grounded.chain (trail : Trail) (token : String) : Grounded (chain trail token) := by
  induction trail
  case nil             => exact .leaf
  case cons s trail hi => exact .node (by simp) (List.forall_mem_singleton.mpr hi)

theorem mem_chainsBelow {vs : List Visit} {c : List String × String} :
    c ∈ chainsBelow vs ↔ ∃ v ∈ vs, c ∈ v.chains := by
  induction vs
  case nil          => simp [chainsBelow]
  case cons v vs hi => simp [chainsBelow, hi]

theorem exists_mem_chains_node {kind : String} {below : List Visit}
    {p : List String → String → Prop} : (∃ c ∈ (node kind below).chains, p c.1 c.2) ↔
      ∃ c ∈ chainsBelow below, p (kind :: c.1) c.2 := by
  simp only [chains, List.mem_map, exists_exists_and_eq_and]

theorem Grounded.exists_mem_chains {v : Visit} (g : v.Grounded) : ∃ c, c ∈ v.chains := by
  induction g
  case leaf token => exact ⟨([], token), List.mem_singleton.mpr rfl⟩
  case node kind below inhabited nested hi =>
    have ⟨v, hv⟩ := List.exists_mem_of_ne_nil below inhabited
    have ⟨c, hc⟩ := hi v hv
    exact ⟨(kind :: c.1, c.2), List.mem_map_of_mem (mem_chainsBelow.mpr ⟨v, hv, hc⟩)⟩

end Visit

namespace History

-- What recording can do at one level: start a new branch, or go on below one of the nodes there.
theorem record_cons_eq_ok {h h' : History} {s : Step} {rest : Trail} {token : String}
    (hr : h.record (s :: rest) token = .ok h') :
    h' = h ++ [Visit.chain (s :: rest) token] ∨
    ∃ before kind below below' after, h = before ++ .node kind below :: after ∧
      record below rest token = .ok below' ∧ h' = before ++ .node kind below' :: after := by
  rw [record] at hr
  split at hr
  case isFalse => exact .inl (Except.ok.inj hr).symm
  case isTrue =>
    split at hr
    case h_1     => cases hr
    case h_2 i _ =>
      split at hr
      case h_1 => cases hr
      case h_2 => cases hr
      case h_3 kind below hi =>
        cases hb : record below rest token
        case error e => simp [hb, Except.map] at hr
        case ok below' =>
          obtain ⟨hlt, hv⟩ := List.getElem?_eq_some_iff.mp hi
          obtain ⟨before, after, hh, _, hs⟩ : ∃ before after, h = before ++ h[i] :: after ∧
              before.length = i ∧ h.set i (.node kind below') =
                before ++ .node kind below' :: after := List.exists_of_set hlt
          simp only [hb, Except.map, Except.ok.injEq] at hr
          exact .inr ⟨before, kind, below, below', after, hv ▸ hh, hb, hr ▸ hs⟩

-- A history that recording has led to, whatever the positions were.
inductive Recorded : History → Prop
  | nil : Recorded []
  | record {h h' : History} {trail : Trail} {token : String} : Recorded h →
    h.record trail token = .ok h' → Recorded h'

theorem grounded_of_record {h h' : History} {trail : Trail} {token : String}
    (hg : ∀ v ∈ h, v.Grounded) (hr : h.record trail token = .ok h') :
    h' ≠ [] ∧ ∀ v ∈ h', v.Grounded := by
  induction trail generalizing h h'
  case nil =>
    cases hr
    exact ⟨by simp, List.forall_mem_append.mpr ⟨hg, List.forall_mem_singleton.mpr .leaf⟩⟩
  case cons s rest hi =>
    obtain rfl | ⟨before, kind, below, below', after, rfl, hb, rfl⟩ := record_cons_eq_ok hr
    · have := Visit.Grounded.chain (s :: rest) token
      exact ⟨by simp, List.forall_mem_append.mpr ⟨hg, List.forall_mem_singleton.mpr this⟩⟩
    · have ⟨h₁, h₂⟩ := List.forall_mem_append.mp hg
      have ⟨hn, h₃⟩ := List.forall_mem_cons.mp h₂
      cases hn
      case node _ nested =>
        have ⟨inhabited, nested⟩ := hi nested hb
        have hn : (Visit.node kind below').Grounded := .node inhabited nested
        exact ⟨by simp, List.forall_mem_append.mpr ⟨h₁, List.forall_mem_cons.mpr ⟨hn, h₃⟩⟩⟩

theorem Recorded.grounded {h : History} (r : h.Recorded) : ∀ v ∈ h, v.Grounded := by
  induction r
  case nil            => simp
  case record _ hr hi => exact (grounded_of_record hi hr).right

end History

namespace Visit

variable {selector : Selector}

-- The answer of several visits is that of the first one that is satisfied.
theorem someSatisfies_eq_true {vs : List Visit} (hs : selector ≠ [])
    (hl : Segment.legalBranch selector) :
    someSatisfies vs selector = .ok true ↔ ∃ v ∈ vs, v.satisfies selector = .ok true := by
  induction vs
  case nil => simp [someSatisfies, hs]
  case cons v vs hi =>
    have ⟨b, hb⟩ := satisfies_answers v selector hl
    cases b
    case true  => simp [someSatisfies, hb, bind, Except.bind, pure, Except.pure]
    case false => simp [someSatisfies, hb, bind, Except.bind, hi]

theorem someSatisfies_nil (vs : List Visit) : someSatisfies vs [] = .ok true := by
  cases vs
  case nil       => rfl
  case cons v vs => cases v <;> rfl

-- Visits answer by their chains if each of them does. Without any visit there is no chain that the
-- empty selector could be met by.
theorem someSatisfies_iff_meets {vs : List Visit} (hs : selector.Straight)
    (hn : selector = [] → ∃ c, c ∈ chainsBelow vs)
    (hv : ∀ v ∈ vs, v.satisfies selector = .ok true ↔ ∃ c ∈ v.chains, selector.Meets c.1 c.2) :
    someSatisfies vs selector = .ok true ↔ ∃ c ∈ chainsBelow vs, selector.Meets c.1 c.2 := by
  by_cases he : selector = []
  case pos =>
    subst he
    have ⟨c, hc⟩ := hn rfl
    exact iff_of_true (someSatisfies_nil vs) ⟨c, hc, .nil⟩
  case neg =>
    rw [someSatisfies_eq_true he hs.legalBranch]
    constructor
    case mp =>
      intro ⟨v, hm, h⟩
      have ⟨c, hc, hmeets⟩ := (hv v hm).mp h
      exact ⟨c, mem_chainsBelow.mpr ⟨v, hm, hc⟩, hmeets⟩
    case mpr =>
      intro ⟨c, hc, hmeets⟩
      have ⟨v, hm, hc⟩ := mem_chainsBelow.mp hc
      exact ⟨v, hm, (hv v hm).mpr ⟨c, hc, hmeets⟩⟩

theorem leaf_satisfies_iff_meets {token : String} (hs : selector.Straight) :
    (leaf token).satisfies selector = .ok true ↔ selector.Meets [] token := by
  cases hs
  case nil       => exact iff_of_true rfl .nil
  case kind      => exact iff_of_false nofun Selector.meets_kind_nil
  case childKind => exact iff_of_false nofun Selector.meets_childKind_nil
  case text a ha =>
    rw [Selector.meets_text ha]
    cases a <;> simp [Atom.isText, satisfies, Segment.leafSatisfies, Segment.leafMeets] at ha ⊢
  case childText a ha =>
    rw [Selector.meets_childText ha]
    cases a <;> simp [Atom.isText, satisfies, Segment.leafSatisfies, Segment.leafMeets] at ha ⊢

-- A kind is matched at a node or passed over there.
theorem node_satisfies_kind {kind name : String} {below : List Visit} {rest : Selector}
    (hl : Segment.legalBranch rest) :
    (node kind below).satisfies (.atom (.kind name) :: rest) = .ok true ↔
      name = kind ∧ someSatisfies below rest = .ok true ∨
        someSatisfies below (.atom (.kind name) :: rest) = .ok true := by
  simp only [satisfies, Segment.nodeSatisfies, Segment.nodeMeets]
  have ⟨b, hb⟩ := someSatisfies_answers below rest hl
  by_cases hk : name = kind
  case neg => simp [hk]
  case pos => cases b <;> simp [hk, hb, bind, Except.bind, pure, Except.pure]

theorem node_satisfies_childKind {kind name : String} {below : List Visit} {rest : Selector} :
    (node kind below).satisfies (.child (.kind name) :: rest) = .ok true ↔
      name = kind ∧ someSatisfies below rest = .ok true := by
  simp only [satisfies, Segment.nodeSatisfies, Segment.nodeMeets]
  by_cases hk : name = kind <;> simp [hk]

theorem node_satisfies_text {kind : String} {below : List Visit} {a : Atom} (h : a.isText) :
    (node kind below).satisfies [.atom a] = someSatisfies below [.atom a] ∧
      (node kind below).satisfies [.child a] = .ok false := by
  cases a <;> simp [Atom.isText, satisfies, Segment.nodeSatisfies, Segment.nodeMeets] at h ⊢

theorem Grounded.satisfies_iff_meets {v : Visit} (g : v.Grounded) (hs : selector.Straight) :
    v.satisfies selector = .ok true ↔ ∃ c ∈ v.chains, selector.Meets c.1 c.2 := by
  induction g generalizing selector
  case leaf token => simp [leaf_satisfies_iff_meets hs, chains]
  case node kind below inhabited nested hi =>
    obtain ⟨v, hv⟩ := List.exists_mem_of_ne_nil below inhabited
    obtain ⟨c, hc⟩ := (nested v hv).exists_mem_chains
    have hn : ∃ c, c ∈ chainsBelow below := ⟨c, mem_chainsBelow.mpr ⟨v, hv, hc⟩⟩
    -- The visits below answer for what follows the head as well as for the selector as a whole.
    have hb {selector : Selector} (hs : selector.Straight) :=
      someSatisfies_iff_meets hs (fun _ => hn) fun v hv => hi v hv hs
    rw [exists_mem_chains_node]
    cases hs
    case nil =>
      obtain ⟨c, hc⟩ := hn
      exact iff_of_true rfl ⟨c, hc, .nil⟩
    case kind name rest hr =>
      rw [node_satisfies_kind hr.legalBranch, hb hr, hb (.kind hr)]
      simp only [Selector.meets_kind_cons, and_or_left, exists_or, and_left_comm, exists_and_left]
    case childKind name rest hr =>
      rw [node_satisfies_childKind, hb hr]
      simp only [Selector.meets_childKind_cons, and_left_comm, exists_and_left]
    case text a ha =>
      rw [(node_satisfies_text ha).left, hb (.text ha)]
      simp only [Selector.meets_text ha]
    case childText a ha =>
      rw [(node_satisfies_text ha).right]
      simp [Selector.meets_childText ha]

end Visit

-- A branch check that holds no other is satisfied just if a chain of the history meets it.
theorem History.satisfies_straight {h : History} (recorded : h.Recorded) {selector : Selector}
    (straight : selector.Straight) (ne : selector ≠ []) :
    (h.satisfies selector = .ok true ↔ ∃ c ∈ h.chains, selector.Meets c.1 c.2) ∧
    (h.satisfies selector = .ok false ↔ ∀ c ∈ h.chains, ¬selector.Meets c.1 c.2) := by
  have hm : h.satisfies selector = .ok true ↔ ∃ c ∈ h.chains, selector.Meets c.1 c.2 :=
    Visit.someSatisfies_iff_meets straight (absurd · ne)
      fun v hv => (recorded.grounded v hv).satisfies_iff_meets straight
  obtain ⟨b, hb⟩ : ∃ b, h.satisfies selector = .ok b :=
    Visit.someSatisfies_answers h selector straight.legalBranch
  refine ⟨hm, ?_⟩
  rw [hb] at hm ⊢
  cases b <;> simpa using hm

-- The first node of the kind has to be passed over for the check to be satisfied, and no node of it
-- has a leaf right below it.
theorem History.satisfies_straight_nested :
    ∃ h : History, record [] [⟨"call", 0⟩, ⟨"list", 0⟩, ⟨"call", 0⟩, ⟨"word", 0⟩] "x" = .ok h ∧
      h.satisfies [.kind "call", .child (.kind "word"), .child (.token "x")] = .ok true ∧
      h.satisfies [.kind "call", .child (.token "x")] = .ok false := by
  let trail : Trail := [⟨"call", 0⟩, ⟨"list", 0⟩, ⟨"call", 0⟩, ⟨"word", 0⟩]
  have recorded : Recorded [Visit.chain trail "x"] :=
    .record .nil (record_nil "x" (by simp [trail, Trail.Counted]))
  have text : (Atom.token "x").isText := rfl
  refine ⟨[Visit.chain trail "x"], rfl, ?_, ?_⟩
  · refine (satisfies_straight recorded (.kind (.childKind (.childText text))) nofun).left.mpr ?_
    exact ⟨_, List.mem_singleton.mpr rfl, .kind ["call", "list"] (.childKind (.childText rfl))⟩
  · refine (satisfies_straight recorded (.kind (.childText text)) nofun).right.mpr fun c hc => ?_
    rw [chains_chain, List.mem_singleton] at hc
    simp [hc, trail, Trail.kinds, Selector.meets_kind_cons, Selector.meets_kind_nil,
      Selector.meets_childText text]

end Highlight
