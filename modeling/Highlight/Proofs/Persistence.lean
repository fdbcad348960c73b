import Highlight.Proofs.Chains
import Mathlib.Logic.Relation

namespace Highlight

open Relation (ReflTransGen)

namespace Segment

theorem legalBranch_append {s r : List Segment} :
    legalBranch (s ++ r) ↔ legalBranch s ∧ legalBranch r := by
  induction s
  case nil         => simp [legalBranch]
  case cons t s hi => simp [legalBranch_cons, hi, and_assoc]

-- Both answers have to be yes, and the first one is asked for first.
theorem bind_eq_true {x y : Answer} :
    (do if ← x then y else return false : Answer) = .ok true ↔ x = .ok true ∧ y = .ok true := by
  cases x
  case error e => exact iff_of_false nofun nofun
  case ok b    => cases b <;> simp [bind, Except.bind, pure, Except.pure]

-- Whatever the first says yes to, the second says yes to the beginning of it.
def Persists (earlier later : List Segment → Answer) : Prop :=
  ∀ s r, legalBranch (s ++ r) → earlier (s ++ r) = .ok true → later s = .ok true

theorem Persists.trans {first second third : List Segment → Answer} (h₁ : Persists first second)
    (h₂ : Persists second third) : Persists first third := by
  intro s r hl hs
  have hl' : legalBranch (s ++ []) := by simpa using (legalBranch_append.mp hl).left
  exact h₂ s [] hl' (by simpa using h₁ s r hl hs)

end Segment

namespace Visit

open Segment (Persists legalBranch legalBranch_cons legalBranch_of_wellFormed)

variable {kind : String} {below below' : List Visit} {rest : Selector}

theorem node_satisfies_branch {selector : Selector} :
    (node kind below).satisfies (.branch selector :: rest) = .ok true ↔
      (node kind below).satisfies selector = .ok true ∧
        (node kind below).satisfies rest = .ok true :=
  Segment.bind_eq_true

theorem leaf_satisfies_branch {token : String} {selector : Selector} :
    (leaf token).satisfies (.branch selector :: rest) = .ok true ↔
      (leaf token).satisfies selector = .ok true ∧ (leaf token).satisfies rest = .ok true :=
  Segment.bind_eq_true

theorem leaf_persists (token : String) : Persists (leaf token).satisfies (leaf token).satisfies := by
  intro s r hl hs
  induction s
  case nil => rfl
  case cons t s hi =>
    have hr : legalBranch (s ++ r) := (legalBranch_cons.mp hl).right.right
    clear hl
    cases t
    -- An atom is decided by itself, so what follows it does not matter.
    case atom a    => cases a <;> exact hs
    case child a   => cases a <;> exact hs
    case foreign f => exact hs
    case branch selector =>
      have ⟨h₁, h₂⟩ := leaf_satisfies_branch.mp hs
      exact leaf_satisfies_branch.mpr ⟨h₁, hi hr h₂⟩

-- What a node answers follows from what the visits below it answer. The recursion is on the
-- selector, for the sake of the branch checks in it, whose selectors are not shortened.
theorem node_persists (h : Persists (someSatisfies below) (someSatisfies below')) :
    (s r : Selector) → legalBranch (s ++ r) → (node kind below).satisfies (s ++ r) = .ok true →
    (node kind below').satisfies s = .ok true
  | [], _, _, _ => rfl
  | .atom (.kind name) :: s, r, hl, hs => by
    have hr : legalBranch (s ++ r) := (legalBranch_cons.mp hl).right.right
    have hs := (node_satisfies_kind hr).mp hs
    refine (node_satisfies_kind (Segment.legalBranch_append.mp hr).left).mpr ?_
    exact hs.imp (fun ⟨hk, hs⟩ => ⟨hk, h s r hr hs⟩) (h (.atom (.kind name) :: s) r hl)
  | .child (.kind name) :: s, r, hl, hs => by
    have hr : legalBranch (s ++ r) := (legalBranch_cons.mp hl).right.right
    have ⟨hk, hs⟩ := node_satisfies_childKind.mp hs
    exact node_satisfies_childKind.mpr ⟨hk, h s r hr hs⟩
  | .branch selector :: s, r, hl, hs => by
    have ⟨hw, _, hr⟩ := legalBranch_cons.mp hl
    have ⟨h₁, h₂⟩ := node_satisfies_branch.mp hs
    have hb : (node kind below').satisfies selector = .ok true :=
      node_persists h selector [] (by simpa using legalBranch_of_wellFormed hw) (by simpa using h₁)
    exact node_satisfies_branch.mpr ⟨hb, node_persists h s r hr h₂⟩
  | .atom (.token _) :: s, r, hl, hs | .atom (.pattern _) :: s, r, hl, hs => h (_ :: s) r hl hs

-- It is enough that each visit has a successor, whatever else there is and in whatever order.
theorem someSatisfies_persists {vs vs' : List Visit}
    (h : ∀ v ∈ vs, ∃ v' ∈ vs', Persists v.satisfies v'.satisfies) :
    Persists (someSatisfies vs) (someSatisfies vs') := by
  intro s r hl hs
  by_cases he : s = []
  case pos => exact he ▸ someSatisfies_nil vs'
  case neg =>
    have ⟨v, hv, hs⟩ := (someSatisfies_eq_true (by simp [he]) hl).mp hs
    have ⟨v', hv', hp⟩ := h v hv
    have hl' := (Segment.legalBranch_append.mp hl).left
    exact (someSatisfies_eq_true he hl').mpr ⟨v', hv', hp s r hl hs⟩

mutual

-- The same visit answers for a shorter selector.
theorem satisfies_persists_self : (v : Visit) → Persists v.satisfies v.satisfies
  | .leaf token => leaf_persists token
  | .node _ below => node_persists <| someSatisfies_persists fun v hv =>
    ⟨v, hv, satisfies_persists_below below v hv⟩
termination_by structural v => v

theorem satisfies_persists_below : (vs : List Visit) → ∀ v ∈ vs, Persists v.satisfies v.satisfies
  | [] => nofun
  | v :: vs => List.forall_mem_cons.mpr ⟨satisfies_persists_self v, satisfies_persists_below vs⟩
termination_by structural vs => vs

end

end Visit

namespace History

open Segment (Persists legalBranch)

variable {h h' : History}

-- One recording leads from the first history to the second one.
def Records (h h' : History) : Prop :=
  ∃ trail token, h.record trail token = .ok h'

theorem persists_append (more : History) : Persists h.satisfies (satisfies (h ++ more)) :=
  Visit.someSatisfies_persists fun v hv =>
    ⟨v, List.mem_append_left more hv, v.satisfies_persists_self⟩

-- The step: one recording.
theorem persists_of_record {trail : Trail} {token : String} (hr : h.record trail token = .ok h') :
    Persists h.satisfies h'.satisfies := by
  induction trail generalizing h h'
  case nil =>
    cases hr
    exact persists_append [.leaf token]
  case cons step rest hi =>
    obtain rfl | ⟨before, kind, below, below', after, rfl, hb, rfl⟩ := record_cons_eq_ok hr
    · exact persists_append _
    · have entered : Persists (Visit.node kind below).satisfies (Visit.node kind below').satisfies :=
        Visit.node_persists (hi hb)
      refine Visit.someSatisfies_persists (List.forall_mem_append.mpr ⟨fun v hv => ?_, ?_⟩)
      case refine_1 => exact ⟨v, by simp [hv], v.satisfies_persists_self⟩
      case refine_2 =>
        refine List.forall_mem_cons.mpr ⟨⟨_, by simp, entered⟩, fun v hv => ?_⟩
        exact ⟨v, by simp [hv], v.satisfies_persists_self⟩

-- The run: any number of them.
theorem persists_of_records (later : ReflTransGen Records h h') :
    Persists h.satisfies h'.satisfies := by
  induction later
  case refl => simpa using persists_append []
  case tail _ hr hi =>
    have ⟨_, _, hr⟩ := hr
    exact hi.trans (persists_of_record hr)

-- The visits below a node, which is named by the number of visits before it on each level.
def level? : History → List Nat → Option History
  | h, [] => some h
  | h, i :: place => match h[i]? with
    | some (.node _ below) => level? below place
    | _ => none

theorem level?_cons {i : Nat} {place : List Nat} {level : History} :
    h.level? (i :: place) = some level ↔
      ∃ kind below, h[i]? = some (.node kind below) ∧ level? below place = some level := by
  rw [level?]
  split
  case h_1 hn => simp [hn]
  case h_2 hn => exact iff_of_false nofun fun ⟨kind, below, hi, _⟩ => hn kind below hi

-- Whatever the position is, one level of it either gets a new visit or is entered below one node.
theorem record_eq_ok {trail : Trail} {token : String} (hr : h.record trail token = .ok h') :
    h' = h ++ [Visit.chain trail token] ∨
    ∃ before kind below below' after rest, h = before ++ .node kind below :: after ∧
      record below rest token = .ok below' ∧ h' = before ++ .node kind below' :: after := by
  cases trail
  case nil => exact .inl (Except.ok.inj hr).symm
  case cons step rest =>
    obtain he | ⟨before, kind, below, below', after, he⟩ := record_cons_eq_ok hr
    · exact .inl he
    · exact .inr ⟨before, kind, below, below', after, rest, he⟩

-- Recording changes a level, if at all, by a recording of its own.
theorem level?_of_record {trail : Trail} {token : String} {place : List Nat} {level : History}
    (hr : h.record trail token = .ok h') (hl : h.level? place = some level) :
    ∃ level', h'.level? place = some level' ∧ ReflTransGen Records level level' := by
  induction place generalizing h h' trail
  case nil =>
    cases hl
    exact ⟨h', rfl, .single ⟨trail, token, hr⟩⟩
  case cons i place hi =>
    have ⟨kind, below, hn, hb⟩ := level?_cons.mp hl
    have kept (hn' : h'[i]? = some (.node kind below)) :
        ∃ level', h'.level? (i :: place) = some level' ∧ ReflTransGen Records level level' :=
      ⟨level, level?_cons.mpr ⟨kind, below, hn', hb⟩, .refl⟩
    obtain rfl | ⟨before, kind', entered, entered', after, rest, rfl, he, rfl⟩ := record_eq_ok hr
    · have hlt := (List.getElem?_eq_some_iff.mp hn).1
      exact kept ((List.getElem?_append_left hlt).trans hn)
    · by_cases hp : i = before.length
      case pos =>
        subst hp
        obtain ⟨rfl, rfl⟩ : kind' = kind ∧ entered = below := by simpa using hn
        have ⟨level', hl', hr'⟩ := hi he hb
        exact ⟨level', level?_cons.mpr ⟨kind', entered', by simp, hl'⟩, hr'⟩
      case neg =>
        refine kept ?_
        rw [← hn]
        grind

theorem level?_of_records {place : List Nat} {level : History} (later : ReflTransGen Records h h')
    (hl : h.level? place = some level) :
    ∃ level', h'.level? place = some level' ∧ ReflTransGen Records level level' := by
  induction later
  case refl => exact ⟨level, hl, .refl⟩
  case tail _ hr hi =>
    have ⟨middle, hm, h₁⟩ := hi
    have ⟨_, _, hr⟩ := hr
    have ⟨level', hl', h₂⟩ := level?_of_record hr hm
    exact ⟨level', hl', h₁.trans h₂⟩

-- What a history has once satisfied it satisfies after all further recordings, and a beginning of
-- it as well. The same holds of the visits below each of its nodes, which stay where they are.
theorem satisfies_persists (later : ReflTransGen Records h h') {s r : Selector}
    (legal : legalBranch (s ++ r)) :
    (h.satisfies (s ++ r) = .ok true → h'.satisfies s = .ok true) ∧
    ∀ place level, h.level? place = some level → ∃ level', h'.level? place = some level' ∧
      (level.satisfies (s ++ r) = .ok true → level'.satisfies s = .ok true) := by
  refine ⟨persists_of_records later s r legal, fun place level hl => ?_⟩
  have ⟨level', hl', hr⟩ := level?_of_records later hl
  exact ⟨level', hl', persists_of_records hr s r legal⟩

-- A second leaf is recorded below a node, at which one branch check holds another one.
theorem satisfies_persists_nested : ∃ h h' : History,
    record [] [⟨"call", 0⟩, ⟨"word", 0⟩] "async" = .ok h ∧
    h.record [⟨"call", 0⟩, ⟨"name", 1⟩] "f" = .ok h' ∧
    h.satisfies [.branch [.kind "word", .branch [.token "async"]], .kind "call", .token "async"] =
      .ok true ∧
    h'.satisfies [.branch [.kind "word", .branch [.token "async"]], .kind "call"] = .ok true ∧
    ∃ level', h'.level? [0] = some level' ∧ level'.satisfies [.kind "word"] = .ok true := by
  let word : Visit := .node "word" [.leaf "async"]
  let h : History := [.node "call" [word]]
  let h' : History := [.node "call" [word, .node "name" [.leaf "f"]]]
  have hr : h.record [⟨"call", 0⟩, ⟨"name", 1⟩] "f" = .ok h' := rfl
  have later : ReflTransGen Records h h' := .single ⟨_, _, hr⟩
  let s : Selector := [.branch [.kind "word", .branch [.token "async"]], .kind "call"]
  have hs : h.satisfies (s ++ [.token "async"]) = .ok true := rfl
  have ⟨level', hl, hp⟩ := (satisfies_persists later (r := [.token "async"])
    (s := [.kind "word"]) rfl).right [0] [word] rfl
  exact ⟨h, h', rfl, hr, hs, (satisfies_persists later rfl).left hs, level', hl, hp rfl⟩

end History

end Highlight
