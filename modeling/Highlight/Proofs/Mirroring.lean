import Highlight.Proofs.Chains
import Highlight.Proofs.Scoping

namespace Highlight

-- A node around visits, if there are any.
def Visit.around (kind : String) : History → History
  | [] => []
  | v :: below => [.node kind (v :: below)]

namespace Visit

theorem around_of_ne_nil (kind : String) {below : History} (h : below ≠ []) :
    around kind below = [.node kind below] := by
  cases below
  case nil  => exact absurd rfl h
  case cons => rfl

theorem length_around_le (kind : String) (below : History) : (around kind below).length ≤ 1 := by
  cases below <;> simp [around]

theorem around_injective (kind : String) {below below' : History}
    (h : around kind below = around kind below') : below = below' := by
  cases below <;> cases below' <;> simp [around] at h ⊢
  exact h

theorem chains_around (kind : String) (below : History) :
    (around kind below).chains = below.chains.map fun c => (kind :: c.1, c.2) := by
  cases below
  case nil  => rfl
  case cons => exact History.chains_node kind _

end Visit

namespace History

theorem ne_nil_of_record {h h' : History} {trail : Trail} {token : String}
    (hr : h.record trail token = .ok h') : h' ≠ [] := by
  cases trail
  case nil => cases hr; simp
  case cons s rest =>
    obtain rfl | ⟨before, kind, below, below', after, _, _, rfl⟩ := record_cons_eq_ok hr <;> simp

theorem recordAll_append (h : History) (g l : List (Trail × Leaf)) :
    h.recordAll (g ++ l) = (h.recordAll g).bind (·.recordAll l) := by
  simp only [recordAll, List.foldlM_append]
  rfl

theorem recordAll_cons (h : History) (a : Trail × Leaf) (l : List (Trail × Leaf)) :
    h.recordAll (a :: l) = (h.record a.1 a.2.text).bind (·.recordAll l) :=
  rfl

theorem ne_nil_of_recordAll {h h' : History} {l : List (Trail × Leaf)} (hn : h ≠ [])
    (hr : h.recordAll l = .ok h') : h' ≠ [] := by
  induction l generalizing h
  case nil => cases hr; exact hn
  case cons a l hi =>
    rw [recordAll_cons] at hr
    cases ha : h.record a.1 a.2.text
    case error e => simp [ha, Except.bind] at hr
    case ok g =>
      rw [ha] at hr
      exact hi (ne_nil_of_record ha) hr

end History

namespace Tree

-- Leaves as they are seen from above the step that leads to them.
def under (s : Step) (leaves : List (Trail × Leaf)) : List (Trail × Leaf) :=
  leaves.map fun a => (s :: a.1, a.2)

theorem take_under (s : Step) (leaves : List (Trail × Leaf)) (n : Nat) :
    (under s leaves).take n = under s (leaves.take n) :=
  List.map_take.symm

mutual

theorem leavesFrom_cons : (t : Tree) → (s : Step) → (trail : Trail) → (i : Nat) →
    t.leavesFrom (s :: trail) i = under s (t.leavesFrom trail i)
  | node kind children, s, trail, i => leavesBelow_cons children s (trail ++ [(⟨kind, i⟩ : Step)]) 0
  | leaf _, _, _, _ => rfl
  | absent, _, _, _ => rfl
termination_by structural t => t

theorem leavesBelow_cons : (ts : List Tree) → (s : Step) → (trail : Trail) → (i : Nat) →
    leavesBelow (s :: trail) i ts = under s (leavesBelow trail i ts)
  | [], _, _, _ => rfl
  | t :: ts, s, trail, i => by
    rw [leavesBelow, leavesBelow, leavesFrom_cons t, leavesBelow_cons ts]
    exact List.map_append.symm
termination_by structural t => t

end

theorem leavesFrom_node (kind : String) (children : List Tree) (i : Nat) :
    (node kind children).leavesFrom [] i = under ⟨kind, i⟩ (leavesBelow [] 0 children) :=
  leavesBelow_cons children ⟨kind, i⟩ [] 0

theorem length_leavesFrom (t : Tree) (trail : Trail) (i : Nat) :
    (t.leavesFrom trail i).length = t.leaves.length := by
  have := congrArg List.length (map_snd_leavesFrom t trail i)
  rwa [List.length_map, List.length_map] at this

theorem length_leaves_node (kind : String) (children : List Tree) :
    (node kind children).leaves.length = (leavesBelow [] 0 children).length := by
  rw [leaves, leavesFrom_node, under, List.length_map]

end Tree

namespace History

variable {before below : History} {s : Step} {xs : List (Trail × Leaf)}

-- Positions below the last visit are recorded below it.
theorem recordAll_last (hl : (before.length : Int) = s.index) :
    recordAll (before ++ [.node s.kind below]) (Tree.under s xs) =
      (recordAll below xs).map fun below => before ++ [.node s.kind below] := by
  induction xs generalizing below
  case nil => rfl
  case cons a xs hi =>
    rw [Tree.under, List.map_cons, recordAll_cons, recordAll_cons, record_last s.kind a.1 _ hl]
    cases below.record a.1 a.2.text
    case error e => rfl
    case ok      => exact hi

-- Positions below a place that has not been visited become one visit, unless there are several and
-- places before it have been left out.
theorem recordAll_under (hc : ∀ a ∈ xs, a.1.Counted) (hl : (before.length : Int) ≤ s.index)
    (hs : (before.length : Int) = s.index ∨ xs.length ≤ 1) :
    recordAll before (Tree.under s xs) =
      (recordAll [] xs).map fun below => before ++ Visit.around s.kind below := by
  cases xs
  case nil => simp [Tree.under, recordAll, Visit.around, pure, Except.pure, Except.map]
  case cons a xs =>
    have ha := record_nil a.2.text (hc a (by simp))
    rw [Tree.under, List.map_cons, recordAll_cons, recordAll_cons, ha,
      record_of_length_le a.1 a.2.text hl]
    obtain hs | hs := hs
    · show recordAll (before ++ [.node s.kind [_]]) (Tree.under s xs) = _
      rw [recordAll_last hs]
      show _ = (recordAll [Visit.chain a.1 a.2.text] xs).map _
      cases hr : recordAll [Visit.chain a.1 a.2.text] xs
      case error e => rfl
      case ok below =>
        have hn := ne_nil_of_recordAll (by simp) hr
        simp [Except.map, Visit.around_of_ne_nil s.kind hn]
    · have : xs = [] := by simpa using hs
      subst this
      rfl

end History

namespace Tree

-- A node that takes a place among its siblings and holds no leaf.
def isBarren (t : Tree) : Bool :=
  t.places = 1 && t.leaves.isEmpty

theorem isBarren_iff {t : Tree} : t.isBarren ↔ t.places = 1 ∧ t.leaves = [] := by
  simp [isBarren]

-- No barren tree stands before a sibling that holds more than one leaf.
inductive Tidy : Tree → Prop
  | node {kind : String} {children : List Tree}
    (level : children.Pairwise fun u t => u.isBarren → t.leaves.length ≤ 1)
    (nested : ∀ t ∈ children, t.Tidy) : Tidy (.node kind children)
  | leaf (l : Leaf) : Tidy (.leaf l)
  | absent : Tidy .absent

mutual

-- The part of a tree that lies on the way to its first `n` leaves: the nodes with one of these
-- below them, and each leaf below a node of its own kind.
def seen (n : Nat) : Tree → History
  | node kind children => Visit.around kind (seenBelow n children)
  | leaf l => if n = 0 then [] else [.node l.kind [.leaf l.text]]
  | absent => []
termination_by structural t => t

def seenBelow (n : Nat) : List Tree → History
  | [] => []
  | t :: ts => t.seen n ++ seenBelow (n - t.leaves.length) ts
termination_by structural t => t

end

mutual

theorem chains_seen : (t : Tree) → (n i : Nat) →
    (t.seen n).chains = ((t.leavesFrom [] i).take n).map fun a => (a.1.kinds, a.2.text)
  | node kind children, n, i => by
    rw [seen, Visit.chains_around, chains_seenBelow children n 0, leavesFrom_node, take_under]
    simp [under, Trail.kinds, Function.comp_def]
  | leaf l, n, i => by cases n <;> simp [seen, leavesFrom, Trail.kinds]
  | absent, n, i => by simp [seen, leavesFrom]
termination_by structural t => t

theorem chains_seenBelow : (ts : List Tree) → (n i : Nat) →
    (seenBelow n ts).chains = ((leavesBelow [] i ts).take n).map fun a => (a.1.kinds, a.2.text)
  | [], n, i => by simp [seenBelow, leavesBelow]
  | t :: ts, n, i => by
    rw [seenBelow, History.chains_append, chains_seen t n i, leavesBelow, List.take_append,
      List.map_append, length_leavesFrom, chains_seenBelow ts]
termination_by structural t => t

end

mutual

theorem seen_of_chains_eq_nil : (t : Tree) → (n : Nat) → (t.seen n).chains = [] → t.seen n = []
  | node kind children, n, h => by
    rw [seen, Visit.chains_around, List.map_eq_nil_iff] at h
    rw [seen, seenBelow_of_chains_eq_nil children n h]
    rfl
  | leaf l, n, h => by cases n <;> simp [seen] at h ⊢
  | absent, _, _ => rfl
termination_by structural t => t

theorem seenBelow_of_chains_eq_nil : (ts : List Tree) → (n : Nat) → (seenBelow n ts).chains = [] →
    seenBelow n ts = []
  | [], _, _ => rfl
  | t :: ts, n, h => by
    rw [seenBelow, History.chains_append, List.append_eq_nil_iff] at h
    rw [seenBelow, seen_of_chains_eq_nil t n h.left, seenBelow_of_chains_eq_nil ts _ h.right]
    rfl
termination_by structural t => t

end

theorem seen_eq_nil_iff {t : Tree} {n : Nat} : t.seen n = [] ↔ n = 0 ∨ t.leaves = [] := by
  have hc : (t.seen n).chains = [] ↔ n = 0 ∨ t.leaves = [] := by
    rw [chains_seen t n 0, List.map_eq_nil_iff, List.take_eq_nil_iff]
    rfl
  exact ⟨fun h => hc.mp (by simp [h]), fun h => seen_of_chains_eq_nil t n (hc.mpr h)⟩

theorem seenBelow_zero (ts : List Tree) : seenBelow 0 ts = [] :=
  seenBelow_of_chains_eq_nil ts 0 (by simp [chains_seenBelow ts 0 0])

theorem length_seen_le (t : Tree) (n : Nat) : (t.seen n).length ≤ t.places := by
  cases t
  case node kind children => exact Visit.length_around_le kind _
  case leaf l             => by_cases hn : n = 0 <;> simp [seen, places, hn]
  case absent             => simp [seen]

-- Of a tree that has been walked there is a visit, unless it takes no place or is barren.
theorem length_seen {t : Tree} {n : Nat} (hn : n ≠ 0) :
    (t.seen n).length = t.places ∨ t.isBarren := by
  have hle := length_seen_le t n
  by_cases hs : t.seen n = []
  case neg =>
    have := List.length_pos_of_ne_nil hs
    have : t.places ≤ 1 := by cases t <;> simp [places]
    exact .inl (by omega)
  case pos =>
    have ht := (seen_eq_nil_iff.mp hs).resolve_left hn
    by_cases hp : t.places = 1
    case pos => exact .inr (isBarren_iff.mpr ⟨hp, ht⟩)
    case neg =>
      have : t.places ≤ 1 := by cases t <;> simp [places]
      exact .inl (by simp [hs]; omega)

theorem counted_of_mem_leavesBelow {ts : List Tree} {a : Trail × Leaf}
    (h : a ∈ leavesBelow [] 0 ts) : a.1.Counted := by
  have ⟨s, rest, hs, hi, hr⟩ := trail_of_mem_leavesBelow ts [] 0 a h
  rw [hs]
  exact List.forall_mem_cons.mpr ⟨by omega, hr⟩

mutual

-- A tree whose place comes next is recorded as the part of it that has been walked. If places
-- before it have been left out, then this is so as long as it holds a single leaf.
theorem recordAll_seen : (t : Tree) → t.Tidy → (before : History) → (i n : Nat) →
    before.length ≤ i → before.length = i ∨ t.leaves.length ≤ 1 →
    before.recordAll ((t.leavesFrom [] i).take n) = .ok (before ++ t.seen n)
  | node kind children, .node level nested, before, i, n, hi, hs => by
    have hb := recordAll_seenBelow children nested level [] 0 n (Nat.le_refl 0) (.inl rfl)
    have hc : ∀ a ∈ (leavesBelow [] 0 children).take n, a.1.Counted :=
      fun a ha => counted_of_mem_leavesBelow (List.mem_of_mem_take ha)
    have hs : (before.length : Int) = i ∨ ((leavesBelow [] 0 children).take n).length ≤ 1 := by
      refine hs.imp (congrArg Nat.cast) fun hs => ?_
      rw [length_leaves_node] at hs
      exact Nat.le_trans (List.length_take_le' n _) hs
    rw [leavesFrom_node, take_under, History.recordAll_under hc (Int.ofNat_le.mpr hi) hs, hb]
    rfl
  | leaf l, _, before, i, n, hi, _ => by
    cases n
    case zero => simp [seen, History.recordAll, pure, Except.pure]
    case succ n =>
      have := History.record_of_length_le (s := ⟨l.kind, i⟩) [] l.text (Int.ofNat_le.mpr hi)
      simpa [seen, leavesFrom, History.recordAll, Visit.chain] using this
  | absent, _, before, i, n, _, _ => by
    simp [seen, leavesFrom, History.recordAll, pure, Except.pure]
termination_by structural t => t

theorem recordAll_seenBelow : (ts : List Tree) → (∀ t ∈ ts, t.Tidy) →
    ts.Pairwise (fun u t => u.isBarren → t.leaves.length ≤ 1) →
    (before : History) → (i n : Nat) → before.length ≤ i →
    before.length = i ∨ (∀ t ∈ ts, t.leaves.length ≤ 1) →
    before.recordAll ((leavesBelow [] i ts).take n) = .ok (before ++ seenBelow n ts)
  | [], _, _, before, i, n, _, _ => by
    simp [seenBelow, leavesBelow, History.recordAll, pure, Except.pure]
  | t :: ts, tidy, level, before, i, n, hi, hs => by
    have ⟨ht, hts⟩ := List.forall_mem_cons.mp tidy
    have ⟨hb, level⟩ := List.pairwise_cons.mp level
    rw [leavesBelow, List.take_append, History.recordAll_append, length_leavesFrom,
      recordAll_seen t ht before i n hi (hs.imp_right fun hs => hs t (by simp))]
    show (before ++ t.seen n).recordAll _ = _
    by_cases hn : n ≤ t.leaves.length
    case pos =>
      rw [seenBelow, Nat.sub_eq_zero_of_le hn, seenBelow_zero]
      simp [History.recordAll, pure, Except.pure]
    case neg =>
      have hle := length_seen_le t n
      rw [recordAll_seenBelow ts hts level _ (i + t.places) _ (by simp; omega), seenBelow,
        List.append_assoc]
      -- A barren tree takes a place without a visit, and then no sibling after it comes twice.
      obtain hs | hs := hs
      · refine (length_seen (t := t) (n := n) (by omega)).imp (fun h => by simp [h, hs]) fun h => ?_
        exact fun u hu => hb u hu h
      · exact .inr fun u hu => hs u (by simp [hu])
termination_by structural t => t

end

theorem Full.not_isBarren {t : Tree} (h : t.Full) : ¬t.isBarren := by
  intro hb
  have ⟨hp, hl⟩ := isBarren_iff.mp hb
  exact h.leavesFrom_ne_nil hp [] 0 hl

theorem pairwise_of_not_isBarren {ts : List Tree} (h : ∀ t ∈ ts, ¬t.isBarren) :
    ts.Pairwise fun u t => u.isBarren → t.leaves.length ≤ 1 :=
  List.pairwise_of_forall_mem_list fun u hu _ _ hb => absurd hb (h u hu)

theorem pairwise_of_full {ts : List Tree} (h : ∀ t ∈ ts, t.Full) :
    ts.Pairwise fun u t => u.isBarren → t.leaves.length ≤ 1 :=
  pairwise_of_not_isBarren fun t ht => (h t ht).not_isBarren

theorem Full.tidy {t : Tree} (h : t.Full) : t.Tidy := by
  induction h
  case node kind children holds nested hi => exact .node (pairwise_of_full nested) hi
  case leaf l => exact .leaf l
  case absent => exact .absent

-- How many places trees take.
def width : List Tree → Nat
  | [] => 0
  | t :: ts => t.places + width ts

theorem width_append (ts us : List Tree) : width (ts ++ us) = width ts + width us := by
  induction ts
  case nil          => simp [width]
  case cons t ts hi => simp [width, hi, Nat.add_assoc]

-- The trees right below the node at a position under some trees; siblings are counted by the places
-- that they take.
inductive Under : List Tree → Trail → List Tree → Prop
  | here {ts : List Tree} : Under ts [] ts
  | deeper {before children after below : List Tree} {kind : String} {trail : Trail} :
    Under children trail below →
    Under (before ++ .node kind children :: after) (⟨kind, width before⟩ :: trail) below

theorem leavesBelow_append (trail : Trail) (i : Nat) (ts us : List Tree) :
    leavesBelow trail i (ts ++ us) =
      leavesBelow trail i ts ++ leavesBelow trail (i + width ts) us := by
  induction ts generalizing i
  case nil          => simp [leavesBelow, width]
  case cons t ts hi => simp [leavesBelow, width, hi, Nat.add_assoc]

theorem mem_leavesBelow {ts : List Tree} {i : Nat} {a : Trail × Leaf} :
    a ∈ leavesBelow [] i ts ↔ ∃ before t after, ts = before ++ t :: after ∧
      a ∈ t.leavesFrom [] (i + width before) := by
  induction ts generalizing i
  case nil => simp [leavesBelow]
  case cons t ts hi =>
    rw [leavesBelow, List.mem_append, hi]
    constructor
    case mp =>
      rintro (h | ⟨before, u, after, rfl, h⟩)
      · exact ⟨[], t, ts, rfl, h⟩
      · exact ⟨t :: before, u, after, rfl, by simpa [width, Nat.add_assoc] using h⟩
    case mpr =>
      rintro ⟨_ | ⟨t', before⟩, u, after, he, h⟩
      · cases he; exact .inl h
      · cases he; exact .inr ⟨before, u, after, rfl, by simpa [width, Nat.add_assoc] using h⟩

theorem beneath_under (s : Step) (leaves : List (Trail × Leaf)) :
    beneath [s] (under s leaves) = leaves := by
  simp [beneath, under, List.filterMap_map, List.isPrefixOf?]

-- The leaves below a node are those of its children; none of a sibling has the same place.
theorem beneath_step (before children after : List Tree) (kind : String) :
    beneath [⟨kind, width before⟩]
      (leavesBelow [] 0 (before ++ .node kind children :: after)) = leavesBelow [] 0 children := by
  have h₁ : beneath [⟨kind, width before⟩] (leavesBelow [] 0 before) = [] := by
    refine beneath_eq_nil fun a ha u hu he => ?_
    obtain ⟨left, t, right, rfl, hm⟩ := mem_leavesBelow.mp ha
    have ⟨s, rest, hs, hi, _⟩ := trail_of_mem_leavesFrom t [] _ a hm
    have hp := places_of_mem_leavesFrom hm
    cases hu.symm.trans (congrArg List.head? hs)
    simp only [he, width_append, width, hp] at hi
    omega
  have h₂ (i : Nat) (hi : width before < i) :
      beneath [⟨kind, width before⟩] (leavesBelow [] i after) = [] := by
    refine beneath_eq_nil fun a ha u hu he => ?_
    have ⟨s, rest, hs, hi, _⟩ := trail_of_mem_leavesBelow after [] i a ha
    cases hu.symm.trans (congrArg List.head? hs)
    simp only [he] at hi
    omega
  rw [leavesBelow_append, leavesBelow, leavesFrom_node, beneath_append, beneath_append, h₁,
    h₂ _ (by simp [places]), List.append_nil, List.nil_append, Nat.zero_add, beneath_under]

theorem beneath_leavesBelow {ts below : List Tree} {trail : Trail} (h : Under ts trail below) :
    beneath trail (leavesBelow [] 0 ts) = leavesBelow [] 0 below := by
  induction h
  case here        => exact beneath_nil _
  case deeper h hi => rw [beneath_cons, beneath_step, hi]

theorem Under.full {ts below : List Tree} {trail : Trail} (h : Under ts trail below)
    (hf : ∀ t ∈ ts, t.Full) : ∀ t ∈ below, t.Full := by
  induction h
  case here => exact hf
  case deeper hi =>
    have .node _ nested := hf _ (List.mem_append_right _ List.mem_cons_self)
    exact hi nested

-- Every position on the way to a leaf is that of a node.
theorem exists_under {ts : List Tree} {a : Trail × Leaf} (ha : a ∈ leavesBelow [] 0 ts) {d : Nat}
    (hd : d < a.1.length) : ∃ below, Under ts (a.1.take d) below := by
  induction d generalizing ts a
  case zero => exact ⟨ts, .here⟩
  case succ d hi =>
    obtain ⟨before, t, after, rfl, hm⟩ := mem_leavesBelow.mp ha
    match t with
    | absent => simp [leavesFrom] at hm
    | leaf l =>
      rw [leavesFrom, List.mem_singleton] at hm
      simp [hm] at hd
    | node kind children =>
      rw [leavesFrom_node, under, List.mem_map] at hm
      obtain ⟨b, hb, rfl⟩ := hm
      have ⟨below, h⟩ := hi hb (by simpa using hd)
      rw [List.take_succ_cons, Nat.zero_add]
      exact ⟨below, .deeper h⟩

theorem Tidy.recordAll {t : Tree} (tidy : t.Tidy) {visited : List (Trail × Leaf)}
    (h : visited <+: t.leaves) : History.recordAll [] visited = .ok (t.seen visited.length) := by
  have hr := recordAll_seen t tidy [] 0 visited.length (Nat.le_refl 0) (.inl rfl)
  rwa [List.nil_append, ← leaves, ← List.prefix_iff_eq_take.mp h] at hr

-- What is recorded below a node above the next leaf is the part of that node which has been walked.
theorem latest?_seen {t : Tree} (full : t.Full) {visited rest : List (Trail × Leaf)} {trail : Trail}
    {l : Leaf} (split : t.leaves = visited ++ (trail, l) :: rest) {d : Nat} (hd : d < trail.length)
    (entered : beneath (trail.take d) visited ≠ []) :
    ∃ children, Under [t] (trail.take d) children ∧
      (t.seen visited.length).latest? d =
        some (seenBelow (beneath (trail.take d) visited).length children) := by
  have hp : visited <+: t.leaves := ⟨_, split.symm⟩
  have o : Orderly (visited ++ [(trail, l)]) := full.orderly.of_prefix (by simp [split])
  have hl : leavesBelow [] 0 [t] = t.leaves := by simp [leavesBelow, leaves]
  have hm : (trail, l) ∈ leavesBelow [] 0 [t] := by simp [hl, split]
  obtain ⟨children, hu⟩ := exists_under hm hd
  have hf := hu.full (List.forall_mem_singleton.mpr full)
  -- The leaves visited below the node are the first ones of its own leaves.
  have hb : beneath (trail.take d) visited <+: leavesBelow [] 0 children := by
    rw [← beneath_leavesBelow hu, hl, split, beneath_append]
    exact List.prefix_append _ _
  have hs := recordAll_seenBelow children (fun t ht => (hf t ht).tidy) (pairwise_of_full hf) [] 0
    (beneath (trail.take d) visited).length (Nat.le_refl 0) (.inl rfl)
  rw [List.nil_append, ← List.prefix_iff_eq_take.mp hb] at hs
  obtain ⟨b, hlast, hle, ht⟩ := o.take_getLast (Nat.le_of_lt hd) entered
  obtain ⟨ho, hr⟩ := ((Orderly.concat_iff.mp o).left.latest hlast (full.tidy.recordAll hp) d).left hle
  rw [ht] at ho hr
  have hc := ho.chains hr
  have heq := Except.ok.inj (hr.symm.trans hs)
  refine ⟨children, hu, ?_⟩
  rw [← heq]
  cases hn : (t.seen visited.length).latest? d
  case some h => simp [History.latest, hn]
  case none =>
    rw [History.latest, hn] at hc
    exact absurd (List.map_eq_nil_iff.mp hc.symm) entered

-- Just before a leaf is resolved, the history is the part of the tree that has been walked, and for
-- each node above the leaf that has been entered it holds the part of that node.
theorem history_seen {t : Tree} (full : t.Full) (sheet : Sheet) (source : String)
    {visited rest : List (Trail × Leaf)} {trail : Trail} {l : Leaf}
    (split : t.leaves = visited ++ (trail, l) :: rest) :
    t.spans sheet source = (do
      let (spans, w) ← Walk.visit sheet source.toList {} visited
      return spans ++ (← w.run sheet source.toList ((trail, l) :: rest))) ∧
    History.recordAll [] visited = .ok (t.seen visited.length) ∧
    (sheet.WellFormed → ∃ spans w, Walk.visit sheet source.toList {} visited = .ok (spans, w)) ∧
    ∀ spans w, Walk.visit sheet source.toList {} visited = .ok (spans, w) →
      w.history = t.seen visited.length ∧
      ∀ d < trail.length, beneath (trail.take d) visited ≠ [] →
        ∃ children, Under [t] (trail.take d) children ∧ w.history.latest? d =
          some (seenBelow (beneath (trail.take d) visited).length children) := by
  have hr := full.tidy.recordAll ⟨_, split.symm⟩
  refine ⟨t.spans_eq sheet source split, hr, fun wf => ?_, fun spans w walk => ?_⟩
  · obtain ⟨e, _, hw⟩ | ⟨e, _, hw⟩ | ⟨spans, w, hv, _⟩ :=
      Walk.visit_cases sheet source.toList {} visited
    · exact absurd wf hw
    · cases hr.symm.trans hw
    · exact ⟨spans, w, hv⟩
  · have hw := Except.ok.inj ((Walk.recordAll_of_visit sheet source.toList walk).symm.trans hr)
    exact ⟨hw, fun d hd entered => hw ▸ latest?_seen full split hd entered⟩

-- A tree with gaps before, between and after what stands in it.
def gapped : Tree :=
  .node "call" [.node "name" [.absent, .leaf ⟨"word", "f", none, none⟩], .absent,
    .node "list" [.leaf ⟨"mark", "(", none, none⟩, .absent, .leaf ⟨"word", "x", none, none⟩,
      .leaf ⟨"mark", ")", none, none⟩, .absent]]

theorem full_gapped : gapped.Full := by
  refine .node (by decide) (List.forall_mem_cons.mpr ⟨.node (by decide) ?_, ?_⟩)
  · simp [Full.leaf, Full.absent]
  · refine List.forall_mem_cons.mpr ⟨.absent, List.forall_mem_singleton.mpr (.node (by decide) ?_)⟩
    simp [Full.leaf, Full.absent]

-- Before the last leaf the history holds the first node and what has been walked of the second one.
theorem history_seen_gapped : gapped.Full ∧ ∃ spans w,
    Walk.visit ∅ "".toList {} (gapped.leaves.take 3) = .ok (spans, w) ∧
    w.history = [.node "call" [.node "name" [.node "word" [.leaf "f"]],
      .node "list" [.node "mark" [.leaf "("], .node "word" [.leaf "x"]]]] ∧
    ∃ children, Under [gapped] [⟨"call", 0⟩, ⟨"list", 1⟩] children ∧
      w.history.latest? 2 = some (seenBelow 2 children) := by
  let trail : Trail := [⟨"call", 0⟩, ⟨"list", 1⟩, ⟨"mark", 2⟩]
  have split : gapped.leaves =
      gapped.leaves.take 3 ++ [(trail, ⟨"mark", ")", none, none⟩)] := rfl
  have ⟨_, _, hw, h⟩ := history_seen full_gapped ∅ "" split
  have ⟨spans, w, walk⟩ := hw (.node (by simp) .nil (by simp))
  have ⟨history, above⟩ := h spans w walk
  exact ⟨full_gapped, spans, w, walk, history, above 2 (by decide) nofun⟩

end Tree

end Highlight
