import Highlight.Proofs.Traversal
import Mathlib.Data.List.Chain

namespace Highlight

namespace Trail

-- The first position below a node of which every place leads to a leaf.
def First (trail : Trail) : Prop :=
  ∀ s ∈ trail, s.index = 0

-- The position that comes right after another one if every place leads to a leaf.
inductive Follows : Trail → Trail → Prop
  | next {s t : Step} {q p : Trail} : t.index = s.index + 1 → First p → Follows (s :: q) (t :: p)
  | deeper {s : Step} {q p : Trail} : Follows q p → Follows (s :: q) (s :: p)

theorem First.counted {trail : Trail} (h : trail.First) : trail.Counted :=
  fun s hs => Int.le_of_eq (h s hs).symm

namespace Follows

variable {q p : Trail}

theorem append (c : Trail) (h : Follows q p) : Follows (c ++ q) (c ++ p) := by
  induction c
  case nil         => exact h
  case cons s c hi => exact .deeper hi

theorem precedes (h : Follows q p) : q.Precedes p := by
  induction h
  case next h _    => exact .next (by omega)
  case deeper _ hi => exact .deeper hi

theorem counted (h : Follows q p) (hq : q.Counted) : p.Counted := by
  induction h
  case next s t q p h hp =>
    have hs := hq s (by simp)
    exact List.forall_mem_cons.mpr ⟨by omega, hp.counted⟩
  case deeper s q p h hi => exact List.forall_mem_cons.mpr ⟨hq s (by simp), hi hq.tail⟩

end Follows

-- What lies between two positions below a node lies below that node too.
theorem Precedes.isPrefix_of_between {c q r p : Trail} (h₁ : (c ++ r).Precedes q)
    (h₂ : q.Precedes (c ++ p)) : c <+: q := by
  induction c generalizing q
  case nil => exact List.nil_prefix
  case cons s c hi =>
    cases h₁
    case next h =>
      cases h₂
      case next h' => omega
      case deeper  => omega
    case deeper h =>
      cases h₂
      case next h'   => omega
      case deeper h' => exact List.cons_prefix_cons.mpr ⟨rfl, hi h h'⟩

end Trail

namespace Tree

-- Every subtree holds at least one leaf.
inductive Full : Tree → Prop
  | node {kind : String} {children : List Tree} (holds : (Tree.node kind children).leaves ≠ [])
    (nested : ∀ t ∈ children, t.Full) : Full (.node kind children)
  | leaf (l : Leaf) : Full (.leaf l)
  | absent : Full .absent

mutual

-- Where a tree stands has no influence on what its leaves are.
theorem map_snd_leavesFrom : (t : Tree) → (trail : Trail) → (i : Nat) →
    (t.leavesFrom trail i).map Prod.snd = (t.leavesFrom [] 0).map Prod.snd
  | node kind children, trail, i => by
    rw [leavesFrom, leavesFrom, map_snd_leavesBelow children, ← map_snd_leavesBelow children _ 0]
  | leaf _, _, _ => rfl
  | absent, _, _ => rfl
termination_by structural t => t

theorem map_snd_leavesBelow : (ts : List Tree) → (trail : Trail) → (i : Nat) →
    (leavesBelow trail i ts).map Prod.snd = (leavesBelow [] 0 ts).map Prod.snd
  | [], _, _ => rfl
  | t :: ts, trail, i => by
    simp only [leavesBelow, List.map_append]
    rw [map_snd_leavesFrom t, map_snd_leavesBelow ts, ← map_snd_leavesBelow ts [] (0 + t.places)]
termination_by structural t => t

end

theorem Full.leavesFrom_ne_nil {t : Tree} (h : t.Full) (hp : t.places = 1) (trail : Trail)
    (i : Nat) : t.leavesFrom trail i ≠ [] := by
  intro hn
  have hm := map_snd_leavesFrom t trail i
  rw [hn, List.map_nil] at hm
  have hl : t.leaves = [] := List.map_eq_nil_iff.mp hm.symm
  cases h
  case node holds _ => exact holds hl
  case leaf l       => simp [leaves, leavesFrom] at hl
  case absent       => simp [places] at hp

-- Leaves that stand below `trail` from the place `i` on and leave out no place.
structure Dense (trail : Trail) (i : Nat) (leaves : List (Trail × Leaf)) : Prop where
  chain : leaves.IsChain fun a b => a.1.Follows b.1
  head : ∀ a ∈ leaves.head?, ∃ (s : Step) (rest : Trail),
    a.1 = trail ++ s :: rest ∧ s.index = i ∧ rest.First

mutual

theorem dense_leavesFrom : (t : Tree) → t.Full → (trail : Trail) → (i : Nat) →
    Dense trail i (t.leavesFrom trail i)
  | node kind children, .node _ nested, trail, i => by
    have ⟨hc, hh⟩ := dense_leavesBelow children nested (trail ++ [(⟨kind, i⟩ : Step)]) 0
    refine ⟨hc, fun a ha => ?_⟩
    have ⟨s, rest, ha, hs, hr⟩ := hh a ha
    exact ⟨⟨kind, i⟩, s :: rest, by simp [ha], rfl, List.forall_mem_cons.mpr ⟨by simp [hs], hr⟩⟩
  | leaf l, _, trail, i => by
    refine ⟨List.isChain_singleton _, fun a ha => ?_⟩
    have : (trail ++ [⟨l.kind, i⟩], l) = a := by simpa [leavesFrom] using ha
    exact ⟨⟨l.kind, i⟩, [], by simp [← this], rfl, by simp [Trail.First]⟩
  | absent, _, _, _ => ⟨List.isChain_nil, by simp [leavesFrom]⟩
termination_by structural t => t

theorem dense_leavesBelow : (ts : List Tree) → (∀ t ∈ ts, t.Full) → (trail : Trail) → (i : Nat) →
    Dense trail i (leavesBelow trail i ts)
  | [], _, _, _ => ⟨List.isChain_nil, by simp [leavesBelow]⟩
  | t :: ts, hf, trail, i => by
    have ⟨ht, hts⟩ := List.forall_mem_cons.mp hf
    have ⟨hc₁, hh₁⟩ := dense_leavesFrom t ht trail i
    have ⟨hc₂, hh₂⟩ := dense_leavesBelow ts hts trail (i + t.places)
    refine ⟨List.isChain_append.mpr ⟨hc₁, hc₂, fun a ha b hb => ?_⟩, fun a ha => ?_⟩
    · have hm := List.mem_of_getLast? ha
      have ⟨s, q, ha, hs, _⟩ := trail_of_mem_leavesFrom t _ _ a hm
      have ⟨u, p, hb, hu, hp⟩ := hh₂ b hb
      have := places_of_mem_leavesFrom hm
      rw [ha, hb]
      exact .append trail <| .next (by omega) hp
    · -- A gap takes no place, so what follows it starts where it stands.
      cases hp : t.places
      case zero =>
        have hn : t.leavesFrom trail i = [] := by
          cases t <;> simp [places, leavesFrom] at hp ⊢
        rw [leavesBelow, hn, List.nil_append] at ha
        simpa [hp] using hh₂ a ha
      case succ n =>
        have hp : t.places = 1 := by cases t <;> simp [places] at hp ⊢
        have hn := ht.leavesFrom_ne_nil hp trail i
        rw [leavesBelow, List.head?_append_of_ne_nil _ hn] at ha
        exact hh₁ a ha
termination_by structural t => t

end

-- The leaves whose positions lie below `c`, with their positions as seen from there.
def beneath (c : Trail) (leaves : List (Trail × Leaf)) : List (Trail × Leaf) :=
  leaves.filterMap fun a => (c.isPrefixOf? a.1).map (·, a.2)

section

variable {c q : Trail} {s : Step} {l : Leaf} {leaves : List (Trail × Leaf)}

@[simp] theorem beneath_nil (leaves : List (Trail × Leaf)) : beneath [] leaves = leaves :=
  List.filterMap_some

theorem beneath_append (c : Trail) (g h : List (Trail × Leaf)) :
    beneath c (g ++ h) = beneath c g ++ beneath c h :=
  List.filterMap_append

theorem beneath_singleton (c q : Trail) (l : Leaf) : beneath c [(c ++ q, l)] = [(q, l)] := by
  have hc : c.isPrefixOf? (c ++ q) = some q := by
    induction c
    case nil         => rfl
    case cons s c hi => simp [List.isPrefixOf?, hi]
  simp [beneath, hc]

-- Going down by several steps is going down by the first and then by the others.
theorem beneath_cons (s : Step) (c : Trail) (leaves : List (Trail × Leaf)) :
    beneath (s :: c) leaves = beneath c (beneath [s] leaves) := by
  rw [beneath, beneath, beneath, List.filterMap_filterMap]
  congr! 2 with a
  obtain ⟨_ | ⟨t, rest⟩, l⟩ := a
  case nil  => rfl
  case cons => by_cases h : s = t <;> simp [List.isPrefixOf?, h]

theorem mem_of_mem_beneath {r : Trail} (h : (r, l) ∈ beneath c leaves) : (c ++ r, l) ∈ leaves := by
  induction c generalizing leaves
  case nil => simpa using h
  case cons s c hi =>
    rw [beneath_cons] at h
    obtain ⟨⟨_ | ⟨t, rest⟩, m⟩, ha, hb⟩ := List.mem_filterMap.mp (hi h)
    case nil  => simp [List.isPrefixOf?] at hb
    case cons =>
      by_cases hs : s = t
      case neg => simp [List.isPrefixOf?, hs] at hb
      case pos =>
        simp only [hs, List.isPrefixOf?, beq_self_eq_true, if_true, Option.map_some,
          Option.some.injEq, Prod.mk.injEq] at hb
        simpa [hs, ← hb.left, ← hb.right] using ha

theorem beneath_eq_nil (h : ∀ a ∈ leaves, ∀ t ∈ a.1.head?, t ≠ s) : beneath [s] leaves = [] := by
  apply List.filterMap_eq_nil_iff.mpr
  rintro ⟨_ | ⟨t, rest⟩, l⟩ ha
  case nil  => rfl
  case cons =>
    have := h _ ha t rfl
    simp [List.isPrefixOf?, this.symm]

end

-- Leaves as a walk visits them that starts at the first place and leaves out none.
structure Orderly (leaves : List (Trail × Leaf)) : Prop where
  chain : leaves.IsChain fun a b => a.1.Follows b.1
  head : ∀ a ∈ leaves.head?, a.1.First

theorem Full.orderly {t : Tree} (h : t.Full) : Orderly t.leaves := by
  have ⟨hc, hh⟩ := dense_leavesFrom t h [] 0
  refine ⟨hc, fun a ha => ?_⟩
  have ⟨s, rest, ha, hs, hr⟩ := hh a ha
  exact ha ▸ List.forall_mem_cons.mpr ⟨hs, hr⟩

namespace Orderly

variable {visited leaves : List (Trail × Leaf)} {a : Trail × Leaf}

theorem singleton (h : a.1.First) : Orderly [a] :=
  ⟨List.isChain_singleton a, fun _ hb => Option.mem_some_iff.mp hb ▸ h⟩

theorem of_prefix (h : visited <+: leaves) (o : Orderly leaves) : Orderly visited := by
  obtain ⟨rest, rfl⟩ := h
  refine ⟨(List.isChain_append.mp o.chain).left, fun a ha => o.head a ?_⟩
  simp [List.head?_append, Option.mem_def.mp ha]

theorem concat_iff : Orderly (leaves ++ [a]) ↔ Orderly leaves ∧
    (leaves = [] → a.1.First) ∧ ∀ b ∈ leaves.getLast?, b.1.Follows a.1 := by
  constructor
  case mp =>
    intro o
    refine ⟨o.of_prefix (List.prefix_append _ _), fun hn => o.head a (by simp [hn]), fun b hb => ?_⟩
    exact (List.isChain_append.mp o.chain).right.right b hb a rfl
  case mpr =>
    intro ⟨o, hf, hl⟩
    refine ⟨List.isChain_append.mpr ⟨o.chain, List.isChain_singleton _, ?_⟩, fun b hb => ?_⟩
    · intro b hb d hd
      cases hd
      exact hl b hb
    · cases leaves
      case nil  => cases hb; exact hf rfl
      case cons => exact o.head b hb

theorem counted (o : Orderly leaves) : ∀ a ∈ leaves, a.1.Counted := by
  induction leaves using List.reverseRecOn
  case nil => simp
  case append_singleton leaves a hi =>
    have ⟨o, hf, hl⟩ := concat_iff.mp o
    refine List.forall_mem_append.mpr ⟨hi o, List.forall_mem_singleton.mpr ?_⟩
    cases hn : leaves.getLast?
    case none   => exact (hf <| List.getLast?_eq_none_iff.mp hn).counted
    case some b => exact (hl b hn).counted <| hi o b <| List.mem_of_getLast? hn

theorem pairwise (o : Orderly leaves) : leaves.Pairwise fun a b => a.1.Precedes b.1 := by
  let R (a b : Trail × Leaf) : Prop := a.1.Precedes b.1
  have : Trans R R R := ⟨.trans⟩
  exact List.isChain_iff_pairwise.mp <| o.chain.imp fun _ _ h => h.precedes

-- Nothing lies below a leaf, so none has been visited before one that stands at the very top.
theorem eq_singleton {l : Leaf} (o : Orderly leaves) (h : leaves.getLast? = some ([], l)) :
    leaves = [([], l)] := by
  obtain ⟨leaves, rfl⟩ := List.getLast?_eq_some_iff.mp h
  have ⟨_, _, hl⟩ := concat_iff.mp o
  cases hn : leaves.getLast?
  case none => simp [List.getLast?_eq_none_iff.mp hn]
  case some b =>
    obtain ⟨b, m⟩ := b
    cases hl _ hn

theorem recordAll (o : Orderly leaves) : ∃ h, History.recordAll [] leaves = .ok h ∧
    h.chains = leaves.map fun a => (a.1.kinds, a.2.text) := by
  have ⟨h, hr, _, hc⟩ := History.recordAll_of_pairwise o.pairwise o.counted
  exact ⟨h, hr, hc⟩

theorem chains {h : History} (o : Orderly leaves) (hr : History.recordAll [] leaves = .ok h) :
    h.chains = leaves.map fun a => (a.1.kinds, a.2.text) := by
  have ⟨h', hr', hc⟩ := o.recordAll
  rwa [Except.ok.inj <| hr.symm.trans hr']

end Orderly

-- The history of leaves of which the last one lies below `s`: its last visit is the node of `s`,
-- with a history of the leaves below `s` and of no others.
structure Entered (leaves : List (Trail × Leaf)) (s : Step) (q : Trail) (l : Leaf)
    (before below : History) : Prop where
  recorded : History.recordAll [] leaves = .ok (before ++ [.node s.kind below])
  place : (before.length : Int) = s.index
  inside : History.recordAll [] (beneath [s] leaves) = .ok below
  orderly : Orderly (beneath [s] leaves)
  last : (beneath [s] leaves).getLast? = some (q, l)
  bound : ∀ a ∈ leaves, ∀ t ∈ a.1.head?, t.index ≤ s.index

namespace Entered

variable {leaves : List (Trail × Leaf)} {s t : Step} {q p : Trail} {l m : Leaf}
  {before below : History}

-- The last leaf is the only one below its place.
theorem of_beneath_singleton (hb : beneath [t] leaves = [(p, m)]) (hp : p.First)
    (recorded : History.recordAll [] leaves =
      .ok (before ++ [.node t.kind [Visit.chain p m.text]]))
    (place : (before.length : Int) = t.index)
    (bound : ∀ a ∈ leaves, ∀ u ∈ a.1.head?, u.index ≤ t.index) :
    Entered leaves t p m before [Visit.chain p m.text] where
  recorded := recorded
  place := place
  inside := hb ▸ History.recordAll_singleton hp.counted m
  orderly := hb ▸ .singleton hp
  last := by simp [hb]
  bound := bound

theorem first (h : Trail.First (t :: p)) (m : Leaf) :
    Entered [(t :: p, m)] t p m [] [Visit.chain p m.text] := by
  have ⟨ht, hp⟩ := List.forall_mem_cons.mp h
  refine of_beneath_singleton (beneath_singleton [t] p m) hp ?_ (by simp [ht]) (by simp)
  exact History.recordAll_singleton h.counted m

-- The walk goes on to the next place of the level.
theorem next (e : Entered leaves s q l before below) (ht : t.index = s.index + 1) (hp : p.First)
    (m : Leaf) : Entered (leaves ++ [(t :: p, m)]) t p m (before ++ [.node s.kind below])
      [Visit.chain p m.text] := by
  have hl : ((before ++ [Visit.node s.kind below]).length : Int) = t.index := by
    simp [e.place, ht]
  have hn : beneath [t] leaves = [] := beneath_eq_nil fun a ha u hu he => by
    have := e.bound a ha u hu
    rw [he] at this
    omega
  refine of_beneath_singleton ?_ hp ?_ hl ?_
  · rw [beneath_append, hn]
    exact beneath_singleton [t] p m
  · rw [History.recordAll_concat, e.recorded]
    exact History.record_of_length_le p m.text (Int.le_of_eq hl)
  · refine List.forall_mem_append.mpr ⟨fun a ha u hu => ?_, by simp⟩
    have := e.bound a ha u hu
    omega

-- The walk goes on below the same node.
theorem deeper (e : Entered leaves s q l before below) (h : q.Follows p) (m : Leaf) :
    ∃ below', Entered (leaves ++ [(s :: p, m)]) s p m before below' := by
  have hb : beneath [s] (leaves ++ [(s :: p, m)]) = beneath [s] leaves ++ [(p, m)] := by
    rw [beneath_append]
    exact congrArg _ <| beneath_singleton [s] p m
  have ho : Orderly (beneath [s] leaves ++ [(p, m)]) := by
    refine Orderly.concat_iff.mpr ⟨e.orderly, fun hn => ?_, fun a ha => ?_⟩
    · have := e.last
      simp [hn] at this
    · have := Option.some.inj <| e.last.symm.trans ha
      exact this ▸ h
  have ⟨below', hr, _⟩ := ho.recordAll
  have hr' : below.record p m.text = .ok below' := by
    rw [History.recordAll_concat, e.inside] at hr
    exact hr
  refine ⟨below', ?_, e.place, hb ▸ hr, hb ▸ ho, by simp [hb], ?_⟩
  · rw [History.recordAll_concat, e.recorded]
    show History.record _ (s :: p) m.text = _
    rw [History.record_last s.kind p m.text e.place, hr']
    rfl
  · exact List.forall_mem_append.mpr ⟨e.bound, by simp⟩

end Entered

theorem Orderly.enter {leaves : List (Trail × Leaf)} {s : Step} {q : Trail} {l : Leaf}
    (o : Orderly leaves) (hl : leaves.getLast? = some (s :: q, l)) :
    ∃ before below, Entered leaves s q l before below := by
  induction leaves using List.reverseRecOn generalizing s q l
  case nil => simp at hl
  case append_singleton leaves a hi =>
    rw [List.getLast?_concat, Option.some.injEq] at hl
    subst hl
    have ⟨o, hf, hl⟩ := concat_iff.mp o
    cases hn : leaves.getLast?
    case none =>
      have : leaves = [] := List.getLast?_eq_none_iff.mp hn
      subst this
      exact ⟨_, _, .first (hf rfl) l⟩
    case some b =>
      obtain ⟨b, m⟩ := b
      cases hl _ hn
      case next u r hu hp =>
        have ⟨_, _, e⟩ := hi o hn
        exact ⟨_, _, e.next hu hp l⟩
      case deeper r h =>
        have ⟨_, _, e⟩ := hi o hn
        exact ⟨_, e.deeper h l⟩

end Tree

namespace History

theorem latest_last (before below : History) (kind : String) (depth : Nat) :
    latest (before ++ [.node kind below]) (depth + 1) = below.latest depth := by
  simp [latest, latest?]

end History

namespace Tree

-- The latest visit at each level is the node above the leaf visited last, down to the leaf itself.
theorem Orderly.latest {leaves : List (Trail × Leaf)} {q : Trail} {l : Leaf} {history : History}
    (o : Orderly leaves) (hl : leaves.getLast? = some (q, l))
    (hr : History.recordAll [] leaves = .ok history) (depth : Nat) :
    (depth ≤ q.length → Orderly (beneath (q.take depth) leaves) ∧
      History.recordAll [] (beneath (q.take depth) leaves) = .ok (history.latest depth)) ∧
    (q.length < depth → history.latest depth = []) := by
  induction depth generalizing leaves q history
  case zero => exact ⟨fun _ => by simpa [History.latest, History.latest?] using ⟨o, hr⟩, by simp⟩
  case succ depth hi =>
    cases q
    case nil =>
      refine ⟨by simp, fun _ => ?_⟩
      have hs := o.eq_singleton hl
      subst hs
      cases hr
      rfl
    case cons s q =>
      have ⟨before, below, e⟩ := o.enter hl
      have hh := Except.ok.inj <| hr.symm.trans e.recorded
      have ⟨h₁, h₂⟩ := hi e.orderly e.last e.inside
      rw [hh, History.latest_last, List.take_succ_cons, beneath_cons]
      exact ⟨fun hd => h₁ (by simpa using hd), fun hd => h₂ (by simpa using hd)⟩

-- If a leaf below a node has been visited before the next one below it, so has the last one.
theorem Orderly.take_getLast {visited : List (Trail × Leaf)} {a : Trail × Leaf} {depth : Nat}
    (o : Orderly (visited ++ [a])) (hd : depth ≤ a.1.length)
    (h : beneath (a.1.take depth) visited ≠ []) :
    ∃ b ∈ visited.getLast?, depth ≤ b.1.length ∧ b.1.take depth = a.1.take depth := by
  obtain ⟨⟨r, m⟩, hm⟩ := List.exists_mem_of_ne_nil _ h
  have hv := mem_of_mem_beneath hm
  have ⟨b, hb⟩ := Option.isSome_iff_exists.mp <| List.getLast?_isSome.mpr <| List.ne_nil_of_mem hv
  obtain ⟨before, rfl⟩ := List.getLast?_eq_some_iff.mp hb
  have ⟨h₁, _, h₂⟩ := List.pairwise_append.mp o.pairwise
  have hc : a.1.take depth <+: b.1 := by
    rw [List.mem_append, List.mem_singleton] at hv
    obtain hv | hv := hv
    · have hab := h₂ b (by simp) a (by simp)
      rw [← List.take_append_drop depth a.1] at hab
      have hvb := (List.pairwise_append.mp h₁).right.right _ hv b (by simp)
      exact Trail.Precedes.isPrefix_of_between hvb hab
    · exact hv ▸ List.prefix_append _ r
  have hle := hc.length_le
  have ht := List.prefix_iff_eq_take.mp hc
  rw [List.length_take, Nat.min_eq_left hd] at hle ht
  exact ⟨b, hb, hle, ht.symm⟩

-- The leaf visited last is one of those below each of its own nodes.
theorem beneath_take_ne_nil {visited : List (Trail × Leaf)} {q : Trail} {l : Leaf}
    (h : visited.getLast? = some (q, l)) (depth : Nat) : beneath (q.take depth) visited ≠ [] := by
  obtain ⟨before, rfl⟩ := List.getLast?_eq_some_iff.mp h
  have := beneath_singleton (q.take depth) (q.drop depth) l
  rw [List.take_append_drop] at this
  simp [beneath_append, this]

-- The history that a match at the step `j` of the trail of a leaf hands on to nested scopes. It is
-- that of the leaves visited below the node that stands at the same depth above the leaf visited
-- last; if that leaf does not lie so deep, it is empty. So it holds the leaves visited below the
-- matched node itself if and only if one of them has been visited, or the leaf visited last does
-- not lie so deep.
theorem latest_of_visit {t : Tree} (full : t.Full) {sheet : Sheet} {source : List Char}
    {visited rest : List (Trail × Leaf)} {trail : Trail} {l : Leaf} {spans : List Span} {w : Walk}
    (split : t.leaves = visited ++ (trail, l) :: rest)
    (walk : Walk.visit sheet source {} visited = .ok (spans, w)) {j : Nat} (hj : j < trail.length) :
    (∀ a ∈ visited.getLast?, j < a.1.length →
      History.recordAll [] (beneath (a.1.take (j + 1)) visited) = .ok (w.history.latest (j + 1))) ∧
    ((∀ a ∈ visited.getLast?, a.1.length ≤ j) → w.history.latest (j + 1) = []) ∧
    (beneath (trail.take (j + 1)) visited ≠ [] →
      History.recordAll [] (beneath (trail.take (j + 1)) visited) =
        .ok (w.history.latest (j + 1))) ∧
    ((w.history.latest (j + 1)).chains =
        (beneath (trail.take (j + 1)) visited).map (fun a => (a.1.kinds, a.2.text)) ↔
      beneath (trail.take (j + 1)) visited ≠ [] ∨ ∀ a ∈ visited.getLast?, a.1.length ≤ j) := by
  have hr : History.recordAll [] visited = .ok w.history :=
    Walk.recordAll_of_visit sheet source walk
  have o : Orderly (visited ++ [(trail, l)]) := full.orderly.of_prefix (by simp [split])
  have ho := (Orderly.concat_iff.mp o).left
  have above : ∀ a ∈ visited.getLast?, j < a.1.length →
      Orderly (beneath (a.1.take (j + 1)) visited) ∧
      History.recordAll [] (beneath (a.1.take (j + 1)) visited) = .ok (w.history.latest (j + 1)) :=
    fun a ha => (ho.latest ha hr (j + 1)).left
  have empty : (∀ a ∈ visited.getLast?, a.1.length ≤ j) → w.history.latest (j + 1) = [] := by
    intro h
    cases hl : visited.getLast?
    case some a => exact (ho.latest hl hr (j + 1)).right <| Nat.lt_succ_of_le <| h a hl
    case none =>
      rw [List.getLast?_eq_none_iff.mp hl] at hr
      rw [← Except.ok.inj hr]
      rfl
  have own : beneath (trail.take (j + 1)) visited ≠ [] →
      Orderly (beneath (trail.take (j + 1)) visited) ∧
      History.recordAll [] (beneath (trail.take (j + 1)) visited) =
        .ok (w.history.latest (j + 1)) := by
    intro h
    have ⟨b, hb, hlt, ht⟩ := o.take_getLast hj h
    exact ht ▸ above b hb hlt
  refine ⟨fun a ha hlt => (above a ha hlt).right, empty, fun h => (own h).right, ?_, ?_⟩
  · -- Otherwise the history would hold the leaf visited last, which does not lie below the node.
    intro hc
    by_contra hn
    push Not at hn
    obtain ⟨ho, a, ha, hlt⟩ := hn
    have ⟨hoa, hra⟩ := above a ha hlt
    rw [hoa.chains hra, ho] at hc
    exact beneath_take_ne_nil ha (j + 1) <| List.map_eq_nil_iff.mp hc
  · intro h
    by_cases hb : beneath (trail.take (j + 1)) visited = []
    case neg => exact (own hb).left.chains (own hb).right
    case pos => simp [hb, empty <| h.resolve_left (· hb)]

-- Two nodes side by side.
def siblings : Tree :=
  .node "pair" [.node "left" [.leaf ⟨"word", "x", none, none⟩],
    .node "right" [.leaf ⟨"word", "y", none, none⟩, .leaf ⟨"word", "z", none, none⟩]]

theorem full_siblings : siblings.Full := by
  have leaf (l : Leaf) : ∀ t ∈ [Tree.leaf l], t.Full := List.forall_mem_singleton.mpr (.leaf l)
  refine .node (by decide) <| List.forall_mem_cons.mpr ⟨.node (by decide) (leaf _), ?_⟩
  refine List.forall_mem_singleton.mpr <| .node (by decide) ?_
  exact List.forall_mem_cons.mpr ⟨.leaf _, leaf _⟩

-- At the third leaf the second node hands on its own history, without the leaf of the first node.
theorem latest_of_visit_siblings :
    siblings.Full ∧ ∃ spans w, Walk.visit ∅ [] {} (siblings.leaves.take 2) = .ok (spans, w) ∧
      (w.history.latest 2).chains = [(["word"], "y")] := by
  let trail : Trail := [⟨"pair", 0⟩, ⟨"right", 1⟩, ⟨"word", 1⟩]
  have split : siblings.leaves =
      siblings.leaves.take 2 ++ [(trail, ⟨"word", "z", none, none⟩)] := rfl
  obtain ⟨spans, w, walk⟩ : ∃ spans w, Walk.visit ∅ [] {} (siblings.leaves.take 2) =
      .ok (spans, w) := ⟨_, _, rfl⟩
  have hj : 1 < trail.length := by decide
  have ⟨_, _, _, h⟩ := latest_of_visit full_siblings split walk hj
  exact ⟨full_siblings, spans, w, walk, h.mpr <| .inl nofun⟩

-- At the second leaf it hands on the history of the first node, as no leaf below it has been
-- visited. A branch check nested below its kind is then satisfied by a leaf of the first node.
theorem latest_of_previous_sibling :
    siblings.Full ∧ ∃ spans w, Walk.visit ∅ [] {} (siblings.leaves.take 1) = .ok (spans, w) ∧
      beneath [⟨"pair", 0⟩, ⟨"right", 1⟩] (siblings.leaves.take 1) = [] ∧
      (w.history.latest 2).chains = [(["word"], "x")] ∧
      (w.history.latest 2).satisfies [.token "x"] = .ok true := by
  exact ⟨full_siblings, _, _, rfl, rfl, rfl, rfl⟩

end Tree

end Highlight
