import Highlight.Proofs.Coverage
import Highlight.Proofs.Mirroring

namespace Highlight

namespace Trail

-- The steps of a trail without their places.
def unplaced (trail : Trail) : Trail :=
  trail.map fun s => ⟨s.kind, 0⟩

theorem unplaced_congr {p q : Trail} (h : p.kinds = q.kinds) : p.unplaced = q.unplaced := by
  have of_kinds (p : Trail) : p.unplaced = p.kinds.map fun k => ⟨k, 0⟩ := by
    simp [unplaced, kinds]
  rw [of_kinds, of_kinds, h]

end Trail

-- A match against a trail whose places do not count.
def Reach.unplaced : Reach → Reach
  | further history trail => further history trail.unplaced
  | base => base

namespace Segment

theorem any_kind_unplaced (step : Option Step) (name : String) :
    (step.map fun s => (⟨s.kind, 0⟩ : Step)).any (·.kind = name) = step.any (·.kind = name) := by
  cases step <;> rfl

theorem occurrences_unplaced (name : String) (trail : Trail) :
    occurrences name trail.unplaced = occurrences name trail := by
  simp [occurrences, Trail.unplaced, any_kind_unplaced]

theorem map_unplaced_base (p : Prop) [Decidable p] :
    (if p then [Reach.base] else []).map Reach.unplaced = if p then [Reach.base] else [] := by
  by_cases h : p <;> simp [h, Reach.unplaced]

-- Segments look at kinds and at the number of steps, never at places.
theorem reaches_unplaced (s : Segment) (history : History) (trail : Trail)
    (token : Option String) : s.reaches history trail.unplaced token =
      (s.reaches history trail token).map (List.map Reach.unplaced) := by
  have texts (a : Atom) :
      (if trail.unplaced.isEmpty && token.any a.accepts then [Reach.base] else []) =
      (if trail.isEmpty && token.any a.accepts then [Reach.base] else []).map Reach.unplaced := by
    rw [map_unplaced_base]
    simp [Trail.unplaced]
  cases s
  case atom a =>
    cases a
    case kind name =>
      simp only [reaches, occurrences_unplaced]
      simp [Except.map, Reach.unplaced, Trail.unplaced, Function.comp_def]
    case lastKind name =>
      simp [reaches, Except.map, Trail.unplaced, map_unplaced_base, any_kind_unplaced]
    case token | pattern => exact congrArg Except.ok (texts _)
  case child a =>
    cases a
    case kind name =>
      cases trail
      case nil            => rfl
      case cons step rest =>
        by_cases h : step.kind = name <;>
          simp [reaches, Except.map, Trail.unplaced, h, Reach.unplaced]
    case lastKind name =>
      obtain _ | ⟨step, _ | _⟩ := trail
      case nil       => rfl
      case cons.nil  => simp [reaches, Except.map, Trail.unplaced, map_unplaced_base]
      case cons.cons => rfl
    case token | pattern => exact congrArg Except.ok (texts _)
  case branch selector =>
    simp only [reaches]
    cases history.satisfies selector
    case error e => rfl
    case ok b    => cases b <;> rfl
  case foreign f => rfl

end Segment

namespace Sheet

theorem mergeReach_unplaced {sheet : Sheet} {token : Option String}
    (h : ∀ history trail, sheet.resolve history (Trail.unplaced trail) token =
      sheet.resolve history trail token) (style : Style) (reach : Reach) :
    sheet.mergeReach token style reach.unplaced = sheet.mergeReach token style reach := by
  cases reach
  case base                  => rfl
  case further history trail => simp only [Reach.unplaced, mergeReach, h]

mutual

theorem resolve_unplaced (token : Option String) : (sheet : Sheet) → (history : History) →
    (trail : Trail) → sheet.resolve history trail.unplaced token = sheet.resolve history trail token
  | .node style scopes, history, trail => resolveScopes_unplaced token scopes history trail style
termination_by structural s => s

theorem resolveScopes_unplaced (token : Option String) : (scopes : List (Segment × Sheet)) →
    (history : History) → (trail : Trail) → (style : Style) →
    resolveScopes scopes history trail.unplaced token style =
      resolveScopes scopes history trail token style
  | [], _, _, _ => rfl
  | (segment, sheet) :: rest, history, trail, style => by
    have hn := mergeReach_unplaced (resolve_unplaced token sheet)
    have hr := resolveScopes_unplaced token rest history trail
    simp only [resolveScopes_cons, segment.reaches_unplaced, hr]
    cases segment.reaches history trail token
    case error e => rfl
    case ok reaches =>
      simp only [Except.map, bind, Except.bind, List.foldlM_map, hn]
termination_by structural s => s

end

-- The style of a position depends on the kinds of its steps alone.
theorem resolve_congr (sheet : Sheet) (history : History) (token : Option String) {p q : Trail}
    (h : p.kinds = q.kinds) : sheet.resolve history p token = sheet.resolve history q token := by
  rw [← resolve_unplaced token sheet history p, Trail.unplaced_congr h, resolve_unplaced]

end Sheet

-- A leaf as it is seen without places: the kinds of the steps that lead to it, and the leaf itself.
def Leaf.unplaced (a : Trail × Leaf) : List String × Leaf :=
  (a.1.kinds, a.2)

namespace Walk

variable {sheet : Sheet} {source : List Char} {w : Walk}

theorem step_congr {p q : Trail} {l : Leaf} (hk : p.kinds = q.kinds)
    (hr : w.history.record p l.text = w.history.record q l.text) :
    w.step sheet source p l = w.step sheet source q l := by
  rw [step, step, hr, sheet.resolve_congr w.history (some l.text) hk]

theorem record_of_step {trail : Trail} {l : Leaf} {spans : List Span} {w' : Walk}
    (h : w.step sheet source trail l = .ok (spans, w')) :
    w.history.record trail l.text = .ok w'.history := by
  obtain ⟨_, hs, _⟩ | ⟨_, hs, _⟩ | ⟨_, _, hs, hr⟩ := step_cases sheet source w trail l
  · cases h.symm.trans hs
  · cases h.symm.trans hs
  · cases h.symm.trans hs
    exact hr

-- Walks over the same leaves yield the same spans if they see the same history all the way.
theorem run_congr {xs ys : List (Trail × Leaf)} (hl : xs.map Leaf.unplaced = ys.map Leaf.unplaced)
    (hr : ∀ n, w.history.recordAll (xs.take n) = w.history.recordAll (ys.take n)) :
    w.run sheet source xs = w.run sheet source ys := by
  induction xs generalizing ys w
  case nil =>
    have : ys = [] := List.map_eq_nil_iff.mp hl.symm
    rw [this]
  case cons a xs hi =>
    obtain ⟨p, l⟩ := a
    obtain _ | ⟨⟨q, m⟩, ys⟩ := ys
    case nil => cases hl
    case cons =>
      obtain ⟨ha, hxs⟩ := List.cons.inj hl
      obtain ⟨hk, rfl⟩ : p.kinds = q.kinds ∧ l = m := Prod.mk.inj ha
      have first : w.history.record p l.text = w.history.record q l.text := by
        simpa [History.recordAll] using hr 1
      rw [run, run, step_congr hk first]
      cases hs : w.step sheet source q l
      case error e => rfl
      case ok result =>
        obtain ⟨spans, w'⟩ := result
        have hw := record_of_step hs
        have hn : ∀ n, w'.history.recordAll (xs.take n) = w'.history.recordAll (ys.take n) := by
          intro n
          have := hr (n + 1)
          simp only [List.take_succ_cons, History.recordAll_cons, first, hw] at this
          exact this
        simp only [bind, Except.bind, hi hxs hn]

-- What is shown of the text does not depend on the history.
theorem texts_congr {w' : Walk} {xs ys : List (Trail × Leaf)} {spans spans' : List Span}
    (hl : xs.map Prod.snd = ys.map Prod.snd) (ho : w.offset = w'.offset)
    (h : w.run sheet source xs = .ok spans) (h' : w'.run sheet source ys = .ok spans') :
    spans.map (·.text) = spans'.map (·.text) := by
  induction xs generalizing ys w w' spans spans'
  case nil =>
    have : ys = [] := List.map_eq_nil_iff.mp hl.symm
    subst this
    cases h
    cases h'
    rw [ho]
  case cons a xs hi =>
    obtain _ | ⟨b, ys⟩ := ys
    case nil => cases hl
    case cons =>
      obtain ⟨hab, hl⟩ := List.cons.inj hl
      have ⟨first, v, more, hs, hmore, he⟩ := run_cons_eq_ok h
      have ⟨first', v', more', hs', hmore', he'⟩ := run_cons_eq_ok h'
      have ⟨style, _, hf, hv⟩ := step_eq_ok hs
      have ⟨style', _, hf', hv'⟩ := step_eq_ok hs'
      have hg : w.gap sheet source a.2 = w'.gap sheet source b.2 := by rw [gap, gap, ho, hab]
      have ho : v.offset = v'.offset := by rw [hv, hv', ho, hab]
      rw [he, he', hf, hf', hg, List.map_append, List.map_append, hi hl ho hmore hmore']
      simp [hab]

end Walk

namespace Tree

mutual

-- The tree without the trees below it that hold no leaf. Gaps take no place and remain.
def pruned : Tree → Tree
  | node kind children => node kind (prunedBelow children)
  | leaf l => leaf l
  | absent => absent
termination_by structural t => t

def prunedBelow : List Tree → List Tree
  | [] => []
  | t :: ts => if t.isBarren then prunedBelow ts else t.pruned :: prunedBelow ts
termination_by structural t => t

end

theorem leavesFrom_of_isBarren {t : Tree} (h : t.isBarren) (trail : Trail) (i : Nat) :
    t.leavesFrom trail i = [] := by
  rw [← List.length_eq_zero_iff, length_leavesFrom, (isBarren_iff.mp h).right, List.length_nil]

theorem map_unplaced_under (s : Step) (leaves : List (Trail × Leaf)) :
    (under s leaves).map Leaf.unplaced =
      (leaves.map Leaf.unplaced).map fun a => (s.kind :: a.1, a.2) := by
  simp [under, Leaf.unplaced, Trail.kinds]

mutual

-- Pruning changes nothing but the places of leaves.
theorem map_unplaced_pruned : (t : Tree) → (i j : Nat) →
    (t.pruned.leavesFrom [] i).map Leaf.unplaced = (t.leavesFrom [] j).map Leaf.unplaced
  | node kind children, i, j => by
    rw [pruned, leavesFrom_node, leavesFrom_node, map_unplaced_under, map_unplaced_under,
      map_unplaced_prunedBelow children]
  | leaf _, _, _ => rfl
  | absent, _, _ => rfl
termination_by structural t => t

theorem map_unplaced_prunedBelow : (ts : List Tree) → (i j : Nat) →
    (leavesBelow [] i (prunedBelow ts)).map Leaf.unplaced =
      (leavesBelow [] j ts).map Leaf.unplaced
  | [], _, _ => rfl
  | t :: ts, i, j => by
    rw [prunedBelow, leavesBelow]
    split
    case isTrue h => rw [leavesFrom_of_isBarren h, List.nil_append, map_unplaced_prunedBelow ts i]
    case isFalse =>
      rw [leavesBelow, List.map_append, List.map_append, map_unplaced_pruned t i,
        map_unplaced_prunedBelow ts]
termination_by structural t => t

end

theorem length_leaves_pruned (t : Tree) : t.pruned.leaves.length = t.leaves.length := by
  have := congrArg List.length (map_unplaced_pruned t 0 0)
  rwa [List.length_map, List.length_map] at this

mutual

theorem seen_pruned : (t : Tree) → (n : Nat) → t.pruned.seen n = t.seen n
  | node kind children, n => by rw [pruned, seen, seen, seenBelow_pruned children]
  | leaf _, _ => rfl
  | absent, _ => rfl
termination_by structural t => t

theorem seenBelow_pruned : (ts : List Tree) → (n : Nat) →
    seenBelow n (prunedBelow ts) = seenBelow n ts
  | [], _ => rfl
  | t :: ts, n => by
    rw [prunedBelow, seenBelow]
    split
    case isTrue h =>
      have hl : t.leaves = [] := leavesFrom_of_isBarren h [] 0
      rw [seen_eq_nil_iff.mpr (.inr hl), hl, seenBelow_pruned ts]
      rfl
    case isFalse =>
      rw [seenBelow, seen_pruned t, length_leaves_pruned, seenBelow_pruned ts]
termination_by structural t => t

end

theorem isBarren_pruned (t : Tree) : t.pruned.isBarren = t.isBarren := by
  have hp : t.pruned.places = t.places := by cases t <;> rfl
  have hl : t.pruned.leaves.isEmpty = t.leaves.isEmpty := by
    rw [Bool.eq_iff_iff, List.isEmpty_iff_length_eq_zero, length_leaves_pruned,
      List.isEmpty_iff_length_eq_zero]
  rw [isBarren, isBarren, hp, hl]

mutual

theorem tidy_pruned : (t : Tree) → t.pruned.Tidy
  | node _ children =>
    have h := tidy_prunedBelow children
    .node (pairwise_of_not_isBarren fun t ht => (h t ht).left) fun t ht => (h t ht).right
  | leaf l => .leaf l
  | absent => .absent
termination_by structural t => t

theorem tidy_prunedBelow : (ts : List Tree) → ∀ t ∈ prunedBelow ts, ¬t.isBarren ∧ t.Tidy
  | [] => by simp [prunedBelow]
  | t :: ts => by
    rw [prunedBelow]
    split
    case isTrue => exact tidy_prunedBelow ts
    case isFalse h =>
      refine List.forall_mem_cons.mpr ⟨⟨?_, tidy_pruned t⟩, tidy_prunedBelow ts⟩
      rwa [isBarren_pruned]
termination_by structural t => t

end

-- The histories along the walk over a tidy tree are those along the walk over what is left of it.
theorem Tidy.recordAll_pruned {t : Tree} (tidy : t.Tidy) (n : Nat) :
    History.recordAll [] (t.leaves.take n) = History.recordAll [] (t.pruned.leaves.take n) := by
  rw [tidy.recordAll (List.take_prefix n _), t.tidy_pruned.recordAll (List.take_prefix n _),
    seen_pruned, List.length_take, List.length_take, length_leaves_pruned]

end Tree

namespace History

variable {before : History} {s : Step}

theorem record_last_leaf {leaf : String} (rest : Trail) (token : String)
    (hl : (before.length : Int) = s.index) :
    record (before ++ [.leaf leaf]) (s :: rest) token = .error (.beneathLeaf token leaf) := by
  have hlt : s.index < ((before ++ [Visit.leaf leaf]).length : Nat) := by simp; omega
  have hp : place? (before ++ [Visit.leaf leaf]).length s.index = some before.length := by
    rw [place?, if_pos (by omega), ← hl, Int.toNat_natCast]
  rw [record, if_pos hlt]
  simp only [hp]
  simp

-- A leaf below a place beyond some visits leaves these as they are. It becomes a visit of its own
-- unless the visits have caught up with the place.
theorem record_beyond {y h : History} {rest : Trail} {token : String}
    (hb : (before.length : Int) ≤ s.index) (hl : (before.length + y.length : Int) ≤ s.index + 1)
    (hr : record (before ++ y) (s :: rest) token = .ok h) :
    ∃ y', h = before ++ y' ∧ (before.length + y'.length : Int) ≤ s.index + 1 ∧
      (y'.length = y.length + 1 ∨
        y'.length = y.length ∧ (before.length + y.length : Int) = s.index + 1) := by
  by_cases hle : (before.length + y.length : Int) ≤ s.index
  case pos =>
    rw [record_of_length_le rest token (by simpa using hle)] at hr
    cases hr
    exact ⟨y ++ [Visit.chain (s :: rest) token], by simp, by simp; omega, .inl (by simp)⟩
  case neg =>
    obtain rfl | ⟨y, v, rfl⟩ := List.eq_nil_or_concat y
    case inl => simp at hle; omega
    case inr =>
      have hi : ((before ++ y).length : Int) = s.index := by simp at hl hle ⊢; omega
      rw [List.concat_eq_append, ← List.append_assoc] at hr
      cases v
      case leaf leaf =>
        rw [record_last_leaf rest token hi] at hr
        cases hr
      case node kind below =>
        rw [record_last kind rest token hi] at hr
        cases hbelow : record below rest token
        case error e => rw [hbelow] at hr; cases hr
        case ok below' =>
          rw [hbelow] at hr
          cases hr
          refine ⟨y ++ [.node kind below'], by simp, ?_, .inr ⟨by simp, ?_⟩⟩ <;>
            simp at hi ⊢ <;> omega

-- Each leaf below the place becomes a visit of its own until the visits have caught up with it.
theorem recordAll_beyond {y h : History} {xs : List (Trail × Leaf)}
    (hb : (before.length : Int) ≤ s.index) (hl : (before.length + y.length : Int) ≤ s.index + 1)
    (hr : recordAll (before ++ y) (Tree.under s xs) = .ok h) :
    ∃ y', h = before ++ y' ∧ (before.length + y'.length : Int) ≤ s.index + 1 ∧
      (y'.length = y.length + xs.length ∨ (before.length + y'.length : Int) = s.index + 1) := by
  induction xs generalizing y
  case nil =>
    cases hr
    exact ⟨y, rfl, hl, .inl rfl⟩
  case cons a xs hi =>
    rw [Tree.under, List.map_cons, recordAll_cons] at hr
    cases ha : record (before ++ y) (s :: a.1) a.2.text
    case error e => rw [ha] at hr; cases hr
    case ok h' =>
      have ⟨y', he, hl', hn⟩ := record_beyond hb hl ha
      rw [ha, he] at hr
      have ⟨y'', he, hl'', hn'⟩ := hi hl' hr
      refine ⟨y'', he, hl'', ?_⟩
      rw [List.length_cons]
      omega

end History

namespace Tree

-- All leaves of a tree lie below its place.
theorem exists_under_step (t : Tree) (i : Nat) : ∃ (s : Step) (xs : List (Trail × Leaf)),
    s.index = i ∧ t.leavesFrom [] i = under s xs := by
  cases t
  case node kind children => exact ⟨⟨kind, i⟩, _, rfl, leavesFrom_node kind children i⟩
  case leaf l             => exact ⟨⟨l.kind, i⟩, [([], l)], rfl, rfl⟩
  case absent             => exact ⟨⟨"", i⟩, [], rfl, rfl⟩

-- Recording a tree leaves the visits before its place as they are, and there is a visit of it
-- unless it holds no leaf.
theorem recordAll_extends {t : Tree} {before h : History} {i : Nat} (n : Nat)
    (hi : before.length ≤ i) (hr : before.recordAll (t.leavesFrom [] i) = .ok h) :
    ∃ y, h = before ++ y ∧ (t.seen n).length ≤ y.length ∧ h.length ≤ i + t.places := by
  by_cases hn : t.leavesFrom [] i = []
  case pos =>
    have hl : t.leaves = [] := by
      rw [← List.length_eq_zero_iff, ← length_leavesFrom t [] i, hn, List.length_nil]
    rw [hn] at hr
    cases hr
    exact ⟨[], by simp, by simp [seen_eq_nil_iff.mpr (.inr hl)], by omega⟩
  case neg =>
    have ⟨a, ha⟩ := List.exists_mem_of_ne_nil _ hn
    have hp := places_of_mem_leavesFrom ha
    have hseen := length_seen_le t n
    obtain ⟨s, xs, hs, hx⟩ := exists_under_step t i
    have hxs : xs ≠ [] := fun h => hn (by rw [hx, h]; rfl)
    have := List.length_pos_of_ne_nil hxs
    rw [hx, ← List.append_nil before] at hr
    have ⟨y, he, hle, hy⟩ := History.recordAll_beyond (by omega) (by simp; omega) hr
    subst he
    refine ⟨y, rfl, ?_, ?_⟩ <;> simp at hy ⊢ <;> omega

theorem recordAll_extendsBelow {ts : List Tree} {before h : History} {i : Nat} (n : Nat)
    (hi : before.length ≤ i) (hr : before.recordAll (leavesBelow [] i ts) = .ok h) :
    ∃ y, h = before ++ y ∧ (seenBelow n ts).length ≤ y.length := by
  induction ts generalizing before i n
  case nil =>
    cases hr
    exact ⟨[], by simp, by simp [seenBelow]⟩
  case cons t ts hits =>
    rw [leavesBelow, History.recordAll_append] at hr
    cases ht : before.recordAll (t.leavesFrom [] i)
    case error e => rw [ht] at hr; cases hr
    case ok h' =>
      rw [ht] at hr
      obtain ⟨y, rfl, hy, hl⟩ := recordAll_extends n hi ht
      obtain ⟨z, rfl, hz⟩ := hits (n - t.leaves.length) hl hr
      exact ⟨y ++ z, by simp, by simp [seenBelow]; omega⟩

theorem length_leaves_le {ts : List Tree} {t : Tree} (h : t ∈ ts) (i : Nat) :
    t.leaves.length ≤ (leavesBelow [] i ts).length := by
  obtain ⟨before, after, rfl⟩ := List.append_of_mem h
  simp only [leavesBelow_append, leavesBelow, List.length_append, length_leavesFrom]
  omega

mutual

theorem tidy_of_length_le : (t : Tree) → t.leaves.length ≤ 1 → t.Tidy
  | node kind children, h => by
    have hle : ∀ t ∈ children, t.leaves.length ≤ 1 := by
      intro t ht
      refine Nat.le_trans (length_leaves_le ht 0) ?_
      rwa [length_leaves_node] at h
    have level := List.pairwise_of_forall_mem_list fun u _ t ht (_ : u.isBarren) => hle t ht
    exact .node level (tidyBelow_of_length_le children hle)
  | leaf l, _ => .leaf l
  | absent, _ => .absent
termination_by structural t => t

theorem tidyBelow_of_length_le : (ts : List Tree) → (∀ t ∈ ts, t.leaves.length ≤ 1) →
    ∀ t ∈ ts, t.Tidy
  | [], _ => by simp
  | t :: ts, h => by
    have ⟨ht, hts⟩ := List.forall_mem_cons.mp h
    exact List.forall_mem_cons.mpr ⟨tidy_of_length_le t ht, tidyBelow_of_length_le ts hts⟩
termination_by structural t => t

end

mutual

-- Only tidy trees are recorded as they are.
theorem tidy_of_recordAll : (t : Tree) → (before : History) → (i n : Nat) → before.length ≤ i →
    before.recordAll (t.leavesFrom [] i) = .ok (before ++ t.seen n) →
    t.Tidy ∧ (before.length = i ∨ t.leaves.length ≤ 1)
  | node kind children, before, i, n, hi, hr => by
    by_cases hone : (node kind children).leaves.length ≤ 1
    case pos => exact ⟨tidy_of_length_le _ hone, .inr hone⟩
    case neg =>
      rw [length_leaves_node] at hone
      rw [leavesFrom_node] at hr
      have he : before.length = i := by
        -- Otherwise the first two leaves would have become visits of their own.
        by_contra hne
        rw [← List.append_nil before] at hr
        have ⟨y, hy, _, hlen⟩ := History.recordAll_beyond (s := ⟨kind, i⟩) (by simpa using hi)
          (by simp; omega) hr
        rw [List.append_nil, List.append_cancel_left_eq] at hy
        have hle := length_seen_le (node kind children) n
        rw [hy, places] at hle
        simp at hlen
        omega
      have hc : ∀ a ∈ leavesBelow [] 0 children, a.1.Counted :=
        fun a => counted_of_mem_leavesBelow
      rw [History.recordAll_under hc (by simpa using hi) (.inl (congrArg Nat.cast he))] at hr
      cases hb : History.recordAll [] (leavesBelow [] 0 children)
      case error e => rw [hb] at hr; cases hr
      case ok below =>
        rw [hb] at hr
        have hbelow := Visit.around_injective kind (List.append_cancel_left (Except.ok.inj hr))
        have ⟨nested, level, _⟩ := tidyBelow_of_recordAll children [] 0 n (Nat.le_refl 0)
          (by rw [hb, hbelow]; rfl)
        exact ⟨.node level nested, .inl he⟩
  | leaf l, _, _, _, _, _ => ⟨.leaf l, .inr (by simp [leaves, leavesFrom])⟩
  | absent, _, _, _, _, _ => ⟨.absent, .inr (by simp [leaves, leavesFrom])⟩
termination_by structural t => t

theorem tidyBelow_of_recordAll : (ts : List Tree) → (before : History) → (i n : Nat) →
    before.length ≤ i → before.recordAll (leavesBelow [] i ts) = .ok (before ++ seenBelow n ts) →
    (∀ t ∈ ts, t.Tidy) ∧ ts.Pairwise (fun u t => u.isBarren → t.leaves.length ≤ 1) ∧
      (before.length = i ∨ ∀ t ∈ ts, t.leaves.length ≤ 1)
  | [], _, _, _, _, _ => ⟨by simp, .nil, .inr (by simp)⟩
  | t :: ts, before, i, n, hi, hr => by
    rw [leavesBelow, History.recordAll_append] at hr
    cases ht : before.recordAll (t.leavesFrom [] i)
    case error e => rw [ht] at hr; cases hr
    case ok h =>
      rw [ht] at hr
      obtain ⟨y, rfl, hy, hl⟩ := recordAll_extends n hi ht
      obtain ⟨z, he, hz⟩ := recordAll_extendsBelow (n - t.leaves.length) hl hr
      -- Neither part can have fewer visits than it should, so both have just the right ones.
      obtain ⟨rfl, rfl⟩ : t.seen n = y ∧ seenBelow (n - t.leaves.length) ts = z := by
        rw [seenBelow, List.append_assoc, List.append_cancel_left_eq] at he
        have hlen := congrArg List.length he
        simp only [List.length_append] at hlen
        exact List.append_inj he (by omega)
      have ⟨tidy, hone⟩ := tidy_of_recordAll t before i n hi ht
      have ⟨tidies, level, hones⟩ := tidyBelow_of_recordAll ts (before ++ t.seen n) (i + t.places)
        (n - t.leaves.length) hl (by rw [← he]; exact hr)
      have hle := length_seen_le t n
      rw [List.length_append] at hones
      refine ⟨List.forall_mem_cons.mpr ⟨tidy, tidies⟩,
        List.pairwise_cons.mpr ⟨fun u hu hb => ?_, level⟩, ?_⟩
      · -- The visits stay behind the places at a barren tree, and do not catch up.
        have ⟨hp, hl⟩ := isBarren_iff.mp hb
        rw [seen_eq_nil_iff.mpr (.inr hl), List.length_nil] at hones
        exact hones.resolve_left (by omega) u hu
      · by_cases hlt : before.length = i
        case pos => exact .inl hlt
        case neg =>
          have hones := hones.resolve_left (by omega)
          exact .inr (List.forall_mem_cons.mpr ⟨hone.resolve_left hlt, hones⟩)
termination_by structural t => t

end

-- Pruning leaves the history of a whole walk as it is just if the tree is tidy.
theorem recordAll_pruned_iff {t : Tree} :
    History.recordAll [] t.pruned.leaves = History.recordAll [] t.leaves ↔ t.Tidy := by
  constructor
  case mp =>
    intro h
    rw [t.tidy_pruned.recordAll (List.prefix_refl _), seen_pruned] at h
    exact (tidy_of_recordAll t [] 0 _ (Nat.le_refl 0) h.symm).left
  case mpr =>
    intro tidy
    rw [t.tidy_pruned.recordAll (List.prefix_refl _), tidy.recordAll (List.prefix_refl _),
      seen_pruned, length_leaves_pruned]

-- The texts of spans never depend on trees that hold no leaf. The styles do not either if the tree
-- is tidy, and tidy trees are those of which the whole walk leaves the same history.
theorem spans_pruned (t : Tree) :
    (∀ (sheet : Sheet) (source : String), sheet.WellFormed → ∃ spans spans',
      t.spans sheet source = .ok spans ∧ t.pruned.spans sheet source = .ok spans' ∧
        spans'.map (·.text) = spans.map (·.text)) ∧
    (t.Tidy → ∀ (sheet : Sheet) (source : String),
      t.pruned.spans sheet source = t.spans sheet source) ∧
    (History.recordAll [] t.pruned.leaves = History.recordAll [] t.leaves ↔ t.Tidy) := by
  refine ⟨fun sheet source wf => ?_, fun tidy sheet source => ?_, recordAll_pruned_iff⟩
  · have ⟨spans, h⟩ := t.spans_of_wellFormed source wf
    have ⟨spans', h'⟩ := t.pruned.spans_of_wellFormed source wf
    have hl := congrArg (List.map Prod.snd) (map_unplaced_pruned t 0 0)
    rw [List.map_map, List.map_map] at hl
    exact ⟨spans, spans', h, h', Walk.texts_congr hl rfl h' h⟩
  · refine Walk.run_congr (map_unplaced_pruned t 0 0) fun n => ?_
    exact (tidy.recordAll_pruned n).symm

-- Letters in a list, with a node that holds no leaf next to it.
def letters : Tree :=
  .node "list" [.leaf ⟨"A", "a", none, none⟩, .leaf ⟨"B", "b", none, none⟩,
    .leaf ⟨"C", "c", none, none⟩]

def trailing : Tree :=
  .node "start" [letters, .node "empty" []]

def leading : Tree :=
  .node "start" [.node "empty" [], letters]

-- Of a list only the third letter is bold, and only after the first one.
def afterFirst : Sheet :=
  .node ∅ [(.atom (.kind "list"), .node ∅ [(.branch [.atom (.token "a")],
    .node ∅ [(.atom (.kind "C"), .node { bold := some ⟨true, false⟩ } [])])])]

theorem spans_pruned_trailing : trailing.Tidy ∧ afterFirst.WellFormed ∧
    (∃ spans spans', trailing.spans afterFirst "" = .ok spans ∧
      trailing.pruned.spans afterFirst "" = .ok spans' ∧
        spans'.map (·.text) = spans.map (·.text)) ∧
    trailing.pruned.spans afterFirst "" = trailing.spans afterFirst "" := by
  have tidy : trailing.Tidy := by
    refine .node (by decide) (List.forall_mem_cons.mpr ⟨.node (by decide) ?_, ?_⟩)
    · simp [Tidy.leaf]
    · exact List.forall_mem_singleton.mpr (.node .nil (by simp))
  have wf : afterFirst.WellFormed := by
    have leaf (style : Style) : Sheet.WellFormed (.node style []) := .node (by simp) .nil (by simp)
    have single {segment : Segment} {sheet : Sheet} (hs : segment.wellFormed)
        (h : sheet.WellFormed) : Sheet.WellFormed (.node ∅ [(segment, sheet)]) :=
      .node (by simpa using hs) (List.pairwise_singleton _ _) (by simpa using h)
    exact single (by decide) (single (by decide) (single (by decide) (leaf _)))
  have ⟨texts, styles, _⟩ := trailing.spans_pruned
  exact ⟨tidy, wf, texts afterFirst "" wf, styles tidy afterFirst ""⟩

-- Before the list, the same node makes two visits of the list out of one, and the branch check
-- below it sees only the latter, in which the first letter is missing.
theorem spans_of_leading : ∃ spans spans', leading.spans afterFirst "" = .ok spans ∧
    leading.pruned.spans afterFirst "" = .ok spans' ∧ spans'.map (·.style) ≠ spans.map (·.style) ∧
    spans.getLast? = some ⟨"c", ∅⟩ ∧
    spans'.getLast? = some ⟨"c", { bold := some ⟨true, false⟩ }⟩ :=
  ⟨_, _, rfl, rfl, by decide, rfl, rfl⟩

end Tree

end Highlight
