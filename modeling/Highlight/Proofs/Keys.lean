import Highlight.Proofs.Query
import Highlight.Proofs.SegmentOrder

namespace Highlight

namespace Key

mutual

-- Part by part, where a proper beginning comes first. Only keys of one form can be compared.
def cmp? : Key → Key → Option Ordering
  | number m, number n => some (compare m n)
  | text s, text t => some (compare s t)
  | tuple ps, tuple qs => cmpParts? ps qs
  | _, _ => none
termination_by structural k => k

def cmpParts? : List Key → List Key → Option Ordering
  | [], [] => some .eq
  | [], _ :: _ => some .lt
  | _ :: _, [] => some .gt
  | p :: ps, q :: qs => match p.cmp? q with
    | some .eq => cmpParts? ps qs
    | o => o
termination_by structural ks => ks

end

variable {p q : Key} {ps qs : List Key} {o r : Ordering}

theorem cmpParts?_cons (h : p.cmp? q = some o) (hr : cmpParts? ps qs = some r) :
    cmpParts? (p :: ps) (q :: qs) = some (o.then r) := by
  rw [cmpParts?, h]
  cases o
  case eq => exact hr
  case lt => rfl
  case gt => rfl

-- A number in front decides, unless it is the same in both. Only then the rest has to be of one
-- form.
theorem cmp?_ranked (m n : Nat) (p q : Key) :
    (tuple [number m, p]).cmp? (tuple [number n, q]) =
      if m = n then p.cmp? q else some (compare m n) := by
  have hm : (number m).cmp? (number n) = some (compare m n) := rfl
  show cmpParts? [number m, p] [number n, q] = _
  rw [cmpParts?, hm]
  split
  case h_1 h =>
    rw [if_pos (Nat.compare_eq_eq.mp (Option.some.inj h)), cmpParts?, cmpParts?]
    cases p.cmp? q
    case none   => rfl
    case some o => cases o <;> rfl
  case h_2 h =>
    rw [if_neg]
    rintro rfl
    exact h (congrArg some (Nat.compare_eq_eq.mpr rfl))

theorem cmp?_ranked_of_lt {m n : Nat} (h : m < n) (p q : Key) :
    (tuple [number m, p]).cmp? (tuple [number n, q]) = some .lt := by
  rw [cmp?_ranked, if_neg (by omega), Nat.compare_eq_lt.mpr h]

theorem cmp?_ranked_of_gt {m n : Nat} (h : n < m) (p q : Key) :
    (tuple [number m, p]).cmp? (tuple [number n, q]) = some .gt := by
  rw [cmp?_ranked, if_neg (by omega), Nat.compare_eq_gt.mpr h]

end Key

namespace Atom

-- What stands after the rank in the key of an atom.
def payloadKey : Atom → Key
  | lastKind name => .tuple [.number 0, .text name]
  | a => .text a.payload

theorem key_eq (a : Atom) : a.key = .tuple [.number a.rank, a.payloadKey] := by
  cases a <;> rfl

theorem cmp?_payloadKey {a b : Atom} (h : a.rank = b.rank) :
    a.payloadKey.cmp? b.payloadKey = some (compare a.payload b.payload) := by
  cases a <;> cases b <;> try cases h
  case lastKind.lastKind => exact Key.cmp?_ranked 0 0 _ _
  all_goals rfl

theorem cmp?_key (a b : Atom) : a.key.cmp? b.key = some (a.cmp b) := by
  rw [key_eq, key_eq, Key.cmp?_ranked, cmp]
  split
  case isTrue h => rw [cmp?_payloadKey h, Nat.compare_eq_eq.mpr h]; rfl
  case isFalse h =>
    have hn : compare a.rank b.rank ≠ .eq := fun he => h (Nat.compare_eq_eq.mp he)
    cases hc : compare a.rank b.rank
    case eq => exact absurd hc hn
    case lt => rfl
    case gt => rfl

theorem rank_lt (a : Atom) : a.rank < 4 := by
  cases a <;> simp [rank]

end Atom

namespace Segment

theorem forall_wellFormed_of_legalBranch {selector : List Segment} (h : legalBranch selector) :
    ∀ s ∈ selector, s.wellFormed := by
  induction selector
  case nil => simp
  case cons s rest hi =>
    obtain ⟨hs, _, hr⟩ := legalBranch_cons.mp h
    exact List.forall_mem_cons.mpr ⟨hs, hi hr⟩

mutual

theorem exists_key : (s : Segment) → s.wellFormed → ∃ k, s.key = .ok k
  | atom _, _ | child _, _ => ⟨_, rfl⟩
  | branch selector, h => by
    obtain ⟨ks, hk⟩ := exists_keys selector <|
      forall_wellFormed_of_legalBranch (legalBranch_of_wellFormed h)
    exact ⟨.tuple [.number 5, .tuple ks], by rw [key, hk]; rfl⟩
termination_by structural s => s

theorem exists_keys : (selector : List Segment) → (∀ s ∈ selector, s.wellFormed) →
    ∃ ks, keys selector = .ok ks
  | [], _ => ⟨[], rfl⟩
  | s :: rest, h => by
    obtain ⟨hs, hr⟩ := List.forall_mem_cons.mp h
    obtain ⟨k, hk⟩ := exists_key s hs
    obtain ⟨ks, hks⟩ := exists_keys rest hr
    exact ⟨k :: ks, by rw [keys, hk, hks]; rfl⟩
termination_by structural selector => selector

end

variable {s t : Segment} {k l : Key}

theorem key_branch {selector : List Segment} (h : (branch selector).key = .ok k) :
    ∃ ks, keys selector = .ok ks ∧ k = .tuple [.number 5, .tuple ks] := by
  rw [key] at h
  cases hk : keys selector <;> rw [hk] at h <;> cases h
  exact ⟨_, rfl, rfl⟩

theorem keys_cons {rest : List Segment} {ks : List Key} (h : keys (s :: rest) = .ok ks) :
    ∃ k rs, s.key = .ok k ∧ keys rest = .ok rs ∧ ks = k :: rs := by
  rw [keys] at h
  cases hk : s.key <;> rw [hk] at h <;> try cases h
  cases hr : keys rest <;> rw [hr] at h <;> cases h
  exact ⟨_, _, rfl, rfl, rfl⟩

mutual

-- Different forms have different ranks. Within a form the keys are compared like what they hold.
theorem cmp?_key : (s t : Segment) → (k l : Key) → s.key = .ok k → t.key = .ok l →
    k.cmp? l = some (s.cmp t)
  | foreign _, _, _, _, hs, _ => by cases hs
  | _, foreign _, _, _, _, ht => by cases ht
  | atom a, atom b, _, _, rfl, rfl => a.cmp?_key b
  | atom a, child b, _, _, rfl, rfl => by
    rw [a.key_eq]
    exact Key.cmp?_ranked_of_lt a.rank_lt _ _
  | atom a, branch _, _, _, rfl, ht => by
    obtain ⟨ls, _, hl⟩ := key_branch ht
    rw [a.key_eq, hl]
    exact Key.cmp?_ranked_of_lt (Nat.lt_trans a.rank_lt (by decide)) _ _
  | child a, atom b, _, _, rfl, rfl => by
    rw [b.key_eq]
    exact Key.cmp?_ranked_of_gt b.rank_lt _ _
  | child a, child b, _, _, rfl, rfl => by
    rw [Key.cmp?_ranked, if_pos rfl, a.cmp?_key]
    rfl
  | child _, branch _, _, _, rfl, ht => by
    obtain ⟨ls, _, hl⟩ := key_branch ht
    rw [hl]
    exact Key.cmp?_ranked_of_lt (by decide) _ _
  | branch _, atom b, _, _, hs, rfl => by
    obtain ⟨ks, _, hk⟩ := key_branch hs
    rw [b.key_eq, hk]
    exact Key.cmp?_ranked_of_gt (Nat.lt_trans b.rank_lt (by decide)) _ _
  | branch _, child _, _, _, hs, rfl => by
    obtain ⟨ks, _, hk⟩ := key_branch hs
    rw [hk]
    exact Key.cmp?_ranked_of_gt (by decide) _ _
  | branch selector, branch selector', _, _, hs, ht => by
    obtain ⟨ks, hks, hk⟩ := key_branch hs
    obtain ⟨ls, hls, hl⟩ := key_branch ht
    rw [hk, hl, Key.cmp?_ranked, if_pos rfl]
    exact cmpParts?_keys selector selector' ks ls hks hls
termination_by structural s => s

theorem cmpParts?_keys : (s t : List Segment) → (ks ls : List Key) → keys s = .ok ks →
    keys t = .ok ls → Key.cmpParts? ks ls = some (cmpList s t)
  | [], [], _, _, rfl, rfl => rfl
  | [], _ :: _, _, _, rfl, ht => by
    obtain ⟨l, ls, _, _, hl⟩ := keys_cons ht
    rw [hl]
    rfl
  | _ :: _, [], _, _, hs, rfl => by
    obtain ⟨k, ks, _, _, hk⟩ := keys_cons hs
    rw [hk]
    rfl
  | a :: s, b :: t, _, _, hs, ht => by
    obtain ⟨k, ks, ha, hs, hk⟩ := keys_cons hs
    obtain ⟨l, ls, hb, ht, hl⟩ := keys_cons ht
    rw [hk, hl]
    exact Key.cmpParts?_cons (cmp?_key a b k l ha hb) (cmpParts?_keys s t ks ls hs ht)
termination_by structural s => s

end

-- The key of the first segment is smaller than that of the second.
def Before (s t : Segment) : Prop :=
  ∃ k l, s.key = .ok k ∧ t.key = .ok l ∧ k.cmp? l = some .lt

theorem before_of_cmp (hs : s.wellFormed) (ht : t.wellFormed) (h : s.cmp t = .lt) : s.Before t := by
  have ⟨k, hk⟩ := s.exists_key hs
  have ⟨l, hl⟩ := t.exists_key ht
  exact ⟨k, l, hk, hl, h ▸ cmp?_key s t k l hk hl⟩

end Segment

namespace Selector

-- Selectors in the lexicographic order of the keys of their segments.
def Before (p q : Selector) : Prop :=
  ∃ ks ls, Segment.keys p = .ok ks ∧ Segment.keys q = .ok ls ∧ Key.cmpParts? ks ls = some .lt

theorem before_of_cmpList {p q : Selector} (hp : ∀ s ∈ p, s.wellFormed)
    (hq : ∀ s ∈ q, s.wellFormed) (h : Segment.cmpList p q = .lt) : p.Before q := by
  have ⟨ks, hk⟩ := Segment.exists_keys p hp
  have ⟨ls, hl⟩ := Segment.exists_keys q hq
  exact ⟨ks, ls, hk, hl, h ▸ Segment.cmpParts?_keys p q ks ls hk hl⟩

end Selector

end Highlight
