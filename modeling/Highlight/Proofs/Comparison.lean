import Highlight.Proofs.Listing

namespace Highlight

namespace Segment

variable {a b c : Segment} {s t : List Segment}

theorem before_iff (ha : a.wellFormed) (hb : b.wellFormed) : a.Before b ↔ a.cmp b = .lt := by
  refine ⟨fun ⟨k, l, hk, hl, h⟩ => ?_, before_of_cmp ha hb⟩
  rw [cmp?_key a b k l hk hl] at h
  exact Option.some.inj h

-- Comparing a key with itself is what comparing the segment with itself is.
theorem eq_of_key {k : Key} (ha : a.key = .ok k) (hb : b.key = .ok k) : a = b := by
  have hk : some (a.cmp b) = some (a.cmp a) :=
    (cmp?_key a b k k ha hb).symm.trans (cmp?_key a a k k ha ha)
  rw [cmp_self] at hk
  exact eq_of_cmp a b (Option.some.inj hk)

theorem key_eq_iff (ha : a.wellFormed) : a.key = b.key ↔ a = b := by
  refine ⟨fun h => ?_, congrArg key⟩
  have ⟨k, hk⟩ := a.exists_key ha
  exact eq_of_key hk (h ▸ hk)

theorem before_trichotomy (ha : a.wellFormed) (hb : b.wellFormed) :
    a.Before b ∧ ¬a.same b ∧ ¬b.Before a ∨
    ¬a.Before b ∧ a.same b ∧ ¬b.Before a ∨
    ¬a.Before b ∧ ¬a.same b ∧ b.Before a := by
  rw [same_iff ha, before_iff ha hb, before_iff hb ha, ← cmp_eq_iff, cmp_eq_swap b a]
  cases a.cmp b <;> simp

theorem before_trans (ha : a.wellFormed) (hb : b.wellFormed) (hc : c.wellFormed)
    (hab : a.Before b) (hbc : b.Before c) : a.Before c := by
  rw [before_iff ha hb] at hab
  rw [before_iff hb hc] at hbc
  exact before_of_cmp ha hc (cmp_lt_trans a b c hab hbc)

theorem cmpList_eq_lt_iff (hs : ∀ a ∈ s, a.wellFormed) (ht : ∀ b ∈ t, b.wellFormed) :
    cmpList s t = .lt ↔ List.Lex Before s t := by
  induction s generalizing t
  case nil => cases t <;> simp [cmpList]
  case cons a s hi =>
    cases t
    case nil => simp [cmpList]
    case cons b t =>
      have ⟨ha, hs⟩ := List.forall_mem_cons.mp hs
      have ⟨hb, ht⟩ := List.forall_mem_cons.mp ht
      rw [cmpList, Ordering.then_eq_lt, ← before_iff ha hb, cmp_eq_iff, hi hs ht,
        List.cons_lex_cons_iff]

-- The first segments that differ decide, and if there are none the shorter branch check is first.
theorem branch_before_iff (hs : (branch s).wellFormed) (ht : (branch t).wellFormed) :
    (branch s).Before (branch t) ↔ List.Lex Before s t := by
  rw [before_iff hs ht]
  exact cmpList_eq_lt_iff (forall_wellFormed_of_legalBranch (legalBranch_of_wellFormed hs))
    (forall_wellFormed_of_legalBranch (legalBranch_of_wellFormed ht))

-- The order of the keys is strict and total, and it agrees with being the same.
theorem before_lawful (ha : a.wellFormed) (hb : b.wellFormed) (hc : c.wellFormed) :
    (∃ k l, a.key = .ok k ∧ b.key = .ok l ∧ k.cmp? l = some (a.cmp b)) ∧
    (a.Before b ∧ ¬a.same b ∧ ¬b.Before a ∨
      ¬a.Before b ∧ a.same b ∧ ¬b.Before a ∨
      ¬a.Before b ∧ ¬a.same b ∧ b.Before a) ∧
    (a.Before b → b.Before c → a.Before c) ∧
    (a.key = b.key ↔ a.same b) ∧ (a.same b ↔ a = b) ∧
    ∀ s t, a = .branch s → b = .branch t →
      (a.Before b ↔ List.Lex Before s t) ∧ (s <+: t → s ≠ t → a.Before b) := by
  refine ⟨?_, before_trichotomy ha hb, before_trans ha hb hc, ?_, same_iff ha, ?_⟩
  · have ⟨k, hk⟩ := a.exists_key ha
    have ⟨l, hl⟩ := b.exists_key hb
    exact ⟨k, l, hk, hl, cmp?_key a b k l hk hl⟩
  · rw [same_iff ha, key_eq_iff ha]
  · rintro s t rfl rfl
    exact ⟨branch_before_iff ha hb, fun hp hn => before_of_cmp ha hb (cmpList_of_isPrefix hp hn)⟩

-- A beginning before what it begins, and both before a branch check that has another one in front.
theorem before_lawful_nested :
    (branch [kind "a"]).Before (branch [kind "a", branch [token "b"]]) ∧
    (branch [kind "a", branch [token "b"]]).Before (branch [branch [kind "a"]]) ∧
    (branch [kind "a"]).Before (branch [branch [kind "a"]]) := by
  have ⟨_, _, through, _, _, first⟩ := before_lawful (a := branch [kind "a"])
    (b := branch [kind "a", branch [token "b"]]) (c := branch [branch [kind "a"]]) rfl rfl rfl
  have ⟨_, _, _, _, _, second⟩ := before_lawful (a := branch [kind "a", branch [token "b"]])
    (b := branch [branch [kind "a"]]) (c := kind "a") rfl rfl rfl
  have hab := (first _ _ rfl rfl).right ⟨[branch [token "b"]], rfl⟩ (by simp)
  have hbc := (second _ _ rfl rfl).left.mpr (.rel ⟨_, _, rfl, rfl, rfl⟩)
  exact ⟨hab, hbc, through hab hbc⟩

end Segment

end Highlight
