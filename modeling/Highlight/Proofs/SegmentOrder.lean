import Highlight.Segment.Order

namespace Highlight

open Std (LawfulEqCmp OrientedCmp ReflCmp TransCmp)

-- A comparison that is lawful at equality, turns round and is transitive where it is strict.
theorem transCmp_of_lt_trans {α : Type} {cmp : α → α → Ordering} [OrientedCmp cmp]
    (eq : ∀ {a b}, cmp a b = .eq → a = b)
    (lt : ∀ {a b c}, cmp a b = .lt → cmp b c = .lt → cmp a c = .lt) : TransCmp cmp where
  isLE_trans {a b c} hab hbc := by
    rw [Ordering.isLE_iff_eq_lt_or_eq_eq] at hab hbc ⊢
    cases hab
    case inr hab => exact eq hab ▸ hbc
    case inl hab =>
      cases hbc
      case inr hbc => exact .inl (eq hbc ▸ hab)
      case inl hbc => exact .inl (lt hab hbc)

namespace Atom

theorem cmp_eq_compareLex :
    cmp = compareLex (fun a b => compare a.rank b.rank) (fun a b => compare a.payload b.payload) :=
  rfl

instance : TransCmp cmp := by
  have : TransCmp fun a b : Atom => compare a.rank b.rank :=
    inferInstanceAs (TransCmp (compareOn rank))
  have : TransCmp fun a b : Atom => compare a.payload b.payload :=
    inferInstanceAs (TransCmp (compareOn payload))
  rw [cmp_eq_compareLex]
  infer_instance

instance : LawfulEqCmp cmp where
  eq_of_compare h := by
    have ⟨hr, hp⟩ := Ordering.then_eq_eq.mp h
    exact eq_of_rank_payload (Std.LawfulEqCmp.eq_of_compare hr) (Std.LawfulEqCmp.eq_of_compare hp)

end Atom

namespace Foreign

instance : OrientedCmp cmp where
  eq_swap {f g} := by
    cases f <;> cases g <;> simp only [cmp, Ordering.swap_lt, Ordering.swap_eq, Ordering.swap_gt]
    exact OrientedCmp.eq_swap

instance : LawfulEqCmp cmp where
  compare_self {f} := by cases f <;> simp [cmp]
  eq_of_compare {f g} h := by
    cases f <;> cases g <;> simp_all [cmp]

instance : TransCmp cmp :=
  transCmp_of_lt_trans LawfulEqCmp.eq_of_compare fun {f g h} hfg hgh => by
    cases f <;> cases g <;> simp [cmp] at hfg <;> cases h <;> simp [cmp] at hgh ⊢
    exact TransCmp.lt_trans hfg hgh

end Foreign

namespace Segment

mutual

theorem cmp_self : (s : Segment) → s.cmp s = .eq
  | foreign _ | atom _ | child _ => by simp only [cmp, ReflCmp.compare_self]
  | branch s => cmpList_self s
termination_by structural s => s

theorem cmpList_self : (s : List Segment) → cmpList s s = .eq
  | [] => rfl
  | a :: s => Ordering.then_eq_eq.mpr ⟨cmp_self a, cmpList_self s⟩
termination_by structural s => s

end

mutual

theorem eq_of_cmp : (s t : Segment) → s.cmp t = .eq → s = t
  | foreign f, t, h => by
    cases t <;> simp only [cmp, reduceCtorEq] at h
    rw [LawfulEqCmp.eq_of_compare h]
  | atom a, t, h => by
    cases t <;> simp only [cmp, reduceCtorEq] at h
    rw [LawfulEqCmp.eq_of_compare h]
  | child a, t, h => by
    cases t <;> simp only [cmp, reduceCtorEq] at h
    rw [LawfulEqCmp.eq_of_compare h]
  | branch s, t, h => by
    cases t <;> simp only [cmp, reduceCtorEq] at h
    rw [eq_of_cmpList s _ h]
termination_by structural s => s

theorem eq_of_cmpList : (s t : List Segment) → cmpList s t = .eq → s = t
  | [], [], _ => rfl
  | a :: s, b :: t, h => by
    have ⟨ha, hs⟩ := Ordering.then_eq_eq.mp h
    rw [eq_of_cmp a b ha, eq_of_cmpList s t hs]
termination_by structural s => s

end

mutual

theorem cmp_eq_swap : (s t : Segment) → s.cmp t = (t.cmp s).swap
  | foreign _, t => by
    cases t <;> simp only [cmp, Ordering.swap_gt]
    exact OrientedCmp.eq_swap
  | atom _, t => by
    cases t <;> simp only [cmp, Ordering.swap_lt, Ordering.swap_gt]
    exact OrientedCmp.eq_swap
  | child _, t => by
    cases t <;> simp only [cmp, Ordering.swap_lt, Ordering.swap_gt]
    exact OrientedCmp.eq_swap
  | branch s, t => by
    cases t <;> try rfl
    exact cmpList_eq_swap s _
termination_by structural s => s

theorem cmpList_eq_swap : (s t : List Segment) → cmpList s t = (cmpList t s).swap
  | [], [] | [], _ :: _ | _ :: _, [] => rfl
  | a :: s, b :: t => by
    rw [cmpList, cmpList, Ordering.swap_then, cmp_eq_swap a b, cmpList_eq_swap s t]
termination_by structural s => s

end

instance : LawfulEqCmp cmp where
  compare_self := cmp_self _
  eq_of_compare := eq_of_cmp _ _

instance : OrientedCmp cmp where
  eq_swap := cmp_eq_swap _ _

mutual

theorem cmp_lt_trans : (s t u : Segment) → s.cmp t = .lt → t.cmp u = .lt → s.cmp u = .lt
  | foreign _, t, u, hst, htu => by
    cases t <;> cases u <;> simp only [cmp, reduceCtorEq] at hst htu ⊢
    exact TransCmp.lt_trans hst htu
  | atom _, t, u, hst, htu => by
    cases t <;> simp only [cmp, reduceCtorEq] at hst <;>
      cases u <;> simp only [cmp, reduceCtorEq] at htu ⊢
    exact TransCmp.lt_trans hst htu
  | child _, t, u, hst, htu => by
    cases t <;> simp only [cmp, reduceCtorEq] at hst <;>
      cases u <;> simp only [cmp, reduceCtorEq] at htu ⊢
    exact TransCmp.lt_trans hst htu
  | branch s, t, u, hst, htu => by
    cases t <;> simp only [cmp, reduceCtorEq] at hst
    cases u <;> simp only [cmp, reduceCtorEq] at htu ⊢
    exact cmpList_lt_trans s _ _ hst htu
termination_by structural s => s

theorem cmpList_lt_trans : (s t u : List Segment) → cmpList s t = .lt → cmpList t u = .lt →
    cmpList s u = .lt
  | [], _ :: _, _ :: _, _, _ => rfl
  | a :: s, b :: t, c :: u, hst, htu => by
    rw [cmpList, Ordering.then_eq_lt] at hst htu ⊢
    -- The first place where a pair differs decides, so equal heads are exchanged for each other.
    cases hst
    case inl hab =>
      cases htu
      case inl hbc => exact .inl (cmp_lt_trans a b c hab hbc)
      case inr hbc => exact .inl (eq_of_cmp b c hbc.left ▸ hab)
    case inr hab =>
      cases eq_of_cmp a b hab.left
      exact htu.imp_right fun ⟨hac, htu⟩ => ⟨hac, cmpList_lt_trans s t u hab.right htu⟩
termination_by structural s => s

end

instance : TransCmp cmp :=
  transCmp_of_lt_trans (eq_of_cmp _ _) (cmp_lt_trans _ _ _)

theorem cmp_eq_iff {s t : Segment} : s.cmp t = .eq ↔ s = t :=
  Std.LawfulEqCmp.compare_eq_iff_eq

instance : DecidableEq Segment := fun s t =>
  decidable_of_iff (s.cmp t = .eq) cmp_eq_iff

end Segment

end Highlight
