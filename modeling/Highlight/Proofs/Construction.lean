import Highlight.Proofs.Application
import Highlight.Proofs.Keys
import Highlight.Proofs.Legality
import Highlight.Sheet.Attempt

namespace Highlight

namespace Segment

variable {s t : Segment}

mutual

theorem holdsBare_of_wellFormed : (s : Segment) → s.wellFormed → s.holdsBare = false
  | atom _, _ | child _, _ => rfl
  | branch selector, h => someHoldsBare_of_wellFormed selector <|
    forall_wellFormed_of_legalBranch (legalBranch_of_wellFormed h)
termination_by structural s => s

theorem someHoldsBare_of_wellFormed : (selector : List Segment) →
    (∀ s ∈ selector, s.wellFormed) → someHoldsBare selector = false
  | [], _ => rfl
  | s :: rest, h => by
    obtain ⟨hs, hr⟩ := List.forall_mem_cons.mp h
    rw [someHoldsBare, holdsBare_of_wellFormed s hs, someHoldsBare_of_wellFormed rest hr]
    rfl
termination_by structural selector => selector

end

theorem same_iff (h : s.wellFormed) : s.same t ↔ s = t := by
  simp [same, holdsBare_of_wellFormed s h]

end Segment

namespace Sheet

variable {s t : Sheet} {f : Sheet → Sheet} {segment : Segment} {selector : Selector}

namespace Scopes

variable {scopes : Scopes}

theorem obstacle?_eq_none (legal : ∀ scope ∈ scopes, scope.1.wellFormed) :
    obstacle? scopes = none := by
  have ⟨ks, hk⟩ := Segment.exists_keys (scopes.map (·.1)) (by simpa using legal)
  rw [obstacle?, hk]

theorem lookup?_eq_get? (legal : ∀ scope ∈ scopes, scope.1.wellFormed) (segment : Segment) :
    lookup? segment scopes = get? segment scopes := by
  induction scopes
  case nil => rfl
  case cons scope rest hi =>
    have ⟨hl, hls⟩ := List.forall_mem_cons.mp legal
    have hc : lookup? segment (scope :: rest) =
        if scope.1.same segment then some scope.2 else lookup? segment rest := by
      rw [lookup?, List.find?_cons]
      cases hs : scope.1.same segment <;> simp [hs, lookup?]
    simp only [hc, get?_cons, hi hls, Segment.same_iff hl, eq_comm]

-- Only the sheet below the segment is changed, so it does not matter what the change would do to
-- others.
theorem Sorted.update_eq (h : Sorted scopes) (segment : Segment) (f : Sheet → Sheet) :
    Scopes.update segment f scopes =
      Scopes.update segment (fun _ => f ((get? segment scopes).getD ∅)) scopes :=
  h.update.ext h.update fun q => by rw [h.get?_update, h.get?_update]

theorem replace_of_forall_ne (legal : ∀ scope ∈ scopes, scope.1.wellFormed)
    (hn : ∀ scope ∈ scopes, scope.1 ≠ segment) (d : Sheet) : replace segment d scopes = scopes := by
  refine (List.map_congr_left fun scope hs => ?_).trans (List.map_id _)
  have hf : ¬scope.1.same segment := by
    rw [Segment.same_iff (legal scope hs)]
    exact hn scope hs
  show (scope.1, if scope.1.same segment then d else scope.2) = scope
  rw [if_neg hf]

theorem Sorted.replace_eq (h : Sorted scopes) (legal : ∀ scope ∈ scopes, scope.1.wellFormed)
    (hg : get? segment scopes = some t) (d : Sheet) :
    replace segment d scopes = Scopes.update segment (fun _ => d) scopes := by
  induction scopes
  case nil => cases hg
  case cons scope rest hi =>
    have ⟨hlt, hr⟩ := List.pairwise_cons.mp h
    have ⟨hl, hls⟩ := List.forall_mem_cons.mp legal
    have hc : replace segment d (scope :: rest) =
        (scope.1, if scope.1.same segment then d else scope.2) :: replace segment d rest := rfl
    rw [get?_cons] at hg
    rw [hc, Scopes.update]
    split at hg
    case isTrue he =>
      subst he
      have hn : ∀ b ∈ rest, b.1 ≠ scope.1 := by
        intro b hb he
        have := hlt b hb
        simp [he, Segment.cmp_self] at this
      rw [if_pos ((Segment.same_iff hl).mpr rfl), replace_of_forall_ne hls hn, Segment.cmp_self]
    case isFalse he =>
      have hgt : segment.cmp scope.1 = .gt :=
        Std.OrientedCmp.gt_iff_lt.mpr (hlt _ (mem_of_get? hg))
      have hs : ¬scope.1.same segment := fun hs => he ((Segment.same_iff hl).mp hs).symm
      rw [if_neg hs, hi hr hls hg, hgt]

end Scopes

namespace WellFormed

theorem empty : WellFormed ∅ := .leaf ∅

theorem legal (h : s.WellFormed) : ∀ scope ∈ s.scopes, scope.1.wellFormed :=
  fun _ hm => (h.of_mem hm).left

theorem nested (h : s.WellFormed) : ∀ scope ∈ s.scopes, scope.2.WellFormed :=
  fun _ hm => (h.of_mem hm).right

theorem sorted (h : s.WellFormed) : s.scopes.Sorted := h.ordered.scopes

theorem declare (h : s.WellFormed) (style : Style) : (s.declare style).WellFormed :=
  .node h.legal h.sorted h.nested

theorem update (h : s.WellFormed) (hs : segment.wellFormed)
    (hf : ∀ d : Sheet, d.WellFormed → (f d).WellFormed) : (s.update segment f).WellFormed :=
  .node (Scopes.forall_mem_update h.legal hs fun _ h => h) h.sorted.update <|
    Scopes.forall_mem_update h.nested (hf ∅ .empty) fun d hd => hf d hd

theorem updateAt (h : s.WellFormed) (legal : ∀ segment ∈ selector, segment.wellFormed)
    (hf : ∀ d : Sheet, d.WellFormed → (f d).WellFormed) : (s.updateAt selector f).WellFormed := by
  induction selector generalizing s
  case nil => exact hf s h
  case cons segment rest hi =>
    have ⟨hs, hr⟩ := List.forall_mem_cons.mp legal
    exact h.update hs fun d hd => hi hd hr

theorem mergeScopes {scopes : Scopes} (h : s.WellFormed)
    (legal : ∀ scope ∈ scopes, scope.1.wellFormed)
    (hm : ∀ scope ∈ scopes, ∀ d : Sheet, d.WellFormed → (d.merge scope.2).WellFormed) :
    (s.mergeScopes scopes).WellFormed := by
  induction scopes generalizing s
  case nil => exact h
  case cons scope rest hi =>
    have ⟨hl, hls⟩ := List.forall_mem_cons.mp legal
    have ⟨hd, hr⟩ := List.forall_mem_cons.mp hm
    exact hi (h.update hl hd) hls hr

theorem merge (hs : s.WellFormed) (ht : t.WellFormed) : (s.merge t).WellFormed := by
  induction ht generalizing s
  case node style scopes legal _ _ hi =>
    exact (hs.declare style).mergeScopes legal fun d hd s hs => hi d hd hs

theorem foldl_update {scopes : Scopes} (h : s.WellFormed)
    (legal : ∀ scope ∈ scopes, scope.1.wellFormed) (nested : ∀ scope ∈ scopes, scope.2.WellFormed) :
    (scopes.foldl (fun s scope => s.update scope.1 fun _ => scope.2) s).WellFormed := by
  induction scopes generalizing s
  case nil => exact h
  case cons scope rest hi =>
    have ⟨hl, hls⟩ := List.forall_mem_cons.mp legal
    have ⟨hn, hns⟩ := List.forall_mem_cons.mp nested
    exact hi (h.update hl fun _ _ => hn) hls hns

end WellFormed

-- One step of a change that may meet an obstacle: below segments that can be built it meets none.
theorem attempt_eq (h : s.WellFormed) (hs : segment.wellFormed) {g : Sheet → Attempt}
    (hg : ∀ d : Sheet, d.WellFormed → g d = ⟨f d, none⟩) :
    s.attempt segment g = ⟨s.update segment f, none⟩ := by
  rw [attempt, update, h.sorted.update_eq segment f, Scopes.lookup?_eq_get? h.legal]
  cases hd : Scopes.get? segment s.scopes
  case some d =>
    simp only [hg d (h.nested _ (Scopes.mem_of_get? hd)), h.sorted.replace_eq h.legal hd,
      Option.getD_some]
  case none =>
    have ho : Scopes.obstacle? (s.scopes ++ [(segment, ∅)]) = none :=
      Scopes.obstacle?_eq_none <| List.forall_mem_append.mpr ⟨h.legal, by simpa using hs⟩
    simp only [ho, hg ∅ .empty, update, Option.getD_none]

theorem attemptAt_eq (h : s.WellFormed) (legal : ∀ segment ∈ selector, segment.wellFormed)
    (f : Sheet → Sheet) : s.attemptAt selector f = ⟨s.updateAt selector f, none⟩ := by
  induction selector generalizing s
  case nil => rfl
  case cons segment rest hi =>
    have ⟨hs, hr⟩ := List.forall_mem_cons.mp legal
    exact attempt_eq h hs fun d hd => hi hd hr

theorem attemptScopes_eq {scopes : Scopes} (h : s.WellFormed)
    (legal : ∀ scope ∈ scopes, scope.1.wellFormed) (nested : ∀ scope ∈ scopes, scope.2.WellFormed)
    (hm : ∀ scope ∈ scopes, ∀ d : Sheet, d.WellFormed →
      d.attemptMerge scope.2 = ⟨d.merge scope.2, none⟩) :
    s.attemptScopes scopes = ⟨s.mergeScopes scopes, none⟩ := by
  induction scopes generalizing s
  case nil => rfl
  case cons scope rest hi =>
    have ⟨hl, hls⟩ := List.forall_mem_cons.mp legal
    have ⟨hn, hns⟩ := List.forall_mem_cons.mp nested
    have ⟨hd, hr⟩ := List.forall_mem_cons.mp hm
    rw [attemptScopes, attempt_eq h hl hd]
    exact hi (h.update hl fun d hd => hd.merge hn) hls hns hr

theorem attemptMerge_eq (hs : s.WellFormed) (ht : t.WellFormed) :
    s.attemptMerge t = ⟨s.merge t, none⟩ := by
  induction ht generalizing s
  case node style scopes legal _ nested hi =>
    exact attemptScopes_eq (hs.declare style) legal nested fun scope hm d hd => hi scope hm hd

-- A sheet that can be built from segments that can be built. Scopes are made and changed at the end
-- of a selector, which may be empty.
inductive Built : Sheet → Prop
  | empty : Built ∅
  | obtained {s : Sheet} (h : s.Obtained) : Built s
  | scopes {style : Style} {scopes : Scopes} {s : Sheet}
    (legal : ∀ scope ∈ scopes, scope.1.wellFormed) (nested : ∀ scope ∈ scopes, scope.2.Built)
    (h : ofScopes? style scopes = .ok s) : Built s
  | scopeAt {selector : Selector} {s : Sheet} (legal : ∀ segment ∈ selector, segment.wellFormed) :
    Built s → Built (s.updateAt selector id)
  | declareAt {selector : Selector} {style : Style} {s : Sheet}
    (legal : ∀ segment ∈ selector, segment.wellFormed) :
    Built s → Built (s.declareAt selector style)
  | mergeAt {selector : Selector} {s t : Sheet}
    (legal : ∀ segment ∈ selector, segment.wellFormed) :
    Built s → Built t → Built (s.updateAt selector (·.merge t))

theorem ofScopes?_eq {style : Style} {scopes : Scopes}
    (legal : ∀ scope ∈ scopes, scope.1.wellFormed) :
    ofScopes? style scopes = .ok (ofScopes style scopes) := by
  rw [ofScopes?, Scopes.obstacle?_eq_none legal]

theorem Built.wellFormed (h : s.Built) : s.WellFormed := by
  induction h
  case empty => exact .empty
  case obtained h => exact h.wellFormed
  case scopes legal _ h hi =>
    cases (ofScopes?_eq legal).symm.trans h
    exact .foldl_update (.leaf _) legal hi
  case scopeAt legal _ hi => exact hi.updateAt legal fun _ hd => hd
  case declareAt style _ legal _ hi => exact hi.updateAt legal fun d hd => hd.declare style
  case mergeAt legal _ _ hs ht => exact hs.updateAt legal fun d hd => hd.merge ht

end Sheet

end Highlight
