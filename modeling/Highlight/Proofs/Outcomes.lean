import Highlight.CommandLine.Cat
import Mathlib.Data.List.Forall2

namespace Highlight

namespace CommandLine

namespace Message

-- What shows of a message without a log.
def quiet : Message → String
  | .text t => plain t
  | .event _ => ""

theorem render_false (messages : List Message) (store : PatternStore) :
    render false messages store = String.join (messages.map quiet) := by
  induction messages generalizing store
  case nil            => rfl
  case cons m rest hi => cases m <;> simp [render, hi, quiet]

theorem render_events (events : List Event) (store : PatternStore) :
    render false (events.map event) store = "" := by
  induction events generalizing store
  case nil            => rfl
  case cons e rest hi => simp [render, hi]

end Message

namespace Outcome

theorem errorText_false (o : Outcome) :
    o.errorText false = String.join (o.messages.map Message.quiet) :=
  Message.render_false o.messages {}

theorem errorText_append (a b : Outcome) :
    (a.append b).errorText false = a.errorText false ++ b.errorText false := by
  simp [errorText_false, append]

-- Without a log, an outcome shows as some outcomes one after the other. It has failed if one of
-- them has, and ends with the failure with which one of them ends.
structure Comprises (o : Outcome) (os : List Outcome) : Prop where
  output : o.output = String.join (os.map (·.output))
  errors : o.errorText false = String.join (os.map (·.errorText false))
  status : o.status ≤ 1
  failed : o.status = 1 ↔ ∃ p ∈ os, p.status = 1
  failure : o.failure = os.findSome? (·.failure)

-- Without a log, two outcomes show in the same way.
structure Alike (a b : Outcome) : Prop where
  output : a.output = b.output
  errors : a.errorText false = b.errorText false
  status : a.status = b.status
  failure : a.failure = b.failure

variable {os ps : List Outcome} {o p : Outcome}

theorem output_foldl (os : List Outcome) (o : Outcome) :
    (os.foldl append o).output = o.output ++ String.join (os.map (·.output)) := by
  induction os generalizing o
  case nil          => simp
  case cons p os hi => rw [List.foldl_cons, hi]; simp [append, String.append_assoc]

theorem errorText_foldl (os : List Outcome) (o : Outcome) : (os.foldl append o).errorText false =
    o.errorText false ++ String.join (os.map (·.errorText false)) := by
  induction os generalizing o
  case nil          => simp
  case cons p os hi => rw [List.foldl_cons, hi, errorText_append]; simp [String.append_assoc]

theorem failure_foldl (os : List Outcome) (o : Outcome) :
    (os.foldl append o).failure = o.failure.or (os.findSome? (·.failure)) := by
  induction os generalizing o
  case nil          => simp
  case cons p os hi =>
    rw [List.foldl_cons, hi, append, Option.or_assoc, List.findSome?_cons]
    cases p.failure <;> rfl

-- The status is the worst of all.
theorem le_status_foldl {n : Nat} :
    n ≤ (os.foldl append o).status ↔ n ≤ o.status ∨ ∃ p ∈ os, n ≤ p.status := by
  induction os generalizing o
  case nil          => simp
  case cons p os hi =>
    rw [List.foldl_cons, hi, append, Std.le_max, or_assoc, List.exists_mem_cons_iff]

theorem comprises_foldl (ho : o.Alike {}) (hs : ∀ p ∈ os, p.status ≤ 1) :
    (os.foldl append o).Comprises os := by
  have h₀ : o.status = 0 := ho.status
  have hle : (os.foldl append o).status ≤ 1 := by
    by_contra h
    obtain h | ⟨p, hp, h⟩ := le_status_foldl.mp (Nat.lt_of_not_le h)
    · omega
    · exact absurd (hs p hp) (Nat.not_le.mpr h)
  refine ⟨?_, ?_, hle, ⟨fun h => ?_, fun ⟨p, hp, h⟩ => ?_⟩, ?_⟩
  · rw [output_foldl, ho.output, String.empty_append]
  · rw [errorText_foldl, ho.errors]
    exact String.empty_append
  · obtain h | ⟨p, hp, h⟩ := le_status_foldl.mp (Nat.le_of_eq h.symm)
    · omega
    · exact ⟨p, hp, Nat.le_antisymm (hs p hp) h⟩
  · exact Nat.le_antisymm hle (le_status_foldl.mpr (.inr ⟨p, hp, Nat.le_of_eq h.symm⟩))
  · rw [failure_foldl, ho.failure]
    rfl

-- If all outcomes fail in one way and show nothing, then so do all together.
theorem comprises_of_alike {f : Failure} (hn : os ≠ [])
    (ho : o.Alike { status := 1, failure := some f })
    (hs : ∀ p ∈ os, p.Alike { status := 1, failure := some f }) : o.Comprises os := by
  have none_shows (g : Outcome → String) (hg : ∀ p ∈ os, g p = "") :
      String.join (os.map g) = "" := by
    rw [← String.toList_inj, String.toList_join, List.flatMap_map, List.flatMap_eq_nil_iff.mpr]
    · rfl
    · exact fun p hp => by rw [hg p hp]; rfl
  have ⟨p, ps, he⟩ := List.exists_cons_of_ne_nil hn
  subst he
  have hp := hs p List.mem_cons_self
  refine ⟨?_, ?_, Nat.le_of_eq ho.status, ?_, ?_⟩
  · rw [ho.output, none_shows _ fun p hp => (hs p hp).output]
  · rw [ho.errors, none_shows _ fun p hp => (hs p hp).errors]
    rfl
  · exact ⟨fun _ => ⟨p, List.mem_cons_self, hp.status⟩, fun _ => ho.status⟩
  · rw [ho.failure, List.findSome?_cons, hp.failure]

theorem Comprises.congr (h : o.Comprises os) (hl : List.Forall₂ Alike ps os) : o.Comprises ps := by
  have maps {β : Type} (f : Outcome → β) (hf : ∀ a b, Alike a b → f a = f b) :
      ps.map f = os.map f := by
    rw [← List.forall₂_eq_eq_eq, List.forall₂_map_left_iff, List.forall₂_map_right_iff]
    exact hl.imp hf
  have failures : ps.findSome? (·.failure) = os.findSome? (·.failure) := by
    have (l : List Outcome) : l.findSome? (·.failure) = (l.map (·.failure)).findSome? id := by
      rw [List.findSome?_map]
      rfl
    rw [this, this, maps _ fun _ _ h => h.failure]
  refine ⟨?_, ?_, h.status, ?_, h.failure.trans failures.symm⟩
  · rw [maps _ fun _ _ h => h.output, h.output]
  · rw [maps _ fun _ _ h => h.errors, h.errors]
  · rw [h.failed, ← List.mem_map, ← List.mem_map, maps _ fun _ _ h => h.status]

theorem Comprises.alike (h : o.Comprises [p]) (hp : p.status ≤ 1) : o.Alike p := by
  have := h.status
  have := h.failed
  refine ⟨by simpa using h.output, by simpa using h.errors, ?_, by simpa using h.failure⟩
  simp at this
  omega

theorem untilFailure_eq (os : List Outcome) : untilFailure os =
    os.takeWhile (·.failure.isNone) ++ (os.find? (·.failure.isSome)).toList := by
  induction os
  case nil            => rfl
  case cons o rest hi => cases h : o.failure <;> simp [untilFailure, h, hi]

theorem mem_of_mem_untilFailure (h : p ∈ untilFailure os) : p ∈ os := by
  fun_induction untilFailure os <;> grind

theorem untilFailure_ne_nil (h : os ≠ []) : untilFailure os ≠ [] := by
  fun_cases untilFailure os <;> simp_all

theorem untilFailure_eq_self (h : ∀ p ∈ os, p.failure = none) : untilFailure os = os := by
  fun_induction untilFailure os <;> grind

theorem untilFailure_congr (hl : List.Forall₂ Alike ps os) :
    List.Forall₂ Alike (untilFailure ps) (untilFailure os) := by
  induction hl
  case nil => exact .nil
  case cons h _ hi =>
    rw [untilFailure, untilFailure, h.failure]
    split
    case isTrue  => exact .cons h .nil
    case isFalse => exact .cons h hi

end Outcome

end CommandLine

end Highlight
