import Highlight.Proofs.Construction

namespace Highlight

namespace Selector

-- The scope at the end of the selector applies to a position: all its segments match in turn, and
-- only the last may be one that takes the base style alone.
def Applies : Selector → History → Trail → Option String → Prop
  | [], _, _, _ => True
  | segment :: rest, history, trail, token =>
    ∃ reach ∈ segment.found history trail token, match reach with
      | .base => rest = []
      | .further history trail => Applies rest history trail token

end Selector

namespace Style

variable {P : Style → Prop}

-- What holds of a merged style just if it holds of one of the two.
structure Spreads (P : Style → Prop) : Prop where
  empty : ¬P ∅
  merge (s t : Style) : P (s.merge t) ↔ P s ∨ P t

theorem Spreads.foldl_merge (h : Spreads P) (styles : List Style) (s : Style) :
    P (styles.foldl Style.merge s) ↔ P s ∨ ∃ t ∈ styles, P t := by
  induction styles generalizing s
  case nil => simp
  case cons t styles hi =>
    simp only [List.foldl_cons, hi, h.merge, or_assoc, List.exists_mem_cons_iff]

theorem Spreads.exists_merge (h : Spreads P) (a b : Option Style) :
    (∃ s, Option.merge Style.merge a b = some s ∧ P s) ↔
      (∃ s, a = some s ∧ P s) ∨ ∃ s, b = some s ∧ P s := by
  cases a <;> cases b <;> simp [h.merge]

theorem spreads_set (a : Attribute) : Spreads fun s => (s.get a).isSome := by
  refine ⟨by simp, fun s t => ?_⟩
  rw [get_merge]
  cases s.get a <;> cases t.get a
  case some.some => simp only [Setting.cascade]; split <;> simp
  all_goals simp

theorem spreads_important (a : Attribute) : Spreads fun s => (s.get a).any (·.important) := by
  refine ⟨by simp, fun s t => ?_⟩
  rw [get_merge]
  cases s.get a <;> cases t.get a
  case some.some v w =>
    cases hv : v.important <;> cases hw : w.important <;> simp [Setting.cascade, hv, hw]
  all_goals simp

end Style

namespace Sheet

variable {s t : Sheet} {history : History} {trail : Trail} {token : Option String}
  {P : Style → Prop}

-- The scopes that apply to a position are those whose selectors do.
theorem mem_appliedFrom (h : s.Ordered) {before : Selector} {entry : Selector × Style} :
    entry ∈ s.appliedFrom before history trail token ↔
      ∃ path, entry.1 = before ++ path ∧ s.styleAt path = some entry.2 ∧
        path.Applies history trail token := by
  induction h generalizing before history trail
  case node style scopes sorted nested hi =>
    rw [appliedFrom, List.mem_cons, mem_scopesApplied]
    constructor
    case mp =>
      rintro (rfl | ⟨scope, hs, reach, hr, hm⟩)
      · exact ⟨[], by simp, rfl, trivial⟩
      · have hat (path : Selector) :
            (Sheet.node style scopes).styleAt (scope.1 :: path) = scope.2.styleAt path := by
          rw [styleAt_cons, Sheet.scopes, sorted.get?_of_mem hs]
          rfl
        cases reach
        case base =>
          cases List.mem_singleton.mp hm
          exact ⟨[scope.1], rfl, hat [], .base, hr, rfl⟩
        case further history' trail' =>
          obtain ⟨path, hp, hst, ha⟩ := (hi scope hs).mp hm
          exact ⟨scope.1 :: path, by simpa using hp, (hat path).trans hst, _, hr, ha⟩
    case mpr =>
      rintro ⟨path, hp, hst, ha⟩
      cases path
      case nil =>
        cases hst
        exact .inl (Prod.ext (by simpa using hp) rfl)
      case cons segment path =>
        rw [styleAt_cons] at hst
        obtain ⟨d, hd, hst⟩ := Option.bind_eq_some_iff.mp hst
        obtain ⟨reach, hr, ha⟩ := ha
        have hs := Scopes.mem_of_get? hd
        refine .inr ⟨(segment, d), hs, reach, hr, ?_⟩
        cases reach
        case base =>
          subst ha
          exact List.mem_singleton.mpr (Prod.ext hp (Option.some.inj hst).symm)
        case further => exact (hi _ hs).mpr ⟨path, by simpa using hp, hst, ha⟩

-- Some scope that applies to a position has a style with the property.
def Supplies (P : Style → Prop) (s : Sheet) (history : History) (trail : Trail)
    (token : Option String) : Prop :=
  ∃ path : Selector, path.Applies history trail token ∧
    ∃ style, s.styleAt path = some style ∧ P style

theorem resolve_supplies (h : s.WellFormed) (hP : Style.Spreads P) {style : Style}
    (hr : s.resolve history trail token = .ok style) :
    P style ↔ s.Supplies P history trail token := by
  cases (resolve_eq_foldl_applied h history trail token).symm.trans hr
  rw [hP.foldl_merge]
  constructor
  case mp =>
    rintro (he | ⟨t, ht, hp⟩)
    · exact absurd he hP.empty
    · have ⟨entry, hm, he⟩ := List.mem_map.mp ht
      have ⟨path, _, hs, ha⟩ := (mem_appliedFrom h.ordered).mp hm
      exact ⟨path, ha, entry.2, hs, he ▸ hp⟩
  case mpr =>
    intro ⟨path, ha, style, hs, hp⟩
    have hm : (path, style) ∈ s.applied history trail token :=
      (mem_appliedFrom h.ordered).mpr ⟨path, rfl, hs, ha⟩
    exact .inr ⟨style, List.mem_map_of_mem hm, hp⟩

theorem supplies_merge (hs : s.Ordered) (ht : t.Ordered) (hP : Style.Spreads P) :
    (s.merge t).Supplies P history trail token ↔
      s.Supplies P history trail token ∨ t.Supplies P history trail token := by
  simp only [Supplies, styleAt_merge hs ht, hP.exists_merge, and_or_left, exists_or]

theorem resolve_merge_spreads (hs : s.WellFormed) (ht : t.WellFormed) (hP : Style.Spreads P)
    {m u v : Style} (hm : (s.merge t).resolve history trail token = .ok m)
    (hu : s.resolve history trail token = .ok u) (hv : t.resolve history trail token = .ok v) :
    P m ↔ P u ∨ P v := by
  rw [resolve_supplies (hs.merge ht) hP hm, resolve_supplies hs hP hu, resolve_supplies ht hP hv]
  exact supplies_merge hs.ordered ht.ordered hP

-- Merging two sheets hides no attribute: a position gets it from the merged sheet if it gets it
-- from either of the two, and as important if either has it as important. The value may be the one
-- or the other.
theorem resolve_merge_attributes (hs : s.WellFormed) (ht : t.WellFormed) (history : History)
    (trail : Trail) (token : Option String) :
    ∃ m u v, (s.merge t).resolve history trail token = .ok m ∧
      s.resolve history trail token = .ok u ∧ t.resolve history trail token = .ok v ∧
      ∀ a, ((m.get a).isSome ↔ (u.get a).isSome ∨ (v.get a).isSome) ∧
        ((m.get a).any (·.important) ↔
          (u.get a).any (·.important) ∨ (v.get a).any (·.important)) := by
  have hm := resolve_eq_foldl token _ (hs.merge ht) history trail
  have hu := resolve_eq_foldl token _ hs history trail
  have hv := resolve_eq_foldl token _ ht history trail
  refine ⟨_, _, _, hm, hu, hv, fun a => ⟨?_, ?_⟩⟩
  · exact resolve_merge_spreads hs ht (Style.spreads_set a) hm hu hv
  · exact resolve_merge_spreads hs ht (Style.spreads_important a) hm hu hv

-- A scope of the second sheet comes before one of the first. Resolving the merged sheet is not the
-- same as merging what the two resolve to.
def outer : Sheet :=
  .node ∅ [(.kind "call", .node { bold := some ⟨true, false⟩ } [
    (.branch [.token "async"], .node { dim := some ⟨true, true⟩ } [])])]

def inner : Sheet :=
  .node { bold := some ⟨false, false⟩ } [(.kind "call", .node ∅ [
    (.kind "name", .node { dim := some ⟨false, false⟩ } [])])]

theorem resolve_merge_attributes_interleaved : outer.WellFormed ∧ inner.WellFormed ∧
    ∃ m u v,
      (outer.merge inner).resolve [.node "call" [.leaf "async"]] [⟨"call", 0⟩, ⟨"name", 1⟩] none =
        .ok m ∧
      outer.resolve [.node "call" [.leaf "async"]] [⟨"call", 0⟩, ⟨"name", 1⟩] none = .ok u ∧
      inner.resolve [.node "call" [.leaf "async"]] [⟨"call", 0⟩, ⟨"name", 1⟩] none = .ok v ∧
      m.bold ≠ (u.merge v).bold ∧
      ∀ a, ((m.get a).isSome ↔ (u.get a).isSome ∨ (v.get a).isSome) ∧
        ((m.get a).any (·.important) ↔
          (u.get a).any (·.important) ∨ (v.get a).any (·.important)) := by
  have outerFormed : outer.WellFormed := .single rfl (.single rfl (.leaf _))
  have innerFormed : inner.WellFormed := .single rfl (.single rfl (.leaf _))
  have ⟨m, u, v, hm, hu, hv, h⟩ := resolve_merge_attributes outerFormed innerFormed
    [.node "call" [.leaf "async"]] [⟨"call", 0⟩, ⟨"name", 1⟩] none
  refine ⟨outerFormed, innerFormed, m, u, v, hm, hu, hv, ?_, h⟩
  cases hm
  cases hu
  cases hv
  decide

end Sheet

end Highlight
