import Highlight.Proofs.Cascade
import Highlight.Proofs.SegmentOrder
import Highlight.Sheet.Basic

namespace Highlight

namespace Sheet

variable {s t u : Sheet} {f g : Sheet → Sheet} {segment : Segment}

namespace Scopes

variable {scopes left right : Scopes}

-- Segments stand in canonical order, and so none of them stands twice.
def Sorted (scopes : Scopes) : Prop :=
  scopes.Pairwise fun a b => a.1.cmp b.1 = .lt

@[simp] theorem get?_nil (segment : Segment) : get? segment [] = none := rfl

theorem get?_cons (segment : Segment) (scope : Segment × Sheet) (rest : Scopes) :
    get? segment (scope :: rest) =
      if segment = scope.1 then some scope.2 else get? segment rest := by
  by_cases h : segment = scope.1
  case pos => simp [get?, h, Segment.cmp_self]
  case neg =>
    have hc : (segment.cmp scope.1 == .eq) = false := by simpa [Segment.cmp_eq_iff] using h
    simp [get?, h, hc]

theorem get?_eq_none (h : ∀ scope ∈ scopes, scope.1 ≠ segment) : get? segment scopes = none := by
  induction scopes
  case nil => rfl
  case cons scope rest hi =>
    have ⟨hs, hr⟩ := List.forall_mem_cons.mp h
    rw [get?_cons, if_neg hs.symm, hi hr]

theorem mem_of_get? (h : get? segment scopes = some t) : (segment, t) ∈ scopes := by
  induction scopes
  case nil => cases h
  case cons scope rest hi =>
    rw [get?_cons] at h
    split at h
    case isTrue hs => cases h; exact hs ▸ List.mem_cons_self
    case isFalse => exact List.mem_cons_of_mem _ (hi h)

-- What is below the first segment of a level is not found again after it.
theorem Sorted.get?_tail {scope : Segment × Sheet} (h : Sorted (scope :: scopes)) :
    get? scope.1 scopes = none := by
  refine get?_eq_none fun b hb he => ?_
  have := (List.pairwise_cons.mp h).left b hb
  simp [he, Segment.cmp_self] at this

theorem forall_mem_update {P : Segment × Sheet → Prop} (h : ∀ scope ∈ scopes, P scope)
    (empty : P (segment, f ∅)) (step : ∀ d, P (segment, d) → P (segment, f d)) :
    ∀ scope ∈ update segment f scopes, P scope := by
  induction scopes
  case nil => simpa [update] using empty
  case cons scope rest hi =>
    have ⟨hs, hr⟩ := List.forall_mem_cons.mp h
    rw [update]
    split
    case h_1 => exact List.forall_mem_cons.mpr ⟨empty, h⟩
    case h_2 he =>
      cases Segment.eq_of_cmp _ _ he
      exact List.forall_mem_cons.mpr ⟨step _ hs, hr⟩
    case h_3 => exact List.forall_mem_cons.mpr ⟨hs, hi hr⟩

theorem update_congr (empty : f ∅ = g ∅) (h : ∀ scope ∈ scopes, f scope.2 = g scope.2) :
    update segment f scopes = update segment g scopes := by
  induction scopes
  case nil => simp [update, empty]
  case cons scope rest hi =>
    have ⟨hs, hr⟩ := List.forall_mem_cons.mp h
    simp only [update, empty, hs, hi hr]

theorem Sorted.update (h : Sorted scopes) : Sorted (update segment f scopes) := by
  induction scopes
  case nil => exact List.pairwise_singleton _ _
  case cons scope rest hi =>
    have ⟨hlt, hr⟩ := List.pairwise_cons.mp h
    rw [Scopes.update]
    split
    case h_1 hs =>
      refine List.pairwise_cons.mpr ⟨List.forall_mem_cons.mpr ⟨hs, fun b hb => ?_⟩, h⟩
      exact Std.TransCmp.lt_trans hs (hlt b hb)
    case h_2 hs => exact List.pairwise_cons.mpr ⟨hlt, hr⟩
    case h_3 hs =>
      have hs := Std.OrientedCmp.gt_iff_lt.mp hs
      exact List.pairwise_cons.mpr ⟨forall_mem_update hlt hs fun _ h => h, hi hr⟩

theorem Sorted.get?_update (h : Sorted scopes) (q : Segment) :
    get? q (Scopes.update segment f scopes) =
      if q = segment then some (f ((get? segment scopes).getD ∅)) else get? q scopes := by
  induction scopes
  case nil => simp [Scopes.update, get?_cons]
  case cons scope rest hi =>
    have ⟨hlt, hr⟩ := List.pairwise_cons.mp h
    rw [Scopes.update]
    split
    case h_1 hs =>
      -- The new segment comes before all others, so it is none of them.
      have hn : get? segment (scope :: rest) = none := by
        refine get?_eq_none (List.forall_mem_cons.mpr ⟨?_, fun b hb he => ?_⟩)
        · rintro rfl
          simp [Segment.cmp_self] at hs
        · have := Std.TransCmp.lt_trans hs (hlt b hb)
          simp [he, Segment.cmp_self] at this
      rw [get?_cons, hn]
      rfl
    case h_2 hs =>
      cases Segment.eq_of_cmp _ _ hs
      by_cases hq : q = scope.1 <;> simp [get?_cons, hq]
    case h_3 hs =>
      have hne : segment ≠ scope.1 := fun he => by simp [he, Segment.cmp_self] at hs
      rw [get?_cons, get?_cons, get?_cons, hi hr, if_neg hne]
      by_cases hq : q = scope.1
      case pos => simp [hq, hne.symm]
      case neg => simp [hq]

theorem Sorted.ext (hl : Sorted left) (hr : Sorted right)
    (h : ∀ segment, get? segment left = get? segment right) : left = right := by
  induction left generalizing right
  case nil =>
    cases right
    case nil => rfl
    case cons scope right => simpa [get?_cons] using h scope.1
  case cons scope left hi =>
    cases right
    case nil => simpa [get?_cons] using h scope.1
    case cons scope' right =>
      have ⟨hlt, hl'⟩ := List.pairwise_cons.mp hl
      have ⟨hlt', hr'⟩ := List.pairwise_cons.mp hr
      -- Of two different first segments each would have to come after the other.
      have hs : scope.1 = scope'.1 := by
        by_contra hne
        have hm : (scope.1, scope.2) ∈ right := mem_of_get? <| by
          simpa [get?_cons, hne] using (h scope.1).symm
        have hm' : (scope'.1, scope'.2) ∈ left := mem_of_get? <| by
          simpa [get?_cons, Ne.symm hne] using h scope'.1
        have := Std.TransCmp.lt_trans (hlt _ hm') (hlt' _ hm)
        simp [Segment.cmp_self] at this
      obtain ⟨q, d⟩ := scope
      obtain ⟨q', d'⟩ := scope'
      cases hs
      have hd : d = d' := by simpa [get?_cons] using h q
      have ht : left = right := hi hl' hr' fun p => by
        by_cases hp : p = q
        case pos => rw [hp, hl.get?_tail, hr.get?_tail]
        case neg => simpa [get?_cons, hp] using h p
      rw [hd, ht]

end Scopes

-- Canonical order at every level.
inductive Ordered : Sheet → Prop
  | node {style : Style} {scopes : Scopes} (sorted : scopes.Sorted)
    (nested : ∀ scope ∈ scopes, scope.2.Ordered) : Ordered (.node style scopes)

namespace Ordered

theorem empty : Ordered ∅ := .node .nil (by simp)

theorem scopes (h : s.Ordered) : s.scopes.Sorted := by
  cases h
  case node sorted _ => exact sorted

theorem nested (h : s.Ordered) : ∀ scope ∈ s.scopes, scope.2.Ordered := by
  cases h
  case node nested => exact nested

theorem getD (h : s.Ordered) (segment : Segment) :
    ((Scopes.get? segment s.scopes).getD ∅).Ordered := by
  cases hg : Scopes.get? segment s.scopes
  case none => exact .empty
  case some d => exact h.nested _ (Scopes.mem_of_get? hg)

theorem declare (h : s.Ordered) (style : Style) : (s.declare style).Ordered :=
  .node h.scopes h.nested

theorem update (h : s.Ordered) (hf : ∀ d : Sheet, d.Ordered → (f d).Ordered) :
    (s.update segment f).Ordered :=
  .node h.scopes.update <| Scopes.forall_mem_update h.nested (hf ∅ .empty) fun d hd => hf d hd

theorem updateAt (h : s.Ordered) (hf : ∀ d : Sheet, d.Ordered → (f d).Ordered)
    (selector : Selector) : (s.updateAt selector f).Ordered := by
  induction selector generalizing s
  case nil => exact hf s h
  case cons segment rest hi => exact h.update fun d hd => hi hd

theorem mergeScopes {scopes : Scopes} (h : s.Ordered)
    (hm : ∀ scope ∈ scopes, ∀ d : Sheet, d.Ordered → (d.merge scope.2).Ordered) :
    (s.mergeScopes scopes).Ordered := by
  induction scopes generalizing s
  case nil => exact h
  case cons scope rest hi =>
    have ⟨hd, hr⟩ := List.forall_mem_cons.mp hm
    exact hi (h.update hd) hr

theorem merge (hs : s.Ordered) (ht : t.Ordered) : (s.merge t).Ordered := by
  induction ht generalizing s
  case node style scopes _ _ hi => exact (hs.declare style).mergeScopes fun d hd s hs => hi d hd hs

end Ordered

-- The sheet at the end of a selector, if all sheets on the way are there.
def at? (s : Sheet) : Selector → Option Sheet
  | [] => some s
  | segment :: rest => (Scopes.get? segment s.scopes).bind fun d => d.at? rest

-- The style that a sheet has at the end of a selector.
def styleAt (s : Sheet) (selector : Selector) : Option Style :=
  (s.at? selector).map style

@[simp] theorem styleAt_nil (s : Sheet) : s.styleAt [] = some s.style := rfl

theorem styleAt_cons (s : Sheet) (segment : Segment) (rest : Selector) :
    s.styleAt (segment :: rest) =
      (Scopes.get? segment s.scopes).bind fun d => d.styleAt rest := by
  rw [styleAt, at?, Option.map_bind]
  rfl

theorem styleAt_empty_cons (segment : Segment) (rest : Selector) :
    styleAt ∅ (segment :: rest) = none := rfl

theorem styleAt_declare_cons (s : Sheet) (style : Style) (segment : Segment) (rest : Selector) :
    (s.declare style).styleAt (segment :: rest) = s.styleAt (segment :: rest) := by
  simp only [styleAt_cons]
  rfl

theorem styleAt_update_cons (h : s.Ordered) (q : Segment) (rest : Selector) :
    (s.update segment f).styleAt (q :: rest) =
      if q = segment then (f ((Scopes.get? segment s.scopes).getD ∅)).styleAt rest
      else s.styleAt (q :: rest) := by
  rw [styleAt_cons, styleAt_cons]
  show Option.bind (Scopes.get? q (Scopes.update segment f s.scopes)) _ = _
  rw [h.scopes.get?_update]
  split <;> rfl

-- A sheet in canonical order is no more than its styles.
theorem Ordered.ext (hs : s.Ordered) (ht : t.Ordered)
    (h : ∀ selector, s.styleAt selector = t.styleAt selector) : s = t := by
  induction hs generalizing t
  case node style scopes sorted nested hi =>
    cases ht
    case node style' scopes' sorted' nested' =>
      have hstyle : style = style' := Option.some.inj (h [])
      have hscopes : scopes = scopes' := sorted.ext sorted' fun segment => by
        have hseg (rest : Selector) : (Scopes.get? segment scopes).bind (·.styleAt rest) =
            (Scopes.get? segment scopes').bind (·.styleAt rest) := by
          simpa only [styleAt_cons, Sheet.scopes] using h (segment :: rest)
        cases hd : Scopes.get? segment scopes <;> cases hd' : Scopes.get? segment scopes' <;>
          simp only [hd, hd', Option.bind_some, Option.bind_none] at hseg
        case none.none => rfl
        case none.some => cases hseg []
        case some.none => cases hseg []
        case some.some d d' =>
          have he : d = d' :=
            hi _ (Scopes.mem_of_get? hd) (nested' _ (Scopes.mem_of_get? hd')) hseg
          rw [he]
      rw [hstyle, hscopes]

-- What is merged into the empty sheet is found there again.
theorem merge_styleAt_empty (t : Sheet) (selector : Selector) :
    Option.merge Style.merge (styleAt ∅ selector) (t.styleAt selector) = t.styleAt selector := by
  cases selector
  case nil => exact congrArg some (Style.empty_merge _)
  case cons segment rest => simp [styleAt_empty_cons]

theorem merge_styleAt_getD (s t : Sheet) (segment : Segment) (rest : Selector) :
    Option.merge Style.merge (((Scopes.get? segment s.scopes).getD ∅).styleAt rest)
        (t.styleAt rest) =
      Option.merge Style.merge (s.styleAt (segment :: rest)) (t.styleAt rest) := by
  rw [styleAt_cons]
  cases Scopes.get? segment s.scopes
  case none => simpa using merge_styleAt_empty t rest
  case some d => rfl

theorem styleAt_mergeScopes {scopes : Scopes} (hs : s.Ordered) (sorted : scopes.Sorted)
    (nested : ∀ scope ∈ scopes, scope.2.Ordered)
    (hm : ∀ scope ∈ scopes, ∀ (d : Sheet) (rest : Selector), d.Ordered →
      (d.merge scope.2).styleAt rest =
        Option.merge Style.merge (d.styleAt rest) (scope.2.styleAt rest))
    (q : Segment) (rest : Selector) :
    (s.mergeScopes scopes).styleAt (q :: rest) = Option.merge Style.merge (s.styleAt (q :: rest))
      ((Scopes.get? q scopes).bind fun d => d.styleAt rest) := by
  induction scopes generalizing s
  case nil => simp [mergeScopes]
  case cons scope scopes hi =>
    have ⟨hd, hr⟩ := List.forall_mem_cons.mp hm
    have ⟨hn, hns⟩ := List.forall_mem_cons.mp nested
    have hu : (s.update scope.1 fun d => d.merge scope.2).Ordered :=
      hs.update fun d hd => hd.merge hn
    rw [mergeScopes, hi hu (List.pairwise_cons.mp sorted).right hns hr, styleAt_update_cons hs,
      Scopes.get?_cons]
    split
    case isTrue hq =>
      subst hq
      rw [sorted.get?_tail, hd _ _ (hs.getD _), merge_styleAt_getD]
      simp
    case isFalse => rfl

@[simp] theorem style_mergeScopes (s : Sheet) (scopes : Scopes) :
    (s.mergeScopes scopes).style = s.style := by
  induction scopes generalizing s
  case nil => rfl
  case cons scope rest hi => rw [mergeScopes, hi]; rfl

-- Merging sheets merges the styles at the ends of all selectors.
theorem styleAt_merge (hs : s.Ordered) (ht : t.Ordered) (selector : Selector) :
    (s.merge t).styleAt selector =
      Option.merge Style.merge (s.styleAt selector) (t.styleAt selector) := by
  induction ht generalizing s selector
  case node style scopes sorted nested hi =>
    rw [merge]
    cases selector
    case nil => rw [styleAt_nil, style_mergeScopes]; rfl
    case cons q rest =>
      rw [styleAt_mergeScopes (hs.declare style) sorted nested
        (fun scope hm d rest hd => hi scope hm hd rest), styleAt_declare_cons,
        styleAt_cons (.node style scopes)]
      rfl

theorem merge_assoc (hs : s.Ordered) (ht : t.Ordered) (hu : u.Ordered) :
    (s.merge t).merge u = s.merge (t.merge u) := by
  have : Std.Associative Style.merge := ⟨Style.merge_assoc⟩
  refine ((hs.merge ht).merge hu).ext (hs.merge (ht.merge hu)) fun selector => ?_
  rw [styleAt_merge (hs.merge ht) hu, styleAt_merge hs ht, styleAt_merge hs (ht.merge hu),
    styleAt_merge ht hu]
  exact Std.Associative.assoc _ _ _

@[simp] theorem merge_empty (s : Sheet) : s.merge ∅ = s := by
  cases s
  case node style scopes => exact congrArg (node · scopes) (Style.merge_empty style)

theorem empty_merge (hs : s.Ordered) : (∅ : Sheet).merge s = s := by
  refine (Ordered.empty.merge hs).ext hs fun selector => ?_
  rw [styleAt_merge .empty hs, merge_styleAt_empty]

-- The change that `f` makes to a sheet is to merge into it what `f` makes of the empty sheet.
structure Additive (f : Sheet → Sheet) : Prop where
  ordered : ∀ {s : Sheet}, s.Ordered → (f s).Ordered
  eq_merge : ∀ {s : Sheet}, s.Ordered → f s = s.merge (f ∅)

namespace Additive

theorem id : Additive id := ⟨fun h => h, fun _ => (merge_empty _).symm⟩

theorem comp (hg : Additive g) (hf : Additive f) : Additive (g ∘ f) := by
  refine ⟨fun hs => hg.ordered (hf.ordered hs), fun {s} hs => ?_⟩
  have hf₀ := hf.ordered .empty
  calc g (f s) = (f s).merge (g ∅) := hg.eq_merge (hf.ordered hs)
    _ = (s.merge (f ∅)).merge (g ∅) := by rw [hf.eq_merge hs]
    _ = s.merge ((f ∅).merge (g ∅)) := merge_assoc hs hf₀ (hg.ordered .empty)
    _ = s.merge (g (f ∅)) := by rw [← hg.eq_merge hf₀]

theorem declare (style : Style) : Additive fun s => s.declare style := by
  refine ⟨fun hs => hs.declare style, fun {s} _ => ?_⟩
  show _ = s.declare ((∅ : Style).merge style)
  rw [Style.empty_merge]

theorem updateAt (hf : Additive f) (selector : Selector) :
    Additive fun s => s.updateAt selector f := by
  induction selector
  case nil => exact hf
  case cons segment rest hi =>
    refine ⟨fun hs => hs.updateAt (fun _ => hf.ordered) _, fun {s} hs => ?_⟩
    have hu : Scopes.update segment (Sheet.updateAt rest f) s.scopes =
        Scopes.update segment (fun d => d.merge (Sheet.updateAt rest f ∅)) s.scopes :=
      Scopes.update_congr (hi.eq_merge .empty) fun d hd => hi.eq_merge (hs.nested d hd)
    calc s.update segment (Sheet.updateAt rest f)
      _ = node s.style (Scopes.update segment _ s.scopes) := congrArg (node s.style) hu
      _ = (s.declare ∅).update segment fun d => d.merge (Sheet.updateAt rest f ∅) := by
        rw [Sheet.declare, Style.merge_empty]; rfl

theorem foldl {α : Type} {f : Sheet → α → Sheet} {l : List α} (h : ∀ a ∈ l, Additive (f · a)) :
    Additive fun s => l.foldl f s := by
  induction l
  case nil => exact .id
  case cons a l hi =>
    have ⟨ha, hl⟩ := List.forall_mem_cons.mp h
    exact (hi hl).comp ha

end Additive

end Sheet

end Highlight
