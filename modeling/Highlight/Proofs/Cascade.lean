import Highlight.Style.Basic
import Mathlib.Data.List.Induction

namespace Highlight

namespace Setting

variable {α : Type} {settings : List (Setting α)}

-- The setting that holds after all of a list have been declared, the first one first.
def prevailing (settings : List (Setting α)) : Option (Setting α) :=
  (settings.filter (·.important)).getLast?.or settings.getLast?

theorem prevailing_of_none_important (h : settings.filter (·.important) = []) :
    prevailing settings = settings.getLast? := by
  simp [prevailing, h]

-- Without important settings the last one is not important either.
theorem not_important_of_getLast? {s : Setting α}
    (h : settings.filter (·.important) = []) (hs : settings.getLast? = some s) :
    s.important = false := by
  have := List.filter_eq_nil_iff.mp h s <| List.mem_of_getLast? hs
  simpa using this

theorem important_of_getLast?_filter {s : Setting α}
    (h : (settings.filter (·.important)).getLast? = some s) : s.important = true :=
  (List.mem_filter.mp <| List.mem_of_getLast? h).right

-- One more declaration changes what prevails in the way a single cascade does. A setting that is
-- not important has an effect only if no important one stands before it.
theorem prevailing_concat (settings : List (Setting α)) (s : Setting α) :
    prevailing (settings ++ [s]) = cascade (prevailing settings) (some s) := by
  cases hi : s.important
  case true =>
    have hp : prevailing (settings ++ [s]) = some s := by simp [prevailing, hi]
    rw [hp]
    cases prevailing settings <;> simp [cascade, hi]
  case false =>
    have hf : (settings ++ [s]).filter (·.important) = settings.filter (·.important) := by
      simp [hi]
    cases he : (settings.filter (·.important)).getLast?
    case some e =>
      have := important_of_getLast?_filter he
      simp [prevailing, hf, he, cascade, this, hi]
    case none =>
      have hn := List.getLast?_eq_none_iff.mp he
      rw [prevailing_of_none_important (hf.trans hn), prevailing_of_none_important hn]
      cases hl : settings.getLast?
      case none => simp [cascade]
      case some l => simp [cascade, not_important_of_getLast? hn hl]

theorem foldl_cascade (settings : List (Option (Setting α))) :
    settings.foldl cascade none = prevailing (settings.filterMap id) := by
  induction settings using List.reverseRecOn
  case nil => rfl
  case append_singleton settings s hi =>
    simp only [List.foldl_append, List.foldl_cons, List.foldl_nil, hi, List.filterMap_append]
    cases s
    case none   => simp
    case some s => simp [prevailing_concat]

theorem prevailing_eq_none_iff : prevailing settings = none ↔ settings = [] := by
  simp only [prevailing, Option.or_eq_none_iff, List.getLast?_eq_none_iff]
  exact ⟨And.right, fun h => ⟨by simp [h], h⟩⟩

-- Whatever was declared in between, declaring a setting again leaves no trace of the first time.
theorem cascade_cascade_self (a b : Option (Setting α)) :
    cascade (cascade a b) a = cascade b a := by
  obtain _ | a := a
  case none => simp
  case some =>
    obtain _ | b := b
    case none => cases ha : a.important <;> simp [cascade, ha]
    case some =>
      cases ha : a.important <;> cases hb : b.important <;> simp [cascade, ha, hb]

end Setting

namespace Style

theorem merge_assoc (s t u : Style) : (s.merge t).merge u = s.merge (t.merge u) :=
  ext_get fun a => by simp [Setting.cascade_assoc]

@[simp] theorem merge_empty (s : Style) : s.merge ∅ = s :=
  ext_get fun a => by simp

@[simp] theorem empty_merge (s : Style) : (∅ : Style).merge s = s :=
  ext_get fun a => by simp

theorem merge_merge_self (s t : Style) : (s.merge t).merge s = t.merge s :=
  ext_get fun a => by simp [Setting.cascade_cascade_self]

theorem foldl_merge (styles : List Style) (s t : Style) :
    styles.foldl merge (s.merge t) = s.merge (styles.foldl merge t) := by
  induction styles generalizing t
  case nil => rfl
  case cons u styles hi => simp only [List.foldl_cons, merge_assoc, hi]

theorem get_foldl_merge (styles : List Style) (s : Style) (a : Attribute) :
    (styles.foldl merge s).get a = (styles.map (·.get a)).foldl Setting.cascade (s.get a) := by
  induction styles generalizing s
  case nil => rfl
  case cons t styles hi => simp [hi]

-- The cascade law for styles: attribute by attribute, the last important setting or else the last.
theorem get_foldl_merge_empty (styles : List Style) (a : Attribute) :
    (styles.foldl merge ∅).get a = Setting.prevailing (styles.filterMap (·.get a)) := by
  rw [get_foldl_merge, get_empty, Setting.foldl_cascade, List.filterMap_map]
  rfl

-- Merging is a cascade, and with it a monoid in which a later operand makes up for all earlier ones
-- that are equal to it. Merging returns a style as it is where nothing takes the place of what it
-- has; the last part says that this agrees with the general case, which replaces what is
-- overridden.
theorem merge_cascades (styles : List Style) (s t u : Style) :
    (∀ a, (styles.foldl merge ∅).get a = Setting.prevailing (styles.filterMap (·.get a)) ∧
      ((styles.foldl merge ∅).get a = none ↔ ∀ style ∈ styles, style.get a = none)) ∧
    (s.merge t).merge u = s.merge (t.merge u) ∧
    (∅ : Style).merge s = s ∧ s.merge ∅ = s ∧
    (s.merge t).merge s = t.merge s ∧
    s.merge t = s.replace (s.updates t) := by
  refine ⟨fun a => ⟨get_foldl_merge_empty styles a, ?_⟩, merge_assoc s t u, empty_merge s,
    merge_empty s, merge_merge_self s t, merge_eq_replace s t⟩
  rw [get_foldl_merge_empty, Setting.prevailing_eq_none_iff, List.filterMap_eq_nil_iff]

-- An important setting holds off the ones after it that are not, attribute by attribute.
example : [{ bold := some ⟨true, false⟩ }, { bold := some ⟨true, true⟩ },
    { bold := some ⟨false, false⟩, dim := some ⟨true, false⟩ }].foldl merge ∅ =
    { bold := some ⟨true, true⟩, dim := some ⟨true, false⟩ } := by
  decide

end Style

end Highlight
