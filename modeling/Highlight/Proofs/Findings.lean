import Highlight.Lint
import Mathlib.Data.List.Perm.Basic

namespace Highlight

namespace Selector

-- The last segment of a selector only matches leaves.
def isTerminal (selector : Selector) : Bool :=
  selector.getLast?.any Segment.isTerminal

@[simp] theorem isTerminal_nil : isTerminal [] = false := rfl

@[simp] theorem isTerminal_concat (before : Selector) (last : Segment) :
    isTerminal (before ++ [last]) = last.isTerminal := by
  simp [isTerminal]

end Selector

namespace Lint

-- What there is to say about the place of a scope.
def misplaced? (selector : Selector) : Option Diagnostic :=
  match selector.reverse with
  | nested :: last :: before =>
    if last.isTerminal then some (unreachable (before.reverse ++ [last]) last nested) else none
  | _ => none

-- What there is to say about its contents.
def idle? (selector : Selector) (sheet : Sheet) : Option Diagnostic :=
  if selector ≠ [] ∧ sheet.style = ∅ ∧ sheet.scopes.isEmpty then some (emptyRule selector) else none

def about (selector : Selector) (sheet : Sheet) : List Diagnostic :=
  (misplaced? selector).toList ++ (idle? selector sheet).toList

theorem misplaced?_append (before : Selector) (last nested : Segment) :
    misplaced? (before ++ [last, nested]) =
      if last.isTerminal then some (unreachable (before ++ [last]) last nested) else none := by
  simp [misplaced?]

theorem isSome_misplaced? {selector : Selector} : (misplaced? selector).isSome ↔
    ∃ before last nested, selector = before ++ [last, nested] ∧ last.isTerminal := by
  constructor
  case mp =>
    intro h
    rw [misplaced?] at h
    split at h
    case h_1 nested last before hs =>
      have ht : last.isTerminal := by
        by_contra ht
        simp [ht] at h
      exact ⟨before.reverse, last, nested, by simpa using congrArg List.reverse hs, ht⟩
    case h_2 => cases h
  case mpr =>
    rintro ⟨before, last, nested, rfl, ht⟩
    simp [misplaced?_append, ht]

-- The findings about the scopes right below a sheet.
def below (selector : Selector) (sheet : Sheet) : List Diagnostic :=
  match selector.getLast? with
  | some last =>
    if last.isTerminal then sheet.scopes.map fun (nested, _) => unreachable selector last nested
    else []
  | none => []

theorem below_eq_flatMap (selector : Selector) (sheet : Sheet) :
    below selector sheet =
      sheet.scopes.flatMap fun scope => (misplaced? (selector ++ [scope.1])).toList := by
  rw [below]
  cases List.eq_nil_or_concat' selector
  case inl h => simp [h, misplaced?]
  case inr h =>
    obtain ⟨before, last, rfl⟩ := h
    simp only [List.getLast?_concat, List.append_assoc, List.cons_append, List.nil_append,
      misplaced?_append]
    split
    case isTrue  => simp [List.map_eq_flatMap]
    case isFalse => simp

mutual

-- A sheet reports on the scopes below it, and they come one after the other with all that is nested
-- in each. Sorted by the scopes they are about, the reports are the same.
theorem below_walkFrom_perm : (s : Sheet) → (before : Selector) →
    ((s.walkFrom before).flatMap fun entry => below entry.1 entry.2).Perm
      ((Sheet.walkScopes before s.scopes).filterMap fun entry => misplaced? entry.1)
  | .node style scopes, before => by
    rw [Sheet.walkFrom, List.flatMap_cons, below_eq_flatMap]
    exact below_walkScopes_perm scopes before
termination_by structural s => s

theorem below_walkScopes_perm : (scopes : List (Segment × Sheet)) → (before : Selector) →
    ((scopes.flatMap fun scope => (misplaced? (before ++ [scope.1])).toList) ++
      (Sheet.walkScopes before scopes).flatMap fun entry => below entry.1 entry.2).Perm
      ((Sheet.walkScopes before scopes).filterMap fun entry => misplaced? entry.1)
  | [], _ => .refl _
  | (segment, .node style scopes) :: rest, before => by
    have hs := below_walkFrom_perm (.node style scopes) (before ++ [segment])
    have hr := below_walkScopes_perm rest before
    rw [Sheet.walkScopes, List.flatMap_append, List.filterMap_append, List.flatMap_cons,
      List.append_assoc]
    have hf : ((Sheet.node style scopes).walkFrom (before ++ [segment])).filterMap
        (fun entry => misplaced? entry.1) = (misplaced? (before ++ [segment])).toList ++
          (Sheet.walkScopes (before ++ [segment]) scopes).filterMap fun entry => misplaced? entry.1 := by
      rw [Sheet.walkFrom, List.filterMap_cons]
      cases misplaced? (before ++ [segment]) <;> rfl
    rw [hf, List.append_assoc]
    refine .append_left _ ?_
    exact List.perm_append_comm_assoc _ _ _ |>.trans (hs.append hr)
termination_by structural s => s

end

-- Each scope that is found unreachable is reported once.
theorem unreachableScopes_perm (s : Sheet) :
    (unreachableScopes s).Perm (s.walk.filterMap fun entry => misplaced? entry.1) := by
  obtain ⟨style, scopes⟩ := s
  exact below_walkFrom_perm (.node style scopes) []

-- The linter reports just what there is to say about each scope.
theorem findings_perm (s : Sheet) :
    (findings s []).Perm (s.walk.flatMap fun entry => about entry.1 entry.2) := by
  have hf : findings s [] = unreachableScopes s ++ emptyRules s := by simp [findings, rules]
  have he : emptyRules s = s.walk.filterMap fun entry => idle? entry.1 entry.2 := rfl
  rw [hf, he]
  refine ((unreachableScopes_perm s).append_right _).trans ?_
  simp only [List.filterMap_eq_flatMap_toList]
  exact List.flatMap_append_perm _ _ _

def isReported (selector : Selector) (sheet : Sheet) : Bool :=
  !(about selector sheet).isEmpty

theorem isReported_iff {selector : Selector} {sheet : Sheet} : isReported selector sheet ↔
    (∃ before last nested, selector = before ++ [last, nested] ∧ last.isTerminal) ∨
      selector ≠ [] ∧ sheet.style = ∅ ∧ sheet.scopes = [] := by
  have hm : (misplaced? selector).toList ≠ [] ↔
      ∃ before last nested, selector = before ++ [last, nested] ∧ last.isTerminal := by
    rw [← isSome_misplaced?]
    cases misplaced? selector <;> simp
  have hi : (idle? selector sheet).toList ≠ [] ↔
      selector ≠ [] ∧ sheet.style = ∅ ∧ sheet.scopes = [] := by
    rw [← List.isEmpty_iff (l := sheet.scopes), idle?]
    split
    case isTrue h  => simpa using h
    case isFalse h => simpa using h
  rw [← hm, ← hi, isReported, about]
  simp only [Bool.not_eq_true', List.isEmpty_eq_false_iff, ne_eq, List.append_eq_nil_iff, not_and_or]

-- Below a segment that matches more than leaves, only a scope without contents is reported.
theorem eq_empty_of_isReported {before : Selector} {segment : Segment} {sheet : Sheet}
    (hb : before.isTerminal = false) (h : isReported (before ++ [segment]) sheet) : sheet = ∅ := by
  obtain ⟨above, last, nested, he, ht⟩ | ⟨_, hs, hn⟩ := isReported_iff.mp h
  · have he : before ++ [segment] = (above ++ [last]) ++ [nested] := by simpa using he
    obtain ⟨rfl, _⟩ := List.append_inj' he rfl
    simp [ht] at hb
  · obtain ⟨style, scopes⟩ := sheet
    cases hs
    cases hn
    rfl

end Lint

end Highlight
