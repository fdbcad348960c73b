import Highlight.Proofs.Application

namespace Highlight

namespace Sheet

mutual

-- A sheet without the scopes that are marked, and without all that is nested in these.
def withoutFrom (marked : Selector → Sheet → Bool) (before : Selector) : Sheet → Sheet
  | node style scopes => node style (withoutScopes marked before scopes)
termination_by structural s => s

def withoutScopes (marked : Selector → Sheet → Bool) (before : Selector) :
    List (Segment × Sheet) → List (Segment × Sheet)
  | [] => []
  | (segment, sheet) :: rest =>
    if marked (before ++ [segment]) sheet then withoutScopes marked before rest
    else (segment, sheet.withoutFrom marked (before ++ [segment])) ::
      withoutScopes marked before rest
termination_by structural s => s

end

variable {marked : Selector → Sheet → Bool} {s : Sheet}

@[simp] theorem style_withoutFrom (before : Selector) :
    (s.withoutFrom marked before).style = s.style := by
  cases s
  rfl

theorem scopes_withoutFrom (before : Selector) :
    (s.withoutFrom marked before).scopes = withoutScopes marked before s.scopes := by
  cases s
  rfl

theorem get?_withoutScopes {scopes : Scopes} (sorted : scopes.Sorted) (before : Selector)
    (segment : Segment) :
    Scopes.get? segment (withoutScopes marked before scopes) =
      (Scopes.get? segment scopes).bind fun d =>
        if marked (before ++ [segment]) d then none
        else some (d.withoutFrom marked (before ++ [segment])) := by
  induction scopes
  case nil => rfl
  case cons scope rest hi =>
    have hn := hi (List.pairwise_cons.mp sorted).right
    rw [withoutScopes, Scopes.get?_cons]
    by_cases he : segment = scope.1
    case pos =>
      subst he
      rw [sorted.get?_tail] at hn
      split
      case isTrue hm  => simp [hm, hn]
      case isFalse hm => simp [hm, Scopes.get?_cons]
    case neg =>
      rw [if_neg he]
      split
      case isTrue  => exact hn
      case isFalse => rw [Scopes.get?_cons, if_neg he, hn]

-- One of the scopes on the way to the end of a selector is marked.
def Marked (marked : Selector → Sheet → Bool) (before : Selector) (s : Sheet) (path : Selector) :
    Prop :=
  ∃ q d, q ≠ [] ∧ q <+: path ∧ s.at? q = some d ∧ marked (before ++ q) d

theorem marked_cons {before path : Selector} {segment : Segment} {d : Sheet}
    (hd : Scopes.get? segment s.scopes = some d) :
    Marked marked before s (segment :: path) ↔ marked (before ++ [segment]) d ∨
      Marked marked (before ++ [segment]) d path := by
  have hat (q : Selector) : s.at? (segment :: q) = d.at? q := by simp [at?, hd]
  constructor
  case mp =>
    rintro ⟨q, e, hn, hp, he, hm⟩
    cases q
    case nil => contradiction
    case cons first q =>
      obtain ⟨rfl, hq⟩ := List.cons_prefix_cons.mp hp
      rw [hat] at he
      cases q
      case nil         => cases he; exact .inl hm
      case cons next q => exact .inr ⟨next :: q, e, nofun, hq, he, by simpa using hm⟩
  case mpr =>
    rintro (hm | ⟨q, e, -, hp, he, hm⟩)
    · exact ⟨[segment], d, nofun, by simp, hat [], hm⟩
    · exact ⟨segment :: q, e, nofun, by simpa using hp, (hat q).trans he, by simpa using hm⟩

-- What is left has the styles it had before.
theorem styleAt_withoutFrom (h : s.Ordered) (before path : Selector) :
    (Marked marked before s path → (s.withoutFrom marked before).styleAt path = none) ∧
    (¬Marked marked before s path →
      (s.withoutFrom marked before).styleAt path = s.styleAt path) := by
  induction path generalizing s before
  case nil =>
    refine ⟨fun ⟨q, d, hn, hp, _⟩ => absurd (List.prefix_nil.mp hp) hn, fun _ => by simp⟩
  case cons segment path hi =>
    rw [styleAt_cons, styleAt_cons, scopes_withoutFrom, get?_withoutScopes h.scopes]
    cases hd : Scopes.get? segment s.scopes
    case none => simp
    case some d =>
      have ⟨h₁, h₂⟩ := hi (h.nested _ (Scopes.mem_of_get? hd)) (before ++ [segment])
      rw [marked_cons hd, Option.bind_some]
      by_cases hm : marked (before ++ [segment]) d
      case pos => simp [hm]
      case neg => simpa [hm] using ⟨h₁, h₂⟩

-- Where the segment only matches leaves, the sheet below it counts by its base style alone.
theorem mergeReach_congr {t : Sheet} {segment : Segment} {history : History} {trail : Trail}
    {token : Option String} {reaches : List Reach}
    (hr : segment.reaches history trail token = .ok reaches) (hs : t.style = s.style)
    (hn : segment.isTerminal = false → ∀ history trail,
      t.resolve history trail token = s.resolve history trail token) :
    ∀ r ∈ reaches, ∀ style, t.mergeReach token style r = s.mergeReach token style r := by
  intro r hm style
  cases r
  case base => simp only [mergeReach, hs]
  case further history' trail' =>
    have ht : segment.isTerminal = false := by
      by_contra ht
      cases Segment.eq_base_of_mem_reaches (by simpa using ht) hr _ hm
    simp only [mergeReach, hn ht]

theorem foldlM_mergeReach_congr {t : Sheet} {token : Option String} {reaches : List Reach}
    (h : ∀ r ∈ reaches, ∀ style, t.mergeReach token style r = s.mergeReach token style r)
    (style : Style) :
    reaches.foldlM (t.mergeReach token) style = reaches.foldlM (s.mergeReach token) style := by
  induction reaches generalizing style
  case nil => rfl
  case cons r reaches hi =>
    have ⟨hr, hrs⟩ := List.forall_mem_cons.mp h
    simp only [List.foldlM_cons, hr, hi hrs]

theorem foldlM_mergeReach_empty (token : Option String) (reaches : List Reach) (style : Style) :
    reaches.foldlM (mergeReach ∅ token) style = .ok style := by
  have hm (r : Reach) : mergeReach ∅ token style r = .ok style := by
    have hs : style.merge ∅ = style := style.merge_empty
    cases r <;> exact congrArg Except.ok hs
  induction reaches
  case nil => rfl
  case cons r reaches hi =>
    rw [List.foldlM_cons, hm]
    exact hi

theorem resolveScopes_withoutScopes
    (reported : ∀ selector d, marked selector d → Lint.isReported selector d)
    (token : Option String) {scopes : Scopes} (legal : ∀ scope ∈ scopes, scope.1.wellFormed)
    {before : Selector} (hb : before.isTerminal = false)
    (nested : ∀ scope ∈ scopes, ∀ before : Selector, before.isTerminal = false →
      ∀ history trail, (scope.2.withoutFrom marked before).resolve history trail token =
        scope.2.resolve history trail token) (history : History) (trail : Trail) (style : Style) :
    resolveScopes (withoutScopes marked before scopes) history trail token style =
      resolveScopes scopes history trail token style := by
  induction scopes generalizing style
  case nil => rfl
  case cons scope rest hi =>
    have ⟨hl, hls⟩ := List.forall_mem_cons.mp legal
    have ⟨hn, hns⟩ := List.forall_mem_cons.mp nested
    have ⟨reaches, hr, _⟩ := scope.1.reaches_contributions hl history trail token scope.2.style
      fun _ _ => []
    rw [withoutScopes, resolveScopes_cons, hr]
    split
    case isTrue hm =>
      have he : scope.2 = ∅ := Lint.eq_empty_of_isReported hb (reported _ _ hm)
      rw [he, hi hls hns]
      simp only [bind, Except.bind]
      rw [foldlM_mergeReach_empty]
    case isFalse hm =>
      have hc := mergeReach_congr hr (style_withoutFrom (before ++ [scope.1])) fun ht =>
        hn (before ++ [scope.1]) (by simpa using ht)
      rw [resolveScopes_cons, hr]
      simp only [bind, Except.bind]
      rw [foldlM_mergeReach_congr hc]
      split
      case h_1 => rfl
      case h_2 => exact hi hls hns _

-- It is safe to leave out any of the scopes that are reported.
theorem resolve_withoutFrom (h : s.WellFormed)
    (reported : ∀ selector d, marked selector d → Lint.isReported selector d)
    (token : Option String) {before : Selector}
    (hb : before.isTerminal = false) (history : History) (trail : Trail) :
    (s.withoutFrom marked before).resolve history trail token = s.resolve history trail token := by
  induction h generalizing before history trail
  case node style scopes legal ordered nested hi =>
    exact resolveScopes_withoutScopes reported token legal hb
      (fun scope hs _ hb history trail => hi scope hs hb history trail) history trail style

-- A sheet without the scopes that the linter reports.
def tidied (s : Sheet) : Sheet :=
  s.withoutFrom Lint.isReported []

-- The linter reports the scopes below segments that only match leaves and the scopes without any
-- contents. Without these, and without what is nested in them, every position gets the same style.
theorem resolve_tidied (h : s.WellFormed) :
    (Lint.findings s []).Perm (s.walk.flatMap fun entry => Lint.about entry.1 entry.2) ∧
    (∀ selector sheet, Lint.isReported selector sheet ↔
      (∃ before last nested, selector = before ++ [last, nested] ∧ last.isTerminal) ∨
        selector ≠ [] ∧ sheet.style = ∅ ∧ sheet.scopes = []) ∧
    (∀ path, (Marked Lint.isReported [] s path → s.tidied.styleAt path = none) ∧
      (¬Marked Lint.isReported [] s path → s.tidied.styleAt path = s.styleAt path)) ∧
    ∀ history trail token, s.tidied.resolve history trail token = s.resolve history trail token := by
  refine ⟨Lint.findings_perm s, fun _ _ => Lint.isReported_iff, styleAt_withoutFrom h.ordered [], ?_⟩
  intro history trail token
  exact resolve_withoutFrom h (fun _ _ => id) token Selector.isTerminal_nil history trail

-- A scope below a token, which holds another one, and two scopes without contents.
def cluttered : Sheet :=
  .node { bold := some ⟨false, false⟩ } [
    (.kind "call", .node { dim := some ⟨true, false⟩ } [
      (.token "f", .node { bold := some ⟨true, false⟩ } [
        (.kind "name", .node ∅ [(.kind "word", .node { italic := some ⟨true, false⟩ } [])])]),
      (.branch [.token "async"], .node ∅ [])]),
    (.lastKind "name", .node ∅ [])]

theorem resolve_tidied_cluttered : cluttered.WellFormed ∧
    (Lint.findings cluttered []).length = 3 ∧
    cluttered.tidied.styleAt [.kind "call", .token "f"] = some { bold := some ⟨true, false⟩ } ∧
    cluttered.tidied.styleAt [.kind "call", .token "f", .kind "name", .kind "word"] = none ∧
    cluttered.tidied.resolve [.node "call" [.leaf "async"]] [⟨"call", 0⟩] (some "f") =
      cluttered.resolve [.node "call" [.leaf "async"]] [⟨"call", 0⟩] (some "f") := by
  have wf : cluttered.WellFormed := by
    refine .node (by decide) (.cons (by simp; rfl) (.cons (by simp) .nil)) ?_
    refine List.forall_mem_cons.mpr ⟨?_, by simp [WellFormed.leaf]⟩
    refine .node (by decide) (.cons (by simp; rfl) (.cons (by simp) .nil)) ?_
    exact List.forall_mem_cons.mpr ⟨.single rfl (.single rfl (.leaf _)), by simp [WellFormed.leaf]⟩
  have ⟨_, reported, removed, same⟩ := resolve_tidied wf
  refine ⟨wf, rfl, rfl, (removed _).left ?_, same _ _ _⟩
  refine ⟨[.kind "call", .token "f", .kind "name"], _, nofun, ⟨[.kind "word"], rfl⟩, rfl, ?_⟩
  exact (reported _ _).mpr (.inl ⟨[.kind "call"], .token "f", .kind "name", rfl, rfl⟩)

end Sheet

end Highlight
