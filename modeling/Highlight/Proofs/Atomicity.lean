import Highlight.Proofs.Chains

namespace Highlight

namespace History

variable {h below : History} {s : Step} {rest trail : Trail} {token kind t : String} {i : Nat}
  {e : RecordError}

-- The result of recording, and the history that it leaves behind.
def recordInPlace (h : History) : Trail → String → Except RecordError Unit × History
  | [], token => (.ok (), h ++ [.leaf token])
  | s :: rest, token =>
    if s.index < h.length then
      match place? h.length s.index with
      | none => (.error .outOfRange, h)
      | some i => match h[i]? with
        | none => (.error .outOfRange, h)
        | some (.leaf t) => (.error (.beneathLeaf token t), h)
        | some (.node kind below) =>
          -- The node keeps what is left behind below it, also after an error.
          let (result, below) := recordInPlace below rest token
          (result, h.set i (.node kind below))
    else (.ok (), h ++ [Visit.chain (s :: rest) token])

-- The visit that an index leads into.
def visit? (h : History) (index : Int) : Option Visit :=
  (place? h.length index).bind (h[·]?)

-- Why a leaf cannot be recorded: on the way there a leaf is in its place, or an index counts back
-- beyond the first visit.
inductive Refused (token : String) : History → Trail → RecordError → Prop
  | outOfRange {h : History} {s : Step} {rest : Trail} : h.length + s.index < 0 →
    Refused token h (s :: rest) .outOfRange
  | beneathLeaf {h : History} {s : Step} {rest : Trail} {t : String} :
    h.visit? s.index = some (.leaf t) → Refused token h (s :: rest) (.beneathLeaf token t)
  | deeper {h below : History} {s : Step} {rest : Trail} {kind : String} {e : RecordError} :
    h.visit? s.index = some (.node kind below) → Refused token below rest e →
    Refused token h (s :: rest) e

theorem visit?_eq_some {index : Int} {v : Visit} : h.visit? index = some v ↔
    index < h.length ∧ ∃ i, place? h.length index = some i ∧ h[i]? = some v := by
  rw [visit?, Option.bind_eq_some_iff]
  refine ⟨fun ⟨i, hp, hi⟩ => ⟨?_, i, hp, hi⟩, And.right⟩
  have hlt := (List.getElem?_eq_some_iff.mp hi).1
  rw [place?] at hp
  split at hp
  case isTrue  => cases hp; omega
  case isFalse => omega

-- An index counts back too far, leads into a visit, or goes beyond the last one.
theorem visit?_cases (h : History) (index : Int) :
    h.length + index < 0 ∨ (∃ v, h.visit? index = some v) ∨ h.length ≤ index := by
  by_cases hb : h.length + index < 0
  case pos => exact .inl hb
  case neg =>
    by_cases hl : index < h.length
    case neg => exact .inr (.inr (by omega))
    case pos =>
      obtain ⟨i, hp, hlt⟩ : ∃ i, place? h.length index = some i ∧ i < h.length := by
        rw [place?]
        split
        case isTrue  => exact ⟨_, rfl, by omega⟩
        case isFalse => exact ⟨_, if_pos (by omega), by omega⟩
      exact .inr (.inl ⟨h[i], visit?_eq_some.mpr ⟨hl, i, hp, List.getElem?_eq_getElem hlt⟩⟩)

theorem record_of_back (hb : h.length + s.index < 0) :
    h.record (s :: rest) token = .error .outOfRange := by
  have hp : place? h.length s.index = none := by
    rw [place?, if_neg (by omega), if_neg (by omega)]
  rw [record, if_pos (by omega), hp]

theorem record_of_leaf (hv : h.visit? s.index = some (.leaf t)) :
    h.record (s :: rest) token = .error (.beneathLeaf token t) := by
  obtain ⟨hl, i, hp, hi⟩ := visit?_eq_some.mp hv
  rw [record, if_pos hl]
  simp only [hp, hi]

theorem record_of_node (hv : h.visit? s.index = some (.node kind below)) :
    ∃ i, h[i]? = some (.node kind below) ∧ h.record (s :: rest) token =
      (below.record rest token).map fun below => h.set i (.node kind below) := by
  obtain ⟨hl, i, hp, hi⟩ := visit?_eq_some.mp hv
  refine ⟨i, hi, ?_⟩
  rw [record, if_pos hl]
  simp only [hp, hi]

theorem record_eq_error_iff : h.record trail token = .error e ↔ Refused token h trail e := by
  constructor
  case mp =>
    intro hr
    induction trail generalizing h
    case nil => cases hr
    case cons s rest hi =>
      obtain hb | ⟨t | ⟨kind, below⟩, hv⟩ | hl := h.visit?_cases s.index
      · cases (record_of_back hb).symm.trans hr
        exact .outOfRange hb
      · cases (record_of_leaf hv).symm.trans hr
        exact .beneathLeaf hv
      · obtain ⟨i, _, hn⟩ := record_of_node hv
        rw [hn] at hr
        cases hb : record below rest token
        case ok => simp [hb, Except.map] at hr
        case error =>
          simp only [hb, Except.map, Except.error.injEq] at hr
          exact .deeper hv (hi (hr ▸ hb))
      · cases (record_of_length_le rest token hl).symm.trans hr
  case mpr =>
    intro refused
    induction refused
    case outOfRange hb  => exact record_of_back hb
    case beneathLeaf hv => exact record_of_leaf hv
    case deeper hv _ hi =>
      obtain ⟨i, _, hn⟩ := record_of_node hv
      rw [hn, hi]
      rfl

-- The two ways to record agree, and where recording fails nothing has been changed.
theorem recordInPlace_eq (h : History) (trail : Trail) (token : String) :
    h.recordInPlace trail token =
      ((h.record trail token).map fun _ => (), (h.record trail token).toOption.getD h) := by
  induction trail generalizing h
  case nil => rfl
  case cons s rest hi =>
    rw [recordInPlace, record]
    split
    case isFalse => rfl
    case isTrue =>
      cases place? h.length s.index
      case none => rfl
      case some i =>
        cases hv : h[i]?
        case none => simp only [hv]; rfl
        case some v =>
          cases v
          case leaf t => simp only [hv]; rfl
          case node kind below =>
            obtain ⟨hlt, hn⟩ := List.getElem?_eq_some_iff.mp hv
            have hs : h.set i (.node kind below) = h := hn ▸ List.set_getElem_self hlt
            simp only [hv, hi below]
            cases record below rest token
            case ok    => rfl
            case error => simp only [Except.map, Except.toOption, Option.getD_none, hs]

-- A new leaf comes between the chains that are there. Its own chain has the kinds of the nodes it
-- was recorded below, which need not be those of the trail.
theorem chains_of_record {h h' : History} (hr : h.record trail token = .ok h') :
    ∃ before kinds after, h.chains = before ++ after ∧
      h'.chains = before ++ (kinds, token) :: after ∧ kinds.length = trail.length := by
  induction trail generalizing h h'
  case nil =>
    cases hr
    exact ⟨h.chains, [], [], by simp, by simp, rfl⟩
  case cons s rest hi =>
    obtain rfl | ⟨before, kind, below, below', after, rfl, hb, rfl⟩ := record_cons_eq_ok hr
    · exact ⟨h.chains, Trail.kinds (s :: rest), [], by simp, by simp [chains_chain],
        by simp [Trail.kinds]⟩
    · obtain ⟨left, kinds, right, hl, hl', hk⟩ := hi hb
      let down (c : List String × String) := (kind :: c.1, c.2)
      have hc (b : History) : History.chains (before ++ .node kind b :: after) =
          chains before ++ b.chains.map down ++ chains after := by
        rw [List.append_cons, chains_append, chains_append, chains_node]
      refine ⟨chains before ++ left.map down, kind :: kinds, right.map down ++ chains after,
        ?_, ?_, by simp [hk]⟩
      · simp [hc, hl]
      · simp [hc, hl', down]

-- Recording in place leaves the history as it was if it fails, for one of the known reasons, and
-- otherwise puts one chain between those that are there.
theorem record_atomic (h : History) (trail : Trail) (token : String) :
    match h.recordInPlace trail token with
    | (.error e, h') => h' = h ∧ h.record trail token = .error e ∧ Refused token h trail e
    | (.ok (), h') => h.record trail token = .ok h' ∧ (∀ e, ¬Refused token h trail e) ∧
      ∃ before kinds after, h.chains = before ++ after ∧
        h'.chains = before ++ (kinds, token) :: after ∧ kinds.length = trail.length := by
  rw [recordInPlace_eq]
  cases hr : h.record trail token
  case error e => exact ⟨rfl, rfl, record_eq_error_iff.mp hr⟩
  case ok h' =>
    refine ⟨rfl, fun e refused => ?_, chains_of_record hr⟩
    cases hr.symm.trans (record_eq_error_iff.mpr refused)

end History

end Highlight
