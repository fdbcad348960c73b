import Highlight.Problem
import Mathlib.Data.Finset.Card
import Mathlib.Data.List.DropRight

namespace Highlight

theorem Pattern.compile_eq_ok {source : String} {p : Pattern} :
    compile source = .ok p ↔ p.source = source :=
  ⟨source_of_compile, fun h => h ▸ compile_source p⟩

namespace PatternStore

variable {store store' : PatternStore} {source : String} {p : Pattern}

theorem find?_eq_some : store.find? source = some p ↔ p ∈ store.patterns ∧ p.source = source := by
  constructor
  case mp =>
    intro h
    exact ⟨List.mem_of_find?_eq_some h, by simpa using List.find?_some h⟩
  case mpr =>
    rintro ⟨hm, rfl⟩
    cases hf : store.find? p.source
    case none => simpa using List.find?_eq_none.mp hf p hm
    case some q =>
      have hq : q.source = p.source := by simpa using List.find?_some hf
      rw [Pattern.eq_of_source_eq hq]

-- What is found is what compiling would yield.
theorem compile_of_find? (h : store.find? source = some p) : Pattern.compile source = .ok p :=
  Pattern.compile_eq_ok.mpr (find?_eq_some.mp h).right

-- The section under the lock: what is found is returned, what is rejected changes nothing, and
-- what is compiled is counted and kept.
theorem run_compileLocked_of_find? (h : store.find? source = some p) :
    (compileLocked source).run store = (.ok p, store) := by
  simp only [compileLocked, StateT.run_bind, StateT.run_get, pure_bind, h]
  rfl

theorem run_compileLocked_of_error {e : Regex.Error} (hp : Pattern.compile source = .error e) :
    (compileLocked source).run store = (.error e, store) := by
  cases hf : store.find? source
  case some p => cases hp.symm.trans (compile_of_find? hf)
  case none =>
    simp only [compileLocked, StateT.run_bind, StateT.run_get, pure_bind, hf, hp]
    rfl

theorem run_compileLocked_of_ok (hf : store.find? source = none)
    (hp : Pattern.compile source = .ok p) : (compileLocked source).run store =
      (.ok p, ⟨store.patterns ++ [p], store.compilations + 1⟩) := by
  have hk : find? { store with compilations := store.compilations + 1 } p.source = none := by
    rw [Pattern.source_of_compile hp]
    exact hf
  simp only [compileLocked, keep, StateT.run_bind, StateT.run_get, StateT.run_modify,
    StateT.run_modifyGet, pure_bind, hf, hp, hk]
  rfl

-- What the section can do: nothing, or one compilation of what is not there.
theorem compileLocked_cases {result : Except Regex.Error Pattern}
    (h : (compileLocked source).run store = (result, store')) :
    result = Pattern.compile source ∧
      (store' = store ∧
          ((∃ p, store.find? source = some p) ∨ ∃ e, Pattern.compile source = .error e) ∨
        ∃ p, store.find? source = none ∧ Pattern.compile source = .ok p ∧
          store' = ⟨store.patterns ++ [p], store.compilations + 1⟩) := by
  cases hp : Pattern.compile source
  case error e =>
    cases (run_compileLocked_of_error hp).symm.trans h
    exact ⟨rfl, .inl ⟨rfl, .inr ⟨e, rfl⟩⟩⟩
  case ok p =>
    cases hf : store.find? source
    case none =>
      cases (run_compileLocked_of_ok hf hp).symm.trans h
      exact ⟨rfl, .inr ⟨p, rfl, rfl, rfl⟩⟩
    case some q =>
      cases (run_compileLocked_of_find? hf).symm.trans h
      exact ⟨(compile_of_find? hf).symm.trans hp, .inl ⟨rfl, .inl ⟨q, rfl⟩⟩⟩

-- With nobody in between, the first look makes no difference to the section.
theorem run_fetch (store : PatternStore) (source : String) :
    (fetch source).run store = (compileLocked source).run store := by
  cases hf : store.find? source
  case none =>
    simp only [fetch, StateT.run_bind, StateT.run_get, pure_bind, hf]
  case some p =>
    rw [run_compileLocked_of_find? hf]
    simp only [fetch, StateT.run_bind, StateT.run_get, pure_bind, hf]
    rfl

-- Whatever has been compiled before, a pattern that was found to be well formed is found so again.
theorem fetch_source (store : PatternStore) (p : Pattern) :
    ∃ store', (fetch p.source).run store = (.ok p, store') := by
  refine ⟨((fetch p.source).run store).2, Prod.ext ?_ rfl⟩
  rw [run_fetch]
  exact (compileLocked_cases rfl).left.trans (Pattern.compile_source p)

theorem find?_eq_none :
    store.find? source = none ↔ source ∉ store.patterns.map (·.source) := by
  simp [find?]

-- A call takes one or two accesses: it ends where its pattern is found, and after a miss with the
-- section under the lock.
inductive Access (Caller : Type)
  | found (c : Caller) (source : String) (p : Pattern)
  | missed (c : Caller) (source : String)
  | locked (c : Caller) (source : String) (result : Except Regex.Error Pattern)
  | cleared (c : Caller)

section

variable {Caller : Type} {log : List (Access Caller)} {access : Access Caller}

namespace Access

-- The pattern that a call is about.
def source? : Access Caller → Option String
  | found _ source _ | missed _ source | locked _ source _ => some source
  | cleared _ => none

-- What a call that ends gives to its caller.
def answer? : Access Caller → Option (String × Except Regex.Error Pattern)
  | found _ source p => some (source, .ok p)
  | locked _ source result => some (source, result)
  | missed _ _ | cleared _ => none

def isClear : Access Caller → Bool
  | cleared _ => true
  | found .. | missed .. | locked .. => false

-- The pattern whose section under the lock has run, if it is well formed.
def settled? : Access Caller → Option String
  | locked _ source _ => if (Pattern.compile source).isOk then some source else none
  | found .. | missed .. | cleared _ => none

theorem settled?_locked_of_ok {c : Caller} {result : Except Regex.Error Pattern}
    (hp : Pattern.compile source = .ok p) : (locked c source result).settled? = some source := by
  rw [settled?, hp]
  rfl

theorem settled?_locked_of_error {c : Caller} {result : Except Regex.Error Pattern}
    {e : Regex.Error} (hp : Pattern.compile source = .error e) :
    (locked c source result).settled? = none := by
  rw [settled?, hp]
  rfl

end Access

-- The well-formed patterns whose section under the lock has run since the store was last cleared.
def settled (log : List (Access Caller)) : Finset String :=
  ((log.rtakeWhile (!·.isClear)).filterMap (·.settled?)).toFinset

theorem settled_concat_of_isClear (h : access.isClear) : settled (log ++ [access]) = ∅ := by
  simp [settled, h]

theorem mem_settled_concat (h : access.isClear = false) :
    source ∈ settled (log ++ [access]) ↔
      source ∈ settled log ∨ access.settled? = some source := by
  simp [settled, h]

-- The store holds each pattern that was settled, once, and has counted it once.
structure Exact (log : List (Access Caller)) (store : PatternStore) : Prop where
  nodup : (store.patterns.map (·.source)).Nodup
  mem_iff : ∀ source, source ∈ store.patterns.map (·.source) ↔ source ∈ settled log
  counted : store.compilations = store.size

namespace Exact

theorem empty (h : settled log = ∅) : Exact log {} where
  nodup := List.nodup_nil
  mem_iff _ := by simp [h]
  counted := rfl

theorem find?_iff (h : Exact log store) :
    store.find? source = some p ↔ source ∈ settled log ∧ Pattern.compile source = .ok p := by
  rw [find?_eq_some, ← h.mem_iff, Pattern.compile_eq_ok]
  constructor
  case mp  => exact fun ⟨hm, hs⟩ => ⟨List.mem_map.mpr ⟨p, hm, hs⟩, hs⟩
  case mpr =>
    rintro ⟨hm, rfl⟩
    obtain ⟨q, hq, hs⟩ := List.mem_map.mp hm
    exact ⟨Pattern.eq_of_source_eq hs ▸ hq, rfl⟩

theorem size_eq (h : Exact log store) : store.size = (settled log).card := by
  have hs : settled log = (store.patterns.map (·.source)).toFinset := by
    ext source
    rw [List.mem_toFinset, h.mem_iff]
  rw [hs, List.toFinset_card_of_nodup h.nodup, List.length_map]
  rfl

-- An access that settles nothing new and leaves the store alone.
theorem idle (h : Exact log store) (hc : access.isClear = false)
    (hs : ∀ source, access.settled? = some source → source ∈ settled log) :
    Exact (log ++ [access]) store where
  nodup := h.nodup
  counted := h.counted
  mem_iff source := by
    rw [h.mem_iff, mem_settled_concat hc]
    exact ⟨.inl, fun hm => hm.elim id (hs source)⟩

theorem compiled (h : Exact log store) (hf : store.find? source = none)
    (hp : Pattern.compile source = .ok p) (c : Caller) (result : Except Regex.Error Pattern) :
    Exact (log ++ [.locked c source result]) ⟨store.patterns ++ [p], store.compilations + 1⟩ where
  nodup := by
    have hs := Pattern.source_of_compile hp
    have hn := find?_eq_none.mp hf
    rw [List.map_append, List.map_singleton, hs, ← List.concat_eq_append]
    exact h.nodup.concat hn
  counted := by
    rw [h.counted]
    simp [size]
  mem_iff q := by
    rw [mem_settled_concat rfl, Access.settled?_locked_of_ok hp, ← h.mem_iff, List.map_append,
      List.mem_append, List.map_singleton, List.mem_singleton, Pattern.source_of_compile hp,
      Option.some_inj, eq_comm]

end Exact

end

-- A call as a whole, with nobody in between: it keeps and counts a pattern that was not settled.
theorem Exact.run_fetch_of_ok {Caller : Type} {log : List (Access Caller)} (h : Exact log store)
    (hp : Pattern.compile source = .ok p) : (fetch source).run store =
      (.ok p, if source ∈ settled log then store
        else ⟨store.patterns ++ [p], store.compilations + 1⟩) := by
  rw [run_fetch]
  split
  case isTrue hs => exact run_compileLocked_of_find? (h.find?_iff.mpr ⟨hs, hp⟩)
  case isFalse hs =>
    refine run_compileLocked_of_ok (Option.eq_none_iff_forall_ne_some.mpr fun q hq => ?_) hp
    exact hs (h.find?_iff.mp hq).left

structure Scene (Caller : Type) where
  store : PatternStore := {}
  -- What a caller has missed and is about to ask for under the lock.
  pending : Caller → Option String := fun _ => none

namespace Scene

variable {Caller : Type} [DecidableEq Caller]

inductive Step : Scene Caller → Access Caller → Scene Caller → Prop
  | found {scene : Scene Caller} {c : Caller} {source : String} {p : Pattern} :
    scene.pending c = none → scene.store.find? source = some p →
    Step scene (.found c source p) scene
  | missed {scene : Scene Caller} {c : Caller} {source : String} :
    scene.pending c = none → scene.store.find? source = none →
    Step scene (.missed c source)
      { scene with pending := Function.update scene.pending c (some source) }
  | locked {scene : Scene Caller} {c : Caller} {source : String}
    {result : Except Regex.Error Pattern} {store : PatternStore} :
    scene.pending c = some source → (compileLocked source).run scene.store = (result, store) →
    Step scene (.locked c source result) ⟨store, Function.update scene.pending c none⟩
  | cleared {scene : Scene Caller} {c : Caller} : scene.pending c = none →
    Step scene (.cleared c) { scene with store := scene.store.clear }

-- The accesses of all callers in the order in which they happen, from an empty store on.
inductive Run : List (Access Caller) → Scene Caller → Prop
  | start : Run [] {}
  | step {log : List (Access Caller)} {access : Access Caller} {scene scene' : Scene Caller} :
    Run log scene → Step scene access scene' → Run (log ++ [access]) scene'

variable {log : List (Access Caller)} {access : Access Caller} {scene scene' : Scene Caller}

theorem Step.answer {result : Except Regex.Error Pattern} (s : Step scene access scene')
    (h : access.answer? = some (source, result)) : result = Pattern.compile source := by
  cases s
  case found hf  => cases h; exact (compile_of_find? hf).symm
  case missed    => cases h
  case locked hr => cases h; exact (compileLocked_cases hr).left
  case cleared   => cases h

theorem Step.exact (s : Step scene access scene') (h : Exact log scene.store) :
    Exact (log ++ [access]) scene'.store := by
  cases s
  case found  => exact h.idle rfl nofun
  case missed => exact h.idle rfl nofun
  case locked hr =>
    obtain ⟨_, ⟨rfl, ⟨p, hf⟩ | ⟨e, he⟩⟩ | ⟨p, hf, hp, rfl⟩⟩ := compileLocked_cases hr
    · refine h.idle rfl fun source hs => ?_
      cases (Access.settled?_locked_of_ok (compile_of_find? hf)).symm.trans hs
      exact (h.find?_iff.mp hf).left
    · refine h.idle rfl fun source hs => ?_
      cases (Access.settled?_locked_of_error he).symm.trans hs
    · exact h.compiled hf hp _ _
  case cleared => exact .empty (settled_concat_of_isClear rfl)

-- A pattern that is rejected changes nothing, nor does one that is settled already.
theorem Step.store_eq (s : Step scene access scene') (h : Exact log scene.store)
    (hs : access.source? = some source)
    (hr : (∃ e, Pattern.compile source = .error e) ∨ source ∈ settled log) :
    scene'.store = scene.store := by
  cases s
  case found   => rfl
  case missed  => rfl
  case cleared => cases hs
  case locked hl =>
    cases hs
    obtain ⟨_, ⟨rfl, _⟩ | ⟨p, hf, hp, _⟩⟩ := compileLocked_cases hl
    · rfl
    · obtain ⟨e, he⟩ | hm := hr
      · cases he.symm.trans hp
      · cases hf.symm.trans (h.find?_iff.mpr ⟨hm, hp⟩)

theorem Step.find? (s : Step scene access scene') (hc : access.isClear = false)
    (hf : scene.store.find? source = some p) : scene'.store.find? source = some p := by
  cases s
  case found   => exact hf
  case missed  => exact hf
  case cleared => cases hc
  case locked hl =>
    obtain ⟨_, ⟨rfl, _⟩ | ⟨q, _, _, rfl⟩⟩ := compileLocked_cases hl
    · exact hf
    · have ⟨hm, hs⟩ := find?_eq_some.mp hf
      exact find?_eq_some.mpr ⟨List.mem_append_left _ hm, hs⟩

-- No caller is ever held up.
theorem exists_step_locked {c : Caller} (h : scene.pending c = some source) :
    ∃ scene', Step scene (.locked c source (Pattern.compile source)) scene' := by
  have hr : (compileLocked source).run scene.store =
      (Pattern.compile source, ((compileLocked source).run scene.store).2) :=
    Prod.ext (compileLocked_cases rfl).left rfl
  exact ⟨_, .locked h hr⟩

theorem exists_step_look {c : Caller} (h : scene.pending c = none) (source : String) :
    (∃ p, Step scene (.found c source p) scene) ∨
      ∃ scene', Step scene (.missed c source) scene' := by
  cases hf : scene.store.find? source
  case none   => exact .inr ⟨_, .missed h hf⟩
  case some p => exact .inl ⟨p, .found h hf⟩

-- A call as a whole is a look that finds the pattern, or one that misses it and then the section.
theorem steps_fetch {c : Caller} (h : scene.pending c = none) (source : String) :
    (∃ p, (fetch source).run scene.store = (.ok p, scene.store) ∧
        Step scene (.found c source p) scene) ∨
      ∃ result looked settled, (fetch source).run scene.store = (result, settled.store) ∧
        Step scene (.missed c source) looked ∧ Step looked (.locked c source result) settled := by
  rw [run_fetch]
  cases hf : scene.store.find? source
  case some p => exact .inl ⟨p, run_compileLocked_of_find? hf, .found h hf⟩
  case none =>
    exact .inr ⟨_, _, ⟨_, _⟩, rfl, .missed h hf, .locked (Function.update_self ..) rfl⟩

theorem Run.exact (run : Run log scene) : Exact log scene.store := by
  induction run
  case start     => exact .empty rfl
  case step s hi => exact s.exact hi

theorem Run.answers (run : Run log scene) : ∀ access ∈ log, ∀ source result,
    access.answer? = some (source, result) → result = Pattern.compile source := by
  induction run
  case start => simp
  case step s hi =>
    refine List.forall_mem_append.mpr ⟨hi, List.forall_mem_singleton.mpr ?_⟩
    exact fun _ _ ha => s.answer ha

-- Whatever the callers do, in whatever order, each gets what compiling its own pattern gives, and
-- the store holds just what was settled since it was last cleared, compiled once.
theorem run_transparent (run : Run log scene) :
    -- Of the errors only faults in the pattern are reported as problems of a pattern.
    (∀ access ∈ log, ∀ source result, access.answer? = some (source, result) →
      result = Pattern.compile source ∧ ∀ e, result = .error e →
        ((Cause.pattern source e).kind = .pattern source ↔ ∃ cause place, e = .fault cause place)) ∧
    scene.store.size = scene.store.compilations ∧
    scene.store.compilations = (settled log).card ∧
    (∀ source p, scene.store.find? source = some p ↔
      source ∈ settled log ∧ Pattern.compile source = .ok p) ∧
    -- Nothing is compiled a second time, and nothing is lost.
    (∀ access scene', Step scene access scene' →
      (∀ source, access.source? = some source →
        (∃ e, Pattern.compile source = .error e) ∨ source ∈ settled log →
        scene'.store = scene.store) ∧
      (access.isClear = false → ∀ source p, scene.store.find? source = some p →
        scene'.store.find? source = some p)) ∧
    -- Every call can be begun, and brought to an end.
    (∀ c source, scene.pending c = none → (∃ p, Step scene (.found c source p) scene) ∨
      ∃ scene', Step scene (.missed c source) scene') ∧
    (∀ c source, scene.pending c = some source →
      ∃ scene', Step scene (.locked c source (Pattern.compile source)) scene') ∧
    -- A call as a whole gives and leaves behind what its accesses give and leave behind when nobody
    -- is in between.
    (∀ c source, scene.pending c = none →
      (∃ p, (fetch source).run scene.store = (.ok p, scene.store) ∧
          Step scene (.found c source p) scene) ∨
        ∃ result looked settled, (fetch source).run scene.store = (result, settled.store) ∧
          Step scene (.missed c source) looked ∧ Step looked (.locked c source result) settled) ∧
    ∀ source,
      (∀ e, Pattern.compile source = .error e →
        (fetch source).run scene.store = (.error e, scene.store)) ∧
      ∀ p, Pattern.compile source = .ok p → (fetch source).run scene.store =
        (.ok p, if source ∈ settled log then scene.store
          else ⟨scene.store.patterns ++ [p], scene.store.compilations + 1⟩) := by
  have exact := run.exact
  refine ⟨fun access ha source result hr => ⟨run.answers access ha source result hr, ?_⟩,
    exact.counted.symm, exact.counted.trans exact.size_eq, fun _ _ => exact.find?_iff,
    fun access scene' s => ⟨fun _ => s.store_eq exact, fun hc _ _ => s.find? hc⟩,
    fun _ source h => exists_step_look h source, fun _ _ => exists_step_locked,
    fun _ source h => steps_fetch h source,
    fun source => ⟨fun e he => ?_, fun _ => exact.run_fetch_of_ok⟩⟩
  case refine_1 =>
    rintro e -
    cases e <;> simp [Cause.kind]
  case refine_2 => exact (run_fetch ..).trans (run_compileLocked_of_error he)

-- The store is cleared between the look of the second caller and its section under the lock, so the
-- pattern of the first two is compiled again. The pattern of the third is rejected.
theorem run_transparent_cleared : ∃ (p : Pattern) (e : Regex.Error) (scene : Scene Nat),
    Run [.missed 0 "a", .missed 1 "a", .missed 2 "(", .locked 0 "a" (.ok p), .cleared 3,
      .locked 1 "a" (.ok p), .locked 2 "(" (.error e)] scene ∧
    Pattern.compile "a" = .ok p ∧ Pattern.compile "(" = .error e ∧
    scene.store.size = 1 ∧ scene.store.compilations = 1 ∧ scene.store.find? "a" = some p := by
  obtain ⟨p, hp⟩ : ∃ p, Pattern.compile "a" = .ok p := by
    have : (Pattern.compile "a").isOk := by decide +kernel
    cases h : Pattern.compile "a"
    case error e => simp [h, Except.isOk, Except.toBool] at this
    case ok p    => exact ⟨p, rfl⟩
  obtain ⟨e, he⟩ : ∃ e, Pattern.compile "(" = .error e := by
    have : (Pattern.compile "(").isOk = false := by decide +kernel
    cases h : Pattern.compile "("
    case error e => exact ⟨e, rfl⟩
    case ok p    => simp [h, Except.isOk, Except.toBool] at this
  have locked (store : PatternStore) (h : store.find? "a" = none) :
      (compileLocked "a").run store =
        (.ok p, ⟨store.patterns ++ [p], store.compilations + 1⟩) :=
    run_compileLocked_of_ok h hp
  have rejected (store : PatternStore) : (compileLocked "(").run store = (.error e, store) :=
    run_compileLocked_of_error he
  let log : List (Access Nat) := [.missed 0 "a", .missed 1 "a", .missed 2 "(",
    .locked 0 "a" (.ok p), .cleared 3, .locked 1 "a" (.ok p), .locked 2 "(" (.error e)]
  obtain ⟨pending, run⟩ : ∃ pending, Run log ⟨⟨[p], 1⟩, pending⟩ := by
    have run := Run.start.step (show Step _ (.missed 0 "a") _ from .missed rfl rfl)
    have run := run.step (show Step _ (.missed 1 "a") _ from .missed rfl rfl)
    have run := run.step (show Step _ (.missed 2 "(") _ from .missed rfl rfl)
    have run := run.step (show Step _ (.locked 0 "a" _) _ from .locked rfl (locked _ rfl))
    have run := run.step (show Step _ (.cleared 3) _ from .cleared rfl)
    have run := run.step (show Step _ (.locked 1 "a" _) _ from .locked rfl (locked _ rfl))
    have run := run.step (show Step _ (.locked 2 "(" _) _ from .locked rfl (rejected _))
    exact ⟨_, run⟩
  have settled : settled log = {"a"} := by
    have ha : (Access.locked 1 "a" (.ok p)).settled? = some "a" := Access.settled?_locked_of_ok hp
    have hr : (Access.locked 2 "(" (.error e)).settled? = none := Access.settled?_locked_of_error he
    simp [log, PatternStore.settled, List.rtakeWhile, Access.isClear, ha, hr]
  have ⟨_, hs, hc, hf, _⟩ := run_transparent run
  have one : PatternStore.compilations ⟨[p], 1⟩ = 1 := by rw [hc, settled]; rfl
  exact ⟨p, e, _, run, hp, he, hs.trans one, one, (hf "a" p).mpr ⟨by simp [settled], hp⟩⟩

end Scene

end PatternStore

end Highlight
