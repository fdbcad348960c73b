import Highlight.Proofs.Preparing

namespace Highlight

namespace ParserLibrary

variable {Parser : Type} {library : ParserLibrary Parser} {p q : Parser}

-- What is documented of the library: a parser may be used for one text after the other, and what it
-- has parsed before makes no difference to what it makes of a text.
def Reusable (library : ParserLibrary Parser) : Prop :=
  ∀ parser before source,
    (library.parse (library.parse parser before).2 source).1 = (library.parse parser source).1

-- Two parsers make the same of every text.
def Agree (library : ParserLibrary Parser) (p q : Parser) : Prop :=
  ∀ source, (library.parse p source).1 = (library.parse q source).1

theorem Agree.refl (p : Parser) : library.Agree p p :=
  fun _ => rfl

theorem Agree.parse (agree : library.Agree p q) (reusable : library.Reusable) (before : String) :
    library.Agree (library.parse p before).2 q :=
  fun source => (reusable p before source).trans (agree source)

theorem Agree.fst_treeOf (agree : library.Agree p q) (source : String) :
    (library.treeOf p source).1 = (library.treeOf q source).1 :=
  congrArg (Except.mapError SourceProblem.ofParse) (agree source)

-- A text brings the program down: the library raises what is no error of its own, or makes of the
-- text a tree that has no kind.
def Fatal (library : ParserLibrary Parser) (parser : Parser) (source : String) : Prop :=
  (∃ name message, (library.parse parser source).1 = .error (.foreign name message)) ∨
    ∃ tree, (library.parse parser source).1 = .ok tree ∧ ∀ kind children, tree ≠ .node kind children

end ParserLibrary

namespace CommandLine

variable {Parser : Type} {host : Host Parser} {d : Decorations} {layout : Layout}

namespace Job

variable {j : Job Parser} {p q : Parser}

theorem fst_run_congr (agree : host.library.Agree p q) :
    (j.run host d layout p).1 = (j.run host d layout q).1 := by
  unfold run
  cases host.files.read host.here j.path
  case error e   => rfl
  case ok source => simp only [agree.fst_treeOf source]

theorem agree_run (agree : host.library.Agree p q) (reusable : host.library.Reusable) :
    host.library.Agree (j.run host d layout p).2 q := by
  unfold run
  cases host.files.read host.here j.path
  case error e   => exact agree
  case ok source => exact agree.parse reusable source

theorem run_of_read {source : String} (hr : host.files.read host.here j.path = .ok source) :
    (j.run host d layout p).1 =
      (Logged.ofExcept (((host.library.parse p source).1.mapError .ofParse).mapError .ofSource) >>=
        j.page host d layout source) := by
  rw [run, hr]
  rfl

-- A tree with a kind is printed, as every leaf of it can be styled.
theorem page_node (host : Host Parser) (d : Decorations) (layout : Layout)
    (wf : j.sheet.WellFormed) (source kind : String) (children : List Tree) :
    ∃ text, (j.page host d layout source (.node kind children)).result = .ok text := by
  have ⟨spans, hs⟩ := (Tree.node kind children).spans_of_wellFormed source wf
  simp only [page, Tree.rootKind, hs, Logged.result_bind, Logged.result_ofExcept, Logged.result_log,
    Logged.result_pure]
  exact ⟨_, rfl⟩

-- A job ends the program just if its text does so.
theorem exists_failure_iff (wf : j.sheet.WellFormed) :
    (∃ f, (j.run host d layout p).1.result = .error (.failure f)) ↔
      ∃ source, host.files.read host.here j.path = .ok source ∧ host.library.Fatal p source := by
  cases hr : host.files.read host.here j.path
  case error e => simp [run, hr]
  case ok source =>
    rw [run_of_read hr, Logged.result_bind, Logged.result_ofExcept]
    simp only [Except.ok.injEq, exists_eq_left', ParserLibrary.Fatal]
    cases (host.library.parse p source).1
    case error e =>
      cases e <;> simp [Except.mapError, SourceProblem.ofParse, JobError.ofSource, Except.bind]
    case ok tree =>
      cases tree
      case node kind children =>
        have ⟨text, ht⟩ := page_node host d layout wf source kind children
        simp [Except.mapError, Except.bind, ht]
      case leaf l => simp [Except.mapError, Except.bind, page, Tree.rootKind]
      case absent => simp [Except.mapError, Except.bind, page, Tree.rootKind]

end Job

-- What has been used makes of every text what it made of it when it was loaded.
def Unspoilt (host : Host Parser) (used : Cache Parser) : Prop :=
  ∀ path p q, used.lookup path = some p → host.HasParser path q → host.library.Agree p q

theorem Host.HasParser.unique {path : Path} {p q : Parser} (hp : host.HasParser path p)
    (hq : host.HasParser path q) : p = q := by
  obtain ⟨text, ht, hp⟩ := hp
  obtain ⟨text', ht', hq⟩ := hq
  cases ht.symm.trans ht'
  exact Except.ok.inj (hp.symm.trans hq)

namespace Unspoilt

variable {used : Cache Parser} {j : Job Parser}

theorem nil : Unspoilt host [] := by
  simp [Unspoilt]

theorem agree (unspoilt : Unspoilt host used) (hj : host.HasParser j.grammar j.parser) :
    host.library.Agree ((used.lookup j.grammar).getD j.parser) j.parser := by
  cases h : used.lookup j.grammar
  case none   => exact .refl j.parser
  case some p => exact unspoilt j.grammar p j.parser h hj

theorem cons (unspoilt : Unspoilt host used) (hj : host.HasParser j.grammar j.parser) {p : Parser}
    (agree : host.library.Agree p j.parser) : Unspoilt host ((j.grammar, p) :: used) := by
  intro path p' q hp hq
  rw [List.lookup_cons] at hp
  split at hp
  case h_1 he =>
    cases hp
    cases beq_iff_eq.mp he
    exact hj.unique hq ▸ agree
  case h_2 => exact unspoilt path p' q hp hq

end Unspoilt

-- What a job adds with a parser that has not been used.
def Job.outcome (j : Job Parser) (r : CatRequest) (host : Host Parser) (d : Decorations) :
    Outcome :=
  printed r j.path (j.run host d r.layout j.parser).1

-- That jobs share parsers makes no difference to any of them.
theorem outcomes_eq_map {r : CatRequest} (reusable : host.library.Reusable) {used : Cache Parser}
    (unspoilt : Unspoilt host used) {jobs : List (Job Parser)}
    (hj : ∀ j ∈ jobs, host.HasParser j.grammar j.parser) :
    outcomes r host d used jobs = jobs.map (·.outcome r host d) := by
  induction jobs generalizing used
  case nil => rfl
  case cons j rest hi =>
    have ⟨hj, hrest⟩ := List.forall_mem_cons.mp hj
    have agree := unspoilt.agree hj
    rw [outcomes, List.map_cons, Job.outcome, ← Job.fst_run_congr agree]
    exact congrArg _ (hi (unspoilt.cons hj (Job.agree_run agree reusable)) hrest)

theorem isSome_failure_printed {r : CatRequest} {path : Path} {page : Logged JobError String} :
    (printed r path page).failure.isSome ↔ ∃ f, page.result = .error (.failure f) := by
  unfold printed
  dsimp only
  split <;> simp [*]

theorem status_printed_le (r : CatRequest) (path : Path) (page : Logged JobError String) :
    (printed r path page).status ≤ 1 := by
  unfold printed
  dsimp only
  split <;> simp

end CommandLine

end Highlight
