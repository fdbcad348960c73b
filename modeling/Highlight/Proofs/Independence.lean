import Highlight.Proofs.Arguments
import Highlight.Proofs.Outcomes
import Highlight.Proofs.Reuse

namespace Highlight

namespace CommandLine

open CatRequest

variable {Parser : Type} {host : Host Parser} {config : Config} {r : CatRequest}

-- Nothing is printed before all is prepared.
theorem cat_unprepared (h : ∀ config d jobs,
    Config.ofDirectory host.homes host.configDirectory = .ok config →
    (r.prepare host config).result ≠ .ok (d, jobs)) :
    (cat host r).output = "" ∧ (cat host r).status = 1 := by
  have hr (e : Refusal) : (refused e).output = "" ∧ (refused e).status = 1 := by
    cases e <;> exact ⟨rfl, rfl⟩
  unfold cat
  split
  case h_1 e _ => exact hr _
  case h_2 config hc =>
    dsimp only
    split
    case h_1 e _ => simp [Outcome.append, hr e]
    case h_2 d jobs hp => exact absurd hp (h config d jobs hc)

theorem cat_blocked (h : r.Unloadable host ∨ r.Unsearchable host) :
    (cat host r).output = "" ∧ (cat host r).status = 1 := by
  refine cat_unprepared fun config d jobs hc hp => ?_
  obtain ⟨hd, hjobs⟩ := prepare_eq_ok.mp hp
  have hsuits := Document.exists_forall₂_iff.mp ⟨jobs, hjobs⟩
  rw [unloadable_iff hc, unsearchable_iff hc] at h
  obtain (hu | ⟨f, hf, hb⟩) | ⟨f, hf, ho⟩ := h
  · obtain h | ⟨_, h⟩ := Decorations.exists_ofFile_iff.mp ⟨d, hd⟩
    · cases hu.left.symm.trans h
    · exact hu.right h
  · exact (exists_suits_iff.mp (hsuits f hf)).left hb
  · exact (exists_suits_iff.mp (hsuits f hf)).right ho

-- There is no telling where the decorations are, or whether there are any.
def Host.Unsettled (host : Host Parser) : Prop :=
  (∃ e, Config.ofDirectory host.homes host.configDirectory = .error e) ∨
    ∃ config, Config.ofDirectory host.homes host.configDirectory = .ok config ∧
      ∃ e, host.files.exist host.here config.decorationFile = .error e

theorem Host.unsettled_iff (hc : Config.ofDirectory host.homes host.configDirectory = .ok config) :
    host.Unsettled ↔ ∃ e, host.files.exist host.here config.decorationFile = .error e := by
  simp only [Unsettled, hc, Except.ok.injEq, exists_eq_left', reduceCtorEq, exists_false, false_or]

-- Then every request ends in the same way.
theorem cat_unsettled (h : host.Unsettled) :
    ∃ f, ∀ r : CatRequest, (cat host r).Alike { status := 1, failure := some f } := by
  obtain ⟨e, he⟩ | ⟨config, hc, ⟨e, p⟩, he⟩ := h
  · refine ⟨.config e, fun r => ?_⟩
    rw [cat, he]
    exact ⟨rfl, rfl, rfl, rfl⟩
  · refine ⟨.config (.file e p), fun r => ?_⟩
    have hp : r.prepare host config = ⟨[], .error (.failure (.config (.file e p)))⟩ := by
      rw [prepare, Decorations.ofFile, he]
      rfl
    rw [cat, hc]
    simp only [hp]
    exact ⟨rfl, rfl, rfl, rfl⟩

-- If all is prepared, then the files are printed one after the other, up to one that ends the
-- program.
theorem cat_prepared (reusable : host.library.Reusable) {d : Decorations} {jobs : List (Job Parser)}
    (hc : Config.ofDirectory host.homes host.configDirectory = .ok config)
    (hp : (r.prepare host config).result = .ok (d, jobs)) :
    (cat host r).Comprises (Outcome.untilFailure (jobs.map (·.outcome r host d))) := by
  have ⟨_, hjobs⟩ := prepare_eq_ok.mp hp
  have parsers : ∀ j ∈ jobs, host.HasParser j.grammar j.parser := fun j hj =>
    have ⟨_, suits⟩ := Document.exists_forall₂_iff.mp ⟨r.files, hjobs.flip⟩ j hj
    suits.parser
  rw [cat, hc]
  simp only [hp, outcomes_eq_map reusable .nil parsers]
  refine Outcome.comprises_foldl ⟨rfl, ?_, rfl, rfl⟩ fun p hp => ?_
  · rw [Outcome.errorText_append, Outcome.errorText, Message.render_events]
    rfl
  · obtain ⟨j, _, rfl⟩ := List.mem_map.mp (Outcome.mem_of_mem_untilFailure hp)
    exact status_printed_le ..

-- A file that can be printed is printed the same way alone.
theorem cat_alone (reusable : host.library.Reusable) {d : Decorations} {j : Job Parser}
    {file : String} (hc : Config.ofDirectory host.homes host.configDirectory = .ok config)
    (hd : (Decorations.ofFile host.files host.here config.decorationFile).result = .ok d)
    (suits : r.Suits host config (Path.ofText file) j) :
    (cat host { r with files := [file] }).Alike (j.outcome r host d) := by
  have hp : (prepare { r with files := [file] } host config).result = .ok (d, [j]) :=
    prepare_eq_ok.mpr ⟨hd, .cons ⟨suits.file, suits.grammar, suits.parser, suits.sheet⟩ .nil⟩
  have h := cat_prepared reusable hc hp
  rw [List.map_singleton, Outcome.untilFailure, Outcome.untilFailure, ite_self] at h
  exact h.alike (status_printed_le ..)

-- Printing a file ends the program, by what the library makes of its text.
def CatRequest.Fatal (r : CatRequest) (host : Host Parser) (file : String) : Prop :=
  ∃ config path parser source,
    Config.ofDirectory host.homes host.configDirectory = .ok config ∧
    r.grammarFile host config (Path.ofText file) = .ok (some path) ∧
    host.HasParser path parser ∧
    host.files.read host.here (Path.ofText file) = .ok source ∧
    host.library.Fatal parser source

theorem CatRequest.fatal_iff {file : String} {path : Path} {parser : Parser}
    (hc : Config.ofDirectory host.homes host.configDirectory = .ok config)
    (hg : r.grammarFile host config (Path.ofText file) = .ok (some path))
    (hp : host.HasParser path parser) : r.Fatal host file ↔
      ∃ source, host.files.read host.here (Path.ofText file) = .ok source ∧
        host.library.Fatal parser source := by
  constructor
  case mp =>
    rintro ⟨_, _, _, source, hc', hg', hp', hr, hf⟩
    cases hc.symm.trans hc'
    cases hg.symm.trans hg'
    exact ⟨source, hr, hp'.unique hp ▸ hf⟩
  case mpr =>
    rintro ⟨source, hr, hf⟩
    exact ⟨config, path, parser, source, hc, hg, hp, hr, hf⟩

theorem wellFormed_of_suits {path : Path} {j : Job Parser} (suits : r.Suits host config path j) :
    j.sheet.WellFormed := by
  obtain ⟨_, he⟩ | ⟨_, _, hs⟩ := suits.sheet
  · rw [he]
    exact .node (by simp) .nil (by simp)
  · exact (Sheet.Obtained.file hs).wellFormed

theorem isSome_failure_outcome {file : String} {j : Job Parser} {d : Decorations}
    (hc : Config.ofDirectory host.homes host.configDirectory = .ok config)
    (suits : r.Suits host config (Path.ofText file) j) :
    (j.outcome r host d).failure.isSome ↔ r.Fatal host file := by
  rw [Job.outcome, isSome_failure_printed, Job.exists_failure_iff (wellFormed_of_suits suits),
    suits.file, CatRequest.fatal_iff hc suits.grammar suits.parser]

-- What it takes to print a request is there, unless something is wrong with it.
theorem exists_prepared (hu : ¬r.Unloadable host) (hs : ¬r.Unsearchable host)
    (settled : ¬host.Unsettled) : ∃ config d jobs,
    Config.ofDirectory host.homes host.configDirectory = .ok config ∧
    (Decorations.ofFile host.files host.here config.decorationFile).result = .ok d ∧
    List.Forall₂ (fun f => r.Suits host config (Path.ofText f)) r.files jobs := by
  obtain ⟨config, hc⟩ : ∃ config,
      Config.ofDirectory host.homes host.configDirectory = .ok config := by
    cases hc : Config.ofDirectory host.homes host.configDirectory
    case error e => exact absurd (.inl ⟨e, hc⟩) settled
    case ok c    => exact ⟨c, rfl⟩
  obtain ⟨d, hd⟩ : ∃ d,
      (Decorations.ofFile host.files host.here config.decorationFile).result = .ok d := by
    rw [Decorations.exists_ofFile_iff]
    match he : host.files.exist host.here config.decorationFile with
    | .error e  => exact absurd (.inr ⟨config, hc, e, he⟩) settled
    | .ok false => exact .inl rfl
    | .ok true  => exact .inr ⟨rfl, not_not.mp fun h => hu ⟨config, hc, .inl ⟨he, h⟩⟩⟩
  obtain ⟨jobs, hjobs⟩ : ∃ jobs,
      List.Forall₂ (fun f => r.Suits host config (Path.ofText f)) r.files jobs := by
    refine Document.exists_forall₂_iff.mpr fun f hf => exists_suits_iff.mpr ?_
    refine ⟨fun h => ?_, fun h => ?_⟩
    · exact hu ⟨config, hc, .inr ⟨f, hf, h⟩⟩
    · exact hs ⟨config, hc, f, hf, h⟩
  exact ⟨config, d, jobs, hc, hd, hjobs⟩

-- The files of a request are printed as each of them is by itself, up to one that ends the program.
theorem cat_each (reusable : host.library.Reusable) (hn : r.files ≠ [])
    (hu : ¬r.Unloadable host) (hs : ¬r.Unsearchable host) :
    (cat host r).Comprises
        (Outcome.untilFailure (r.files.map fun f => cat host { r with files := [f] })) ∧
      (∀ f ∈ r.files, (cat host { r with files := [f] }).failure.isSome ↔
        host.Unsettled ∨ r.Fatal host f) ∧
      ((∀ f ∈ r.files, ¬r.Fatal host f) →
        (cat host r).Comprises (r.files.map fun f => cat host { r with files := [f] })) := by
  by_cases unsettled : host.Unsettled
  case pos =>
    have ⟨f, hall⟩ := cat_unsettled unsettled
    have each : ∀ p ∈ r.files.map fun f => cat host { r with files := [f] },
        p.Alike { status := 1, failure := some f } :=
      List.forall_mem_map.mpr fun f _ => hall { r with files := [f] }
    have hne : (r.files.map fun f => cat host { r with files := [f] }) ≠ [] := by simpa using hn
    refine ⟨?_, fun f _ => ?_, fun _ => Outcome.comprises_of_alike hne (hall r) each⟩
    · exact Outcome.comprises_of_alike (Outcome.untilFailure_ne_nil hne) (hall r)
        fun p hp => each p (Outcome.mem_of_mem_untilFailure hp)
    · simp [(hall { r with files := [f] }).failure, unsettled]
  case neg =>
    have ⟨config, d, jobs, hc, hd, hjobs⟩ := exists_prepared hu hs unsettled
    have alike : List.Forall₂ Outcome.Alike (r.files.map fun f => cat host { r with files := [f] })
        (jobs.map (·.outcome r host d)) := by
      rw [List.forall₂_map_left_iff, List.forall₂_map_right_iff]
      exact hjobs.imp fun f j suits => cat_alone reusable hc hd suits
    have comprises := (cat_prepared reusable hc (prepare_eq_ok.mpr ⟨hd, hjobs⟩)).congr
      (Outcome.untilFailure_congr alike)
    have fatal : ∀ f ∈ r.files, (cat host { r with files := [f] }).failure.isSome ↔
        r.Fatal host f := by
      intro f hf
      have ⟨j, suits⟩ := Document.exists_forall₂_iff.mp ⟨jobs, hjobs⟩ f hf
      rw [(cat_alone reusable hc hd suits).failure, isSome_failure_outcome hc suits]
    refine ⟨comprises, fun f hf => by simp [fatal f hf, unsettled], fun hnot => ?_⟩
    rwa [Outcome.untilFailure_eq_self] at comprises
    refine List.forall_mem_map.mpr fun f hf => ?_
    exact Option.not_isSome_iff_eq_none.mp (mt (fatal f hf).mp (hnot f hf))

theorem run_cat {args files : List String} {given : List (Given CatOption)}
    (asks : Asks host args given files r) : run host ("cat" :: args) = (cat host r, false) := by
  have h : mainOptions.read false ("cat" :: args) = .ok ([], "cat" :: args) := by
    rw [Options.read, if_neg (by decide), if_neg (by decide)]
    rfl
  have hr : runCat host args = cat host r := by
    simp only [runCat, asks.read, asks.noHelp, asks.request]
    rfl
  simp only [run, h]
  rw [← hr]
  rfl

-- Either nothing is printed, or each file is printed as it would be with the same options alone, up
-- to a file that ends the program.
theorem run_cat_each (reusable : host.library.Reusable) (hn : r.files ≠ []) :
    (r.Unloadable host ∨ r.Unsearchable host →
      (cat host r).output = "" ∧ (cat host r).status = 1) ∧
    (¬r.Unloadable host → ¬r.Unsearchable host →
      let each := r.files.map fun f => cat host { r with files := [f] }
      (cat host r).Comprises
        (each.takeWhile (·.failure.isNone) ++ (each.find? (·.failure.isSome)).toList) ∧
      (∀ f ∈ r.files, (cat host { r with files := [f] }).failure.isSome ↔
        host.Unsettled ∨ r.Fatal host f) ∧
      ((∀ f ∈ r.files, ¬r.Fatal host f) → (cat host r).Comprises each)) ∧
    -- What arguments ask for is such a request, and each of its files can be asked for alone.
    ∀ args given files, Asks host args given files r →
      r.files = files ∧ run host ("cat" :: args) = (cat host r, false) ∧
      (∃ before, ∀ f, catOptions.read true (before ++ ["--", f]) = .ok (given, [f])) ∧
      ∀ alone, ∀ f ∈ files, catOptions.read true alone = .ok (given, [f]) →
        run host ("cat" :: alone) = (cat host { r with files := [f] }, false) := by
  refine ⟨cat_blocked, fun hu hs => ?_, fun args given files asks => ?_⟩
  · have each := cat_each reusable hn hu hs
    rwa [Outcome.untilFailure_eq] at each
  · obtain ⟨rfl, -, request⟩ := catRequest_alone asks.request
    have ⟨before, hb⟩ := Options.exists_read asks.read
    exact ⟨rfl, run_cat asks, ⟨before, fun f => hb [f]⟩,
      fun alone f hf read => run_cat ⟨read, asks.noHelp, request f hf⟩⟩

-- A name that is a few octets shorter than names may be.
def longName : String := String.ofList (List.replicate 250 'z')

-- The library as it is for one grammar and the texts that are on the shelf. The tree of a single
-- token is the token itself.
def shelfLibrary : ParserLibrary Unit where
  build _ _ := .ok ()
  parse _ source := match source with
    | "a" => (.ok (.leaf ⟨"A", "a", some 0, some 1⟩), ())
    | "bc" =>
      (.ok (.node "start" [.leaf ⟨"B", "b", some 0, some 1⟩, .leaf ⟨"C", "c", some 1, some 2⟩]), ())
    | _ => (.error (.unexpected ("Unexpected token Token('$END', '') at line 1, column 1.\n" ++
        "Expected one of: \n\t* C\n") (some 1) (some 1)), ())

-- A grammar, a file that is a single token, one that the grammar does not fit, one that it fits,
-- and one with a long name.
def shelf : Host Unit where
  files := ⟨[(["g"], .file "?start: \"a\" | \"b\" \"c\"".toUTF8.toList),
    (["a"], .file "a".toUTF8.toList), (["b"], .file "b".toUTF8.toList),
    (["bc"], .file "bc".toUTF8.toList), ([longName], .file []), (["c"], .directory),
    (["c", "style"], .directory), (["c", "style", "active"], .directory)]⟩
  here := .root
  homes _ := none
  configDirectory := some "c"
  library := shelfLibrary
  painter := .ansi

theorem reusable_shelf : shelf.library.Reusable :=
  fun _ _ _ => rfl

theorem read_shelf {files : List String} (ho : ∀ f ∈ files, f ≠ "--" ∧ ¬Options.isOption f) :
    catOptions.read true ("-g" :: "g" :: files) = .ok ([⟨.grammar, some "g"⟩], files) := by
  have hfiles : catOptions.read true files = .ok ([], files) := by
    induction files
    case nil => rw [Options.read]
    case cons f files hi =>
      obtain ⟨⟨hd, hf⟩, hfs⟩ := List.forall_mem_cons.mp ho
      rw [Options.read, if_neg hd, if_neg hf, if_pos rfl, hi hfs]
      rfl
  have hd : "-g" ≠ "--" := by decide
  have ha : catOptions.readArgument "-g" (some "g") = .ok ([⟨.grammar, some "g"⟩], true) := rfl
  exact Options.read_option hd rfl ("g" :: files) ha hfiles

def shelfRequest (files : List String) : CatRequest := { files, grammar := some "g" }

theorem asks_shelf {files : List String} (hn : files ≠ [])
    (ho : ∀ f ∈ files, f ≠ "--" ∧ ¬Options.isOption f)
    (hc : ∀ f ∈ files, checkFile shelf "'FILES...'" f = .ok ()) :
    Asks shelf ("-g" :: "g" :: files) [⟨.grammar, some "g"⟩] files (shelfRequest files) := by
  have hg : checkOption shelf [⟨.grammar, some "g"⟩] .grammar = .ok () := rfl
  have hf : forM files (checkFile shelf "'FILES...'") = .ok () := forM_eq_ok.mpr hc
  refine ⟨read_shelf ho, by decide, ?_⟩
  simp [catRequest, hg, hf, hn, lastValue, bind, Except.bind, pure, Except.pure, shelfRequest]

-- Where its sheets are.
def shelfConfig : Config := { directory := ⟨"", ["c"]⟩ }

theorem ofDirectory_shelf :
    Config.ofDirectory shelf.homes shelf.configDirectory = .ok shelfConfig := by
  rfl

-- What there is on the shelf and what there is not, and a run with one file.
theorem shelf_holds :
    (shelf.files.read shelf.here (Path.ofText "g")).toOption =
      some "?start: \"a\" | \"b\" \"c\"" ∧
    shelf.files.exist shelf.here shelfConfig.decorationFile = .ok false ∧
    (run shelf ["cat", "-g", "g", "bc"]).1.output = "bc" ∧
    ∀ f ∈ ["bc", "b", "a"],
      (shelf.files.read shelf.here (Path.ofText f)).toOption = some f ∧
      sheetFile { files := [] } shelf shelfConfig (Path.ofText f) = .ok none := by
  decide +kernel

theorem suits_shelf (files : List String) {f : String} (hf : f ∈ ["bc", "b", "a"]) :
    (shelfRequest files).Suits shelf shelfConfig (Path.ofText f)
      ⟨Path.ofText f, Path.ofText "g", (), ∅⟩ where
  file := rfl
  grammar := rfl
  parser := ⟨_, Logged.toOption_eq_some.mp shelf_holds.left, rfl⟩
  sheet := .inl ⟨(shelf_holds.right.right.right f hf).right, rfl⟩

theorem checkFile_of_stat {host : Host Parser} {parameter file : String} (octets : List UInt8)
    (hz : '\x00' ∉ file.toList) (he : file.isEmpty = false)
    (ha : Files.asksDirectory file = false)
    (hs : host.files.stat host.here (Path.ofText file) = .ok (.file octets)) :
    checkFile host parameter file = .ok () := by
  simp [checkFile, hz, Files.statText, he, hs, ha]

-- The long name is one of a file on the shelf, but there is no asking for a sheet by it.
theorem longName_holds (files : List String) :
    (longName ≠ "--" ∧ ¬Options.isOption longName) ∧
    checkFile shelf "'FILES...'" longName = .ok () ∧
    (shelfRequest files).Overlong shelf shelfConfig longName := by
  have hl : longName.toList = List.replicate 250 'z' := String.toList_ofList
  have ho : Path.ofText longName = ⟨"", [longName]⟩ := by
    simp only [Path.ofText, hl]
    decide +kernel
  refine ⟨?_, ?_, rfl, ?_⟩
  case refine_1 =>
    rw [Options.isOption, hl]
    decide +kernel
  case refine_2 =>
    have ht : (⟨"", [longName]⟩ : Path).text = longName := by decide +kernel
    refine checkFile_of_stat [] ?_ (by decide +kernel) ?_ ?_
    · rw [hl, List.mem_replicate]
      decide
    · rw [Files.asksDirectory, hl]
      decide +kernel
    · rw [ho, Files.stat, ht, hl]
      decide +kernel
  case refine_3 =>
    have hb : Config.bareExtension longName = longName := by
      rw [Config.bareExtension, hl]
      decide +kernel
    have he : extension (Path.ofText longName) = longName := by
      have hs : Path.suffix ⟨"", [longName]⟩ = "" := by
        simp only [Path.suffix, Path.name, List.getLast?_singleton, Option.getD_some, hl]
        decide +kernel
      rw [ho, extension, hs]
      decide +kernel
    have hp : Path.ofText (longName ++ ".syncat") = ⟨"", [longName ++ ".syncat"]⟩ := by
      simp only [Path.ofText, String.toList_append, hl]
      decide +kernel
    have hj : shelfConfig.styleDirectory.join ⟨"", [longName ++ ".syncat"]⟩ =
        ⟨"", ["c", "style", "active", longName ++ ".syncat"]⟩ := by decide +kernel
    have ht : Path.text ⟨"", ["c", "style", "active", longName ++ ".syncat"]⟩ =
        String.ofList ("c/style/active/".toList ++ List.replicate 250 'z' ++ ".syncat".toList) := by
      decide +kernel
    rw [he, hb]
    show shelf.files.stat shelf.here (shelfConfig.styleDirectory.join
      (Path.ofText (longName ++ ".syncat"))) = _
    rw [hp, hj, Files.stat, ht, String.toList_ofList]
    decide +kernel

-- One file is printed and another one is reported, and so it is alone. A file that is a single
-- token ends the program, and none of those after it is printed.
theorem run_cat_each_mixed :
    (∃ given r, Asks shelf ["-g", "g", "bc", "b"] given ["bc", "b"] r ∧ ¬r.Unloadable shelf ∧
      ¬r.Unsearchable shelf ∧ ∀ f ∈ ["bc", "b"], ¬r.Fatal shelf f) ∧
    (run shelf ["cat", "-g", "g", "bc", "b"]).1.Comprises
      [(run shelf ["cat", "-g", "g", "bc"]).1, (run shelf ["cat", "-g", "g", "b"]).1] ∧
    (run shelf ["cat", "-g", "g", "bc", "a", "bc"]).1.Comprises
      [(run shelf ["cat", "-g", "g", "bc"]).1, (run shelf ["cat", "-g", "g", "a"]).1] := by
  obtain ⟨_, undecorated, _, holds⟩ := shelf_holds
  have asks {files : List String} (hn : files ≠ []) (hf : files ⊆ ["bc", "b", "a"]) :
      Asks shelf ("-g" :: "g" :: files) [⟨.grammar, some "g"⟩] files (shelfRequest files) := by
    have names : ∀ f ∈ ["bc", "b", "a"], f ≠ "--" ∧ ¬Options.isOption f := by decide
    have checks : ∀ f ∈ ["bc", "b", "a"], checkFile shelf "'FILES...'" f = .ok () := by
      simp only [List.forall_mem_cons]
      exact ⟨rfl, rfl, rfl, by simp⟩
    exact asks_shelf hn (fun f hm => names f (hf hm)) fun f hm => checks f (hf hm)
  have whole {files : List String} (hf : files ⊆ ["bc", "b", "a"]) :
      ¬(shelfRequest files).Unloadable shelf ∧ ¬(shelfRequest files).Unsearchable shelf := by
    have suits (f : String) (hm : f ∈ files) :=
      exists_suits_iff.mp ⟨_, suits_shelf files (hf hm)⟩
    rw [unloadable_iff ofDirectory_shelf, unsearchable_iff ofDirectory_shelf]
    constructor
    · rintro (h | ⟨f, hm, h⟩)
      · cases undecorated.symm.trans h.left
      · exact (suits f hm).left h
    · rintro ⟨f, hm, h⟩
      exact (suits f hm).right h
  have settled : ¬shelf.Unsettled := by
    rw [Host.unsettled_iff ofDirectory_shelf, undecorated]
    simp
  have fatal (files : List String) {f : String} (hm : f ∈ ["bc", "b", "a"]) :
      (shelfRequest files).Fatal shelf f ↔ f = "a" := by
    have read : shelf.files.read shelf.here (Path.ofText f) = .ok f :=
      Logged.toOption_eq_some.mp (holds f hm).left
    rw [CatRequest.fatal_iff ofDirectory_shelf rfl (suits_shelf files hm).parser, read]
    revert f
    simp [ParserLibrary.Fatal, shelf, shelfLibrary]
  have sub : ["bc", "b"] ⊆ ["bc", "b", "a"] := by decide
  have sub' : ["bc", "a", "bc"] ⊆ ["bc", "b", "a"] := by decide
  have alone {f : String} (hm : f ∈ ["bc", "b", "a"]) :
      run shelf ["cat", "-g", "g", f] = (cat shelf (shelfRequest [f]), false) :=
    run_cat (asks (by simp) (by simpa using hm))
  have nonfatal : ∀ f ∈ ["bc", "b"], ¬(shelfRequest ["bc", "b"]).Fatal shelf f := by
    intro f hm
    rw [fatal _ (sub hm)]
    revert f
    decide
  obtain ⟨_, each, command⟩ :=
    run_cat_each (r := shelfRequest ["bc", "b"]) reusable_shelf (by simp [shelfRequest])
  obtain ⟨_, each', command'⟩ :=
    run_cat_each (r := shelfRequest ["bc", "a", "bc"]) reusable_shelf (by simp [shelfRequest])
  obtain ⟨_, all, _⟩ := command _ _ _ (asks (by simp) sub)
  obtain ⟨_, all', _⟩ := command' _ _ _ (asks (by simp) sub')
  refine ⟨⟨_, _, asks (by simp) sub, (whole sub).left, (whole sub).right, nonfatal⟩, ?_, ?_⟩
  · simp only [all, alone (f := "bc") (by simp), alone (f := "b") (by simp)]
    exact (each (whole sub).left (whole sub).right).right.right nonfatal
  · obtain ⟨comprises, failure, _⟩ := each' (whole sub').left (whole sub').right
    have fails {f : String} (hm : f ∈ ["bc", "a", "bc"]) :
        (cat shelf (shelfRequest [f])).failure.isSome ↔ f = "a" := by
      rw [← fatal ["bc", "a", "bc"] (sub' hm)]
      exact (failure f hm).trans (or_iff_right settled)
    have bc : (cat shelf (shelfRequest ["bc"])).failure.isSome = false :=
      Bool.eq_false_iff.mpr (mt (fails (by simp)).mp (by decide))
    have a : (cat shelf (shelfRequest ["a"])).failure.isSome := (fails (by simp)).mpr rfl
    simp only [all', alone (f := "bc") (by simp), alone (f := "a") (by simp)]
    rw [← Outcome.untilFailure_eq] at comprises
    have : (cat shelf (shelfRequest ["bc", "a", "bc"])).Comprises (Outcome.untilFailure
      [cat shelf (shelfRequest ["bc"]), cat shelf (shelfRequest ["a"]),
        cat shelf (shelfRequest ["bc"])]) := comprises
    simpa [Outcome.untilFailure, bc, a] using this

-- The sheet for the long name cannot be looked for. Alone the other file is printed, but not beside
-- this one, although nothing is there that could fail to load.
theorem run_cat_overlong :
    (∃ given r, Asks shelf ["-g", "g", "bc", longName] given ["bc", longName] r ∧
      ¬r.Unloadable shelf) ∧
    (run shelf ["cat", "-g", "g", "bc", longName]).1.output = "" ∧
    (run shelf ["cat", "-g", "g", "bc"]).1.output = "bc" ∧
    ¬(run shelf ["cat", "-g", "g", "bc", longName]).1.Comprises
      [(run shelf ["cat", "-g", "g", "bc"]).1, (run shelf ["cat", "-g", "g", longName]).1] := by
  have ⟨_, undecorated, hone, _⟩ := shelf_holds
  have ⟨hl, check, overlong⟩ := longName_holds ["bc", longName]
  have asks : Asks shelf ["-g", "g", "bc", longName] [⟨.grammar, some "g"⟩] ["bc", longName]
      (shelfRequest ["bc", longName]) := by
    refine asks_shelf (by simp) ?_ ?_
    · exact List.forall_mem_cons.mpr ⟨by decide, List.forall_mem_singleton.mpr hl⟩
    · exact List.forall_mem_cons.mpr ⟨rfl, List.forall_mem_singleton.mpr check⟩
  have suits := suits_shelf ["bc", longName] (show "bc" ∈ ["bc", "b", "a"] by simp)
  have whole : ¬(shelfRequest ["bc", longName]).Unloadable shelf := by
    rw [unloadable_iff ofDirectory_shelf]
    rintro (h | ⟨f, hm, h⟩)
    · cases undecorated.symm.trans h.left
    · obtain rfl | rfl := List.mem_pair.mp hm
      · exact (exists_suits_iff.mp ⟨_, suits⟩).left h
      · obtain h | ⟨q, hq, _⟩ := h
        · exact h ⟨_, _, rfl, suits.parser⟩
        · have ⟨e, he⟩ := overlong_iff.mp overlong
          cases he.symm.trans hq
  have hall : (run shelf ["cat", "-g", "g", "bc", longName]).1.output = "" := by
    simp only [run_cat asks]
    refine (cat_blocked (.inr ?_)).left
    rw [unsearchable_iff ofDirectory_shelf]
    exact ⟨longName, by simp [shelfRequest], overlong⟩
  refine ⟨⟨_, _, asks, whole⟩, hall, hone, fun h => ?_⟩
  have := h.output
  rw [hall, List.map_cons, String.join_cons, hone] at this
  simp at this

end CommandLine

end Highlight
