import Highlight.CommandLine.Run
import Highlight.Proofs.Legality

namespace Highlight

namespace Decorations

open Document (mapError_eq_ok)

theorem ofSheet_of_wellFormed {sheet : Sheet} (h : sheet.WellFormed) :
    ∃ d, ofSheet sheet = .ok d := by
  have slot (s : Slot) : ∃ style, s.resolve sheet = .ok style := by
    rw [Slot.resolve, Sheet.resolve_eq_foldl none sheet h]
    exact ⟨_, rfl⟩
  choose style hs using slot
  simp only [ofSheet, hs]
  exact ⟨_, rfl⟩

-- There are decorations unless their sheet cannot be looked for or fails to load.
theorem exists_ofFile_iff {fs : Files} {here : Location} {path : Path} :
    (∃ d, (ofFile fs here path).result = .ok d) ↔ fs.exist here path = .ok false ∨
      fs.exist here path = .ok true ∧ ∃ s, (Sheet.ofFile fs here path).result = .ok s := by
  rw [ofFile]
  split
  case h_1 e p he => simp [he]
  case h_2 he     => simp [he]
  case h_3 he =>
    simp only [he, Logged.bind_eq_ok, Logged.result_log, Logged.mapError, mapError_eq_ok,
      Logged.result_ofExcept]
    constructor
    case mp =>
      rintro ⟨d, _, _, s, hs, hd⟩
      exact .inr ⟨trivial, s, hs⟩
    case mpr =>
      rintro (h | ⟨_, s, hs⟩)
      · simp at h
      · obtain ⟨d, hd⟩ := ofSheet_of_wellFormed (Sheet.Obtained.file hs).wellFormed
        exact ⟨d, (), trivial, s, hs, hd⟩

end Decorations

namespace CommandLine

variable {Parser : Type}

namespace Host

-- What a file holds, read as a grammar.
def HasParser (host : Host Parser) (path : Path) (parser : Parser) : Prop :=
  ∃ text, host.files.read host.here path = .ok text ∧ host.library.build text "start" = .ok parser

-- What a file holds, read as a stylesheet.
def HasSheet (host : Host Parser) (path : Path) (s : Sheet) : Prop :=
  (Sheet.ofFile host.files host.here path).result = .ok s

end Host

namespace Cache

variable {α : Type} {cache : Cache α} {load : Path → Logged Refusal α} {path : Path}

-- What has been loaded is what would be loaded now.
def Sound (cache : Cache α) (load : Path → Logged Refusal α) : Prop :=
  ∀ path a, cache.lookup path = some a → (load path).result = .ok a

theorem Sound.nil : Sound [] load := by
  simp [Sound]

theorem Sound.cons (sound : Sound cache load) {a : α} (h : (load path).result = .ok a) :
    Sound ((path, a) :: cache) load := by
  intro p b hb
  rw [List.lookup_cons] at hb
  split at hb
  case h_1 he =>
    cases hb
    exact (beq_iff_eq.mp he) ▸ h
  case h_2 => exact sound p b hb

theorem fetch_eq_ok (sound : Sound cache load) {a : α} {cache' : Cache α}
    (h : (cache.fetch path load).result = .ok (a, cache')) :
    (load path).result = .ok a ∧ Sound cache' load := by
  rw [fetch] at h
  split at h
  case h_1 hb =>
    cases h
    exact ⟨sound path a hb, sound⟩
  case h_2 =>
    obtain ⟨b, hb, h⟩ := Logged.bind_eq_ok.mp h
    cases h
    exact ⟨hb, sound.cons hb⟩

-- Nothing that could be loaded now is out of reach.
theorem exists_fetch (sound : Sound cache load) {a : α} (h : (load path).result = .ok a) :
    ∃ cache', (cache.fetch path load).result = .ok (a, cache') := by
  rw [fetch]
  split
  case h_1 b hb =>
    cases (sound path b hb).symm.trans h
    exact ⟨cache, rfl⟩
  case h_2 => exact ⟨(path, a) :: cache, Logged.bind_eq_ok.mpr ⟨a, h, rfl⟩⟩

end Cache

-- What has been loaded for other files is what would be loaded for this one.
structure Loaded.Sound (host : Host Parser) (loaded : Loaded Parser) : Prop where
  parsers : loaded.parsers.Sound (CatRequest.loadParser host)
  sheets : loaded.sheets.Sound (CatRequest.loadSheet host)

namespace CatRequest

variable {r : CatRequest} {host : Host Parser} {config : Config} {loaded loaded' : Loaded Parser}
  {path : Path}

open Document (mapError_eq_ok)

-- The file with the grammar for a path, if there is one.
def grammarFile (r : CatRequest) (host : Host Parser) (config : Config) (path : Path) :
    Except Config.Error (Option Path) :=
  match r.grammar with
  | some g => .ok (some (Path.ofText g))
  | none => config.grammarFor host.files host.here (extension path)

-- The file with the stylesheet for a path, if there is one.
def sheetFile (r : CatRequest) (host : Host Parser) (config : Config) (path : Path) :
    Except Config.Error (Option Path) :=
  match r.style with
  | some s => .ok (some (Path.ofText s))
  | none => config.sheetFor host.files host.here (extension path)

-- A job for a path has the parser and the sheet of its own, and no styles if there is no sheet.
structure Suits (r : CatRequest) (host : Host Parser) (config : Config) (path : Path)
    (j : Job Parser) : Prop where
  file : j.path = path
  grammar : r.grammarFile host config path = .ok (some j.grammar)
  parser : host.HasParser j.grammar j.parser
  sheet : r.sheetFile host config path = .ok none ∧ j.sheet = ∅ ∨
    ∃ p, r.sheetFile host config path = .ok (some p) ∧ host.HasSheet p j.sheet

theorem loadParser_eq_ok {parser : Parser} :
    (loadParser host path).result = .ok parser ↔ host.HasParser path parser := by
  rw [loadParser, Host.HasParser]
  split
  case h_1 hr      => simp [hr]
  case h_2 hr      => simp [hr]
  case h_3 text hr => simp [hr, mapError_eq_ok, ParserLibrary.parserOf]

theorem loadSheet_eq_ok {s : Sheet} :
    (loadSheet host path).result = .ok s ↔ host.HasSheet path s :=
  mapError_eq_ok

-- One look-up after the other, wherever the files come from.
theorem job_eq : r.job host config loaded path = do
    match ← configured (r.grammarFile host config path) with
    | none => throw (.noGrammar path)
    | some p =>
      let (parser, parsers) ← loaded.parsers.fetch p (loadParser host)
      match ← configured (r.sheetFile host config path) with
      | none => return (⟨path, p, parser, ∅⟩, { loaded with parsers })
      | some q =>
        let (sheet, sheets) ← loaded.sheets.fetch q (loadSheet host)
        return (⟨path, p, parser, sheet⟩, ⟨parsers, sheets⟩) := by
  unfold job grammarFile sheetFile
  cases r.grammar <;> cases r.style <;> rfl

theorem result_configured (x : Except Config.Error (Option Path)) :
    (configured x).result = x.mapError fun e => .failure (.config e) :=
  rfl

theorem job_eq_ok {j : Job Parser} :
    (r.job host config loaded path).result = .ok (j, loaded') ↔ j.path = path ∧
      r.grammarFile host config path = .ok (some j.grammar) ∧
      (loaded.parsers.fetch j.grammar (loadParser host)).result = .ok (j.parser, loaded'.parsers) ∧
      (r.sheetFile host config path = .ok none ∧ j.sheet = ∅ ∧ loaded'.sheets = loaded.sheets ∨
        ∃ p, r.sheetFile host config path = .ok (some p) ∧
          (loaded.sheets.fetch p (loadSheet host)).result = .ok (j.sheet, loaded'.sheets)) := by
  rw [job_eq]
  simp only [Logged.bind_eq_ok, result_configured, mapError_eq_ok]
  constructor
  case mp =>
    rintro ⟨_ | p, hp, h⟩
    · cases h
    obtain ⟨⟨parser, parsers⟩, hg, h⟩ := Logged.bind_eq_ok.mp h
    obtain ⟨_ | q, hq, h⟩ := Logged.bind_eq_ok.mp h
    · cases h
      exact ⟨rfl, hp, hg, .inl ⟨mapError_eq_ok.mp hq, rfl, rfl⟩⟩
    · obtain ⟨⟨s, sheets⟩, hs, h⟩ := Logged.bind_eq_ok.mp h
      cases h
      exact ⟨rfl, hp, hg, .inr ⟨q, mapError_eq_ok.mp hq, hs⟩⟩
  case mpr =>
    rintro ⟨rfl, hp, hg, hs⟩
    refine ⟨some j.grammar, hp, Logged.bind_eq_ok.mpr ⟨(j.parser, loaded'.parsers), hg, ?_⟩⟩
    rw [Logged.bind_eq_ok]
    obtain ⟨hq, hs, he⟩ | ⟨q, hq, hs⟩ := hs
    · exact ⟨none, mapError_eq_ok.mpr hq, by rw [← hs, ← he]; rfl⟩
    · exact ⟨some q, mapError_eq_ok.mpr hq, Logged.bind_eq_ok.mpr ⟨_, hs, rfl⟩⟩

theorem suits_of_job (sound : loaded.Sound host) {j : Job Parser}
    (h : (r.job host config loaded path).result = .ok (j, loaded')) :
    r.Suits host config path j ∧ loaded'.Sound host := by
  obtain ⟨hf, hp, hg, hs⟩ := job_eq_ok.mp h
  have ⟨hg, parsers⟩ := Cache.fetch_eq_ok sound.parsers hg
  have hg := loadParser_eq_ok.mp hg
  obtain ⟨hq, hs, he⟩ | ⟨q, hq, hs⟩ := hs
  · exact ⟨⟨hf, hp, hg, .inl ⟨hq, hs⟩⟩, parsers, he ▸ sound.sheets⟩
  · have ⟨hs, sheets⟩ := Cache.fetch_eq_ok sound.sheets hs
    exact ⟨⟨hf, hp, hg, .inr ⟨q, hq, loadSheet_eq_ok.mp hs⟩⟩, parsers, sheets⟩

theorem Suits.exists_job (sound : loaded.Sound host) {j : Job Parser}
    (h : r.Suits host config path j) :
    ∃ loaded', (r.job host config loaded path).result = .ok (j, loaded') := by
  have ⟨parsers, hg⟩ := Cache.exists_fetch sound.parsers (loadParser_eq_ok.mpr h.parser)
  obtain ⟨hq, hs⟩ | ⟨q, hq, hs⟩ := h.sheet
  · exact ⟨⟨parsers, loaded.sheets⟩, job_eq_ok.mpr ⟨h.file, h.grammar, hg, .inl ⟨hq, hs, rfl⟩⟩⟩
  · have ⟨sheets, hs⟩ := Cache.exists_fetch sound.sheets (loadSheet_eq_ok.mpr hs)
    exact ⟨⟨parsers, sheets⟩, job_eq_ok.mpr ⟨h.file, h.grammar, hg, .inr ⟨q, hq, hs⟩⟩⟩

-- What has been loaded for other files changes no job.
theorem jobsFor_eq_ok (sound : loaded.Sound host) {paths : List Path} {jobs : List (Job Parser)} :
    (r.jobsFor host config loaded paths).result = .ok jobs ↔
      List.Forall₂ (r.Suits host config) paths jobs := by
  induction paths generalizing loaded jobs
  case nil => simp [jobsFor, eq_comm]
  case cons path rest hi =>
    simp only [jobsFor, Logged.bind_eq_ok, Logged.result_pure, Except.ok.injEq]
    constructor
    case mp =>
      rintro ⟨⟨j, loaded'⟩, hj, js, hjs, rfl⟩
      have ⟨suits, sound⟩ := suits_of_job sound hj
      exact .cons suits ((hi sound).mp hjs)
    case mpr =>
      rintro (_ | ⟨suits, hjs⟩)
      have ⟨loaded', hj⟩ := suits.exists_job sound
      exact ⟨(_, loaded'), hj, _, (hi (suits_of_job sound hj).right).mpr hjs, rfl⟩

theorem prepare_eq_ok {d : Decorations} {jobs : List (Job Parser)} :
    (r.prepare host config).result = .ok (d, jobs) ↔
      (Decorations.ofFile host.files host.here config.decorationFile).result = .ok d ∧
      List.Forall₂ (fun file => r.Suits host config (Path.ofText file)) r.files jobs := by
  have sound : Loaded.Sound host {} := ⟨.nil, .nil⟩
  simp only [prepare, Logged.bind_eq_ok, Logged.mapError, mapError_eq_ok, Logged.result_pure,
    Except.ok.injEq, jobsFor_eq_ok sound, List.forall₂_map_left_iff]
  constructor
  case mp  => rintro ⟨d, hd, jobs, hjobs, h⟩; cases h; exact ⟨hd, hjobs⟩
  case mpr => rintro ⟨hd, hjobs⟩; exact ⟨d, hd, jobs, hjobs, rfl⟩

-- The name of the configured sheet for a file is too long to look for it.
def Overlong (r : CatRequest) (host : Host Parser) (config : Config) (file : String) : Prop :=
  r.style = none ∧ host.files.stat host.here (config.styleDirectory.join (Path.ofText
    (Config.bareExtension (extension (Path.ofText file)) ++ config.sheetSuffix))) =
      .error .nameTooLong

-- There is no grammar for a file, or there is a sheet for it that fails to load.
def Broken (r : CatRequest) (host : Host Parser) (config : Config) (file : String) : Prop :=
  (¬∃ p parser, r.grammarFile host config (Path.ofText file) = .ok (some p) ∧
      host.HasParser p parser) ∨
    ∃ p, r.sheetFile host config (Path.ofText file) = .ok (some p) ∧ ¬∃ s, host.HasSheet p s

-- There is a sheet for the decorations that fails to load.
def Undecorated (host : Host Parser) (config : Config) : Prop :=
  host.files.exist host.here config.decorationFile = .ok true ∧
    ¬∃ s, host.HasSheet config.decorationFile s

theorem fileFor_eq_error {directory : Path} {ext suffix : String} :
    (∃ e, Config.fileFor host.files host.here directory ext suffix = .error e) ↔
      host.files.stat host.here
        (directory.join (Path.ofText (Config.bareExtension ext ++ suffix))) =
          .error .nameTooLong := by
  unfold Config.fileFor Files.isFile Files.holds
  cases hs : host.files.stat host.here
    (directory.join (Path.ofText (Config.bareExtension ext ++ suffix)))
  case error e => cases e <;> simp [hs]
  case ok e    => cases e <;> simp [hs]

theorem overlong_iff {file : String} : r.Overlong host config file ↔
    ∃ e, r.sheetFile host config (Path.ofText file) = .error e := by
  rw [Overlong, ← fileFor_eq_error, sheetFile]
  cases r.style
  case none   => exact ⟨And.right, .intro rfl⟩
  case some s => simp

-- A file can be printed by itself just if nothing is wrong with what it takes to do so.
theorem exists_suits_iff {file : String} :
    (∃ j, r.Suits host config (Path.ofText file) j) ↔
      ¬r.Broken host config file ∧ ¬r.Overlong host config file := by
  rw [overlong_iff]
  constructor
  case mp =>
    rintro ⟨j, suits⟩
    refine ⟨?_, fun ⟨e, he⟩ => ?_⟩
    · rintro (h | ⟨q, hq, hs⟩)
      · exact h ⟨j.grammar, j.parser, suits.grammar, suits.parser⟩
      · obtain ⟨hn, _⟩ | ⟨q', hq', hs'⟩ := suits.sheet
        · cases hq.symm.trans hn
        · cases hq.symm.trans hq'
          exact hs ⟨j.sheet, hs'⟩
    · obtain ⟨hn, _⟩ | ⟨q, hq, _⟩ := suits.sheet
      · cases he.symm.trans hn
      · cases he.symm.trans hq
  case mpr =>
    rintro ⟨hb, ho⟩
    obtain ⟨⟨p, parser, hp, hg⟩, hb⟩ := (not_or.mp hb).imp_left not_not.mp
    match hs : r.sheetFile host config (Path.ofText file) with
    | .error e => exact absurd ⟨e, hs⟩ ho
    | .ok none => exact ⟨⟨_, p, parser, ∅⟩, rfl, hp, hg, .inl ⟨hs, rfl⟩⟩
    | .ok (some q) =>
      obtain ⟨s, h⟩ := not_not.mp fun h => hb ⟨q, hs, h⟩
      exact ⟨⟨_, p, parser, s⟩, rfl, hp, hg, .inr ⟨q, hs, h⟩⟩

-- Something exists that has to be loaded and cannot be, or there is no grammar.
def Unloadable (r : CatRequest) (host : Host Parser) : Prop :=
  ∃ config, Config.ofDirectory host.homes host.configDirectory = .ok config ∧
    (Undecorated host config ∨ ∃ file ∈ r.files, r.Broken host config file)

-- The sheet for some file cannot be looked for.
def Unsearchable (r : CatRequest) (host : Host Parser) : Prop :=
  ∃ config, Config.ofDirectory host.homes host.configDirectory = .ok config ∧
    ∃ file ∈ r.files, r.Overlong host config file

theorem unloadable_iff (hc : Config.ofDirectory host.homes host.configDirectory = .ok config) :
    r.Unloadable host ↔ Undecorated host config ∨ ∃ file ∈ r.files, r.Broken host config file := by
  simp only [Unloadable, hc, Except.ok.injEq, exists_eq_left']

theorem unsearchable_iff (hc : Config.ofDirectory host.homes host.configDirectory = .ok config) :
    r.Unsearchable host ↔ ∃ file ∈ r.files, r.Overlong host config file := by
  simp only [Unsearchable, hc, Except.ok.injEq, exists_eq_left']

end CatRequest

end CommandLine

end Highlight
