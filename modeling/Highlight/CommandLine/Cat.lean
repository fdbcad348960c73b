import Highlight.CommandLine.Outcome
import Highlight.Layout

namespace Highlight

-- The kind of the root, from which a walk starts.
def Tree.rootKind : Tree → Except Failure String
  | node kind _ => .ok kind
  | leaf _ => .error (.noKind "Token")
  | absent => .error (.noKind "NoneType")

namespace CommandLine

structure CatRequest where
  files : List String
  grammar : Option String := none
  style : Option String := none
  layout : Layout := {}
  jobs : Option Int := none
  -- Whether colours are kept in the output.
  colours : Bool := false

-- Why nothing is printed at all.
inductive Refusal
  | noGrammar (path : Path)
  | sheet (p : Problem)
  | grammar (e : SourceError)
  | failure (f : Failure)

namespace Refusal

def ofFailure : Failure → Refusal
  | .load (.problem p) => sheet p
  | f => failure f

def ofSource : SourceProblem → Refusal
  | .error e => grammar e
  | .foreign name message => failure (.library name message)

end Refusal

-- A file to be printed, with what it takes to do so. The parser is the one that was loaded from the
-- file of the grammar, and is shared by all jobs that have this file.
structure Job (Parser : Type) where
  path : Path
  grammar : Path
  parser : Parser
  sheet : Sheet

-- Why one file is not printed: for a reason that is reported, or because the program ends there.
inductive JobError
  | reported (message : String)
  | failure (f : Failure)

namespace JobError

def ofSource : SourceProblem → JobError
  | .error e => reported e.message
  | .foreign name message => failure (.library name message)

end JobError

variable {Parser : Type}

namespace Job

-- The text to print for a source and its tree.
def page (j : Job Parser) (host : Host Parser) (d : Decorations) (layout : Layout)
    (source : String) (tree : Tree) : Logged JobError String := do
  let _ ← Logged.ofExcept (tree.rootKind.mapError .failure)
  let spans ← Logged.ofExcept ((tree.spans j.sheet source).mapError fun e => .failure (.walk e))
  Logged.log (.styled tree.leaves.length)
  return layout.render host.painter d spans

-- The text to print for a file, and the parser as the file leaves it behind.
def run (j : Job Parser) (host : Host Parser) (d : Decorations) (layout : Layout)
    (parser : Parser) : Logged JobError String × Parser :=
  match host.files.read host.here j.path with
  | .error e => (throw (.reported e.message), parser)
  | .ok source =>
    let (tree, parser) := host.library.treeOf parser source
    (Logged.ofExcept (tree.mapError .ofSource) >>= j.page host d layout source, parser)

end Job

-- The extension by which a file is known: its suffix, or its name if it has none.
def extension (path : Path) : String :=
  let bare := Config.bareExtension path.suffix
  if bare.isEmpty then path.name else bare

-- What has been loaded, by the files that it is from.
abbrev Cache (α : Type) := List (Path × α)

-- What has been loaded from a file is taken from there, and what has not is loaded and kept.
def Cache.fetch {α : Type} (cache : Cache α) (path : Path) (load : Path → Logged Refusal α) :
    Logged Refusal (α × Cache α) :=
  match cache.lookup path with
  | some a => pure (a, cache)
  | none => do
    let a ← load path
    return (a, (path, a) :: cache)

structure Loaded (Parser : Type) where
  parsers : Cache Parser := []
  sheets : Cache Sheet := []

namespace CatRequest

def configured (r : Except Config.Error (Option Path)) : Logged Refusal (Option Path) :=
  Logged.ofExcept (r.mapError fun e => .failure (.config e))

-- The parser for the grammar in a file.
def loadParser (host : Host Parser) (path : Path) : Logged Refusal Parser :=
  match host.files.read host.here path with
  | .error (.file e p) => throw (.failure (.config (.file e p)))
  | .error (.notText e) => throw (.failure (.notText e))
  | .ok text => Logged.ofExcept ((host.library.parserOf text).mapError .ofSource)

def loadSheet (host : Host Parser) (path : Path) : Logged Refusal Sheet :=
  (Sheet.ofFile host.files host.here path).mapError fun e => .ofFailure (.load e)

-- What it takes to print one file.
def job (r : CatRequest) (host : Host Parser) (config : Config) (loaded : Loaded Parser)
    (path : Path) : Logged Refusal (Job Parser × Loaded Parser) := do
  let ext := extension path
  let grammarPath ← match r.grammar with
    | some g => pure (some (Path.ofText g))
    | none => configured (config.grammarFor host.files host.here ext)
  match grammarPath with
  | none => throw (.noGrammar path)
  | some grammarPath =>
    let (parser, parsers) ← loaded.parsers.fetch grammarPath (loadParser host)
    let stylePath ← match r.style with
      | some s => pure (some (Path.ofText s))
      | none => configured (config.sheetFor host.files host.here ext)
    match stylePath with
    | none => return (⟨path, grammarPath, parser, ∅⟩, { loaded with parsers })
    | some stylePath =>
      let (sheet, sheets) ← loaded.sheets.fetch stylePath (loadSheet host)
      return (⟨path, grammarPath, parser, sheet⟩, ⟨parsers, sheets⟩)

-- The jobs for all files, in order.
def jobsFor (r : CatRequest) (host : Host Parser) (config : Config) :
    Loaded Parser → List Path → Logged Refusal (List (Job Parser))
  | _, [] => pure []
  | loaded, path :: rest => do
    let (j, loaded) ← r.job host config loaded path
    return j :: (← jobsFor r host config loaded rest)

-- All that has to be loaded before anything is printed.
def prepare (r : CatRequest) (host : Host Parser) (config : Config) :
    Logged Refusal (Decorations × List (Job Parser)) := do
  let d ← (Decorations.ofFile host.files host.here config.decorationFile).mapError .ofFailure
  let jobs ← r.jobsFor host config {} (r.files.map Path.ofText)
  return (d, jobs)

end CatRequest

-- What one file adds to the outcome.
def printed (r : CatRequest) (path : Path) (page : Logged JobError String) : Outcome :=
  let messages := page.events.map Message.event
  match page.result with
  | .ok text => { output := if r.colours then text else plain text, messages }
  | .error (.reported m) =>
    { status := 1, messages := messages ++ [.text (path.text ++ ": " ++ m ++ "\n")] }
  | .error (.failure f) => { status := 1, messages, failure := some f }

-- What each file adds. In `used` are the parsers as the files before have left them behind.
def outcomes (r : CatRequest) (host : Host Parser) (d : Decorations) :
    Cache Parser → List (Job Parser) → List Outcome
  | _, [] => []
  | used, j :: rest =>
    let (page, parser) := j.run host d r.layout ((used.lookup j.grammar).getD j.parser)
    printed r j.path page :: outcomes r host d ((j.grammar, parser) :: used) rest

namespace Outcome

-- One outcome after the other; any failure shows in the status.
def append (a b : Outcome) : Outcome where
  status := max a.status b.status
  output := a.output ++ b.output
  messages := a.messages ++ b.messages
  failure := a.failure.or b.failure

-- Outcomes up to the first failure, with which the program ends.
def untilFailure : List Outcome → List Outcome
  | [] => []
  | o :: rest => if o.failure.isSome then [o] else o :: untilFailure rest

end Outcome

def refused (r : Refusal) : Outcome :=
  let said (text : String) : Outcome := { status := 1, messages := [.text (text ++ "\n")] }
  match r with
  | .noGrammar path => said ("No grammar for " ++ path.text ++ " (use --grammar)")
  | .sheet p => said ("Stylesheet error: " ++ p.text)
  | .grammar e => said ("Grammar error: " ++ e.message)
  | .failure f => { status := 1, failure := some f }

def cat (host : Host Parser) (r : CatRequest) : Outcome :=
  match Config.ofDirectory host.homes host.configDirectory with
  | .error e => refused (.failure (.config e))
  | .ok config =>
    let run := r.prepare host config
    let before : Outcome := { messages := run.events.map Message.event }
    match run.result with
    | .error e => before.append (refused e)
    | .ok (d, jobs) =>
      let start : Outcome :=
        { messages := [.event (.styling jobs.length (r.jobs.getD config.jobs).toNat)] }
      (Outcome.untilFailure (outcomes r host d [] jobs)).foldl Outcome.append (before.append start)

end CommandLine

end Highlight
