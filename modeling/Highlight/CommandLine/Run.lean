import Highlight.CommandLine.Cat
import Highlight.CommandLine.Check
import Highlight.CommandLine.Command
import Highlight.Text.Letter

namespace Highlight

namespace CommandLine

inductive Rejection
  | misuse (m : Misuse)
  | failure (f : Failure)

variable {Parser : Type}

-- Fails for a file that is missing or no file, and for a text that names no place at all.
def checkFile (host : Host Parser) (parameter file : String) : Except Rejection Unit :=
  if file.toList.contains '\x00' then .error (.failure (.load .nullCharacter))
  else match host.files.statText host.here file with
    | .ok (.file _) => .ok ()
    | .ok .directory => .error (.misuse (.isDirectory parameter file))
    | .error _ => .error (.misuse (.noSuchFile parameter file))

def readJobs (text : String) : Except Rejection Int :=
  let parameter := "'--jobs' / '-j'"
  match Text.Decimal.readSigned? text.toList with
  | none => .error (.misuse (.notNumber parameter text))
  | some n => if n < 1 then .error (.misuse (.tooSmall parameter n)) else .ok n

def lastValue (given : List (Given CatOption)) (o : CatOption) : Option String :=
  (given.reverse.find? (·.option = o)).bind (·.value)

def checkOption (host : Host Parser) (given : List (Given CatOption)) (o : CatOption) :
    Except Rejection Unit :=
  match o, lastValue given o with
  | .grammar, some v => checkFile host "'--grammar' / '-g'" v
  | .style, some v => checkFile host "'--style' / '-s'" v
  | .jobs, some v => (readJobs v).map fun _ => ()
  | _, _ => .ok ()

def catRequest (host : Host Parser) (given : List (Given CatOption)) (files : List String) :
    Except Rejection CatRequest := do
  given.forM fun g => checkOption host given g.option
  if files.isEmpty then throw (.misuse (.missingArgument "FILES..."))
  files.forM (checkFile host "'FILES...'")
  let jobs ← (lastValue given .jobs).mapM readJobs
  let has (o : CatOption) := given.any (·.option = o)
  let colour := given.reverse.find? fun g => g.option = .colour ∨ g.option = .noColour
  return {
    files
    grammar := lastValue given .grammar
    style := lastValue given .style
    layout := ⟨has .lineNumbers, has .lineEndings⟩
    jobs
    colours := colour.any (·.option = .colour) }

def misused (c : Command) (m : Misuse) : Outcome :=
  { status := 2, messages := [.text (m.report c)] }

def rejected (c : Command) : Rejection → Outcome
  | .misuse m => misused c m
  | .failure f => { status := 1, failure := some f }

def runCat (host : Host Parser) (args : List String) : Outcome :=
  match catOptions.read true args with
  | .error f => misused .cat (.fault f)
  | .ok (given, files) =>
    if given.any (·.option = .help) then { output := Command.cat.help }
    else match catRequest host given files with
      | .error r => rejected .cat r
      | .ok r => cat host r

def runCheck (host : Host Parser) (args : List String) : Outcome :=
  match checkOptions.read true args with
  | .error f => misused .check (.fault f)
  | .ok (_ :: _, _) => { output := Command.check.help }
  | .ok ([], []) => misused .check (.missingArgument "STYLESHEET")
  | .ok ([], file :: extra) => match checkFile host "'STYLESHEET'" file with
    | .error r => rejected .check r
    | .ok () => if extra.isEmpty then check host file else misused .check (.extraArguments extra)

def mainAnswer? (given : List (Given MainOption)) : Option Outcome :=
  match given.find? (·.option ≠ .verbose) with
  | some ⟨.version, _⟩ => some { output := version }
  | some _ => some { output := Command.main.help }
  | none => none

-- Whether a name begins like an option: neither with a letter nor with a numeral.
def looksLikeOption (name : String) : Bool :=
  match name.toList with
  | [] => false
  | c :: _ => !(Text.isLetter c.toNat || Text.isNumeral c.toNat)

-- No command has this name. If it looks like an option, then it is read as one first, with all that
-- follows it.
def unknownCommand (name : String) (args : List String) : Outcome :=
  let unknown := misused .main (.noSuchCommand name (Text.suggestions name ["cat", "check"]))
  if looksLikeOption name then
    match mainOptions.read false (name :: args) with
    | .error f => misused .main (.fault f)
    | .ok (given, _) => (mainAnswer? given).getD unknown
  else unknown

def run (host : Host Parser) (args : List String) : Outcome × Bool :=
  if args.isEmpty then ({ status := 2, messages := [.text Command.main.help] }, false)
  else match mainOptions.read false args with
    | .error f => (misused .main (.fault f), false)
    | .ok (given, rest) =>
      let outcome := match mainAnswer? given, rest with
        | some answer, _ => answer
        | none, [] => misused .main .missingCommand
        | none, "cat" :: args => runCat host args
        | none, "check" :: args => runCheck host args
        | none, name :: args => unknownCommand name args
      (outcome, given.any (·.option = .verbose))

end CommandLine

end Highlight
