import Highlight.CommandLine.Reach
import Highlight.CommandLine.Run

namespace Highlight.Main

-- What stands at a place of the file system.
def probe (parts : List String) : IO (Option Entry) := do
  try
    let octets ← IO.FS.readBinFile ("/" ++ "/".intercalate parts)
    return some (.file octets.toList)
  catch
    | .inappropriateType _ 21 _ => return some .directory
    | _ => return none

-- Reads places, and the places that they import, until all are known.
partial def gather (known : List (List String)) (fs : Files) : List Location → IO Files
  | [] => return fs
  | place :: rest => do
    let mut known := known
    let mut entries := fs.entries
    let mut found := []
    for parts in CommandLine.lineage place.parts do
      if !known.contains parts then
        known := parts :: known
        match ← probe parts with
        | none => pure ()
        | some e =>
          entries := entries ++ [(parts, e)]
          if parts = place.parts then
            if let .file octets := e then
              found := CommandLine.importsFrom place octets
    gather known ⟨entries⟩ (found ++ rest)

def host {Parser : Type} (library : ParserLibrary Parser) (painter : Painter) :
    IO (CommandLine.Host Parser) := do
  let home ← IO.getEnv "HOME"
  let users ← try IO.FS.readFile "/etc/passwd" catch _ => pure ""
  return {
    files := ⟨[]⟩
    here := Location.root.resolve (Path.ofText (← IO.currentDir).toString)
    homes := fun user => if user = "" then home else CommandLine.homeOf users user
    configDirectory := ← IO.getEnv "SYNCAT_CONFIG_DIR"
    library
    painter }

-- The program, with the libraries that it is given: it reads the files that a run may look at,
-- runs, and writes what the run leaves behind.
def program {Parser : Type} (library : ParserLibrary Parser) (painter : Painter)
    (args : List String) : IO UInt32 := do
  let host ← host library painter
  let files ← gather [] host.files (host.reach args)
  let (outcome, verbose) := CommandLine.run { host with files } args
  IO.print outcome.output
  IO.eprint (outcome.errorText verbose)
  if let some failure := outcome.failure then
    IO.eprintln failure.message
  return outcome.status.toUInt32

end Highlight.Main
