import Highlight.Failure
import Highlight.Source
import Highlight.Style.Ansi
import Highlight.Style.Paint

namespace Highlight

namespace Event

def logLine : Event → String
  | pattern p => line "stylesheet.patterns" ("compiled token pattern /" ++ p.source ++ "/")
  | loading place => line "stylesheet.parser" ("loading stylesheet " ++ place.text)
  | importing place => line "stylesheet.parser" ("importing stylesheet " ++ place.text)
  | loadingMeta path => line "meta" ("loading meta stylesheet " ++ path.text)
  | styling files workers =>
    line "cli.cat" ("styling " ++ toString files ++ " file(s) with " ++ toString workers ++
      " worker(s)")
  | styled tokens => line "walker" ("styled " ++ toString tokens ++ " tokens")
where
  line (part text : String) : String :=
    "DEBUG syncat." ++ part ++ ": " ++ text ++ "\n"

end Event

namespace CommandLine

inductive Message
  | event (e : Event)
  | text (t : String)

def plain (text : String) : String :=
  String.ofList (Ansi.strip text.toList)

namespace Message

-- The messages as text. Events show in the log only if it is `verbose`, and a pattern only when it
-- is compiled for the first time.
def render (verbose : Bool) : List Message → PatternStore → String
  | [], _ => ""
  | .text t :: rest, store => plain t ++ render verbose rest store
  | .event e :: rest, store =>
    let known := match e with
      | .pattern p => (store.find? p.source).isSome
      | _ => false
    (if verbose && !known then e.logLine else "") ++ render verbose rest (store.absorb [e])

end Message

structure Outcome where
  status : Nat := 0
  output : String := ""
  messages : List Message := []
  -- A failure that ended the program.
  failure : Option Failure := none

namespace Outcome

def errorText (o : Outcome) (verbose : Bool) : String :=
  Message.render verbose o.messages {}

end Outcome

-- Where the program runs, and the libraries that it runs with.
structure Host (Parser : Type) where
  files : Files
  here : Location
  -- The home directory of a user; of nobody in particular for the empty name.
  homes : String → Option String
  -- The directory of the configuration, if one is set.
  configDirectory : Option String
  library : ParserLibrary Parser
  painter : Painter

end CommandLine

end Highlight
