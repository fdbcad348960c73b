import Highlight.Tree

namespace Highlight

-- What a library for parsers raises. What is foreign is no error of its own and passes what catches
-- those.
inductive LibraryError
  | unexpected (message : String) (line column : Option Int)
  | invalid (message : String)
  | foreign (name message : String)
  deriving DecidableEq, Repr

-- A library for parsers, from which the program takes those that it makes of grammars. A parser may
-- change with each text, so it is given back as the text leaves it behind.
structure ParserLibrary (Parser : Type) where
  build (grammar start : String) : Except LibraryError Parser
  parse (parser : Parser) (source : String) : Except LibraryError Tree × Parser

structure SourceError where
  message : String
  line : Option Int := none
  column : Option Int := none
  deriving DecidableEq, Repr

-- What is raised on the way from a grammar and a source to a tree.
inductive SourceProblem
  | error (e : SourceError)
  | foreign (name message : String)

namespace SourceProblem

def ofBuild : LibraryError → SourceProblem
  | .unexpected message _ _ | .invalid message =>
    .error { message := "Invalid grammar: " ++ message }
  | .foreign name message => .foreign name message

def ofParse : LibraryError → SourceProblem
  | .unexpected message line column =>
    .error { message := "Cannot parse source: " ++ message, line, column }
  | .invalid message => .error { message := "Cannot parse source: " ++ message }
  | .foreign name message => .foreign name message

end SourceProblem

namespace ParserLibrary

variable {Parser : Type} (library : ParserLibrary Parser)

def parserOf (grammar : String) (start : String := "start") : Except SourceProblem Parser :=
  (library.build grammar start).mapError .ofBuild

def treeOf (parser : Parser) (source : String) : Except SourceProblem Tree × Parser :=
  let (result, parser) := library.parse parser source
  (result.mapError .ofParse, parser)

end ParserLibrary

end Highlight
