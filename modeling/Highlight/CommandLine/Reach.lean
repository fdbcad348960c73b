import Highlight.CommandLine.Cat

namespace Highlight

namespace CommandLine

def endings : List Char → List String
  | [] => []
  | c :: cs => String.ofList (c :: cs) :: endings cs

-- The texts in an argument that may name a file: the argument itself, or the value of an option
-- that it holds.
def filesNamed (arg : String) : List String :=
  if arg.startsWith "-" then arg :: endings arg.toList else [arg]

def Host.reach {Parser : Type} (host : Host Parser) (args : List String) : List Location :=
  let named := (args.flatMap filesNamed).map Path.ofText
  let configured := match Config.ofDirectory host.homes host.configDirectory with
    | .error _ => []
    | .ok c =>
      let forExtension (directory : Path) (suffix : String) (p : Path) :=
        directory.join (Path.ofText (Config.bareExtension (extension p) ++ suffix))
      c.decorationFile :: named.flatMap fun p =>
        [forExtension c.styleDirectory c.sheetSuffix p,
          forExtension c.grammarDirectory c.grammarSuffix p]
  (named ++ configured).map host.here.resolve

def importsFrom (place : Location) (octets : List UInt8) : List Location :=
  match Files.decodeText octets with
  | .error _ => []
  | .ok text => match (Document.compileText text).result with
    | .error _ => []
    | .ok c => c.imports.map fun name => place.parent.resolve (Path.ofText name)

def lineage (parts : List String) : List (List String) :=
  match parts with
  | [] => []
  | p :: ps => [p] :: (lineage ps).map (p :: ·)

-- The home directories in a table of users: the name is the first field of a line and the directory
-- the sixth.
def homeOf (table : String) (user : String) : Option String :=
  let rows := (Text.splitOn '\n' table.toList).map fun line => (Text.splitOn ':' line).map String.ofList
  (rows.find? fun row => row.head? = some user).bind fun row => row[5]?

end CommandLine

end Highlight
