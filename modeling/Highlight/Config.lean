import Highlight.Files.Basic

namespace Highlight

structure Config where
  directory : Path
  sheetSuffix : String := ".syncat"
  grammarSuffix : String := ".lark"
  jobs : Int := 4
  deriving DecidableEq, Repr

namespace Config

inductive Error
  | unknownHome
  | file (e : FileError) (path : Path)
  deriving DecidableEq, Repr

def Error.message : Error → String
  | unknownHome => "Could not determine home directory."
  | file e p => e.message p.text

def defaultDirectory : Path := Path.ofText "~/.config/syncat"

def ofDirectory (homes : String → Option String) (named : Option String) : Except Error Config :=
  let directory := match named with
    | none | some "" => defaultDirectory
    | some text => Path.ofText text
  match directory.expandHome homes with
  | some directory => .ok { directory }
  | none => .error .unknownHome

def styleDirectory (c : Config) : Path :=
  c.directory.join (Path.ofText "style/active")

def grammarDirectory (c : Config) : Path :=
  c.directory.join (Path.ofText "grammar")

def decorationFile (c : Config) : Path :=
  c.styleDirectory.join (Path.ofText c.sheetSuffix)

def bareExtension (extension : String) : String :=
  String.ofList (extension.toList.dropWhile (· = '.'))

def fileFor (fs : Files) (here : Location) (directory : Path) (extension suffix : String) :
    Except Error (Option Path) :=
  let path := directory.join (Path.ofText (bareExtension extension ++ suffix))
  match fs.isFile here path with
  | .ok true => .ok (some path)
  | .ok false => .ok none
  | .error (e, p) => .error (.file e p)

def sheetFor (c : Config) (fs : Files) (here : Location) (extension : String) :
    Except Error (Option Path) :=
  fileFor fs here c.styleDirectory extension c.sheetSuffix

def grammarFor (c : Config) (fs : Files) (here : Location) (extension : String) :
    Except Error (Option Path) :=
  fileFor fs here c.grammarDirectory extension c.grammarSuffix

end Config

end Highlight
