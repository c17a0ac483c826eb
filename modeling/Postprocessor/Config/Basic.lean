import Postprocessor.Level

/-!
# Configuration

* `Numbering`: whether and how the lines of a file are numbered.
* `FileNames`: the names of the files, and the word that ends a subprogram.
* `LogDefaults`: what is logged unless the command line says otherwise.
* `Config`: the three together.
-/

namespace Postprocessor

/-- The numbering of lines. -/
structure Numbering where
  enabled : Bool := true
  /-- The number of the first line of every file. -/
  start : Int := 10
  /-- The step from one line to the next. -/
  increment : Int := 10
  deriving DecidableEq, Repr, Inhabited

/-- Names of files and parts of files. -/
structure FileNames where
  /-- The name of the main file. -/
  main : String := "main"
  /-- The word that ends a subprogram. -/
  endWord : String := "M17"
  mainExtension : String := ".MPF"
  subExtension : String := ".SPF"
  deriving DecidableEq, Repr, Inhabited

/-- The defaults of logging. -/
structure LogDefaults where
  level : Level := .info
  /-- Whether records are written as Json texts. -/
  json : Bool := false
  deriving DecidableEq, Repr, Inhabited

/-- A configuration. -/
structure Config where
  numbering : Numbering := {}
  files : FileNames := {}
  logging : LogDefaults := {}
  deriving DecidableEq, Repr, Inhabited

/-- The extension of the file with a given name. -/
def Config.extensionFor (c : Config) (name : String) : String :=
  if name = c.files.main then c.files.mainExtension else c.files.subExtension

end Postprocessor
