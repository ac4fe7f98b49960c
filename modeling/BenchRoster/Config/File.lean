/-
# Configuration files

A configuration in a file is the configuration that its text describes, with relative search
directories taken from the directory of the file.
-/
import BenchRoster.Config.Reading
import BenchRoster.Machine
import BenchRoster.Path

namespace BenchRoster

namespace Config

/-- Takes a relative directory from the base. -/
def rebaseDirectory (base : Option String) (dir : String) : String :=
  match base with
  | some b => if Path.isRelative dir then Path.join b dir else dir
  | none => dir

/-- Takes the relative search directories from the base. -/
def rebase (c : Config) (base : Option String) : Config :=
  { c with searchPaths := c.searchPaths.map (rebaseDirectory base) }

/-- The text of a file. -/
def readText (m : Machine) (path : String) : Except DefinitionError String :=
  if !m.files.pathExists m.workDir path then .error (.noConfig path)
  else
    match m.files.contentOf m.workDir path with
    | .error f => .error (.io f)
    | .ok bytes =>
      match Text.ofUtf8? bytes with
      | some text => .ok text
      | none => .error (.io .notText)

/-- The configuration in a file. -/
def ofFile (m : Machine) (path : String) : Except DefinitionError Config := do
  let text ← readText m path
  let c ← ofString text
  .ok (c.rebase (Path.directory? path))

/-- The configuration in the file that is named, or the stock one if none is. -/
def ofFile? (m : Machine) : Option String → Except DefinitionError Config
  | some path => ofFile m path
  | none => .ok stock

/-- The file that is used when none is named. -/
def defaultFile : String := "transbench.yaml"

/-- The configuration in the file that is named, else in the default file if there is one, else the
stock one. -/
def find (m : Machine) : Option String → Except DefinitionError Config
  | some path => ofFile m path
  | none => if m.files.pathExists m.workDir defaultFile then ofFile m defaultFile else .ok stock

end Config

end BenchRoster
