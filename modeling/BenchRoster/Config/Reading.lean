/-
# Configurations from a document

The shape of a configuration document.  Everything but the name and the locator of a backend may be
left out; an entry that is not known is skipped.
-/
import BenchRoster.Config
import BenchRoster.IoFault
import BenchRoster.Options.Reading
import BenchRoster.Yaml.Decode

namespace BenchRoster

open Yaml (Decode)

/-- What can be wrong with a configuration or a suite. -/
inductive DefinitionError where
  | rejected (r : Rejection)
  | noConfig (path : String)
  | unreadable (f : Yaml.Failure)
  /-- The file with the configuration cannot be read. -/
  | io (f : IoFault)
deriving DecidableEq, Repr

namespace DefinitionError

/-- What was done when a file could not be read. -/
def ioContext : String := "reading config file"

/-- What is wrong with the text of a configuration. -/
def parseMessage (f : Yaml.Failure) : String := "YAML parse error: " ++ f.message

def message : DefinitionError → String
  | rejected r => "Hard validation error: " ++ r.message
  | noConfig path => "Configuration file not found: " ++ path
  | unreadable f => "Configuration parse error: " ++ parseMessage f
  | io f => s!"IO error: {ioContext} - {f.message}"

end DefinitionError

namespace Timing

/-- The settings of the timing section. -/
def fields : List (Field Decode (Option Nat × Option Nat × Option Nat)) :=
  [⟨Setting.sampleSize.field, (·.1.isSome),
     Format.map (fun x p => (some x, p.2)) (Decode.natural "usize")⟩,
   ⟨Setting.measurementTime.field, (·.2.1.isSome),
     Format.map (fun x p => (p.1, some x, p.2.2)) (Decode.natural "u64")⟩,
   ⟨Setting.warmUpTime.field, (·.2.2.isSome),
     Format.map (fun x p => (p.1, p.2.1, some x)) (Decode.natural "u64")⟩]

/-- All settings may be left out. -/
def finish (p : Option Nat × Option Nat × Option Nat) : Timing :=
  ⟨p.1.getD default.sampleSize, p.2.1.getD default.measurementTime, p.2.2.getD default.warmUpTime⟩

/-- The timing section. -/
def read : Decode Timing :=
  Decode.record "RawRuntimeConfig" fields (none, none, none) fun p => .ok (finish p)

end Timing

/-- The entries of the section that says where programs are looked up. -/
def searchPathsFields : List (Field Decode (Option (List String))) :=
  [⟨"search_paths", (·.isSome), Format.map (fun x _ => some x) (Decode.list Decode.text)⟩]

/-- The section that says where programs are looked up. -/
def readSearchPaths : Decode (List String) :=
  Decode.record "RawResolverConfig" searchPathsFields none fun p => .ok (p.getD defaultSearchPaths)

namespace BackendDraft

/-- A backend some of whose entries have been read. -/
structure Partial where
  name : Option String := none
  locator : Option String := none
  args : Option (List String) := none
  options : Option (Option Options) := none
  flag : Option String := none

/-- The name and the locator must be there. -/
def Partial.finish (p : Partial) : Except String BackendDraft :=
  match p.name, p.locator with
  | none, _ => .error "name"
  | some _, none => .error "locator"
  | some name, some locator =>
    .ok { name, locator, args := p.args.getD [], options := p.options.getD none,
          flag := p.flag.getD defaultFlag }

/-- The entries of a backend. -/
def fields : List (Field Decode Partial) :=
  [⟨"name", (·.name.isSome), Format.map (fun x p => { p with name := some x }) Decode.text⟩,
   ⟨"locator", (·.locator.isSome),
     Format.map (fun x p => { p with locator := some x }) Decode.text⟩,
   ⟨"args", (·.args.isSome),
     Format.map (fun x p => { p with args := some x }) (Decode.list Decode.text)⟩,
   ⟨"options", (·.options.isSome),
     Format.map (fun x p => { p with options := some x }) (Decode.optional Options.read)⟩,
   ⟨"options_flag", (·.flag.isSome),
     Format.map (fun x p => { p with flag := some x }) Decode.text⟩]

def read : Decode BackendDraft :=
  Decode.record "RawBackendConfig" fields {} Partial.finish

end BackendDraft

namespace Draft

/-- A configuration some of whose sections have been read. -/
structure Partial where
  suite : Option String := none
  timing : Option Timing := none
  searchPaths : Option (List String) := none
  backends : Option (Option (List BackendDraft)) := none

/-- Every section may be left out. -/
def Partial.finish (p : Partial) : Draft :=
  { suite := p.suite.getD defaultSuite.text, timing := p.timing.getD {},
    searchPaths := p.searchPaths.getD defaultSearchPaths, backends := p.backends.getD none }

/-- The sections of a configuration. -/
def fields : List (Field Decode Partial) :=
  [⟨"suite", (·.suite.isSome), Format.map (fun x p => { p with suite := some x }) Decode.text⟩,
   ⟨"runtime", (·.timing.isSome),
     Format.map (fun x p => { p with timing := some x }) Timing.read⟩,
   ⟨"resolver", (·.searchPaths.isSome),
     Format.map (fun x p => { p with searchPaths := some x }) readSearchPaths⟩,
   ⟨"backends", (·.backends.isSome),
     Format.map (fun x p => { p with backends := some x })
       (Decode.optional (Decode.list BackendDraft.read))⟩]

def read : Decode Draft :=
  Decode.record "RawConfig" fields {} fun p => .ok p.finish

end Draft

/-- The configuration that a text describes. -/
def Config.ofString (text : String) : Except DefinitionError Config :=
  match Yaml.readDocument Draft.read text with
  | .error f => .error (.unreadable f)
  | .ok d => d.check.mapError .rejected

end BenchRoster
