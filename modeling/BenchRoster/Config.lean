/-
# Configurations

A configuration describes a comparison: the suite's name, how long to measure, where programs are
looked up, and the backends in order.  A `Draft` is a configuration as it was written; `Draft.check`
accepts it or gives the first rule that it breaks.
-/
import BenchRoster.Name
import BenchRoster.Options
import BenchRoster.Workload

namespace BenchRoster

/-- How often and how long to measure; times are in milliseconds. -/
structure Timing where
  sampleSize : Nat := 100
  measurementTime : Nat := 5000
  warmUpTime : Nat := 3000
deriving DecidableEq, Repr

/-- The timing of a document that says nothing about it. -/
def Timing.default : Timing := {}

/-- The minimal sampling of a quick run. -/
def Timing.quick : Timing := ⟨10, 1000, 500⟩

/-- The flag that introduces an options file when none is configured. -/
def defaultFlag : String := "--config-file"

/-- The directories searched when none are configured. -/
def defaultSearchPaths : List String := ["node_modules/.bin"]

/-- The name of the suite when none is configured. -/
def defaultSuite : SuiteName := ⟨"transform", by decide⟩

/-- A backend in a configuration. -/
structure BackendEntry where
  name : BackendName
  locator : Locator
  args : List String
  options : Option Options
  /-- The flag that introduces the options file. -/
  flag : String
deriving DecidableEq

/-- A configuration that has been checked. -/
structure Config where
  suite : SuiteName
  timing : Timing
  searchPaths : List String
  backends : List BackendEntry
deriving DecidableEq

/-- A backend as it was written. -/
structure BackendDraft where
  name : String
  locator : String
  args : List String := []
  options : Option Options := none
  flag : String := defaultFlag
deriving DecidableEq

/-- A configuration as it was written. -/
structure Draft where
  suite : String := defaultSuite.text
  timing : Timing := {}
  searchPaths : List String := defaultSearchPaths
  backends : Option (List BackendDraft) := none
deriving DecidableEq

/-! ## The stock comparison -/

namespace Config

/-- The arguments of a backend that reads the workload from its standard input. -/
def stdinArgs : List String := ["--filename", Workload.fixed.filename]

/-- The stock backends: one plain, the same one with a global replaced, and another compiler. -/
def stockBackends : List BackendEntry :=
  [{ name := ⟨"swc", by decide⟩, locator := ⟨"swc", by decide⟩, args := stdinArgs,
     options := none, flag := defaultFlag },
   { name := ⟨"swc-optimize", by decide⟩, locator := ⟨"swc", by decide⟩, args := stdinArgs,
     options := some (Options.withGlobals (({} : Globals).env "NODE_ENV" "production")),
     flag := defaultFlag },
   { name := ⟨"babel", by decide⟩, locator := ⟨"babel", by decide⟩,
     args := stdinArgs ++
       ["--presets", "@babel/preset-env", "--plugins", "transform-node-env-inline"],
     options := none, flag := defaultFlag }]

/-- The configuration that is used when there is no document. -/
def stock : Config :=
  { suite := defaultSuite, timing := {}, searchPaths := defaultSearchPaths,
    backends := stockBackends }

end Config

/-! ## Checking -/

/-- A setting within its bounds. -/
def checkSetting (s : Setting) (n : Nat) : Except Rejection Unit :=
  if s.admits n then .ok () else .error (.setting s n)

/-- The settings in the order in which they are checked. -/
def Timing.settings (t : Timing) : List (Setting × Nat) :=
  [(.sampleSize, t.sampleSize), (.measurementTime, t.measurementTime),
    (.warmUpTime, t.warmUpTime)]

/-- All settings are within their bounds. -/
def Timing.check (t : Timing) : Except Rejection Unit :=
  t.settings.forM fun s => checkSetting s.1 s.2

/-- No search directory is blank. -/
def checkSearchPaths (paths : List String) : Except Rejection Unit :=
  if paths.any Text.blank then .error .blankSearchPath else .ok ()

/-- Options need a flag to introduce them. -/
def BackendDraft.lacksFlag (d : BackendDraft) : Bool := d.options.isSome && Text.blank d.flag

/-- A backend on its own: name, locator, flag. -/
def BackendDraft.check (d : BackendDraft) (index : Nat) : Except Rejection BackendEntry := do
  let name ← BackendName.ofString d.name
  let locator ← Locator.ofString d.locator
  if d.lacksFlag then .error (.missingFlag index)
  else .ok { name, locator, args := d.args, options := d.options, flag := d.flag }

/-- Backends from an index on: each is checked on its own, and then against the names before it. -/
def checkBackends (index : Nat) (seen : List BackendName) :
    List BackendDraft → Except Rejection (List BackendEntry)
  | [] => .ok []
  | d :: ds => do
    let e ← d.check index
    if seen.contains e.name then .error (.duplicateBackend e.name.text)
    else
      let es ← checkBackends (index + 1) (e.name :: seen) ds
      .ok (e :: es)

/-- A configuration, or the first rule that the draft breaks. -/
def Draft.check (d : Draft) : Except Rejection Config := do
  let suite ← SuiteName.ofString d.suite
  d.timing.check
  checkSearchPaths d.searchPaths
  let backends ←
    match d.backends with
    | none => .ok Config.stockBackends
    | some ds => checkBackends 0 [] ds
  .ok { suite, timing := d.timing, searchPaths := d.searchPaths, backends }

end BenchRoster
