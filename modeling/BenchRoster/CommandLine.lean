/-
# The command line

The commands list the configured backends, try which of them can be loaded, validate a
configuration file, show the workload, and time the suite.  Each is a function from a world to what
it prints and the code with which it exits.
-/
import BenchRoster.Check
import BenchRoster.CommandLine.Arguments
import BenchRoster.Inspect
import BenchRoster.Listing
import BenchRoster.Pattern.Size

namespace BenchRoster.CommandLine

/-- What a command prints, and its exit code. -/
structure Printed where
  exit : Nat
  output : String := ""
  errors : String := ""
deriving DecidableEq, Repr

/-- The exit codes of wrong usage and of a panic. -/
def usageExit : Nat := 2
def panicExit : Nat := 101

/-- Lines as text: each ends in a line feed. -/
def text (lines : List String) : String := String.join (lines.map (· ++ "\n"))

/-- Prints lines, and succeeds. -/
def success (lines : List String) : Printed := ⟨0, text lines, ""⟩

/-- A command that cannot begin shows why. -/
def definitionFailure (e : DefinitionError) : Printed :=
  ⟨1, "", text ["Error: " ++ Inspect.definitionError e]⟩

/-- Prints lines for a loaded configuration. -/
def withConfig (m : Machine) (path : Option String) (f : Config → Printed) : Printed :=
  match Config.find m path with
  | .ok c => f c
  | .error e => definitionFailure e

def list (m : Machine) (path : Option String) : Printed :=
  withConfig m path fun c => success (Listing.lines c)

/-- The lines about the inlined identifiers of a backend. -/
def inlineLines (e : BackendEntry) : List String :=
  match e.options.bind Options.globals with
  | some g => g.inlined.entries.map fun x => s!"      inline {x.1} -> {x.2}"
  | none => []

/-- The line of a backend, and those of its inlined identifiers. -/
def entryLines (e : BackendEntry) : List String :=
  let answer := if e.options.isSome then "yes" else "no"
  s!"  - {e.name.text} (locator: {e.locator.text}, args: {e.args.length}, options: {answer})" ::
    inlineLines e

/-- The lines that describe a valid configuration. -/
def describe (c : Config) : List String :=
  ["✓ Configuration is valid", "", "Runtime Settings:",
   s!"  Suite:              {c.suite.text}",
   s!"  Sample Size:        {c.timing.sampleSize}",
   s!"  Measurement Time:   {c.timing.measurementTime}ms",
   s!"  Warm-up Time:       {c.timing.warmUpTime}ms",
   "  Search Paths:"] ++
    (c.searchPaths.map fun d => s!"    - {d}") ++
    ["", s!"Backends ({c.backends.length}):"] ++ c.backends.flatMap entryLines

def validate (m : Machine) (file : String) : Printed :=
  match Config.ofFile m file with
  | .ok c => success (describe c)
  | .error e => ⟨1, "", text ["✗ Configuration validation failed:", s!"  {e.message}"]⟩

/-- A number in hexadecimal, with eight digits. -/
def eightDigits (n : Nat) : String :=
  let ds := Nat.toDigits 16 n
  "0x" ++ String.ofList (List.replicate (8 - ds.length) '0' ++ ds)

def workload (raw : Bool) : Printed :=
  let w := Workload.fixed
  if raw then ⟨0, w.source, ""⟩
  else
    success
      [s!"Workload:  {w.name}", s!"Filename:  {w.filename}", s!"Size:      {w.size} bytes",
       s!"Lines:     {w.lines.length}", s!"CRC32:     {eightDigits w.checksum.toNat}"]

/-- What a strict dry run says when some backend cannot be used. -/
def strictNotice : String := "✗ Not every backend is usable"

/-- What a dry run prints; a strict one fails if some backend cannot be used. -/
def checkPrinted (c : Checked) (invoke strict : Bool) : Printed :=
  let output := text (c.lines invoke)
  if strict && !c.allUsable then ⟨1, output, text [strictNotice]⟩ else ⟨0, output, ""⟩

def check {τ : Type} (w : World τ) (path : Option String) (invoke strict : Bool) : Printed :=
  withConfig w.machine path fun c =>
    match Checked.ofConfig c invoke w with
    | .error r => definitionFailure (.rejected r)
    | .ok (.ok checked, _) => checkPrinted checked invoke strict
    | .ok (.error _, _) => { exit := panicExit }

/-- The last lines of a timed run. -/
def runTotals (s : Summary) : List String :=
  ["", s!"{s.registered.length} backend(s) timed, {s.skipped.length} skipped"]

/-- What a text selects: everything whose identifier its pattern matches. -/
def selector (filter : Option String) : Except String (String → Bool) :=
  match filter with
  | none => .ok fun _ => true
  | some text =>
    match Pattern.ofString text with
    | .ok p => .ok p.matchesIn
    | .error r => .error (r.message text)

def run {τ : Type} (w : World τ) (path : Option String) (filter : Option String) (quick : Bool) :
    Printed :=
  match selector filter with
  | .error e => ⟨1, "", text [s!"✗ Invalid filter: {e}"]⟩
  | .ok selects =>
    withConfig w.machine path fun c =>
      let c := if quick then { c with timing := Timing.quick } else c
      match timeConfigured c selects w with
      | .error r => definitionFailure (.rejected r)
      | .ok (.ok r, _) => ⟨0, text (runTotals r.summary), text r.sink⟩
      | .ok (.error _, _) => { exit := panicExit }

/-- Carries out a request. -/
def answer {τ : Type} (w : World τ) (r : Request) : Printed :=
  match r.command with
  | .list => list w.machine r.config
  | .check invoke strict => check w r.config invoke strict
  | .validate file => validate w.machine file
  | .workload raw => workload raw
  | .run filter quick => run w r.config filter quick

/-- The name and the version of the program. -/
def versionLine : String := "transbench 0.1.0"

/-- How the program is used. -/
def usage : List String :=
  ["Compares source transformation backends on a fixed workload", "",
   "Usage: transbench [OPTIONS] <COMMAND>", "",
   "Commands:",
   "  list                     List configured backends",
   "  check [-i] [-s]          Resolve every backend and report which ones can be used",
   "  validate <FILE>          Validate a configuration file",
   "  workload [--raw]         Show the fixed workload",
   "  run [-f <REGEX>] [-q]    Run the suite", "",
   "Options:",
   "  -c, --config <FILE>      Configuration file",
   "  -v, --verbose            More messages",
   "  -h, --help               Show this text",
   "  -V, --version            Show the version"]

/-- Carries out what the arguments ask for. -/
def execute {τ : Type} (w : World τ) (args : List String) : Printed :=
  match readRequest args with
  | .ok r => answer w r
  | .error .usage => ⟨usageExit, "", text usage⟩
  | .error .version => success [versionLine]
  | .error .help => success usage

end BenchRoster.CommandLine
