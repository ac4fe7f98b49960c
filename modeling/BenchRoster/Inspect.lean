/-
# Inspection

The texts that show a value with its structure, as they are printed for those who write suites: the
name of the kind of value, with its fields in braces.  Parts that have no text of their own are left
out, which two full stops say.
-/
import BenchRoster.Config.Reading
import BenchRoster.Recorder
import BenchRoster.Text.Quoted

namespace BenchRoster.Inspect

def braced (kind : String) (parts : List String) : String :=
  kind ++ " \x7b " ++ ", ".intercalate parts ++ " \x7d"

/-- A kind of value with its fields. -/
def fields (kind : String) (fs : List (String × String)) : String :=
  braced kind (fs.map fun f => s!"{f.1}: {f.2}")

/-- A kind of value with some of its fields. -/
def someFields (kind : String) (fs : List (String × String)) : String :=
  braced kind ((fs.map fun f => s!"{f.1}: {f.2}") ++ [".."])

/-- A kind of value around another one. -/
def wrapped (kind inner : String) : String := s!"{kind}({inner})"

def list (items : List String) : String := "[" ++ ", ".intercalate items ++ "]"

def backendName (n : BackendName) : String := wrapped "BackendName" (Text.quoted n.text)

def locator (l : Locator) : String := wrapped "Locator" (Text.quoted l.text)

/-- The kind of a fault of the system. -/
def faultKind : IoFault → String
  | .noEntry => "NotFound"
  | .permissionDenied => "PermissionDenied"
  | .notADirectory => "NotADirectory"
  | .isADirectory => "IsADirectory"
  | .nameTooLong => "InvalidFilename"
  | .badExecutable => "Uncategorized"
  | .tooManyLinks => "FilesystemLoop"
  | .badDescriptor => "Uncategorized"
  | .alreadyExists => "AlreadyExists"
  | .notEmpty => "DirectoryNotEmpty"
  | .notText => "InvalidData"
  | .nulByte => "InvalidInput"
  | .noFreeName => "AlreadyExists"
  | .atPath f _ => faultKind f

/-- A fault with its number if the system gives it one. -/
def ioFault (f : IoFault) : String :=
  match f.system? with
  | some (code, text) =>
    fields "Os" [("code", toString code), ("kind", faultKind f), ("message", Text.quoted text)]
  | none => fields "Error" [("kind", faultKind f), ("message", Text.quoted f.message)]

def rejection (r : Rejection) : String :=
  match r.kind with
  | .invalidValue =>
    fields "InvalidFieldValue"
      [("field", Text.quoted r.field), ("value", Text.quoted r.value),
       ("reason", Text.quoted r.reason)]
  | .missingField =>
    fields "MissingRequiredField"
      [("field", Text.quoted r.field), ("context", Text.quoted r.context)]
  | .duplicateName => fields "DuplicateBackendName" [("name", Text.quoted r.value)]

def definitionError : DefinitionError → String
  | .rejected r => wrapped "HardValidation" (rejection r)
  | .noConfig path => fields "ConfigNotFound" [("path", Text.quoted path)]
  | .unreadable f =>
    fields "ConfigParse" [("message", Text.quoted (DefinitionError.parseMessage f))]
  | .io f =>
    fields "Io" [("context", Text.quoted DefinitionError.ioContext), ("source", ioFault f)]

def resolveError : ResolveError → String
  | .notFound l => fields "NotFound" [("locator", locator l)]
  | .notExecutable path => fields "NotExecutable" [("path", Text.quoted path)]
  | .lookup l reason =>
    fields "Lookup" [("locator", locator l), ("reason", Text.quoted reason)]

def adaptError : AdaptError → String
  | .prepare reason => fields "Prepare" [("reason", Text.quoted reason)]
  | .io context reason =>
    fields "Io"
      [("context", Text.quoted context),
       ("source", fields "Custom" [("kind", "Other"), ("error", Text.quoted reason)])]

def loadError : LoadError → String
  | .resolve e => wrapped "Resolve" (resolveError e)
  | .adapt e => wrapped "Adapt" (adaptError e)
  | .panicked message => fields "Panicked" [("message", Text.quoted message)]

def loadFailure (f : LoadFailure) : String :=
  fields "LoadFailure"
    [("backend", backendName f.backend), ("locator", locator f.locator),
     ("error", loadError f.error)]

/-- The outcome of a load. -/
def loaded {τ : Type} : Except LoadFailure (LoadedBackend τ) → String
  | .ok b => wrapped "Ok" (someFields "LoadedBackend" [("name", backendName b.name)])
  | .error f => wrapped "Err" (loadFailure f)

def descriptor {τ : Type} (d : Descriptor τ) : String :=
  someFields "BackendDescriptor" [("name", backendName d.name), ("locator", locator d.locator)]

def roster {τ : Type} (r : Roster τ) : String :=
  fields "BackendSet" [("descriptors", list (r.descriptors.map descriptor))]

def loader {τ : Type} (l : Loader τ) : String :=
  someFields "Loader" [("workload", Text.quoted l.workload.name)]

def recorder {τ : Type} (r : Recorder τ) : String :=
  let benchmark (b : LoadedBackend τ) : String :=
    someFields "RecordedBenchmark" [("name", Text.quoted b.name.text)]
  let suite (s : RecordedSuite τ) : String :=
    fields "RecordedSuite"
      [("name", Text.quoted s.name.text), ("benchmarks", list (s.benchmarks.map benchmark))]
  fields "RecordingRuntime" [("suites", list (r.suites.map suite))]

end BenchRoster.Inspect
