/-
# Faults of the operating system

What can go wrong with files and programs, with the number and the words that the system gives it.
-/

namespace BenchRoster

/-- A fault that the operating system, or the layer above it, reports. -/
inductive IoFault where
  | noEntry
  | permissionDenied
  | notADirectory
  | isADirectory
  | badExecutable
  | nameTooLong
  | tooManyLinks
  | badDescriptor
  | alreadyExists
  | notEmpty
  /-- A text with a NUL was given where none may be. -/
  | nulByte
  /-- A file that should hold text does not. -/
  | notText
  /-- No free name was found for a temporary directory. -/
  | noFreeName
  /-- A fault that concerns a path, which the message names. -/
  | atPath (fault : IoFault) (path : String)
deriving DecidableEq, Repr

namespace IoFault

/-- The number of a fault that comes from the system, and its description. -/
def system? : IoFault → Option (Nat × String)
  | noEntry => some (2, "No such file or directory")
  | permissionDenied => some (13, "Permission denied")
  | notADirectory => some (20, "Not a directory")
  | isADirectory => some (21, "Is a directory")
  | badExecutable => some (8, "Exec format error")
  | nameTooLong => some (36, "File name too long")
  | tooManyLinks => some (40, "Too many levels of symbolic links")
  | badDescriptor => some (9, "Bad file descriptor")
  | alreadyExists => some (17, "File exists")
  | notEmpty => some (39, "Directory not empty")
  | _ => none

def message : IoFault → String
  | nulByte => "nul byte found in provided data"
  | notText => "stream did not contain valid UTF-8"
  | noFreeName => "too many temporary files exist"
  | atPath f p => s!"{f.message} at path \"{p}\""
  | noEntry => "No such file or directory (os error 2)"
  | permissionDenied => "Permission denied (os error 13)"
  | notADirectory => "Not a directory (os error 20)"
  | isADirectory => "Is a directory (os error 21)"
  | badExecutable => "Exec format error (os error 8)"
  | nameTooLong => "File name too long (os error 36)"
  | tooManyLinks => "Too many levels of symbolic links (os error 40)"
  | badDescriptor => "Bad file descriptor (os error 9)"
  | alreadyExists => "File exists (os error 17)"
  | notEmpty => "Directory not empty (os error 39)"

/-- A fault of the system is shown with its description and number. -/
theorem message_of_system {f : IoFault} {code : Nat} {text : String}
    (h : f.system? = some (code, text)) : f.message = s!"{text} (os error {code})" := by
  cases f <;> cases h <;> rfl

/-- The words of a fault, without its number. -/
def description (f : IoFault) : String := (f.system?.map (·.2)).getD f.message

end IoFault

end BenchRoster
