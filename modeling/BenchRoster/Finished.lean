/-
# Programs that have ended

How a program ended, in words, and what it wrote until then.
-/
import BenchRoster.FileSystem

namespace BenchRoster

/-- How a program ended. -/
inductive ExitStatus where
  | code (n : Nat)
  | signal (n : Nat)
deriving DecidableEq, Repr

/-- The names of signals, by their numbers from 1 on. -/
def signalNames : List String :=
  ["SIGHUP", "SIGINT", "SIGQUIT", "SIGILL", "SIGTRAP", "SIGABRT", "SIGBUS", "SIGFPE", "SIGKILL",
   "SIGUSR1", "SIGSEGV", "SIGUSR2", "SIGPIPE", "SIGALRM", "SIGTERM", "SIGSTKFLT", "SIGCHLD",
   "SIGCONT", "SIGSTOP", "SIGTSTP", "SIGTTIN", "SIGTTOU", "SIGURG", "SIGXCPU", "SIGXFSZ",
   "SIGVTALRM", "SIGPROF", "SIGWINCH", "SIGIO", "SIGPWR", "SIGSYS"]

/-- How a program ended, in words. -/
def ExitStatus.message : ExitStatus → String
  | .code n => s!"exit status: {n}"
  | .signal n =>
    match n with
    | 0 => "signal: 0"
    | k + 1 =>
      match signalNames[k]? with
      | some name => s!"signal: {k + 1} ({name})"
      | none => s!"signal: {k + 1}"

/-- The status of a program that did what it was asked. -/
def ExitStatus.isSuccess (s : ExitStatus) : Bool := s == .code 0

/-- What a program has done: how it ended, and all that it wrote. -/
structure Finished where
  status : ExitStatus
  output : Bytes
  errors : Bytes

end BenchRoster
