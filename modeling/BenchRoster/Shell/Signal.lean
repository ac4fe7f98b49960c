/-
# Signals in a shell

The names of signals as a shell writes them, and what it says about a program that one has ended.
-/

namespace BenchRoster.Shell.Signal

/-- How many signals there are, with number 0 for none. -/
def count : Nat := 65

/-- The names of the signals that have one of their own; number 0 is the end of the shell. -/
def named : List String :=
  ["EXIT", "HUP", "INT", "QUIT", "ILL", "TRAP", "ABRT", "BUS", "FPE", "KILL", "USR1", "SEGV",
   "USR2", "PIPE", "ALRM", "TERM", "16", "CHLD", "CONT", "STOP", "TSTP", "TTIN", "TTOU", "URG",
   "XCPU", "XFSZ", "VTALRM", "PROF", "WINCH", "IO", "PWR", "SYS", "32", "33", "RTMIN"]

/-- The name of a signal; those behind the named ones are counted from both ends. -/
def name (n : Nat) : String :=
  match named[n]? with
  | some name => name
  | none =>
    if n < 50 then s!"RTMIN+{n - 34}" else if n < 64 then s!"RTMAX-{64 - n}" else "RTMAX"

/-- The number of a signal that is written as a number or as a name, in whatever case. -/
def number? (text : String) : Option Nat :=
  let cs := text.toList
  if cs ≠ [] ∧ cs.all Char.isDigit then text.toNat?.filter (· < count)
  else
    let upper := String.ofList (cs.map Char.toUpper)
    (List.range count).find? fun n => name n == upper

/-- The signals that end a program that does nothing about them. -/
def isFatal (n : Nat) : Bool := 0 < n && !((17 ≤ n && n ≤ 23) || n == 28)

/-- What is said about a program that a signal has ended; nothing about the two signals with which
programs are stopped on purpose. -/
def description? (n : Nat) : Option String :=
  let known : List (Nat × String) :=
    [(1, "Hangup"), (3, "Quit"), (4, "Illegal instruction"), (5, "Trace/breakpoint trap"),
     (6, "Aborted"), (7, "Bus error"), (8, "Floating point exception"), (9, "Killed"),
     (10, "User defined signal 1"), (11, "Segmentation fault"), (12, "User defined signal 2"),
     (14, "Alarm clock"), (15, "Terminated"), (16, "Stack fault"),
     (24, "CPU time limit exceeded"), (25, "File size limit exceeded"),
     (26, "Virtual timer expired"), (27, "Profiling timer expired"), (29, "I/O possible"),
     (30, "Power failure"), (31, "Bad system call")]
  if n = 2 ∨ n = 13 then none
  else known.lookup n <|> if 34 ≤ n then some s!"Real-time signal {n - 34}" else none

example : number? "term" = some 15 ∧ number? "SIGTERM" = none ∧ name 63 = "RTMAX-1" := by
  decide +kernel

end BenchRoster.Shell.Signal
