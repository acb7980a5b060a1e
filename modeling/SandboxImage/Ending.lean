/-!
# Ends of processes

A process exits with a code, or a signal ends it; then it may have left a dump of its memory.
-/

namespace SandboxImage

/-- How a process ended. -/
inductive Ending where
  | exited (code : UInt8)
  | signalled (signal : Nat) (dumped : Bool := false)
  deriving DecidableEq, Repr

/-- The names of the signals with the numbers 1 to 31. -/
def signalNames : List String :=
  ["SIGHUP", "SIGINT", "SIGQUIT", "SIGILL", "SIGTRAP", "SIGABRT", "SIGBUS", "SIGFPE", "SIGKILL",
   "SIGUSR1", "SIGSEGV", "SIGUSR2", "SIGPIPE", "SIGALRM", "SIGTERM", "SIGSTKFLT", "SIGCHLD",
   "SIGCONT", "SIGSTOP", "SIGTSTP", "SIGTTIN", "SIGTTOU", "SIGURG", "SIGXCPU", "SIGXFSZ",
   "SIGVTALRM", "SIGPROF", "SIGWINCH", "SIGIO", "SIGPWR", "SIGSYS"]

namespace Ending

/-- The process did what it was asked to do. -/
def isSuccess (e : Ending) : Bool := e == .exited 0

/-- The end of a process in words. -/
def text : Ending → String
  | .exited code => "exit status: " ++ toString code.toNat
  | .signalled signal dumped =>
    let name := match signalNames[signal - 1]? with
      | some name => if signal == 0 then "" else " (" ++ name ++ ")"
      | none => ""
    "signal: " ++ toString signal ++ name ++ if dumped then " (core dumped)" else ""

end Ending
end SandboxImage
