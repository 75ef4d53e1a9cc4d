import IngressControl.Command

/-!
# Runs of a command

A command that could be started runs for some time, writes to its two outputs and ends by itself
or by a signal. It succeeds when it ends in time with code zero; otherwise the message shows what
it wrote, with every invalid part of it replaced.
-/

namespace IngressControl

/-- How a program ended. -/
inductive Ending where
  | exited (code : UInt8)
  | killed (signal : Nat)
deriving DecidableEq

namespace Ending

/-- The names of the signals from one on. -/
def signalNames : List String :=
  ["SIGHUP", "SIGINT", "SIGQUIT", "SIGILL", "SIGTRAP", "SIGABRT", "SIGBUS", "SIGFPE", "SIGKILL",
    "SIGUSR1", "SIGSEGV", "SIGUSR2", "SIGPIPE", "SIGALRM", "SIGTERM", "SIGSTKFLT", "SIGCHLD",
    "SIGCONT", "SIGSTOP", "SIGTSTP", "SIGTTIN", "SIGTTOU", "SIGURG", "SIGXCPU", "SIGXFSZ",
    "SIGVTALRM", "SIGPROF", "SIGWINCH", "SIGIO", "SIGPWR", "SIGSYS"]

/-- How messages show an ending. A signal without a name is shown by its number alone. -/
def text : Ending → String
  | .exited code => "exit status: " ++ String.ofList (Decimal.ofNat code.toNat)
  | .killed signal =>
    let number := "signal: " ++ String.ofList (Decimal.ofNat signal)
    match if signal = 0 then none else signalNames[signal - 1]? with
    | some name => number ++ " (" ++ name ++ ")"
    | none => number

end Ending

/-- One run of a program. -/
structure Execution where
  output : Bytes
  errors : Bytes
  ending : Ending
  /-- How long it takes, in nanoseconds. -/
  duration : Nat
deriving DecidableEq

/-- What a command comes to when it may run for `limit` nanoseconds. -/
def Command.result (c : Command) (limit : Nat) :
    Except IoError Execution → Except CommandError Unit
  | .error cause => .error (.spawn c.binary cause)
  | .ok run =>
    if limit ≤ run.duration then .error (.timeout c.text (limit / 1000000000))
    else if run.ending = .exited 0 then .ok ()
    else
      .error (.failed c.text run.ending.text (Utf8.decodeLossy run.output ++ Utf8.decodeLossy run.errors))

end IngressControl
