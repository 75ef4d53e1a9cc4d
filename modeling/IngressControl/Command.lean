import IngressControl.FileTree.Basic

/-!
# Commands of the proxy

The proxy is told to check a candidate configuration and to reload by running its binary. Messages
show a command as its binary and its arguments with a space between any two.
-/

namespace IngressControl

/-- A program to run. -/
structure Command where
  binary : String
  arguments : List String
deriving DecidableEq

namespace Command

/-- The dry run of the configuration in a file. -/
def check (binary candidate : String) : Command := ⟨binary, ["-c", candidate, "-t"]⟩

/-- The order to take the live configuration up. -/
def reload (binary : String) : Command := ⟨binary, ["-s", "reload"]⟩

/-- How messages show a command. -/
def text (c : Command) : String := " ".intercalate (c.binary :: c.arguments)

end Command

/-- Why a command did not succeed. -/
inductive CommandError where
  /-- The candidate could not be written. -/
  | candidate (cause : IoError)
  /-- The binary could not be run. -/
  | spawn (binary : String) (cause : IoError)
  /-- The command took too long. -/
  | timeout (command : String) (seconds : Nat)
  /-- The command reported a failure. -/
  | failed (command status output : String)
deriving DecidableEq

/-- The text of a command's failure. -/
def CommandError.message : CommandError → String
  | .candidate cause => "failed to prepare candidate configuration: " ++ cause.message
  | .spawn binary cause => "failed to run " ++ binary ++ ": " ++ cause.message
  | .timeout command seconds =>
    "'" ++ command ++ "' timed out after " ++ String.ofList (Decimal.ofNat seconds) ++ "s"
  | .failed command status output =>
    "'" ++ command ++ "' exited with " ++ status ++ "\n" ++ output

end IngressControl
