import IngressControl.Settings.Format
import IngressControl.Settings.Rule

/-!
# Where settings come from

Settings are loaded from a file. They count only when the file is a TOML document, its values have
the right types, and no rule is violated.
-/

namespace IngressControl

/-- Why there are no settings. -/
inductive SettingsError where
  | io (path : String) (cause : IoError)
  /-- The text is no TOML document. -/
  | malformed
  /-- A value has the wrong type. -/
  | mismatch (m : Mismatch)
  | invalid (violations : List Violation)

/-- The text of a failure to read the file. -/
def SettingsError.ioMessage (path : String) (cause : IoError) : String :=
  "IO error reading " ++ path ++ ": " ++ cause.message

/-- The text of violated rules. -/
def SettingsError.invalidMessage (violations : List Violation) : String :=
  "Validation failed: " ++ ", ".intercalate (violations.map Violation.message)

namespace Settings

/-- The settings of a text. -/
def parse (content : String) : Except SettingsError Settings :=
  match Toml.parse content with
  | none => .error .malformed
  | some document =>
    match Toml.Field.setNamed sections document {} with
    | .error m => .error (.mismatch m)
    | .ok s =>
      if s.violations .standard = [] then .ok s else .error (.invalid (s.violations .standard))

/-- The settings of a file. -/
def load (t : FileTree) (path : String) : Except SettingsError Settings :=
  match t.readText path with
  | .error e => .error (.io path e)
  | .ok content => parse content

end Settings

end IngressControl
