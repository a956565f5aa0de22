import RequestGuard.Settings.Environment
import RequestGuard.Settings.Validation
import RequestGuard.Text.Utf8
import RequestGuard.Toml.Document

/-!
# Loading settings

Settings come from a file, which the environment overrides, and are checked before they are used.
-/

namespace RequestGuard.Settings

inductive LoadError where
  | unreadable
  | malformed
  | invalid (violations : List Violation)
deriving DecidableEq, Repr

def LoadError.message? : LoadError → Option String
  | .unreadable | .malformed => none
  | .invalid violations =>
    some ("Validation failed: " ++ String.intercalate ", " (violations.map Violation.message))

/-- The settings that the environment makes of others, if they satisfy the rules. -/
def load (grammar : Grammar) (settings : Settings) (env? : String → Option String) :
    Except LoadError Settings :=
  let final := settings.override env?
  match final.violations grammar with
  | [] => .ok final
  | violations => .error (.invalid violations)

def ofText? (text : String) : Option Settings :=
  (Toml.parse? text).bind fun document => ofTree? document.toTree

/-- Loads the settings in the bytes of a file; there are none if the file cannot be read. -/
def loadFile (grammar : Grammar) (bytes : Option (List UInt8)) (env? : String → Option String) :
    Except LoadError Settings :=
  match bytes.bind Utf8.decode? with
  | none => .error .unreadable
  | some text =>
    match ofText? (String.ofList text) with
    | none => .error .malformed
    | some settings => load grammar settings env?

end RequestGuard.Settings
