import Backtrack.Scanner.Basic
import Backtrack.Settings.Json

/-!
# Failures of any kind

Everything that can go wrong in this library, for callers that do not care which part of it did. The
text of a failure says which part it was.
-/

namespace Backtrack

/-- An error of any part of the library. -/
inductive Failure where
  | input (error : InputError)
  | parse (error : ParseError)
  | scan (error : ScanError)
  | settings (error : SettingsError)
  deriving Repr, DecidableEq

/-- The text of a failure. -/
def Failure.message : Failure → String
  | input error => "Input error: " ++ error.message
  | parse error => "Parse error: " ++ error.message
  | scan error => "Scan error: " ++ error.message
  | settings error => "Config error: " ++ error.message

end Backtrack
