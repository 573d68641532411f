import PppoeSetup.Logging.Severity

/-!
# Log records

What a subscriber is given of one event: its severity, its message and its fields in order, each
with a name and its text.
-/

namespace PppoeSetup.Logging

structure Record where
  severity : Severity
  message : String
  fields : List (String × String) := []
deriving DecidableEq

end PppoeSetup.Logging
