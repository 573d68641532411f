import PppoeSetup.Config.Settings
import PppoeSetup.Logging.Record
import PppoeSetup.SetupError
import PppoeSetup.Text.Quoted

/-!
# Diagnostics of a configuration

Warnings and errors, one line each. An interface that can be no interface name is an error; a
missing interface, a limit of zero and an unknown log level are warnings.
-/

namespace PppoeSetup

open Logging

structure Diagnostics where
  warnings : List String := []
  errors : List String := []
deriving DecidableEq

namespace Diagnostics

def warn (d : Diagnostics) (message : String) : Diagnostics :=
  { d with warnings := d.warnings ++ [message] }

def error (d : Diagnostics) (message : String) : Diagnostics :=
  { d with errors := d.errors ++ [message] }

def hasErrors (d : Diagnostics) : Bool := !d.errors.isEmpty

/-- The diagnostics as log records, warnings first. -/
def records (d : Diagnostics) : List Record :=
  d.warnings.map (⟨.warn, ·, []⟩) ++ d.errors.map (⟨.error, ·, []⟩)

/-- One more diagnostic. -/
inductive Step
  | warn (message : String)
  | error (message : String)

def apply (d : Diagnostics) : Step → Diagnostics
  | .warn message => d.warn message
  | .error message => d.error message

end Diagnostics

namespace SetupConfig

def unknownLevelWarning (level : String) : String :=
  s!"logging.level: unknown level {Text.quoted level}, using info"

/-- The remarks on the interface. -/
def interfaceDiagnostics (c : SetupConfig) (d : Diagnostics) : Diagnostics :=
  match c.interface? with
  | none => d.warn "interface: not specified, callers must name one"
  | some name =>
    match InterfaceName.validate name with
    | .ok _ => d
    | .error e => d.error s!"interface: {e.message}"

def timeoutDiagnostics (c : SetupConfig) (d : Diagnostics) : Diagnostics :=
  if c.timeoutMillis? = some 0 then d.warn "connect_timeout_ms: 0 disables the timeout" else d

def levelDiagnostics (c : SetupConfig) (d : Diagnostics) : Diagnostics :=
  match Severity.ofLevel? c.logging.level with
  | some _ => d
  | none => d.warn (unknownLevelWarning c.logging.level)

def diagnostics (c : SetupConfig) : Diagnostics :=
  c.levelDiagnostics (c.timeoutDiagnostics (c.interfaceDiagnostics {}))

end SetupConfig

end PppoeSetup
