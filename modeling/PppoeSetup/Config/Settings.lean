import PppoeSetup.Duration

/-!
# Settings of a setup

What a configuration text may set, with the value that holds where it is silent.
-/

namespace PppoeSetup

/-- The layout of log lines. -/
inductive LogFormat
  | pretty
  | compact
  | json
deriving DecidableEq

namespace LogFormat

def name : LogFormat → String
  | pretty => "pretty"
  | compact => "compact"
  | json => "json"

def all : List LogFormat := [pretty, compact, json]

def ofName? (s : String) : Option LogFormat := all.find? (·.name = s)

theorem ofName?_name (f : LogFormat) : ofName? f.name = some f := by
  cases f <;> decide

end LogFormat

structure LogConfig where
  level : String := "info"
  format : LogFormat := .pretty
deriving DecidableEq

structure SetupConfig where
  /-- The interface that the discovery socket is bound to. -/
  interface? : Option String := none
  /-- The limit for a session connect in milliseconds; zero means no limit. -/
  timeoutMillis? : Option UInt64 := none
  /-- Whether the discovery socket is put in nonblocking mode after the setup. -/
  nonblocking : Bool := false
  logging : LogConfig := {}
deriving DecidableEq

/-- The limit for a session connect, if there is one. -/
def SetupConfig.timeout? (c : SetupConfig) : Option Duration :=
  (c.timeoutMillis?.filter (0 < ·)).map .ofMillis

end PppoeSetup
