import PppoeSetup.Config.Settings
import PppoeSetup.Logging.Filter

/-!
# Subscribers

One subscriber at most is installed, by the first call. Its filter is taken from the environment
if that has one, else from the configured level, else it passes info and what is graver; its
layout is the configured one.
-/

namespace PppoeSetup.Logging

/-- The target of all spans and events. -/
def target : String := "pppoe_socket"

structure Subscriber where
  filter : Filter
  format : LogFormat
deriving DecidableEq

/-- An event with one numeric field, `n`. -/
structure Sample where
  severity : Severity
  message : String
  n : Nat

def Scope.origin (s : Scope) : Origin := ⟨target, s.severity, ["id"], some s.name⟩

def Sample.origin (e : Sample) : Origin := ⟨target, e.severity, ["message", "n"], none⟩

/-- What is printed: a line of text, or an object, with the scope that it is about and the scopes
that it happens in. -/
inductive Line
  | text (s : String)
  | object (severity : Severity) (message : String) (n : Option Nat) (scope : Option Scope)
    (scopes : List Scope)

namespace Subscriber

/-- The filter that an environment and a configuration ask for. -/
def chooseFilter? (environment : Option String) (config : Option LogConfig) : Option Filter :=
  match environment, config with
  | some directives, _ => Filter.ofText? directives
  | none, some c => some (.upTo (.ofLevel c.level))
  | none, none => some (.upTo .info)

/-- The subscriber after a call for one; one that is installed stays. There is none if the
program ends over the filter. -/
def install? (installed : Option Subscriber) (environment : Option String)
    (config : Option LogConfig) : Option Subscriber :=
  match installed with
  | some s => some s
  | none =>
    (chooseFilter? environment config).map fun filter =>
      { filter, format := (config.map (·.format)).getD .pretty }

/-- Whether the subscriber knows that a scope is entered. -/
def enters (s : Subscriber) (scope : Scope) : Bool := s.filter.admitsSpan scope.origin

/-- Whether an event is let through inside a scope, if the scope is one that is known. -/
def admits (s : Subscriber) (inside : Option Scope) (e : Sample) : Bool :=
  (s.filter.threshold e.origin).admits e.severity ||
    inside.any fun scope =>
      (s.filter.insideThreshold scope.origin scope.id).admits e.severity

/-- The line for a sample. -/
def line (s : Subscriber) (inside : Option Scope) (e : Sample) : Line :=
  match s.format, inside with
  | .pretty, some scope =>
    let place := scope.name ++ "\x7bid=" ++ toString scope.id ++ "\x7d"
    .text s!"{e.severity.label} {place}: {target}: {e.message} n={e.n}"
  | .compact, some scope =>
    .text s!"{e.severity.label} {scope.name}: {target}: {e.message} n={e.n} id={scope.id}"
  | .pretty, none | .compact, none =>
    .text s!"{e.severity.label} {target}: {e.message} n={e.n}"
  | .json, _ => .object e.severity e.message (some e.n) inside inside.toList

/-- What is printed when a scope is left: only objects tell about it. -/
def closing (s : Subscriber) (scope : Scope) : List Line :=
  match s.format with
  | .json => [.object scope.severity "close" none (some scope) []]
  | .pretty | .compact => []

/-- All lines for the samples inside a scope. -/
def lines (s : Subscriber) (scope : Scope) (samples : List Sample) : List Line :=
  let inside := if s.enters scope then some scope else none
  (samples.filter (s.admits inside)).map (s.line inside) ++
    inside.toList.flatMap s.closing

end Subscriber

/-- The scope of the probe. -/
def probeScope : Scope := ⟨"setup", 7, .error⟩

/-- One event of each severity, numbered by it. -/
def probe : List Sample := Severity.all.map fun s => ⟨s, "probe", s.number⟩

/-- What the probe prints after a first call for a subscriber and further ones. -/
def session (environment : Option String) (first : Option LogConfig)
    (further : List (Option LogConfig)) : List Line :=
  let installed := Subscriber.install? none environment first
  let installed := further.foldl (Subscriber.install? · environment) installed
  match installed with
  | none => []
  | some s => s.lines probeScope probe

end PppoeSetup.Logging
