import PppoeSetup.Logging.Directive

/-!
# Log filters

A filter is a list of directives. Of those that judge by the target alone, or by the names of an
event's fields, the most specific one decides. The others look at spans: what happens inside a
span is let through if one of them says so, whatever the former say.
-/

namespace PppoeSetup.Logging

open Text

/-- What is known of a span or an event before it is recorded. -/
structure Origin where
  target : String
  severity : Severity
  fields : List String
  /-- The name of a span; an event has none. -/
  span : Option String

/-- A stretch of work that events happen in. It has one field, `id`. -/
structure Scope where
  name : String
  id : Nat
  severity : Severity

namespace Directive

def hasTarget (d : Directive) (target : String) : Bool :=
  d.target.all (·.isPrefixOf target.toList)

def hasValue (d : Directive) : Bool :=
  d.field.any (·.value.isSome)

/-- Whether the directive can decide without a span being entered. -/
def isStatic (d : Directive) : Bool := d.span.isNone && !d.hasValue

/-- Whether the directive looks at spans. -/
def isDynamic (d : Directive) : Bool := d.span.isSome || d.field.isSome

/-- Whether the directive names a field that the origin does not have. -/
def missesField (d : Directive) (o : Origin) : Bool :=
  d.field.any fun f => !(o.fields.map String.toList).contains f.name

/-- Whether the directive judges an origin. Of spans, fields are not asked here. -/
def judges (d : Directive) (o : Origin) : Bool :=
  d.isStatic && d.hasTarget o.target && (o.span.isSome || !d.missesField o)

/-- Whether the directive looks at the span of the given origin. -/
def looksAt (d : Directive) (o : Origin) : Bool :=
  d.isDynamic && d.hasTarget o.target && !d.missesField o &&
    d.span.all fun name => o.span.map String.toList = some name

/-- Whether a directive that looks at a span finds the value there that it asks for. -/
def agrees (d : Directive) (id : Nat) : Bool :=
  (d.field.bind (·.value)).all (· = .number id)

/-- The length of the text that targets start with. Having such a text, even an empty one, is
more than having none. -/
def targetSize (d : Directive) : Nat :=
  match d.target with
  | none => 0
  | some t => t.length + 1

/-- Whether `d` is at least as specific as `e`: by the text for targets first, then by having a
field, then by the field's name. -/
def refines (d e : Directive) : Bool :=
  if d.targetSize ≠ e.targetSize then e.targetSize ≤ d.targetSize
  else
    match d.field, e.field with
    | _, none => true
    | none, some _ => false
    | some f, some g => !(f.name < g.name)

/-- Whether `d` is about the same as `e`, so that the later of them counts. -/
def sameAs (d e : Directive) : Bool :=
  d.target = e.target && d.span = e.span && d.field = e.field

end Directive

structure Filter where
  directives : List Directive
deriving DecidableEq

namespace Filter

/-- The filter that lets through one severity and all graver ones. -/
def upTo (s : Severity) : Filter := ⟨[{ threshold := some s }]⟩

/-- The directives of a list of texts. Those that cannot be read do not count. -/
def directivesOf? : List (List Char) → Option (List Directive)
  | [] => some []
  | text :: texts =>
    match Directive.parse text with
    | .ok d => (directivesOf? texts).map (d :: ·)
    | .error .malformed => directivesOf? texts
    | .error .torn => none

/-- The filter of directives that commas separate. If none is left, only errors pass. There is no
filter if a directive would have to be cut inside a character. -/
def ofText? (s : String) : Option Filter := do
  let directives ← directivesOf? ((pieces ',' s.toList).filter (· ≠ []))
  return if directives = [] then upTo .error else ⟨directives⟩

/-- The more specific of two directives for an origin, the first of which judges it. -/
def choose (o : Origin) (best : Option Directive) (d : Directive) : Option Directive :=
  if d.judges o && best.all d.refines then some d else best

/-- The threshold that the most specific directive sets; where none judges, nothing passes. -/
def threshold (f : Filter) (o : Origin) : Threshold :=
  (f.directives.foldl (choose o) none).bind (·.threshold)

/-- The directives that look at spans; of several about the same the last one counts. -/
def watchers (f : Filter) : List Directive :=
  (f.directives.filter (·.isDynamic)).foldl
    (fun kept d => kept.filter (!d.sameAs ·) ++ [d]) []

/-- The least grave severity that can pass at all. A filter that asks for values lets all
severities through until it has seen them. -/
def ceiling (f : Filter) : Threshold :=
  if f.directives.any (·.hasValue) then some .trace
  else (f.directives.map (·.threshold)).foldl Threshold.max none

/-- Whether a span is let through. A span that a directive looks at is, so that it can be seen. -/
def admitsSpan (f : Filter) (o : Origin) : Bool :=
  f.ceiling.admits o.severity &&
    (f.watchers.any (·.looksAt o) || (f.threshold o).admits o.severity)

/-- The threshold for all that happens inside a span: that of the most generous directive which
looks at it and agrees with it. -/
def insideThreshold (f : Filter) (o : Origin) (id : Nat) : Threshold :=
  let agreeing := f.watchers.filter fun d => d.looksAt o && d.agrees id
  (agreeing.map (·.threshold)).foldl Threshold.max none

end Filter

end PppoeSetup.Logging
