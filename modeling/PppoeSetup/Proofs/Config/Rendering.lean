import Mathlib.Data.List.Perm.Subperm
import PppoeSetup.Config.Settings
import PppoeSetup.Proofs.Toml.Lines

/-!
# Renderings of a configuration

The documents that say what a configuration is, entry by entry. Entries stand in any order, an
entry with a default may be left out, and there are three ways to write the logging table.
-/

namespace PppoeSetup.Config

open Toml

/-! ### Entries -/

/-- An entry of the logging table. -/
inductive LogEntry
  | level (name : String)
  | format (f : LogFormat)

namespace LogEntry

def name : LogEntry → String
  | level _ => "level"
  | format _ => "format"

def IsDefault : LogEntry → Prop
  | level s => s = ({} : LogConfig).level
  | format f => f = ({} : LogConfig).format

/-- How the value is written. -/
def ValueAt : LogEntry → List Char → List Char → Prop
  | level s => TextAt s
  | format f => TextAt f.name

end LogEntry

/-- All that a logging table says. -/
def logEntries (l : LogConfig) : List LogEntry := [.level l.level, .format l.format]

/-- A statement of a configuration. -/
inductive Clause
  | interface (name : String)
  | timeout (millis : UInt64)
  | nonblocking (b : Bool)
  /-- The logging table between braces. -/
  | inline (entries : List LogEntry)
  /-- An entry of the logging table, by a dotted key. -/
  | dotted (entry : LogEntry)
  /-- The header of the logging table. -/
  | header
  /-- An entry of the logging table below its header. -/
  | below (entry : LogEntry)

namespace Clause

/-- The parts of the key. -/
def names : Clause → List String
  | interface _ => ["interface"]
  | timeout _ => ["connect_timeout_ms"]
  | nonblocking _ => ["nonblocking_discovery"]
  | inline _ | header => ["logging"]
  | dotted e => ["logging", e.name]
  | below e => [e.name]

/-- What is set to its default. -/
def IsDefault : Clause → Prop
  | nonblocking b => b = ({} : SetupConfig).nonblocking
  | inline es => ∀ e ∈ es, e.IsDefault
  | dotted e | below e => e.IsDefault
  | interface _ | timeout _ | header => False

/-- How the value after the equals sign is written. -/
def ValueAt : Clause → List Char → List Char → Prop
  | interface name => TextAt name
  | timeout n => NumberAt n.toNat
  | nonblocking b => BooleanAt b
  | inline es => InlineAt (fun e => LineAt e.ValueAt [e.name]) es
  | dotted e | below e => e.ValueAt
  | header => fun _ _ => False

/-- How the clause is written, up to the end of its line. -/
inductive At : Clause → List Char → List Char → Prop
  | line {cl : Clause} {s rest : List Char} : LineAt cl.ValueAt cl.names s rest → At cl s rest
  | header {s rest : List Char} : HeaderAt "logging" s rest → At .header s rest

end Clause

/-- All that a configuration says, apart from the logging table. -/
def topEntries (c : SetupConfig) : List Clause :=
  c.interface?.toList.map .interface ++ c.timeoutMillis?.toList.map .timeout ++
    [.nonblocking c.nonblocking]

/-! ### Layouts -/

/-- The ways to write the logging table. -/
inductive Layout
  /-- Below a header, after all other entries. -/
  | headed
  | inline
  | dotted
deriving DecidableEq

/-- Entries in any order; only such as have a default may be left out. -/
structure Arranges {α : Type} (IsDefault : α → Prop) (written entries : List α) : Prop where
  subperm : written.Subperm entries
  leftOut : ∀ e ∈ entries, e ∉ written → IsDefault e

/-- What is written of a configuration, clause by clause. -/
inductive Arranged (c : SetupConfig) : Layout → List Clause → Prop
  | headed {top below : List Clause} :
    Arranges Clause.IsDefault top (topEntries c) →
    Arranges Clause.IsDefault below ((logEntries c.logging).map .below) →
    Arranged c .headed (top ++ .header :: below)
  | silent {top : List Clause} :
    Arranges Clause.IsDefault top (topEntries c) → c.logging = {} → Arranged c .headed top
  | inline {top : List Clause} {es : List LogEntry} :
    Arranges LogEntry.IsDefault es (logEntries c.logging) →
    Arranges Clause.IsDefault top (topEntries c ++ [.inline es]) → Arranged c .inline top
  | dotted {top : List Clause} :
    Arranges Clause.IsDefault top (topEntries c ++ (logEntries c.logging).map .dotted) →
    Arranged c .dotted top

/-- The text says what the configuration is. -/
def Renders (c : SetupConfig) (layout : Layout) (s : String) : Prop :=
  ∃ clauses, Arranged c layout clauses ∧ DocumentAt Clause.At clauses s.toList

/-! ### One text for each layout -/

/-- Every control character is given by its code point. -/
def escape (c : Char) : List Char :=
  if c = '"' ∨ c = '\\' then ['\\', c]
  else if c.toNat < 32 ∨ 127 ≤ c.toNat ∧ c.toNat < 160 then
    '\\' :: 'u' :: [c.toNat / 4096, c.toNat / 256 % 16, c.toNat / 16 % 16, c.toNat % 16].map
      Nat.digitChar
  else [c]

def textValue (t : String) : List Char := '"' :: (t.toList.flatMap escape ++ ['"'])

/-- A line with a key of these parts. -/
def lineText (names : List String) (value : List Char) : List Char :=
  (".".intercalate names ++ " = ").toList ++ value

def LogEntry.value : LogEntry → List Char
  | level s => textValue s
  | format f => textValue f.name

def itemsText : List LogEntry → List Char
  | [] => ['\x7d']
  | [e] => lineText [e.name] e.value ++ [' ', '\x7d']
  | e :: es => lineText [e.name] e.value ++ ',' :: ' ' :: itemsText es

namespace Clause

def value : Clause → List Char
  | interface name => textValue name
  | timeout n => Nat.toDigits 10 n.toNat
  | nonblocking b => (toString b).toList
  | inline es => '\x7b' :: ' ' :: itemsText es
  | dotted e | below e => e.value
  | header => []

def text : Clause → List Char
  | header => "[logging]".toList
  | cl => lineText cl.names cl.value

end Clause

/-- All clauses, in the order of the fields. -/
def Layout.clauses (c : SetupConfig) : Layout → List Clause
  | .headed => topEntries c ++ .header :: (logEntries c.logging).map .below
  | .inline => topEntries c ++ [.inline (logEntries c.logging)]
  | .dotted => topEntries c ++ (logEntries c.logging).map .dotted

def render (c : SetupConfig) (layout : Layout) : String :=
  String.ofList ((layout.clauses c).flatMap fun cl => cl.text ++ ['\n'])

lemma quoted_escape (cs rest : List Char) : Quoted cs (cs.flatMap escape ++ '"' :: rest) rest := by
  induction cs with
  | nil => exact .close rest
  | cons c cs ih =>
    rw [List.flatMap_cons, List.append_assoc, escape]
    split
    next hmark =>
      rcases hmark with rfl | rfl
      · exact .quote ih
      · exact .backslash ih
    next hmark =>
      rw [not_or] at hmark
      split
      next hcontrol =>
        exact .code (.lower (by omega)) (.lower (by omega)) (.lower (by omega))
          (.lower (by omega)) ih
      next hplain => exact .plain (by omega) (by omega) hmark.1 hmark.2 ih

lemma textAt_textValue (t : String) (rest : List Char) : TextAt t (textValue t ++ rest) rest := by
  refine .quoted ?_
  simpa using quoted_escape t.toList rest

section

variable {V : List Char → List Char → Prop} {value : List Char}

lemma lineAt_plain (hV : ∀ rest, V (value ++ rest) rest) (name : String) (rest : List Char) :
    LineAt V [name] (lineText [name] value ++ rest) rest := by
  have h : LineAt V [name] _ rest := .plain (.space (.none _)) (.space (.none _)) (hV rest)
  simpa [lineText] using h

lemma lineAt_dotted (hV : ∀ rest, V (value ++ rest) rest) (parent name : String)
    (rest : List Char) : LineAt V [parent, name] (lineText [parent, name] value ++ rest) rest := by
  have h : LineAt V [parent, name] _ rest :=
    .dotted (.space (.none _)) (.space (.none _)) (hV rest)
  simpa [lineText] using h

end

lemma LogEntry.valueAt_value (e : LogEntry) (rest : List Char) :
    e.ValueAt (e.value ++ rest) rest := by
  cases e with
  | level s => exact textAt_textValue s rest
  | format f => exact textAt_textValue f.name rest

lemma itemsAt_itemsText (es : List LogEntry) (rest : List Char) :
    ItemsAt (fun e : LogEntry => LineAt e.ValueAt [e.name]) es (itemsText es ++ rest) rest := by
  have hline (e : LogEntry) (rest : List Char) :
      LineAt e.ValueAt [e.name] (lineText [e.name] e.value ++ rest) rest :=
    lineAt_plain e.valueAt_value e.name rest
  fun_induction itemsText es with
  | case1 => exact .close rest
  | case2 e =>
    rw [List.append_assoc]
    exact .last (hline e _) (.space (.none _))
  | case3 e es _ ih =>
    rw [List.append_assoc]
    exact .more (hline e _) (.none _) (.space (.none _)) ih

lemma Clause.at_text (cl : Clause) (rest : List Char) : cl.At (cl.text ++ rest) rest := by
  cases cl with
  | interface name => exact .line (lineAt_plain (textAt_textValue name) _ rest)
  | timeout n => exact .line (lineAt_plain (fun rest => .digits rest) _ rest)
  | nonblocking b =>
    refine .line (lineAt_plain (fun rest => ?_) _ rest)
    cases b with
    | true => exact .yes rest
    | false => exact .no rest
  | inline es =>
    exact .line (lineAt_plain (fun rest => .braces (.space (.none _)) (itemsAt_itemsText es rest))
      _ rest)
  | dotted e => exact .line (lineAt_dotted e.valueAt_value _ _ rest)
  | header => exact .header (.brackets rest)
  | below e => exact .line (lineAt_plain e.valueAt_value _ rest)

lemma documentAt_text (clauses : List Clause) :
    DocumentAt Clause.At clauses (clauses.flatMap fun cl => cl.text ++ ['\n']) := by
  induction clauses with
  | nil => exact .done (.none [])
  | cons cl clauses ih =>
    rw [List.flatMap_cons, List.append_assoc]
    exact .statement (.none _) (cl.at_text _) (.lineFeed _) ih

lemma Arranges.refl {α : Type} {IsDefault : α → Prop} (entries : List α) :
    Arranges IsDefault entries entries :=
  ⟨.refl _, fun _ he hnot => absurd he hnot⟩

lemma arranged_clauses (c : SetupConfig) (layout : Layout) :
    Arranged c layout (layout.clauses c) := by
  cases layout with
  | headed => exact .headed (.refl _) (.refl _)
  | inline => exact .inline (.refl _) (.refl _)
  | dotted => exact .dotted (.refl _)

/-- Every configuration can be written in every layout. -/
theorem renders_render (c : SetupConfig) (layout : Layout) : Renders c layout (render c layout) :=
  ⟨layout.clauses c, arranged_clauses c layout, by
    rw [render, String.toList_ofList]
    exact documentAt_text _⟩

end PppoeSetup.Config
