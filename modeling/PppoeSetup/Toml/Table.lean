import PppoeSetup.Toml.Value

/-!
# Building tables

A document is a sequence of statements: headers, which open a section, and lines, which add one
value to the open section. A name is given a value only once, and a table that is complete is
not added to.
-/

namespace PppoeSetup.Toml

/-- The parts of a dotted key. -/
structure KeyPath where
  parents : List Key
  key : Key

def KeyPath.ofKeys (first : Key) : List Key → KeyPath
  | [] => ⟨[], first⟩
  | next :: more =>
    let path := ofKeys next more
    { path with parents := first :: path.parents }

/-- A key with its value. -/
structure Line where
  path : KeyPath
  value : Value

inductive Statement
  /-- A header in single brackets; the span is that of the whole header. -/
  | header (span : Span) (path : KeyPath)
  /-- A header in double brackets, for one more element of an array. -/
  | element (span : Span) (path : KeyPath)
  | line (line : Line)

/-- An edit of a table, which may depend on how the table was made. -/
abbrev Edit := TableKind → Entries → Option Entries

namespace Edit

/-- Edits the table at the end of a path. Tables that are missing are made on the way; of an
array of tables the last one is taken. A dotted key does not reach into a table that has a
header, and the tables on its way cannot have one from then on. Nothing reaches into an inline
table. -/
def within (dotted : Bool) (edit : Edit) : List Key → Edit
  | [] => edit
  | k :: path => fun _ es =>
    match es.find? k.name with
    | none => do
      let kind : TableKind := if dotted then .dotted else .implied
      let inner ← within dotted edit path kind []
      return es.insert (k, .table k.span kind inner)
    | some (key, .table span kind inner) =>
      if kind = .inlined ∨ (dotted ∧ kind = .header) then none
      else do
        let kind := if dotted then .dotted else kind
        let inner ← within dotted edit path kind inner
        return es.replace k.name (key, .table span kind inner)
    | some (key, .array span .headers items) =>
      match items.getLast? with
      | some (.table last kind inner) => do
        let inner ← within dotted edit path kind inner
        let items := items.dropLast ++ [.table last kind inner]
        return es.replace k.name (key, .array span .headers items)
      | _ => none
    | some _ => none

/-- Adds a value under a new name. -/
def add (key : Key) (value : Value) : Edit := fun _ es =>
  match es.find? key.name with
  | none => some (es.insert (key, value))
  | some _ => none

/-- Adds a value by a dotted key. The last element of an array of tables has a header, so that
it takes none. -/
def addDotted (key : Key) (value : Value) : Edit := fun kind es =>
  if kind = .dotted then add key value kind es else none

/-- Adds the value of a line. -/
def line (l : Line) : Edit :=
  match l.path.parents with
  | [] => add l.path.key l.value
  | parents => within true (addDotted l.path.key l.value) parents

/-- Opens the section of a header: a new table, or one that headers below it have implied. -/
def header (span : Span) (key : Key) : Edit := fun _ es =>
  match es.find? key.name with
  | none => some (es.insert (key, .table span .header []))
  | some (_, .table _ .implied inner) =>
    some (es.replace key.name (key, .table span .header inner))
  | some _ => none

/-- Opens the section of one more element of an array of tables. -/
def element (span : Span) (key : Key) : Edit := fun _ es =>
  match es.find? key.name with
  | none => some (es.insert (key, .array span .headers [.table span .header []]))
  | some (first, .array whole .headers items) =>
    let items := items ++ [.table span .header []]
    some (es.replace key.name (first, .array whole .headers items))
  | some _ => none

/-- Applies an edit to the whole table of a document. -/
def atRoot (edit : Edit) (es : Entries) : Option Entries := edit .header es

end Edit

/-- A document so far: its table, and the path of the section that is open. -/
structure Draft where
  root : Entries
  openSection : List Key

namespace Draft

def empty : Draft := ⟨[], []⟩

def add (d : Draft) : Statement → Option Draft
  | .header span path => do
    let root ← (Edit.within false (Edit.header span path.key) path.parents).atRoot d.root
    return ⟨root, path.parents ++ [path.key]⟩
  | .element span path => do
    let root ← (Edit.within false (Edit.element span path.key) path.parents).atRoot d.root
    return ⟨root, path.parents ++ [path.key]⟩
  | .line l => do
    let root ← (Edit.within false (Edit.line l) d.openSection).atRoot d.root
    return { d with root }

end Draft

/-- The table that a document denotes, if its statements agree with each other. -/
def Entries.ofStatements (statements : List Statement) : Option Entries :=
  (statements.foldlM Draft.add .empty).map (·.root)

/-- The table of the lines between two braces. -/
def Entries.ofLines (lines : List Line) : Option Entries :=
  lines.foldlM (fun es l => (Edit.line l).atRoot es) []

end PppoeSetup.Toml
