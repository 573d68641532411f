import Mathlib.Order.Defs.LinearOrder
import Mathlib.Data.String.Basic
import Mathlib.Tactic.Common
import PppoeSetup.Toml.Document

/-!
# The tables of a document

Whatever a document says, and in whatever order, every table that it denotes has its entries in
the order of their names, and no name twice.
-/

namespace PppoeSetup.Toml

/-! ### Ordered tables -/

/-- The names are in order, so that none occurs twice. -/
def Entries.Ordered (es : Entries) : Prop := es.Pairwise (·.1.name < ·.1.name)

/-- All tables in a value are ordered. -/
inductive Value.Ordered : Value → Prop
  | scalar {span : Span} {v : Scalar} : Ordered (.scalar span v)
  | array {span : Span} {kind : ArrayKind} {items : List Value} :
    (∀ v ∈ items, Ordered v) → Ordered (.array span kind items)
  | table {span : Span} {kind : TableKind} {es : Entries} :
    es.Ordered → (∀ e ∈ es, Ordered e.2) → Ordered (.table span kind es)

namespace Entries

variable {es : Entries} {entry e : Key × Value} {name : String}

/-- A table is ordered, and so are all tables in it. -/
structure Proper (es : Entries) : Prop where
  ordered : es.Ordered
  values : ∀ e ∈ es, e.2.Ordered

lemma Proper.nil : Proper [] := ⟨.nil, fun _ h => nomatch h⟩

lemma Proper.table (h : es.Proper) (span : Span) (kind : TableKind) :
    Value.Ordered (.table span kind es) :=
  .table h.ordered h.values

lemma Proper.tail (h : Proper (e :: es)) : es.Proper where
  ordered := (List.pairwise_cons.mp h.ordered).2
  values := (List.forall_mem_cons.mp h.values).2

lemma name_of_find? (h : es.find? name = some e) : e.1.name = name := by
  simpa using List.find?_some h

lemma mem_of_find? (h : es.find? name = some e) : e ∈ es := List.mem_of_find?_eq_some h

lemma find?_eq_none : es.find? name = none ↔ ∀ e ∈ es, e.1.name ≠ name := by
  simp [find?]

lemma Ordered.insert (h : es.Ordered) (hnew : ∀ e ∈ es, e.1.name ≠ entry.1.name) :
    (es.insert entry).Ordered := by
  induction es with
  | nil => exact List.pairwise_singleton ..
  | cons a es ih =>
    obtain ⟨ha, hes⟩ := List.pairwise_cons.mp h
    obtain ⟨hane, hnew⟩ := List.forall_mem_cons.mp hnew
    rw [Entries.insert]
    split
    next hlt =>
      refine List.pairwise_cons.mpr ⟨?_, h⟩
      rintro b hb
      rcases List.mem_cons.mp hb with rfl | hb
      · exact hlt
      · exact lt_trans hlt (ha b hb)
    next hlt =>
      refine List.pairwise_cons.mpr ⟨?_, ih hes hnew⟩
      intro b hb
      rcases mem_insert.mp hb with rfl | hb
      · exact lt_of_le_of_ne (not_lt.mp hlt) hane
      · exact ha b hb

lemma Proper.insert (h : es.Proper) (hnew : es.find? entry.1.name = none)
    (hv : entry.2.Ordered) : (es.insert entry).Proper where
  ordered := h.ordered.insert (find?_eq_none.mp hnew)
  values := by
    intro e he
    rcases mem_insert.mp he with rfl | he
    · exact hv
    · exact h.values e he

/-- An entry that gives way to one of the same name. -/
lemma Proper.replace (h : es.Proper) (hname : entry.1.name = name) (hv : entry.2.Ordered) :
    (es.replace name entry).Proper where
  ordered := by
    have hsame (e : Key × Value) :
        (if e.1.name = name then entry else e).1.name = e.1.name := by
      split
      next he => rw [hname, he]
      · rfl
    refine List.pairwise_map.mpr (h.ordered.imp ?_)
    intro a b hab
    rwa [hsame, hsame]
  values := by
    intro e he
    obtain ⟨old, hold, rfl⟩ := List.mem_map.mp he
    split
    · exact hv
    · exact h.values old hold

end Entries

/-! ### Edits -/

namespace Edit

/-- The edit keeps tables in order. -/
def Keeps (edit : Edit) : Prop :=
  ∀ kind es es', Entries.Proper es → edit kind es = some es' → Entries.Proper es'

variable {key : Key} {value : Value} {span : Span}

lemma keeps_within {dotted : Bool} {edit : Edit} (h : edit.Keeps) (path : List Key) :
    (within dotted edit path).Keeps := by
  -- on the path: what is below its first key has been edited in order, by induction
  induction path with
  | nil => exact h
  | cons k path ih =>
    intro kind es es' hes heq
    rcases hfound : es.find? k.name with _ | ⟨key, v⟩
    -- a table is made where there is none
    · simp only [within, hfound] at heq
      obtain ⟨inner, hinner, heq⟩ := Option.bind_eq_some_iff.mp heq
      cases heq
      exact hes.insert hfound ((ih _ _ _ .nil hinner).table _ _)
    have hkey : key.name = k.name := Entries.name_of_find? hfound
    have hv : v.Ordered := hes.values _ (Entries.mem_of_find? hfound)
    cases hv with
    | scalar =>
      simp only [within, hfound] at heq
      cases heq
    | @table span kind inner ho hvalues =>
      simp only [within, hfound] at heq
      split at heq
      · cases heq
      · obtain ⟨inner', hinner, heq⟩ := Option.bind_eq_some_iff.mp heq
        cases heq
        exact hes.replace hkey ((ih _ _ _ ⟨ho, hvalues⟩ hinner).table _ _)
    | @array span kind items hitems =>
      cases kind with
      | listed =>
        simp only [within, hfound] at heq
        cases heq
      | headers =>
        simp only [within, hfound] at heq
        split at heq
        next last kind inner hlast =>
          obtain ⟨inner', hinner, heq⟩ := Option.bind_eq_some_iff.mp heq
          cases heq
          -- of an array of tables the last one is edited, and the others stay
          have hlast := hitems _ (List.mem_of_getLast? hlast)
          cases hlast with
          | table ho hvalues =>
            refine hes.replace hkey (.array ?_)
            intro v hv
            rcases List.mem_append.mp hv with hv | hv
            · exact hitems v (List.dropLast_subset _ hv)
            · cases List.mem_singleton.mp hv
              exact (ih _ _ _ ⟨ho, hvalues⟩ hinner).table _ _
        · cases heq

lemma keeps_add (hv : value.Ordered) : (add key value).Keeps := by
  intro kind es es' hes heq
  rw [add] at heq
  split at heq
  next hnew =>
    cases heq
    exact hes.insert hnew hv
  · cases heq

lemma keeps_addDotted (hv : value.Ordered) : (addDotted key value).Keeps := by
  intro kind es es' hes heq
  rw [addDotted] at heq
  split at heq
  · exact keeps_add hv _ _ _ hes heq
  · cases heq

lemma keeps_line {l : Line} (hv : l.value.Ordered) : (line l).Keeps := by
  rw [line]
  split
  · exact keeps_add hv
  · exact keeps_within (keeps_addDotted hv) _

lemma keeps_header : (header span key).Keeps := by
  intro kind es es' hes heq
  rw [header] at heq
  split at heq
  next hnew =>
    cases heq
    exact hes.insert hnew (Entries.Proper.nil.table _ _)
  next first whole inner hfound =>
    cases heq
    have hold : Value.Ordered (.table whole .implied inner) :=
      hes.values _ (Entries.mem_of_find? hfound)
    cases hold with
    | table ho hvalues => exact hes.replace rfl (.table ho hvalues)
  · cases heq

lemma keeps_element : (element span key).Keeps := by
  intro kind es es' hes heq
  have hempty : Value.Ordered (.table span .header []) := Entries.Proper.nil.table _ _
  rw [element] at heq
  split at heq
  next hnew =>
    cases heq
    refine hes.insert hnew (.array ?_)
    intro v hv
    cases List.mem_singleton.mp hv
    exact hempty
  -- the array of tables is there already, and gets one more
  next first whole items hfound =>
    cases heq
    have hold : Value.Ordered (.array whole .headers items) :=
      hes.values _ (Entries.mem_of_find? hfound)
    have hname : first.name = key.name := Entries.name_of_find? hfound
    cases hold with
    | array hitems =>
      refine hes.replace hname (.array ?_)
      intro v hv
      rcases List.mem_append.mp hv with hv | hv
      · exact hitems v hv
      · cases List.mem_singleton.mp hv
        exact hempty
  · cases heq

end Edit

/-! ### Statements and lines -/

/-- The values in a statement are ordered. -/
def Statement.Ordered : Statement → Prop
  | header .. | element .. => True
  | line l => l.value.Ordered

/-- What every step keeps holds in the end. -/
lemma foldlM_keeps {α β : Type} {P : β → Prop} {f : β → α → Option β} {l : List α} {b b' : β}
    (hstep : ∀ a ∈ l, ∀ b b', P b → f b a = some b' → P b') (hb : P b)
    (h : l.foldlM f b = some b') : P b' := by
  induction l generalizing b with
  | nil =>
    cases h
    exact hb
  | cons a l ih =>
    obtain ⟨ha, hl⟩ := List.forall_mem_cons.mp hstep
    obtain ⟨b₁, hb₁, h⟩ := Option.bind_eq_some_iff.mp h
    exact ih hl (ha b b₁ hb hb₁) h

lemma Draft.proper_add {d d' : Draft} {st : Statement} (hst : st.Ordered) (hd : d.root.Proper)
    (h : d.add st = some d') : d'.root.Proper := by
  cases st with
  | header span path =>
    obtain ⟨root, hroot, h⟩ := Option.bind_eq_some_iff.mp h
    cases h
    exact Edit.keeps_within Edit.keeps_header _ _ _ _ hd hroot
  | element span path =>
    obtain ⟨root, hroot, h⟩ := Option.bind_eq_some_iff.mp h
    cases h
    exact Edit.keeps_within Edit.keeps_element _ _ _ _ hd hroot
  | line l =>
    obtain ⟨root, hroot, h⟩ := Option.bind_eq_some_iff.mp h
    cases h
    exact Edit.keeps_within (Edit.keeps_line hst) _ _ _ _ hd hroot

lemma Entries.proper_ofStatements {sts : List Statement} {es : Entries}
    (hsts : ∀ st ∈ sts, st.Ordered) (h : ofStatements sts = some es) : es.Proper := by
  obtain ⟨d, hd, rfl⟩ := Option.map_eq_some_iff.mp h
  refine foldlM_keeps (P := fun d => d.root.Proper) ?_ Proper.nil hd
  intro st hst d d' hroot hadd
  exact Draft.proper_add (hsts st hst) hroot hadd

lemma Entries.proper_ofLines {ls : List Line} {es : Entries} (hls : ∀ l ∈ ls, l.value.Ordered)
    (h : ofLines ls = some es) : es.Proper := by
  refine foldlM_keeps ?_ Proper.nil h
  intro l hl es es' hes hline
  exact Edit.keeps_line (hls l hl) _ _ _ hes hline

/-! ### Readers -/

/-- What every item is holds of all items. -/
lemma forall_of_many {α : Type} {item : Reader (Option α)} {P : α → Prop}
    (hitem : ∀ s a rest, item s = some (some a, rest) → P a) {s rest : List Char}
    {items : List α} (h : many item s = some (items, rest)) : ∀ a ∈ items, P a := by
  fun_induction many item s generalizing items rest with
  | case1 => cases h
  | case2 =>
    cases h
    exact fun a ha => nomatch ha
  | case3 s a next hs hlt ih =>
    obtain ⟨⟨more, rest'⟩, hmore, h⟩ := Option.bind_eq_some_iff.mp h
    cases h
    exact List.forall_mem_cons.mpr ⟨hitem _ _ _ hs, ih hmore⟩
  | case4 => cases h

lemma ordered_of_scalar {s rest : List Char} {v : Value} (h : scalar s = some (v, rest)) :
    v.Ordered := by
  unfold scalar at h
  split at h
  · obtain ⟨_, -, h⟩ := Option.bind_eq_some_iff.mp h
    cases h
    exact .scalar
  · obtain ⟨_, -, h⟩ := Option.bind_eq_some_iff.mp h
    cases h
    exact .scalar
  · obtain ⟨_, -, h⟩ := Option.bind_eq_some_iff.mp h
    obtain ⟨_, -, h⟩ := Option.bind_eq_some_iff.mp h
    cases h
    exact .scalar

/-- The reader gives ordered values only. -/
def GivesOrdered (value : Reader Value) : Prop :=
  ∀ s v rest, value s = some (v, rest) → v.Ordered

section

variable {value : Reader Value} (h : GivesOrdered value) {s rest : List Char}

include h

lemma ordered_of_keyValue {skip : List Char → Option (List Char)} {l : Line}
    (hl : keyValue skip value s = some (l, rest)) : l.value.Ordered := by
  obtain ⟨_, -, hl⟩ := Option.bind_eq_some_iff.mp hl
  obtain ⟨_, -, hl⟩ := Option.bind_eq_some_iff.mp hl
  split at hl
  · obtain ⟨_, -, hl⟩ := Option.bind_eq_some_iff.mp hl
    obtain ⟨⟨v, _⟩, hv, hl⟩ := Option.bind_eq_some_iff.mp hl
    cases hl
    exact h _ _ _ hv
  · cases hl

lemma ordered_of_arrayItem {v : Value} (hv : arrayItem value s = some (some v, rest)) :
    v.Ordered := by
  unfold arrayItem at hv
  split at hv
  · cases hv
  · obtain ⟨⟨v', _⟩, hv', hv⟩ := Option.bind_eq_some_iff.mp hv
    obtain ⟨_, -, hv⟩ := Option.bind_eq_some_iff.mp hv
    cases hv
    exact h _ _ _ hv'

lemma ordered_of_tableItem {l : Line} (hl : tableItem value s = some (some l, rest)) :
    l.value.Ordered := by
  unfold tableItem at hl
  split at hl
  · cases hl
  · obtain ⟨⟨l', _⟩, hl', hl⟩ := Option.bind_eq_some_iff.mp hl
    obtain ⟨_, -, hl⟩ := Option.bind_eq_some_iff.mp hl
    cases hl
    exact ordered_of_keyValue h hl'

end

lemma givesOrdered_value (depth : Nat) : GivesOrdered (value depth) := by
  -- on the depth; what stands inside brackets or braces has one less
  induction depth with
  | zero =>
    intro s v rest hv
    exact ordered_of_scalar hv
  | succ depth ih =>
    intro s v rest hv
    unfold value at hv
    split at hv
    · obtain ⟨_, -, hv⟩ := Option.bind_eq_some_iff.mp hv
      obtain ⟨⟨items, _⟩, hitems, hv⟩ := Option.bind_eq_some_iff.mp hv
      cases hv
      exact .array (forall_of_many (fun _ _ _ => ordered_of_arrayItem ih) hitems)
    · obtain ⟨_, -, hv⟩ := Option.bind_eq_some_iff.mp hv
      obtain ⟨⟨lines, _⟩, hlines, hv⟩ := Option.bind_eq_some_iff.mp hv
      obtain ⟨es, hes, hv⟩ := Option.bind_eq_some_iff.mp hv
      cases hv
      have hvalues : ∀ l ∈ lines, l.value.Ordered :=
        forall_of_many (fun _ _ _ => ordered_of_tableItem ih) hlines
      exact (Entries.proper_ofLines hvalues hes).table _ _
    · exact ordered_of_scalar hv

lemma ordered_of_statement {s rest : List Char} {st : Statement}
    (h : statement s = some (st, rest)) : st.Ordered := by
  unfold statement at h
  split at h
  · obtain ⟨_, -, h⟩ := Option.bind_eq_some_iff.mp h
    obtain ⟨_, -, h⟩ := Option.bind_eq_some_iff.mp h
    cases h
    trivial
  · obtain ⟨_, -, h⟩ := Option.bind_eq_some_iff.mp h
    obtain ⟨_, -, h⟩ := Option.bind_eq_some_iff.mp h
    cases h
    trivial
  · obtain ⟨⟨l, _⟩, hl, h⟩ := Option.bind_eq_some_iff.mp h
    obtain ⟨_, -, h⟩ := Option.bind_eq_some_iff.mp h
    cases h
    exact ordered_of_keyValue (givesOrdered_value maxDepth) hl

lemma ordered_of_nextStatement {s rest : List Char} {st : Statement}
    (h : nextStatement s = some (some st, rest)) : st.Ordered := by
  obtain ⟨s', -, h⟩ := Option.bind_eq_some_iff.mp h
  split at h
  · cases h
  · obtain ⟨⟨st', _⟩, hst, h⟩ := Option.bind_eq_some_iff.mp h
    cases h
    exact ordered_of_statement hst

/-- Every table of a document has its entries in the order of their names, and no name twice. -/
theorem proper_of_document {text : List Char} {es : Entries} (h : document text = some es) :
    es.Proper := by
  obtain ⟨sts, hsts, h⟩ := Option.bind_eq_some_iff.mp h
  obtain ⟨⟨items, _⟩, hitems, rfl⟩ := Option.map_eq_some_iff.mp hsts
  have hordered : ∀ st ∈ items, st.Ordered :=
    forall_of_many (fun _ _ _ => ordered_of_nextStatement) hitems
  exact Entries.proper_ofStatements hordered h

end PppoeSetup.Toml
