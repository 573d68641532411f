import PppoeSetup.Proofs.Config.Rendering
import PppoeSetup.Proofs.Toml.Edits

/-!
# Reading clauses

A clause of a configuration is read as what it says, an inline table as the table of its entries.
-/

namespace PppoeSetup.Config

open Toml

/-! ### The logging table -/

/-- The value is what the entry says. -/
def LogEntry.Tells : LogEntry → Value → Prop
  | level s, v => v.IsText s
  | format f, v => v.IsText f.name

lemma isBare_logging : IsBare "logging" := by decide +kernel

lemma LogEntry.isBare_name (e : LogEntry) : IsBare e.name := by
  cases e with
  | level => exact show IsBare "level" by decide +kernel
  | format => exact show IsBare "format" by decide +kernel

lemma reads_text (t : String) (depth : Nat) :
    Reads (Toml.value depth) (TextAt t) (fun v => v.IsText t) :=
  (TextAt.reads t depth).imp <| by
    rintro _ ⟨span, rfl⟩
    exact .text t

lemma LogEntry.reads (e : LogEntry) (depth : Nat) : Reads (Toml.value depth) e.ValueAt e.Tells := by
  cases e with
  | level s => exact reads_text s depth
  | format f => exact reads_text f.name depth

/-- The table has these entries and no others. -/
structure Tabled (entries : List LogEntry) (es : Entries) : Prop where
  named : es.NamedIn (entries.map LogEntry.name)
  given : ∀ e ∈ entries, ∃ v, es.get? e.name = some v ∧ e.Tells v

section

variable {entries : List LogEntry} {e : LogEntry} {es : Entries} {v : Value} {l : Line}

lemma Tabled.nil : Tabled [] [] := ⟨.nil, by simp⟩

lemma Tabled.add (h : Tabled entries es) (hnew : ∀ a ∈ entries, a.name ≠ e.name) {key : Key}
    (hkey : key.name = e.name) (hv : e.Tells v) (kind : TableKind) :
    ∃ es', Edit.add key v kind es = some es' ∧ Tabled (entries ++ [e]) es' := by
  have hnone : es.get? key.name = none := by
    rw [hkey]
    exact h.named.get?_eq_none (by simpa using hnew)
  obtain ⟨es', hadd, hget⟩ := Edit.add_eq (v := v) hnone kind
  rw [hkey] at hget
  refine ⟨es', hadd, by simpa using h.named.update hget, ?_⟩
  intro a ha
  rcases List.mem_append.mp ha with ha | ha
  · obtain ⟨w, hw, htells⟩ := h.given a ha
    refine ⟨w, ?_, htells⟩
    rw [hget, Function.update_of_ne (hnew a ha), hw]
  · cases List.mem_singleton.mp ha
    exact ⟨v, by rw [hget, Function.update_self], hv⟩

lemma Tabled.line (h : Tabled entries es) (hnew : ∀ a ∈ entries, a.name ≠ e.name)
    (hl : l.Says [e.name] e.Tells) (kind : TableKind) :
    ∃ es', Edit.line l kind es = some es' ∧ Tabled (entries ++ [e]) es' := by
  obtain ⟨hparents, hkey⟩ := hl.plain
  rw [Edit.line, hparents]
  exact h.add hnew hkey hl.value kind

/-- The lines of an inline table. -/
lemma tabled_ofLines (hnames : entries.Pairwise (·.name ≠ ·.name)) {ls : List Line}
    (h : List.Forall₂ (fun e => Line.Says [e.name] e.Tells) entries ls) :
    ∃ es, Entries.ofLines ls = some es ∧ Tabled entries es := by
  -- the table is filled from the front, so that the entries already in it are generalized
  suffices hrun : ∀ (done : List LogEntry) (es : Entries), Tabled done es →
      (∀ a ∈ done, ∀ e ∈ entries, a.name ≠ e.name) →
      ∃ es', ls.foldlM (fun es l => (Edit.line l).atRoot es) es = some es' ∧
        Tabled (done ++ entries) es' by
    exact hrun [] [] .nil (by simp)
  induction h with
  | nil =>
    intro done es hes _
    exact ⟨es, rfl, by simpa using hes⟩
  | @cons e l entries ls hl _ ih =>
    intro done es hes hnew
    obtain ⟨hhead, htail⟩ := List.pairwise_cons.mp hnames
    obtain ⟨es₁, hline, hes₁⟩ := hes.line (fun a ha => hnew a ha e List.mem_cons_self) hl .header
    obtain ⟨es', hfold, hes'⟩ := ih htail (done ++ [e]) es₁ hes₁ (by
      intro a ha e' he'
      rcases List.mem_append.mp ha with ha | ha
      · exact hnew a ha e' (List.mem_cons_of_mem _ he')
      · cases List.mem_singleton.mp ha
        exact hhead e' he')
    refine ⟨es', ?_, by simpa using hes'⟩
    rw [List.foldlM_cons, Edit.atRoot, hline]
    exact hfold

end

/-! ### Clauses -/

namespace Clause

/-- The value of the line is what the clause says. -/
def Tells : Clause → Value → Prop
  | interface name, v => v.IsText name
  | timeout n, v => v.IsUnsigned n
  | nonblocking b, v => v.IsBoolean b
  | inline entries, v => ∃ span es, v = .table span .inlined es ∧ Tabled entries es
  | dotted e, v | below e, v => e.Tells v
  | header, _ => False

/-- The statement is what the clause says. -/
inductive Means : Clause → Statement → Prop
  | line {cl : Clause} {l : Line} : l.Says cl.names cl.Tells → Means cl (.line l)
  | header {span : Span} {key : Key} :
    key.name = "logging" → Means .header (.header span ⟨[], key⟩)

/-- No name stands twice in an inline table. -/
def Sound : Clause → Prop
  | inline entries => entries.Pairwise (·.name ≠ ·.name)
  | _ => True

lemma isBare_names (cl : Clause) : ∀ name ∈ cl.names, IsBare name := by
  cases cl with
  | interface =>
    exact List.forall_mem_singleton.mpr (show IsBare "interface" by decide +kernel)
  | timeout =>
    exact List.forall_mem_singleton.mpr (show IsBare "connect_timeout_ms" by decide +kernel)
  | nonblocking =>
    exact List.forall_mem_singleton.mpr (show IsBare "nonblocking_discovery" by decide +kernel)
  | inline | header => exact List.forall_mem_singleton.mpr isBare_logging
  | dotted e =>
    refine List.forall_mem_cons.mpr ⟨isBare_logging, ?_⟩
    exact List.forall_mem_singleton.mpr e.isBare_name
  | below e => exact List.forall_mem_singleton.mpr e.isBare_name

lemma reads_value {cl : Clause} (h : cl.Sound) :
    Reads (Toml.value maxDepth) cl.ValueAt cl.Tells := by
  cases cl with
  | interface name => exact reads_text name maxDepth
  | timeout n =>
    refine (NumberAt.reads n.toNat maxDepth).imp ?_
    rintro _ ⟨span, rfl⟩
    exact .unsigned rfl
  | nonblocking b =>
    refine (BooleanAt.reads b maxDepth).imp ?_
    rintro _ ⟨span, rfl⟩
    exact .boolean b
  | inline entries =>
    have hitems := LineAt.readsItems LogEntry.isBare_name fun e => e.reads 79
    exact InlineAt.reads hitems fun ls => tabled_ofLines h
  | dotted e | below e => exact e.reads maxDepth
  | header => exact ⟨False.elim, False.elim, False.elim⟩

lemma reads {cl : Clause} (h : cl.Sound) : ReadsStatement cl.At cl.Means where
  solid := by
    rintro _ _ (hline | hheader)
    · exact (LineAt.readsStatement cl.isBare_names (reads_value h)).solid hline
    · exact (HeaderAt.reads isBare_logging).solid hheader
  length := by
    rintro _ _ (hline | hheader)
    · exact (LineAt.readsStatement cl.isBare_names (reads_value h)).length hline
    · exact (HeaderAt.reads isBare_logging).length hheader
  reads := by
    rintro _ _ _ (hline | hheader) hend
    · obtain ⟨_, hst, l, rfl, hl⟩ :=
        (LineAt.readsStatement cl.isBare_names (reads_value h)).reads hline hend
      exact ⟨_, hst, .line hl⟩
    · obtain ⟨_, hst, span, key, rfl, hkey⟩ :=
        (HeaderAt.reads isBare_logging).reads hheader hend
      exact ⟨_, hst, .header hkey⟩

end Clause

end PppoeSetup.Config
