import PppoeSetup.Proofs.Config.Clauses

/-!
# The table of a document of clauses

The clauses of a document are followed one by one: the table so far has what the clauses so far
say, and nothing else.
-/

namespace PppoeSetup.Config

open Toml

namespace Clause

/-- The key at the top that the clause is about. -/
def key : Clause → String
  | interface _ => "interface"
  | timeout _ => "connect_timeout_ms"
  | nonblocking _ => "nonblocking_discovery"
  | inline _ | dotted _ | header | below _ => "logging"

/-- What the clause says of the logging table. -/
def logs : Clause → List LogEntry
  | inline entries => entries
  | dotted e | below e => [e]
  | interface _ | timeout _ | nonblocking _ | header => []

/-- How the logging table is made. -/
def kind : Clause → TableKind
  | inline _ => .inlined
  | dotted _ => .dotted
  | interface _ | timeout _ | nonblocking _ | header | below _ => .header

/-- The second clause may stand after the first one. -/
def Before : Clause → Clause → Prop
  | dotted e, dotted e' | below e, below e' => e.name ≠ e'.name
  | header, below _ => True
  | header, _ | below _, _ => False
  | a, b => a.key ≠ b.key

variable {a b cl : Clause} {e : LogEntry}

lemma logs_eq_nil (h : cl.key ≠ "logging") : cl.logs = [] := by
  cases cl with
  | interface | timeout | nonblocking => rfl
  | inline | dotted | header | below => exact absurd rfl h

lemma Before.key_ne (h : Before a b) (hb : b.key ≠ "logging") : a.key ≠ b.key := by
  cases a <;> cases b <;> simp_all [Before, key]

/-- Only entries of the logging table may follow another clause about it. -/
lemma Before.key_ne_logging (h : Before a b) (hb : b.key = "logging") (hdotted : ∀ e, b ≠ .dotted e)
    (hbelow : ∀ e, b ≠ .below e) : a.key ≠ "logging" := by
  cases a <;> cases b <;> simp_all [Before, key]

/-- Below the header there are only entries of the logging table. -/
lemma Before.of_header (h : Before .header b) : ∃ e, b = .below e := by
  cases b with
  | below e => exact ⟨e, rfl⟩
  | interface | timeout | nonblocking | inline | dotted | header => exact h.elim

/-- The logging table is made in one way only. -/
lemma Before.kind_eq (h : Before a b) (ha : a.key = "logging") (hb : b.key = "logging") :
    a.kind = b.kind := by
  cases a <;> cases b <;> simp_all [Before, key, kind]

/-- No entry of the logging table stands twice. -/
lemma Before.name_ne (h : Before a b) (hb : b.logs = [e]) (hkey : b ≠ .inline [e]) :
    ∀ e' ∈ a.logs, e'.name ≠ e.name := by
  cases a <;> cases b <;> simp_all [Before, key, logs]

end Clause

open Clause

/-! ### The table so far -/

/-- The table has what the clauses say and nothing else. -/
structure Written (done : List Clause) (es : Entries) : Prop where
  named : es.NamedIn (done.map key)
  given : ∀ cl ∈ done, cl.key ≠ "logging" → ∃ v, es.get? cl.key = some v ∧ cl.Tells v
  logging : (∃ cl ∈ done, cl.key = "logging") →
    ∃ span kind inner, es.get? "logging" = some (.table span kind inner) ∧
      Tabled (done.flatMap Clause.logs) inner ∧ ∀ cl ∈ done, cl.key = "logging" → cl.kind = kind

section

variable {done : List Clause} {cl : Clause} {e : LogEntry} {es es' inner : Entries} {l : Line}
  {v : Value} {span : Span} {kind : TableKind} {name : String} {logKey : Key}

lemma Written.nil : Written [] [] := ⟨.nil, by simp, by simp⟩

lemma Written.get?_eq_none (h : Written done es) (hnew : ∀ a ∈ done, a.key ≠ name) :
    es.get? name = none :=
  h.named.get?_eq_none (by simpa using hnew)

lemma Written.named_update (h : Written done es)
    (hget : es'.get? = Function.update es.get? cl.key (some v)) :
    es'.NamedIn ((done ++ [cl]).map key) := by
  simpa using h.named.update hget

/-- A clause that is not about the logging table. -/
lemma Written.plain (h : Written done es) (hkey : cl.key ≠ "logging")
    (hnew : ∀ a ∈ done, a.key ≠ cl.key) (hl : l.Says [cl.key] cl.Tells) :
    ∃ es', Edit.line l .header es = some es' ∧ Written (done ++ [cl]) es' := by
  obtain ⟨hparents, hname⟩ := hl.plain
  have hnone : es.get? l.path.key.name = none := by
    rw [hname]
    exact h.get?_eq_none hnew
  obtain ⟨es', hadd, hget⟩ := Edit.add_eq (v := l.value) hnone .header
  rw [hname] at hget
  refine ⟨es', ?_, h.named_update hget, ?_, ?_⟩
  · rw [Edit.line, hparents]
    exact hadd
  · intro a ha hlog
    rcases List.mem_append.mp ha with ha | ha
    · rw [hget, Function.update_of_ne (hnew a ha)]
      exact h.given a ha hlog
    · cases List.mem_singleton.mp ha
      exact ⟨l.value, by rw [hget, Function.update_self], hl.value⟩
  -- the clause adds nothing to the logging table, which is therefore the one of before
  · rintro ⟨a, ha, hlog⟩
    have hold (a : Clause) (ha : a ∈ done ++ [cl]) (hlog : a.key = "logging") : a ∈ done := by
      rcases List.mem_append.mp ha with ha | ha
      · exact ha
      · cases List.mem_singleton.mp ha
        exact absurd hlog hkey
    obtain ⟨span, kind, inner, hinner, htabled, hkind⟩ := h.logging ⟨a, hold a ha hlog, hlog⟩
    refine ⟨span, kind, inner, ?_, ?_, fun a ha hlog => hkind a (hold a ha hlog) hlog⟩
    · rw [hget, Function.update_of_ne (Ne.symm hkey), hinner]
    · simpa [logs_eq_nil hkey] using htabled

/-- A clause about the logging table. -/
lemma Written.table (h : Written done es) (hkey : cl.key = "logging")
    (hbefore : ∀ a ∈ done, Before a cl) (hkind : cl.kind = kind)
    (hget : es'.get? = Function.update es.get? "logging" (some (.table span kind inner)))
    (htabled : Tabled (done.flatMap Clause.logs ++ cl.logs) inner) :
    Written (done ++ [cl]) es' := by
  refine ⟨h.named_update (hkey.symm ▸ hget), ?_, ?_⟩
  · intro a ha hlog
    rcases List.mem_append.mp ha with ha | ha
    · rw [hget, Function.update_of_ne hlog]
      exact h.given a ha hlog
    · cases List.mem_singleton.mp ha
      exact absurd hkey hlog
  · intro _
    refine ⟨span, kind, inner, by rw [hget, Function.update_self], by simpa using htabled, ?_⟩
    intro a ha hlog
    rcases List.mem_append.mp ha with ha | ha
    · rw [(hbefore a ha).kind_eq hlog hkey, hkind]
    · cases List.mem_singleton.mp ha
      exact hkind

/-- Before the first clause about the logging table. -/
lemma flatMap_logs_eq_nil (hnew : ∀ a ∈ done, a.key ≠ "logging") :
    done.flatMap Clause.logs = [] :=
  List.flatMap_eq_nil_iff.mpr fun a ha => logs_eq_nil (hnew a ha)

lemma Written.inline {entries : List LogEntry} (h : Written done es)
    (hbefore : ∀ a ∈ done, Before a (.inline entries))
    (hl : l.Says ["logging"] (Clause.inline entries).Tells) :
    ∃ es', Edit.line l .header es = some es' ∧ Written (done ++ [.inline entries]) es' := by
  have hnew : ∀ a ∈ done, a.key ≠ "logging" := fun a ha =>
    (hbefore a ha).key_ne_logging rfl (by simp) (by simp)
  obtain ⟨hparents, hname⟩ := hl.plain
  obtain ⟨span, inner, hv, htabled⟩ := hl.value
  have hnone : es.get? l.path.key.name = none := by
    rw [hname]
    exact h.get?_eq_none hnew
  obtain ⟨es', hadd, hget⟩ := Edit.add_eq (v := l.value) hnone .header
  rw [hname, hv] at hget
  refine ⟨es', ?_, h.table rfl hbefore rfl hget ?_⟩
  · rw [Edit.line, hparents]
    exact hadd
  · rwa [flatMap_logs_eq_nil hnew]

lemma Written.header (h : Written done es) (hbefore : ∀ a ∈ done, Before a .header)
    (hname : logKey.name = "logging") (span : Span) :
    ∃ es', Edit.header span logKey .header es = some es' ∧ Written (done ++ [.header]) es' := by
  have hnew : ∀ a ∈ done, a.key ≠ "logging" := fun a ha =>
    (hbefore a ha).key_ne_logging rfl (by simp) (by simp)
  have hnone : es.get? logKey.name = none := by
    rw [hname]
    exact h.get?_eq_none hnew
  obtain ⟨es', hadd, hget⟩ := Edit.header_eq hnone span .header
  rw [hname] at hget
  refine ⟨es', hadd, h.table rfl hbefore rfl hget ?_⟩
  rw [flatMap_logs_eq_nil hnew]
  exact .nil

/-- An entry that is not in the table yet. -/
lemma fresh_of_before (hbefore : ∀ a ∈ done, Before a cl) (hlogs : cl.logs = [e])
    (hinline : cl ≠ .inline [e]) : ∀ e' ∈ done.flatMap Clause.logs, e'.name ≠ e.name := by
  intro e' he'
  obtain ⟨a, ha, he'⟩ := List.mem_flatMap.mp he'
  exact (hbefore a ha).name_ne hlogs hinline e' he'

lemma Written.dotted (h : Written done es) (hbefore : ∀ a ∈ done, Before a (.dotted e))
    (hl : l.Says ["logging", e.name] e.Tells) :
    ∃ es', Edit.line l .header es = some es' ∧ Written (done ++ [.dotted e]) es' := by
  obtain ⟨k, hparents, hk, hname⟩ := hl.dotted
  have hline : Edit.line l = Edit.within true (Edit.addDotted l.path.key l.value) [k] := by
    rw [Edit.line, hparents]
  have hadd (inner : Entries) : Edit.addDotted l.path.key l.value .dotted inner =
      Edit.add l.path.key l.value .dotted inner := if_pos rfl
  have hfresh := fresh_of_before hbefore rfl (by simp)
  -- the first dotted key makes the table, and all others reach into it
  by_cases hold : ∃ a ∈ done, a.key = "logging"
  · obtain ⟨span, kind, inner, hinner, htabled, hkind⟩ := h.logging hold
    obtain ⟨a, ha, hlog⟩ := hold
    -- only dotted clauses can stand before a dotted one and be about the table
    obtain rfl : kind = .dotted := by
      rw [← hkind a ha hlog, (hbefore a ha).kind_eq hlog rfl]
      rfl
    obtain ⟨inner', hinner', htabled'⟩ := htabled.add hfresh hname hl.value .dotted
    rw [← hadd] at hinner'
    rw [← hk] at hinner
    obtain ⟨es', hes', hget⟩ := Edit.within_table true hinner rfl hinner' .header
    rw [hk] at hget
    exact ⟨es', by rw [hline, hes'], h.table rfl hbefore rfl hget htabled'⟩
  · have hnew : ∀ a ∈ done, a.key ≠ "logging" := by
      simpa using hold
    have hnone : es.get? k.name = none := by
      rw [hk]
      exact h.get?_eq_none hnew
    obtain ⟨inner, hinner, htabled⟩ := Tabled.nil.add (by simp) hname hl.value .dotted
    rw [← hadd] at hinner
    obtain ⟨es', hes', hget⟩ := Edit.within_new hnone hinner .header
    rw [hk] at hget
    refine ⟨es', by rw [hline, hes'], h.table rfl hbefore rfl hget ?_⟩
    rwa [flatMap_logs_eq_nil hnew]

lemma Written.below (h : Written done es) (hbefore : ∀ a ∈ done, Before a (.below e))
    (hheader : .header ∈ done) (hname : logKey.name = "logging") (hl : l.Says [e.name] e.Tells) :
    ∃ es', Edit.within false (Edit.line l) [logKey] .header es = some es' ∧
      Written (done ++ [.below e]) es' := by
  obtain ⟨span, kind, inner, hinner, htabled, hkind⟩ := h.logging ⟨_, hheader, rfl⟩
  obtain rfl : kind = .header := (hkind _ hheader rfl).symm
  have hfresh := fresh_of_before hbefore rfl (by simp)
  obtain ⟨inner', hinner', htabled'⟩ := htabled.line hfresh hl .header
  rw [← hname] at hinner
  obtain ⟨es', hes', hget⟩ := Edit.within_table false hinner rfl hinner' .header
  rw [hname] at hget
  exact ⟨es', hes', h.table rfl hbefore rfl hget htabled'⟩

end

/-! ### A whole document -/

/-- The clauses can stand in one document, in this order. -/
structure Consistent (clauses : List Clause) : Prop where
  before : clauses.Pairwise Before
  headed : ∀ e, .below e ∈ clauses → .header ∈ clauses
  sound : ∀ cl ∈ clauses, cl.Sound

/-- The document so far. -/
structure Drafted (done : List Clause) (d : Draft) : Prop where
  written : Written done d.root
  opened : .header ∈ done → ∃ logKey, d.openSection = [logKey] ∧ logKey.name = "logging"
  top : .header ∉ done → d.openSection = []

section

variable {done rest : List Clause} {cl : Clause} {d : Draft} {st : Statement} {es : Entries}
  {l : Line}

lemma Drafted.line (h : Drafted done d) (hcl : cl ≠ .header)
    (hadd : (Edit.within false (Edit.line l) d.openSection).atRoot d.root = some es)
    (hes : Written (done ++ [cl]) es) :
    ∃ d', d.add (.line l) = some d' ∧ Drafted (done ++ [cl]) d' := by
  have hmem : .header ∈ done ++ [cl] ↔ .header ∈ done := by
    simp [hcl.symm]
  refine ⟨{ d with root := es }, by simp [Draft.add, hadd], hes, ?_, ?_⟩
  · rw [hmem]
    exact h.opened
  · rw [hmem]
    exact h.top

/-- A line that does not stand below the header. -/
lemma Drafted.topLine (h : Drafted done d) (hcl : cl ≠ .header) (hbelow : ∀ e, cl ≠ .below e)
    (hbefore : ∀ a ∈ done, Before a cl)
    (hadd : ∃ es, Edit.line l .header d.root = some es ∧ Written (done ++ [cl]) es) :
    ∃ d', d.add (.line l) = some d' ∧ Drafted (done ++ [cl]) d' := by
  obtain ⟨es, hes, hwritten⟩ := hadd
  -- nothing but entries of the section can come after the header
  have hheader : .header ∉ done := by
    intro hmem
    obtain ⟨e, he⟩ := (hbefore _ hmem).of_header
    exact hbelow e he
  refine h.line hcl ?_ hwritten
  rw [h.top hheader]
  exact hes

/-- One more clause. -/
lemma Drafted.step (h : Drafted done d) (hbefore : ∀ a ∈ done, Before a cl)
    (hheaded : ∀ e, cl = .below e → .header ∈ done) (hst : cl.Means st) :
    ∃ d', d.add st = some d' ∧ Drafted (done ++ [cl]) d' := by
  cases hst with
  | @line _ l hl =>
    cases cl with
    | interface | timeout | nonblocking =>
      refine h.topLine (by simp) (by simp) hbefore (h.written.plain (by simp [key]) ?_ hl)
      exact fun a ha => (hbefore a ha).key_ne (by simp [key])
    | inline entries => exact h.topLine (by simp) (by simp) hbefore (h.written.inline hbefore hl)
    | dotted e => exact h.topLine (by simp) (by simp) hbefore (h.written.dotted hbefore hl)
    | header => exact hl.value.elim
    -- an entry of the section goes where the header has left off
    | below e =>
      have hheader := hheaded e rfl
      obtain ⟨logKey, hopen, hname⟩ := h.opened hheader
      obtain ⟨es, hes, hwritten⟩ := h.written.below hbefore hheader hname hl
      refine h.line (by simp) ?_ hwritten
      rw [hopen]
      exact hes
  | @header span logKey hname =>
    obtain ⟨es, hes, hwritten⟩ := h.written.header hbefore hname span
    refine ⟨⟨es, [logKey]⟩, ?_, hwritten, fun _ => ⟨logKey, rfl, hname⟩, ?_⟩
    · simp [Draft.add, Edit.within, Edit.atRoot, hes]
    · intro hnot
      exact absurd (by simp) hnot

lemma Drafted.run {sts : List Statement} (h : Drafted done d) (hrest : Consistent (done ++ rest))
    (hsts : List.Forall₂ Clause.Means rest sts) :
    ∃ d', sts.foldlM Draft.add d = some d' ∧ Drafted (done ++ rest) d' := by
  -- on the statements; the clauses that are done move from the rest to the front
  induction hsts generalizing done d with
  | nil => exact ⟨d, rfl, by simpa using h⟩
  | @cons cl st rest sts hst _ ih =>
    obtain ⟨-, hlater, hbefore⟩ := List.pairwise_append.mp hrest.before
    -- the header is not behind an entry below it
    have hheaded (e : LogEntry) (he : cl = .below e) : .header ∈ done := by
      have hmem := hrest.headed e (by simp [he])
      rcases List.mem_append.mp hmem with hmem | hmem
      · exact hmem
      · subst he
        rcases List.mem_cons.mp hmem with heq | hmem
        · cases heq
        · exact ((List.pairwise_cons.mp hlater).1 _ hmem).elim
    obtain ⟨d₁, hd₁, h₁⟩ := h.step (fun a ha => hbefore a ha cl List.mem_cons_self) hheaded hst
    have hassoc : done ++ cl :: rest = done ++ [cl] ++ rest := by simp
    obtain ⟨d', hd', h'⟩ := ih h₁ (hassoc ▸ hrest)
    refine ⟨d', ?_, hassoc ▸ h'⟩
    rw [List.foldlM_cons, hd₁]
    exact hd'

end

/-- A document of clauses has the table that they tell. -/
theorem written_of_documentAt {clauses : List Clause} {s : List Char} (h : Consistent clauses)
    (hs : DocumentAt Clause.At clauses s) : ∃ es, document s = some es ∧ Written clauses es := by
  obtain ⟨sts, hsts, hmeans⟩ := hs.statements_eq fun cl hcl => Clause.reads (h.sound cl hcl)
  have hempty : Drafted [] .empty := ⟨.nil, by simp, fun _ => rfl⟩
  obtain ⟨d, hd, hdrafted⟩ := hempty.run h hmeans
  refine ⟨d.root, ?_, hdrafted.written⟩
  simp [document, hsts, Entries.ofStatements, hd]

end PppoeSetup.Config
