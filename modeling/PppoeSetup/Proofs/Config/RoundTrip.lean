import PppoeSetup.Proofs.Config.Drafts

/-!
# Reading a rendering back

A document that says what a configuration is, in any layout and any order, is read as that
configuration.
-/

namespace PppoeSetup.Config

open Toml Clause

/-! ### What an arrangement says -/

/-- The clauses say what the configuration is, and all of it but defaults. -/
structure Covers (c : SetupConfig) (clauses : List Clause) : Prop where
  mem : ∀ cl ∈ clauses,
    cl ∈ topEntries c ∨ cl.key = "logging" ∧ ∀ e ∈ cl.logs, e ∈ logEntries c.logging
  top : ∀ cl ∈ topEntries c, cl ∈ clauses ∨ cl.IsDefault
  logs : ∀ e ∈ logEntries c.logging, e ∈ clauses.flatMap Clause.logs ∨ e.IsDefault

section

variable {α : Type} {IsDefault : α → Prop} {written entries : List α} {a : α}

lemma Arranges.mem (h : Arranges IsDefault written entries) (ha : a ∈ written) : a ∈ entries :=
  h.subperm.subset ha

lemma Arranges.mem_or (h : Arranges IsDefault written entries) (ha : a ∈ entries) :
    a ∈ written ∨ IsDefault a := by
  by_cases hw : a ∈ written
  · exact .inl hw
  · exact .inr (h.leftOut a ha hw)

/-- What holds of any two entries, whichever comes first. -/
lemma Arranges.pairwise (h : Arranges IsDefault written entries) {R : α → α → Prop}
    (hentries : entries.Pairwise fun a b => R a b ∧ R b a) : written.Pairwise R := by
  obtain ⟨l, hperm, hsub⟩ := h.subperm
  have hl := hentries.sublist hsub
  exact ((hperm.pairwise_iff And.symm).mp hl).imp And.left

end

section

variable {c : SetupConfig} {layout : Layout} {clauses : List Clause} {a b cl : Clause}
  {es : Entries}

lemma mem_topEntries : cl ∈ topEntries c ↔
    (∃ name, c.interface? = some name ∧ cl = .interface name) ∨
      (∃ n, c.timeoutMillis? = some n ∧ cl = .timeout n) ∨ cl = .nonblocking c.nonblocking := by
  simp [topEntries, eq_comm]

lemma mem_logEntries {l : LogConfig} {e : LogEntry} :
    e ∈ logEntries l ↔ e = .level l.level ∨ e = .format l.format := by
  simp [logEntries]

lemma key_ne_of_mem_topEntries (h : cl ∈ topEntries c) : cl.key ≠ "logging" := by
  rcases mem_topEntries.mp h with ⟨_, -, rfl⟩ | ⟨_, -, rfl⟩ | rfl
  all_goals simp [key]

lemma sound_of_mem_topEntries (h : cl ∈ topEntries c) : cl.Sound := by
  rcases mem_topEntries.mp h with ⟨_, -, rfl⟩ | ⟨_, -, rfl⟩ | rfl
  all_goals trivial

lemma ne_of_mem_topEntries {e : LogEntry} (h : cl ∈ topEntries c) : cl ≠ .below e := by
  rcases mem_topEntries.mp h with ⟨_, -, rfl⟩ | ⟨_, -, rfl⟩ | rfl
  all_goals simp

lemma before_of_mem_topEntries (ha : a ∈ topEntries c) (hb : b.key = "logging") :
    Before a b := by
  rcases mem_topEntries.mp ha with ⟨_, -, rfl⟩ | ⟨_, -, rfl⟩ | rfl
  all_goals cases b <;> simp_all [Before, key]

lemma after_of_mem_topEntries (hb : b ∈ topEntries c) (ha : a.key = "logging")
    (hkind : a.kind ≠ .header) : Before a b := by
  rcases mem_topEntries.mp hb with ⟨_, -, rfl⟩ | ⟨_, -, rfl⟩ | rfl
  all_goals cases a <;> simp_all [Before, key, kind]

lemma pairwise_topEntries (c : SetupConfig) :
    (topEntries c).Pairwise fun a b => Before a b ∧ Before b a := by
  rcases hi : c.interface? with _ | name <;> rcases ht : c.timeoutMillis? with _ | n
  all_goals simp [topEntries, hi, ht, Before, key]

lemma pairwise_logEntries (l : LogConfig) :
    (logEntries l).Pairwise fun a b => a.name ≠ b.name ∧ b.name ≠ a.name := by
  simp [logEntries, LogEntry.name]

/-- The clauses at the top, with those about the logging table that need no header. -/
lemma Arranges.consistent {more : List Clause}
    (h : Arranges Clause.IsDefault clauses (topEntries c ++ more))
    (hmore : ∀ b ∈ more, b.key = "logging" ∧ b.kind ≠ .header ∧ b.Sound)
    (hpair : more.Pairwise fun a b => Before a b ∧ Before b a) : Consistent clauses where
  before := by
    refine h.pairwise (List.pairwise_append.mpr ⟨pairwise_topEntries c, hpair, ?_⟩)
    intro a ha b hb
    obtain ⟨hkey, hkind, -⟩ := hmore b hb
    exact ⟨before_of_mem_topEntries ha hkey, after_of_mem_topEntries ha hkey hkind⟩
  headed := by
    intro e he
    rcases List.mem_append.mp (h.mem he) with he | he
    · exact absurd rfl (ne_of_mem_topEntries he)
    · exact absurd rfl (hmore _ he).2.1
  sound := by
    intro cl hcl
    rcases List.mem_append.mp (h.mem hcl) with hcl | hcl
    · exact sound_of_mem_topEntries hcl
    · exact (hmore cl hcl).2.2

lemma Arranges.covers {more : List Clause}
    (h : Arranges Clause.IsDefault clauses (topEntries c ++ more))
    (hmore : ∀ b ∈ more, b.key = "logging" ∧ ∀ e ∈ b.logs, e ∈ logEntries c.logging)
    (hlogs : ∀ e ∈ logEntries c.logging,
      e.IsDefault ∨ ∃ b ∈ more, e ∈ b.logs ∧ (b.IsDefault → e.IsDefault)) : Covers c clauses where
  mem := by
    intro cl hcl
    exact (List.mem_append.mp (h.mem hcl)).imp_right (hmore cl)
  top := by
    intro cl hcl
    exact h.mem_or (List.mem_append_left _ hcl)
  logs := by
    intro e he
    rcases hlogs e he with hdefault | ⟨b, hb, he, hdefault⟩
    · exact .inr hdefault
    rcases h.mem_or (List.mem_append_right _ hb) with hin | hin
    · exact .inl (List.mem_flatMap.mpr ⟨b, hin, he⟩)
    · exact .inr (hdefault hin)

/-- The clauses at the top where the logging table has a section or is left out. -/
lemma Arranges.append_nil {top : List Clause}
    (h : Arranges Clause.IsDefault top (topEntries c)) :
    Arranges Clause.IsDefault top (topEntries c ++ []) := by
  rwa [List.append_nil]

lemma Arranged.consistent (h : Arranged c layout clauses) : Consistent clauses := by
  cases h with
  | @headed top below htop hbelow =>
    -- the header and the entries below it are the only ones that are about the logging table
    have hlast : ∀ b ∈ .header :: below, b.key = "logging" ∧ b.Sound := by
      refine List.forall_mem_cons.mpr ⟨⟨rfl, trivial⟩, ?_⟩
      intro b hb
      obtain ⟨e, -, rfl⟩ := List.mem_map.mp (hbelow.mem hb)
      exact ⟨rfl, trivial⟩
    have hfirst := htop.append_nil.consistent (by simp) .nil
    refine ⟨List.pairwise_append.mpr ⟨hfirst.before, ?_, ?_⟩, fun _ _ => by simp, ?_⟩
    -- the entries below the header may come in any order, but none twice
    · have hentries : ((logEntries c.logging).map Clause.below).Pairwise
          fun a b => Before a b ∧ Before b a :=
        List.pairwise_map.mpr (pairwise_logEntries c.logging)
      refine List.pairwise_cons.mpr ⟨?_, hbelow.pairwise hentries⟩
      intro b hb
      obtain ⟨e, -, rfl⟩ := List.mem_map.mp (hbelow.mem hb)
      trivial
    · intro a ha b hb
      exact before_of_mem_topEntries (htop.mem ha) (hlast b hb).1
    · intro cl hcl
      rcases List.mem_append.mp hcl with hcl | hcl
      · exact hfirst.sound cl hcl
      · exact (hlast cl hcl).2
  | silent htop => exact htop.append_nil.consistent (by simp) .nil
  | inline hes htop =>
    refine htop.consistent (List.forall_mem_singleton.mpr ⟨rfl, by simp [kind], ?_⟩)
      (List.pairwise_singleton ..)
    exact hes.pairwise (pairwise_logEntries c.logging)
  | dotted htop =>
    refine htop.consistent ?_ (List.pairwise_map.mpr (pairwise_logEntries c.logging))
    intro b hb
    obtain ⟨e, -, rfl⟩ := List.mem_map.mp hb
    exact ⟨rfl, by simp [kind], trivial⟩

lemma Arranged.covers (h : Arranged c layout clauses) : Covers c clauses := by
  cases h with
  | @headed top below htop hbelow =>
    refine ⟨?_, fun cl hcl => (htop.mem_or hcl).imp_left (List.mem_append_left _), ?_⟩
    · intro cl hcl
      rcases List.mem_append.mp hcl with hcl | hcl
      · exact .inl (htop.mem hcl)
      rcases List.mem_cons.mp hcl with rfl | hcl
      · exact .inr ⟨rfl, by simp [Clause.logs]⟩
      · obtain ⟨e, he, rfl⟩ := List.mem_map.mp (hbelow.mem hcl)
        exact .inr ⟨rfl, by simpa [Clause.logs] using he⟩
    · intro e he
      refine (hbelow.mem_or (List.mem_map_of_mem he)).imp_left ?_
      intro hmem
      exact List.mem_flatMap.mpr ⟨.below e, by simp [hmem], by simp [Clause.logs]⟩
  | silent htop hlogging =>
    -- nothing is said about logging, so that it has to be the default
    refine htop.append_nil.covers (by simp) fun e he => .inl ?_
    rw [hlogging] at he
    rcases mem_logEntries.mp he with rfl | rfl <;> rfl
  | @inline top entries hes htop =>
    refine htop.covers (List.forall_mem_singleton.mpr ⟨rfl, fun e he => hes.mem he⟩) ?_
    intro e he
    rcases hes.mem_or he with hin | hin
    · exact .inr ⟨.inline entries, List.mem_singleton_self _, hin, fun hall => hall e hin⟩
    · exact .inl hin
  | dotted htop =>
    refine htop.covers ?_ ?_
    · intro b hb
      obtain ⟨e, he, rfl⟩ := List.mem_map.mp hb
      exact ⟨rfl, by simpa [Clause.logs] using he⟩
    · intro e he
      exact .inr ⟨.dotted e, List.mem_map_of_mem he, List.mem_singleton_self e, id⟩

/-- A setting is read where its entry is, or else the entry has the default. -/
lemma setting_of {α : Type} {reads : Value → α → Prop} {default x : α} {P : Value → Prop}
    {D : Prop} {name : String}
    (h : (∃ v, es.get? name = some v ∧ P v) ∨ es.get? name = none ∧ D)
    (hreads : ∀ v, P v → reads v x) (hdefault : D → x = default) :
    Setting reads default (es.get? name) x := by
  rcases h with ⟨v, hv, hP⟩ | ⟨hv, hD⟩
  · rw [hv]
    exact hreads v hP
  · rw [hv]
    exact hdefault hD

lemma Tabled.configures {entries : List LogEntry} {l : LogConfig} (h : Tabled entries es)
    (hmem : ∀ e ∈ entries, e ∈ logEntries l)
    (hdefault : ∀ e ∈ logEntries l, e ∈ entries ∨ e.IsDefault) : Logs {} es l := by
  have hsame : ∀ e ∈ logEntries l, ∀ a ∈ entries, a.name = e.name → a = e := by
    intro e he a ha hname
    rcases mem_logEntries.mp (hmem a ha) with rfl | rfl <;>
      rcases mem_logEntries.mp he with rfl | rfl <;> simp_all [LogEntry.name]
  have hentry (e : LogEntry) (he : e ∈ logEntries l) :=
    h.named.given_or (h.given e) (hsame e he) (hdefault e he)
  refine ⟨?_, ?_, ?_⟩
  · exact setting_of (hentry (.level l.level) (by simp [logEntries])) (fun _ hv => hv) id
  · refine setting_of (hentry (.format l.format) (by simp [logEntries])) ?_ id
    rintro v ⟨-⟩
    exact .name l.format
  · intro e he hlevel hformat
    obtain ⟨v, hv⟩ := Entries.exists_get?_of_mem he
    obtain ⟨a, ha, hname⟩ := List.mem_map.mp (h.named _ _ hv)
    rcases mem_logEntries.mp (hmem a ha) with rfl | rfl
    · exact absurd hname.symm hlevel
    · exact absurd hname.symm hformat

/-- A clause is in the table, or it has its default and the table is silent. -/
lemma Written.given_or (h : Written clauses es) (hc : Covers c clauses) (hcl : cl ∈ topEntries c) :
    (∃ v, es.get? cl.key = some v ∧ cl.Tells v) ∨ es.get? cl.key = none ∧ cl.IsDefault := by
  have hkey := key_ne_of_mem_topEntries hcl
  refine h.named.given_or (fun hin => h.given cl hin hkey) ?_ (hc.top cl hcl)
  intro a ha hname
  rcases hc.mem a ha with htop | ⟨hlog, -⟩
  · rcases mem_topEntries.mp htop with ⟨_, hi, rfl⟩ | ⟨_, ht, rfl⟩ | rfl <;>
      rcases mem_topEntries.mp hcl with ⟨_, hi', rfl⟩ | ⟨_, ht', rfl⟩ | rfl <;>
        simp_all [key]
  · exact absurd (hname.symm.trans hlog) hkey

/-- Only what is said of a name is in the table. -/
lemma Written.get?_eq_none_of_top (h : Written clauses es) (hc : Covers c clauses) {name : String}
    (hname : name ≠ "logging") (hnone : ∀ cl ∈ topEntries c, cl.key ≠ name) :
    es.get? name = none := by
  refine h.get?_eq_none ?_
  intro a ha
  rcases hc.mem a ha with htop | ⟨hlog, -⟩
  · exact hnone a htop
  · rw [hlog]
    exact hname.symm

lemma Written.isLogConfig (h : Written clauses es) (hc : Covers c clauses) :
    Setting IsLogConfig {} (es.get? "logging") c.logging := by
  have hmem : ∀ e ∈ clauses.flatMap Clause.logs, e ∈ logEntries c.logging := by
    intro e he
    obtain ⟨cl, hcl, he⟩ := List.mem_flatMap.mp he
    rcases hc.mem cl hcl with htop | ⟨-, hlogs⟩
    · rw [logs_eq_nil (key_ne_of_mem_topEntries htop)] at he
      cases he
    · exact hlogs e he
  -- with a table its entries decide; without one all entries are defaults
  by_cases hlog : ∃ cl ∈ clauses, cl.key = "logging"
  · obtain ⟨span, kind, inner, hinner, htabled, -⟩ := h.logging hlog
    rw [hinner]
    exact .table (htabled.configures hmem hc.logs)
  · have hnew : ∀ cl ∈ clauses, cl.key ≠ "logging" := by
      simpa using hlog
    have hdefault : ∀ e ∈ logEntries c.logging, e.IsDefault := by
      intro e he
      have hlogs := hc.logs e he
      rw [flatMap_logs_eq_nil hnew] at hlogs
      exact hlogs.resolve_left List.not_mem_nil
    have hlevel := hdefault _ (mem_logEntries.mpr (.inl rfl))
    have hformat := hdefault _ (mem_logEntries.mpr (.inr rfl))
    rw [h.get?_eq_none hnew]
    rcases hl : c.logging with ⟨level, format⟩
    rw [hl] at hlevel hformat
    cases hlevel
    cases hformat
    rfl

lemma Written.configures (h : Written clauses es) (hc : Covers c clauses) :
    Configures {} es c where
  known := by
    -- no clause has a name that is unknown
    intro e he
    obtain ⟨v, hv⟩ := Entries.exists_get?_of_mem he
    obtain ⟨cl, -, hkey⟩ := List.mem_map.mp (h.named _ _ hv)
    rw [← hkey]
    cases cl <;> simp [key]
  interface := by
    cases hi : c.interface? with
    | none =>
      rw [h.get?_eq_none_of_top hc (by decide) ?_]
      · rfl
      · intro cl hcl
        rcases mem_topEntries.mp hcl with ⟨name, hi', rfl⟩ | ⟨n, -, rfl⟩ | rfl
        · simp [hi] at hi'
        all_goals simp [key]
    | some name =>
      have hin : .interface name ∈ topEntries c := mem_topEntries.mpr (.inl ⟨name, hi, rfl⟩)
      exact setting_of (h.given_or hc hin) (fun _ hv => hv) False.elim
  timeout := by
    cases ht : c.timeoutMillis? with
    | none =>
      rw [h.get?_eq_none_of_top hc (by decide) ?_]
      · rfl
      · intro cl hcl
        rcases mem_topEntries.mp hcl with ⟨name, -, rfl⟩ | ⟨n, ht', rfl⟩ | rfl
        · simp [key]
        · simp [ht] at ht'
        · simp [key]
    | some n =>
      have hin : .timeout n ∈ topEntries c := mem_topEntries.mpr (.inr (.inl ⟨n, ht, rfl⟩))
      exact setting_of (h.given_or hc hin) (fun _ hv => hv) False.elim
  nonblocking := by
    have hin : .nonblocking c.nonblocking ∈ topEntries c :=
      mem_topEntries.mpr (.inr (.inr rfl))
    exact setting_of (h.given_or hc hin) (fun _ hv => hv) id
  logging := h.isLogConfig hc

end

/-! ### Renderings -/

/-- A text that says what a configuration is, in whatever layout and order, is read as that
configuration, so that all such texts are read alike. -/
theorem ofText_eq_ok_of_renders {c : SetupConfig} {layout : Layout} {s : String}
    (h : Renders c layout s) :
    ofText s = .ok c ∧ ∀ layout' s', Renders c layout' s' → ofText s' = ofText s := by
  have hread : ∀ layout s, Renders c layout s → ofText s = .ok c := by
    rintro layout s ⟨clauses, harranged, hs⟩
    obtain ⟨es, hes, hwritten⟩ := written_of_documentAt harranged.consistent hs
    have hconfigures := hwritten.configures harranged.covers
    have htable : ofTable es = .ok c :=
      (foldlM_readEntry (proper_of_document hes)).mpr hconfigures
    simp [ofText, hes, htable]
  refine ⟨hread layout s h, ?_⟩
  intro layout' s' h'
  rw [hread layout' s' h', hread layout s h]

/-- A configuration with characters that need escapes, and with the longest limit. -/
def oddConfig : SetupConfig :=
  ⟨some "q\"\\\x07\x7f\n\u00e9", some 18446744073709551615, true, ⟨"\t", .json⟩⟩

def oddInline : String :=
  "interface = \"q\\\"\\\\\\u0007\\u007f\\u000a\u00e9\"\n" ++
    "connect_timeout_ms = 18446744073709551615\nnonblocking_discovery = true\n" ++
    "logging = \x7b level = \"\\u0009\", format = \"json\" \x7d\n"

theorem ofText_eq_ok_of_renders_odd :
    render oddConfig .inline = oddInline ∧ ofText oddInline = .ok oddConfig ∧
      ofText (render oddConfig .headed) = ofText oddInline ∧
      ofText (render oddConfig .dotted) = ofText oddInline := by
  have htext : render oddConfig .inline = oddInline := by
    decide +kernel
  have hrenders : Renders oddConfig .inline oddInline := by
    rw [← htext]
    exact renders_render oddConfig .inline
  have hread := ofText_eq_ok_of_renders hrenders
  exact ⟨htext, hread.1, hread.2 _ _ (renders_render oddConfig .headed),
    hread.2 _ _ (renders_render oddConfig .dotted)⟩

end PppoeSetup.Config
