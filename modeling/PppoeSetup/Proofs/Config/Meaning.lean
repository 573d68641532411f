import Mathlib.Algebra.Ring.Int.Defs
import Mathlib.Tactic.Common
import PppoeSetup.Config.Reading
import PppoeSetup.Proofs.Config.Tables

/-!
# The meaning of a configuration

Which tables are configurations, and which settings they give: every setting is read off its own
key and nothing else, or has its default.
-/

namespace PppoeSetup

namespace Toml

/-! ### Kinds of values -/

/-- The value of a key. -/
def Entries.get? (es : Entries) (name : String) : Option Value := (es.find? name).map (·.2)

/-- The number, if it is one, can be told: an integer of 128 bits or a float. -/
def Scalar.Fits : Scalar → Prop
  | .integer n => ∃ i, n = some i ∧ -2 ^ 127 ≤ i ∧ i < 2 ^ 128
  | .float x => x.isSome
  | .string _ | .boolean _ | .dateTime => True

namespace Value

/-- All numbers in the value can be told. -/
inductive Fits : Value → Prop
  | scalar {span : Span} {v : Scalar} : v.Fits → Fits (.scalar span v)
  | array {span : Span} {kind : ArrayKind} {items : List Value} :
    (∀ v ∈ items, Fits v) → Fits (.array span kind items)
  | table {span : Span} {kind : TableKind} {es : Entries} :
    (∀ e ∈ es, Fits e.2) → Fits (.table span kind es)

inductive IsText : Value → String → Prop
  | text {span : Span} (s : String) : IsText (.scalar span (.string s)) s

/-- An integer from zero on, below 2^64. -/
inductive IsUnsigned : Value → UInt64 → Prop
  | unsigned {span : Span} {i : Int} {n : UInt64} :
    i = n.toNat → IsUnsigned (.scalar span (.integer (some i))) n

inductive IsBoolean : Value → Bool → Prop
  | boolean {span : Span} (b : Bool) : IsBoolean (.scalar span (.boolean b)) b

inductive IsEmpty : Value → Prop
  | array {span : Span} {kind : ArrayKind} : IsEmpty (.array span kind [])
  | table {span : Span} {kind : TableKind} : IsEmpty (.table span kind [])

/-- A format is given by its name, or by a table in which the name has an empty value. -/
inductive IsFormat : Value → LogFormat → Prop
  | name {span : Span} (f : LogFormat) : IsFormat (.scalar span (.string f.name)) f
  | table {span : Span} {kind : TableKind} {key : Key} {v : Value} {f : LogFormat} :
    key.name = f.name → v.IsEmpty → IsFormat (.table span kind [(key, v)]) f

end Value

end Toml

namespace Config

open Toml

variable {α : Type}

/-- What a setting is: what is given for it, as it is read, or else the default. -/
def Setting (reads : Value → α → Prop) (default : α) : Option Value → α → Prop
  | none, a => a = default
  | some v, a => reads v a

/-- What is given is the value of a setting that may be missing. -/
def Optional (reads : Value → α → Prop) (v : Value) : Option α → Prop
  | none => False
  | some a => reads v a

/-- The settings that a logging table gives, where they are not the defaults of `d`. -/
@[mk_iff]
structure Logs (d : LogConfig) (es : Entries) (c : LogConfig) : Prop where
  level : Setting Value.IsText d.level (es.get? "level") c.level
  format : Setting Value.IsFormat d.format (es.get? "format") c.format
  /-- The other values are ignored, as long as their numbers can be told. -/
  others : ∀ e ∈ es, e.1.name ≠ "level" → e.1.name ≠ "format" → e.2.Fits

/-- The logging settings are a table, or an array of the level and the format; a date gives
none. -/
inductive IsLogConfig : Value → LogConfig → Prop
  | table {span : Span} {kind : TableKind} {es : Entries} {c : LogConfig} :
    Logs {} es c → IsLogConfig (.table span kind es) c
  | date {span : Span} : IsLogConfig (.scalar span .dateTime) {}
  | nothing {span : Span} {kind : ArrayKind} : IsLogConfig (.array span kind []) {}
  | level {span : Span} {kind : ArrayKind} {v : Value} {level : String} :
    v.IsText level → IsLogConfig (.array span kind [v]) { level }
  | both {span : Span} {kind : ArrayKind} {v w : Value} {more : List Value} {level : String}
    {format : LogFormat} :
    v.IsText level → w.IsFormat format →
      IsLogConfig (.array span kind (v :: w :: more)) ⟨level, format⟩

/-- The settings that a table gives, where they are not the defaults of `d`. -/
@[mk_iff]
structure Configures (d : SetupConfig) (es : Entries) (c : SetupConfig) : Prop where
  known : ∀ e ∈ es,
    e.1.name ∈ ["interface", "connect_timeout_ms", "nonblocking_discovery", "logging"]
  interface : Setting (Optional Value.IsText) d.interface? (es.get? "interface") c.interface?
  timeout : Setting (Optional Value.IsUnsigned) d.timeoutMillis? (es.get? "connect_timeout_ms")
    c.timeoutMillis?
  nonblocking : Setting Value.IsBoolean d.nonblocking (es.get? "nonblocking_discovery")
    c.nonblocking
  logging : Setting IsLogConfig d.logging (es.get? "logging") c.logging

/-! ### Values -/

@[simp] lemma words_eq (bits : Nat) : words bits = 2 ^ bits := by
  simp [words, Nat.shiftLeft_eq]

lemma bind_eq_ok {β : Type} {x : Reading α} {f : α → Reading β} {b : β} :
    x >>= f = .ok b ↔ ∃ a, x = .ok a ∧ f a = .ok b := by
  constructor
  · intro h
    cases x with
    | error e => cases h
    | ok a => exact ⟨a, rfl, h⟩
  · rintro ⟨a, rfl, h⟩
    exact h

lemma bind_eq_ok_unit {β : Type} {x : Reading Unit} {y : Reading β} {b : β} :
    (x >>= fun _ => y) = .ok b ↔ x = .ok () ∧ y = .ok b := by
  rw [bind_eq_ok]
  exact ⟨fun ⟨_, hx, hy⟩ => ⟨hx, hy⟩, fun ⟨hx, hy⟩ => ⟨(), hx, hy⟩⟩

lemma mismatch_ne_ok {expected : Expected} {v : Value} {a : α} : mismatch expected v ≠ .ok a := by
  intro h
  obtain ⟨_, -, h⟩ := bind_eq_ok.mp h
  cases h

lemma asText_eq_ok {v : Value} {s : String} : asText v = .ok s ↔ v.IsText s := by
  constructor
  · intro h
    unfold asText at h
    split at h
    · cases h
      exact .text s
    · exact absurd h mismatch_ne_ok
  · rintro ⟨⟩
    rfl

lemma asBoolean_eq_ok {v : Value} {b : Bool} : asBoolean v = .ok b ↔ v.IsBoolean b := by
  constructor
  · intro h
    unfold asBoolean at h
    split at h
    · cases h
      exact .boolean b
    · exact absurd h mismatch_ne_ok
  · rintro ⟨⟩
    rfl

lemma asUnsigned_eq_ok {v : Value} {n : UInt64} : asUnsigned v = .ok n ↔ v.IsUnsigned n := by
  constructor
  · intro h
    unfold asUnsigned at h
    split at h
    next span i =>
      -- of the two ranges that are told apart, only that of 64 bits gives a number
      rw [words_eq, words_eq] at h
      split at h
      next hi =>
        cases h
        have hlt : i.toNat < 2 ^ 64 := by
          omega
        refine .unsigned ?_
        rw [UInt64.toNat_ofNat_of_lt' hlt, Int.toNat_of_nonneg hi.1]
      · split at h
        · cases h
        · exact absurd h mismatch_ne_ok
    · exact absurd h mismatch_ne_ok
  · rintro ⟨rfl⟩
    have hlt := n.toNat_lt
    have hrange : (0 : Int) ≤ n.toNat ∧ (n.toNat : Int) < words 64 := by
      rw [words_eq]
      omega
    rw [asUnsigned, if_pos hrange, Int.toNat_natCast, UInt64.ofNat_toNat]

lemma ofName?_eq_some {name : String} {f : LogFormat} :
    LogFormat.ofName? name = some f ↔ name = f.name := by
  constructor
  · intro h
    have hname := List.find?_some h
    simpa using (of_decide_eq_true hname).symm
  · rintro rfl
    exact f.ofName?_name

lemma formatNamed_eq_ok {span : Span} {name : String} {f : LogFormat} :
    formatNamed span name = .ok f ↔ name = f.name := by
  rw [← ofName?_eq_some, formatNamed]
  cases LogFormat.ofName? name <;> simp

lemma checkEmpty_eq_ok {v : Value} : checkEmpty v = .ok () ↔ v.IsEmpty := by
  constructor
  · intro h
    unfold checkEmpty at h
    split at h
    · exact .array
    · exact .table
    all_goals cases h
  · rintro (_ | _) <;> rfl

lemma asFormat_eq_ok {v : Value} {f : LogFormat} : asFormat v = .ok f ↔ v.IsFormat f := by
  constructor
  · intro h
    unfold asFormat at h
    split at h
    · obtain rfl := formatNamed_eq_ok.mp h
      exact .name f
    · obtain ⟨f', hname, h⟩ := bind_eq_ok.mp h
      obtain ⟨_, hempty, h⟩ := bind_eq_ok.mp h
      cases h
      exact .table (formatNamed_eq_ok.mp hname) (checkEmpty_eq_ok.mp hempty)
    all_goals cases h
  · rintro (_ | ⟨hname, hempty⟩)
    · exact formatNamed_eq_ok.mpr rfl
    · exact bind_eq_ok.mpr ⟨f, formatNamed_eq_ok.mpr hname,
        bind_eq_ok_unit.mpr ⟨checkEmpty_eq_ok.mpr hempty, rfl⟩⟩

lemma describeInteger_eq_ok {span : Span} {n : Option Int} :
    (∃ text, describeInteger span n = .ok text) ↔ (Scalar.integer n).Fits := by
  cases n with
  | none => simp [describeInteger, Scalar.Fits]
  | some n =>
    -- the three ranges in question add up to the one from -2 ^ 127 to 2 ^ 128
    simp only [describeInteger, words_eq, Scalar.Fits, Option.some.injEq, exists_eq_left']
    constructor
    · rintro ⟨text, h⟩
      split at h
      · omega
      · split at h
        · omega
        · split at h
          · omega
          · cases h
    · rintro ⟨hlower, hupper⟩
      split
      · exact ⟨_, rfl⟩
      · split
        · exact ⟨_, rfl⟩
        · rw [if_pos (by omega)]
          exact ⟨_, rfl⟩

lemma checkIgnored_scalar_eq_ok {span : Span} {v : Scalar} :
    checkIgnored (.scalar span v) = .ok () ↔ v.Fits := by
  cases v with
  | integer n =>
    rw [← @describeInteger_eq_ok span, checkIgnored, bind_eq_ok]
    exact ⟨fun ⟨text, h, _⟩ => ⟨text, h⟩, fun ⟨text, h⟩ => ⟨text, h, rfl⟩⟩
  | float x => cases x <;> simp [checkIgnored, Scalar.Fits]
  | string | boolean | dateTime => simp [checkIgnored, Scalar.Fits]

mutual

lemma checkIgnored_eq_ok : (v : Value) → (checkIgnored v = .ok () ↔ v.Fits)
  | .scalar span v => by
    rw [checkIgnored_scalar_eq_ok]
    exact ⟨.scalar, fun (.scalar h) => h⟩
  | .array span kind items => by
    rw [checkIgnored, checkIgnoredItems_eq_ok items]
    exact ⟨.array, fun (.array h) => h⟩
  | .table span kind es => by
    rw [checkIgnored, checkIgnoredEntries_eq_ok es]
    exact ⟨.table, fun (.table h) => h⟩

lemma checkIgnoredItems_eq_ok : (vs : List Value) →
    (checkIgnoredItems vs = .ok () ↔ ∀ v ∈ vs, v.Fits)
  | [] => by simp [checkIgnoredItems]
  | v :: vs => by
    rw [checkIgnoredItems, bind_eq_ok_unit, List.forall_mem_cons, checkIgnored_eq_ok v,
      checkIgnoredItems_eq_ok vs]

lemma checkIgnoredEntries_eq_ok : (es : Entries) →
    (checkIgnoredEntries es = .ok () ↔ ∀ e ∈ es, e.2.Fits)
  | [] => by simp [checkIgnoredEntries]
  | (key, v) :: es => by
    rw [checkIgnoredEntries, bind_eq_ok_unit, List.forall_mem_cons, checkIgnored_eq_ok v,
      checkIgnoredEntries_eq_ok es]

end

/-! ### Tables -/

section

variable {e : Key × Value} {es : Entries} {name : String}

lemma get?_cons_self : Entries.get? (e :: es) e.1.name = some e.2 := by
  simp [Entries.get?, Entries.find?]

lemma get?_cons_of_ne (h : e.1.name ≠ name) : Entries.get? (e :: es) name = es.get? name := by
  simp [Entries.get?, Entries.find?, h]

lemma get?_eq_none_of_ordered (h : Entries.Ordered (e :: es)) : es.get? e.1.name = none := by
  rw [Entries.get?, Option.map_eq_none_iff, Entries.find?_eq_none]
  intro a ha
  exact ((List.pairwise_cons.mp h).1 a ha).ne'

@[simp] lemma setting_none {reads : Value → α → Prop} {default a : α} :
    Setting reads default none a ↔ a = default := Iff.rfl

@[simp] lemma setting_some {reads : Value → α → Prop} {default a : α} {v : Value} :
    Setting reads default (some v) a ↔ reads v a := Iff.rfl

end

lemma Optional.exists {reads : Value → α → Prop} {v : Value} {p : Option α → Prop} :
    (∃ x, Optional reads v x ∧ p x) ↔ ∃ a, reads v a ∧ p (some a) := by
  constructor
  · rintro ⟨_ | a, hv, hp⟩
    · cases hv
    · exact ⟨a, hv, hp⟩
  · rintro ⟨a, hv, hp⟩
    exact ⟨some a, hv, hp⟩

/-! #### The logging table -/

section

variable {d d' c : LogConfig} {e : Key × Value} {es : Entries}

lemma readLogEntry_level (h : e.1.name = "level") :
    readLogEntry d e = .ok d' ↔ ∃ s, e.2.IsText s ∧ { d with level := s } = d' := by
  simp only [readLogEntry, h, bind_eq_ok, asText_eq_ok, pure, Except.pure, Except.ok.injEq]

lemma readLogEntry_format (h : e.1.name = "format") :
    readLogEntry d e = .ok d' ↔ ∃ f, e.2.IsFormat f ∧ { d with format := f } = d' := by
  simp only [readLogEntry, h, bind_eq_ok, asFormat_eq_ok, pure, Except.pure, Except.ok.injEq]

lemma readLogEntry_other (hl : e.1.name ≠ "level") (hf : e.1.name ≠ "format") :
    readLogEntry d e = .ok d' ↔ e.2.Fits ∧ d = d' := by
  unfold readLogEntry
  split
  next h => exact absurd h hl
  next h => exact absurd h hf
  · simp only [bind_eq_ok_unit, checkIgnored_eq_ok, pure, Except.pure, Except.ok.injEq]

/-- Reading on after one entry. -/
lemma logs_cons (h : Entries.Ordered (e :: es)) :
    Logs d (e :: es) c ↔ ∃ d', readLogEntry d e = .ok d' ∧ Logs d' es c := by
  have hnone := get?_eq_none_of_ordered h
  have hself : Entries.get? (e :: es) e.1.name = some e.2 := get?_cons_self
  by_cases hl : e.1.name = "level"
  · have hne : e.1.name ≠ "format" := by simp [hl]
    rw [hl] at hnone hself
    simp [logs_iff, readLogEntry_level hl, get?_cons_of_ne hne, hnone, hself, hl]
  by_cases hf : e.1.name = "format"
  · rw [hf] at hnone hself
    simp [logs_iff, readLogEntry_format hf, get?_cons_of_ne hl, hnone, hself, hf, and_left_comm]
  · simp [logs_iff, readLogEntry_other hl hf, get?_cons_of_ne hl, get?_cons_of_ne hf, hl, hf,
      and_left_comm]

lemma foldlM_readLogEntry (h : es.Ordered) :
    es.foldlM readLogEntry d = .ok c ↔ Logs d es c := by
  induction es generalizing d with
  | nil =>
    obtain ⟨level, format⟩ := d
    obtain ⟨level', format'⟩ := c
    simp [logs_iff, Entries.get?, Entries.find?, pure, Except.pure, eq_comm]
  | cons e es ih =>
    rw [List.foldlM_cons, bind_eq_ok, logs_cons h]
    simp only [ih (List.pairwise_cons.mp h).2]

end

lemma asLogConfig_eq_ok {v : Value} {c : LogConfig} (h : v.Ordered) :
    asLogConfig v = .ok c ↔ IsLogConfig v c := by
  constructor
  · intro hc
    -- one goal for each kind of value that settings can be given by, and a last one for the others
    unfold asLogConfig at hc
    split at hc
    · cases h with
      | table ho => exact .table ((foldlM_readLogEntry ho).mp hc)
    · cases hc
      exact .date
    · cases hc
      exact .nothing
    · obtain ⟨level, hlevel, hc⟩ := bind_eq_ok.mp hc
      cases hc
      exact .level (asText_eq_ok.mp hlevel)
    · obtain ⟨level, hlevel, hc⟩ := bind_eq_ok.mp hc
      obtain ⟨format, hformat, hc⟩ := bind_eq_ok.mp hc
      cases hc
      exact .both (asText_eq_ok.mp hlevel) (asFormat_eq_ok.mp hformat)
    · exact absurd hc mismatch_ne_ok
  · intro hc
    cases hc with
    | table hlogs =>
      cases h with
      | table ho => exact (foldlM_readLogEntry ho).mpr hlogs
    | date | nothing => rfl
    | level hlevel => exact bind_eq_ok.mpr ⟨_, asText_eq_ok.mpr hlevel, rfl⟩
    | both hlevel hformat =>
      exact bind_eq_ok.mpr ⟨_, asText_eq_ok.mpr hlevel,
        bind_eq_ok.mpr ⟨_, asFormat_eq_ok.mpr hformat, rfl⟩⟩

/-! #### The whole table -/

section

variable {d d' c : SetupConfig} {e : Key × Value} {es : Entries}

lemma readEntry_interface (h : e.1.name = "interface") :
    readEntry d e = .ok d' ↔
      ∃ i, Optional Value.IsText e.2 i ∧ { d with interface? := i } = d' := by
  simp [readEntry, h, bind_eq_ok, asText_eq_ok, Optional.exists, pure, Except.pure]

lemma readEntry_timeout (h : e.1.name = "connect_timeout_ms") :
    readEntry d e = .ok d' ↔
      ∃ t, Optional Value.IsUnsigned e.2 t ∧ { d with timeoutMillis? := t } = d' := by
  simp [readEntry, h, bind_eq_ok, asUnsigned_eq_ok, Optional.exists, pure, Except.pure]

lemma readEntry_nonblocking (h : e.1.name = "nonblocking_discovery") :
    readEntry d e = .ok d' ↔ ∃ b, e.2.IsBoolean b ∧ { d with nonblocking := b } = d' := by
  simp only [readEntry, h, bind_eq_ok, asBoolean_eq_ok, pure, Except.pure, Except.ok.injEq]

lemma readEntry_logging (h : e.1.name = "logging") (hv : e.2.Ordered) :
    readEntry d e = .ok d' ↔ ∃ l, IsLogConfig e.2 l ∧ { d with logging := l } = d' := by
  simp only [readEntry, h, bind_eq_ok, asLogConfig_eq_ok hv, pure, Except.pure, Except.ok.injEq]

lemma readEntry_unknown
    (h : e.1.name ∉ ["interface", "connect_timeout_ms", "nonblocking_discovery", "logging"]) :
    readEntry d e ≠ .ok d' := by
  unfold readEntry
  split
  all_goals simp_all

lemma configures_cons (h : Entries.Proper (e :: es)) :
    Configures d (e :: es) c ↔ ∃ d', readEntry d e = .ok d' ∧ Configures d' es c := by
  -- in an ordered table the name of the first entry does not come back, so that its setting is told
  -- by this entry alone and all others by the rest
  have hnone := get?_eq_none_of_ordered h.ordered
  have hself : Entries.get? (e :: es) e.1.name = some e.2 := get?_cons_self
  have hother {name : String} (hne : e.1.name ≠ name) :
      Entries.get? (e :: es) name = es.get? name := get?_cons_of_ne hne
  have hv : e.2.Ordered := h.values e List.mem_cons_self
  by_cases hi : e.1.name = "interface"
  · rw [hi] at hnone hself
    simp [configures_iff, readEntry_interface hi, hnone, hself, hi, hother, and_left_comm]
  by_cases ht : e.1.name = "connect_timeout_ms"
  · rw [ht] at hnone hself
    simp [configures_iff, readEntry_timeout ht, hnone, hself, ht, hother, and_left_comm]
  by_cases hb : e.1.name = "nonblocking_discovery"
  · rw [hb] at hnone hself
    simp [configures_iff, readEntry_nonblocking hb, hnone, hself, hb, hother, and_left_comm,
      -Bool.exists_bool]
  by_cases hl : e.1.name = "logging"
  · rw [hl] at hnone hself
    simp [configures_iff, readEntry_logging hl hv, hnone, hself, hl, hother, and_assoc,
      and_left_comm, and_comm]
  -- a key of no setting refuses the whole table
  · have hunknown :
        e.1.name ∉ ["interface", "connect_timeout_ms", "nonblocking_discovery", "logging"] := by
      simp [hi, ht, hb, hl]
    refine iff_of_false (fun hc => hunknown (hc.known e List.mem_cons_self)) ?_
    rintro ⟨d', hd, -⟩
    exact readEntry_unknown hunknown hd

lemma foldlM_readEntry (h : es.Proper) :
    es.foldlM readEntry d = .ok c ↔ Configures d es c := by
  induction es generalizing d with
  | nil =>
    obtain ⟨interface, timeout, nonblocking, logging⟩ := d
    obtain ⟨interface', timeout', nonblocking', logging'⟩ := c
    simp [configures_iff, Entries.get?, Entries.find?, pure, Except.pure, eq_comm]
  | cons e es ih =>
    rw [List.foldlM_cons, bind_eq_ok, configures_cons h]
    simp only [ih h.tail]

end

/-! ### The first flaw -/

lemma map_eq_error {β : Type} {x : Reading α} {f : α → β} {flaw : Flaw} :
    (do return f (← x) : Reading β) = .error flaw ↔ x = .error flaw := by
  constructor
  · intro h
    cases x <;> cases h
    rfl
  · rintro rfl
    rfl

/-- An entry has the same flaw whatever has been read before it. -/
lemma readEntry_eq_error (c d : SetupConfig) (e : Key × Value) (flaw : Flaw)
    (h : readEntry c e = .error flaw) : readEntry d e = .error flaw := by
  unfold readEntry at h ⊢
  split at h
  all_goals first
    | exact map_eq_error.mpr (map_eq_error.mp h)
    | exact h

/-- Reading fails with the flaw of the first entry that has one. -/
lemma foldlM_eq_error {C : Type} {read : C → Key × Value → Reading C}
    (hread : ∀ c d e flaw, read c e = .error flaw → read d e = .error flaw) (d : C)
    {es : Entries} {c : C} {flaw : Flaw} (h : es.foldlM read c = .error flaw) :
    ∃ before e after, es = before ++ e :: after ∧ (∀ a ∈ before, ∃ d', read d a = .ok d') ∧
      read d e = .error flaw := by
  induction es generalizing c with
  | nil => cases h
  | cons e es ih =>
    rw [List.foldlM_cons] at h
    cases hc : read c e with
    -- the first flaw ends the reading
    | error flaw' =>
      rw [hc] at h
      cases h
      exact ⟨[], e, es, rfl, fun _ ha => (nomatch ha), hread _ _ _ _ hc⟩
    | ok c' =>
      rw [hc] at h
      obtain ⟨before, a, after, rfl, hbefore, ha⟩ := ih h
      refine ⟨e :: before, a, after, rfl, List.forall_mem_cons.mpr ⟨?_, hbefore⟩, ha⟩
      cases hd : read d e with
      | ok d' => exact ⟨d', rfl⟩
      | error flaw' =>
        rw [hread _ _ _ _ hd] at hc
        cases hc

/-! ### Configurations -/

/-- A document is the configuration that its table gives, key by key, and there is none if some
key is none of a setting or has a value that its setting cannot have. The keys are in the order
of their names, and the flaw that is reported is that of the first one that has a flaw. -/
theorem ofText_eq_ok_iff_configures {s : String} {es : Entries} (h : document s.toList = some es) :
    es.Ordered ∧ (∀ c, ofText s = .ok c ↔ Configures {} es c) ∧
      ∀ fault, ofText s = .error fault → ∃ before e after flaw,
        es = before ++ e :: after ∧ (∀ a ∈ before, ∃ c, readEntry {} a = .ok c) ∧
          readEntry {} e = .error flaw ∧
          fault = .flaw (.ofSpan s.toList flaw.span) flaw.cause := by
  have hproper := proper_of_document h
  refine ⟨hproper.ordered, ?_, ?_⟩
  · intro c
    rw [← foldlM_readEntry hproper]
    simp only [ofText, h, ofTable]
    cases es.foldlM readEntry {} <;> simp
  · intro fault hfault
    simp only [ofText, h, ofTable] at hfault
    cases hes : es.foldlM readEntry {} with
    | ok c =>
      rw [hes] at hfault
      cases hfault
    | error flaw =>
      rw [hes] at hfault
      cases hfault
      obtain ⟨before, e, after, hsplit, hbefore, he⟩ := foldlM_eq_error readEntry_eq_error {} hes
      exact ⟨before, e, after, flaw, hsplit, hbefore, he, rfl⟩

/-- A document in which the logging settings are a date. -/
def datedText : String := "logging = 1979-05-27"

def datedEntries : Entries :=
  [(⟨"logging", datedText.toList, " = 1979-05-27".toList⟩,
    .scalar ⟨"1979-05-27".toList, []⟩ .dateTime)]

/-- A document in which the logging settings have a key that is not used, with a long number. -/
def unusedText : String := "[logging]\nfoo = -170141183460469231731687303715884105729"

def unusedEntries : Entries :=
  [(⟨"logging", "logging]\nfoo = -170141183460469231731687303715884105729".toList,
      "]\nfoo = -170141183460469231731687303715884105729".toList⟩,
    .table ⟨unusedText.toList, "\nfoo = -170141183460469231731687303715884105729".toList⟩ .header
      [(⟨"foo", "foo = -170141183460469231731687303715884105729".toList,
          " = -170141183460469231731687303715884105729".toList⟩,
        .scalar ⟨"-170141183460469231731687303715884105729".toList, []⟩
          (.integer (some (-170141183460469231731687303715884105729))))])]

lemma document_unused : document unusedText.toList = some unusedEntries := by
  have hstatements : statements unusedText.toList = some
      [.header ⟨unusedText.toList, "\nfoo = -170141183460469231731687303715884105729".toList⟩
        ⟨[], ⟨"logging", "logging]\nfoo = -170141183460469231731687303715884105729".toList,
          "]\nfoo = -170141183460469231731687303715884105729".toList⟩⟩,
      .line ⟨⟨[], ⟨"foo", "foo = -170141183460469231731687303715884105729".toList,
          " = -170141183460469231731687303715884105729".toList⟩⟩,
        .scalar ⟨"-170141183460469231731687303715884105729".toList, []⟩
          (.integer (some (-170141183460469231731687303715884105729)))⟩] := by
    with_unfolding_all rfl
  rw [document, hstatements]
  with_unfolding_all rfl

/-- A date gives no logging settings, and a number that is not used may be too long. -/
theorem ofText_dated_and_unused :
    document datedText.toList = some datedEntries ∧ ofText datedText = .ok {} ∧
      document unusedText.toList = some unusedEntries ∧
      ofText unusedText =
        .error (.flaw ⟨2, 7, "foo = -170141183460469231731687303715884105729".toList, 40⟩
          .integerOverflow) := by
  refine ⟨?_, ?_, document_unused, ?_⟩
  · with_unfolding_all rfl
  · decide +kernel
  · decide +kernel

/-- A document with all settings. -/
def fullText : String :=
  "interface = \"eth0\"\nconnect_timeout_ms = 2500\nnonblocking_discovery = true\n" ++
    "logging = [\"debug\", \x7bjson = \x7b\x7d\x7d]\n"

theorem ofText_eq_ok_iff_configures_full :
    ∃ es, document fullText.toList = some es ∧
      Configures {} es ⟨some "eth0", some 2500, true, ⟨"debug", .json⟩⟩ := by
  have hsome : (document fullText.toList).isSome := by
    decide +kernel
  have hok : ofText fullText = .ok ⟨some "eth0", some 2500, true, ⟨"debug", .json⟩⟩ := by
    decide +kernel
  obtain ⟨es, hes⟩ := Option.isSome_iff_exists.mp hsome
  obtain ⟨-, hconfigures, -⟩ := ofText_eq_ok_iff_configures hes
  exact ⟨es, hes, (hconfigures _).mp hok⟩

end Config

end PppoeSetup
