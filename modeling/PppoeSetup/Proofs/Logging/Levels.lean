import PppoeSetup.Logging.Subscriber
import PppoeSetup.Proofs.Prediction
import Mathlib.Data.List.DropRight
import Mathlib.Data.List.Forall2
import Mathlib.Tactic.IntervalCases

/-!
# Levels

Which texts are levels, without any reference to how they are read; and that the diagnostics
remark on a configured level exactly if it is none, and the subscriber then uses info for it.
-/

namespace PppoeSetup

open Text Logging

/-! ### Numbers and blanks -/

namespace Text

variable {cs : List Char} {c : Char} {d k m n : Nat}

lemma digit?_eq_some_iff : digit? c = some d ↔ d < 10 ∧ c = d.digitChar := by
  constructor
  · intro h
    simp only [digit?, Option.ite_none_right_eq_some, Option.some.injEq] at h
    obtain ⟨⟨hlow, hhigh⟩, rfl⟩ := h
    have hlow : 48 ≤ c.toNat := hlow
    have hhigh : c.toNat ≤ 57 := hhigh
    refine ⟨by omega, ?_⟩
    rw [← Char.ofNat_toNat c]
    generalize c.toNat = n at hlow hhigh
    interval_cases n <;> rfl
  · rintro ⟨hd, rfl⟩
    interval_cases d <;> rfl

lemma le_of_decimalFrom (h : decimalFrom m cs = some n) : m * 10 ^ cs.length ≤ n := by
  induction cs generalizing m with
  | nil =>
    cases h
    simp
  | cons c cs ih =>
    simp only [decimalFrom] at h
    split at h
    next d _ =>
      have hle : m * 10 * 10 ^ cs.length ≤ (10 * m + d) * 10 ^ cs.length :=
        Nat.mul_le_mul_right _ (by omega)
      rw [List.length_cons, Nat.pow_succ', ← Nat.mul_assoc]
      exact hle.trans (ih h)
    · cases h

/-- A number of one digit is written with zeros before that digit. -/
lemma exists_zeros_of_decimalFrom (h : decimalFrom 0 cs = some n) (hcs : cs ≠ []) (hn : n < 10) :
    ∃ k, cs = List.replicate k '0' ++ [n.digitChar] := by
  induction cs with
  | nil => exact absurd rfl hcs
  | cons c cs ih =>
    simp only [decimalFrom] at h
    split at h
    next d hd =>
      obtain ⟨hlt, rfl⟩ := digit?_eq_some_iff.mp hd
      cases cs with
      | nil =>
        cases h
        exact ⟨0, by simp⟩
      | cons c' cs =>
        cases d with
        | zero =>
          obtain ⟨k, hk⟩ := ih h (List.cons_ne_nil c' cs)
          exact ⟨k + 1, by rw [hk]; rfl⟩
        | succ d =>
          -- a digit after another one than zero makes the number too large
          have hle := le_of_decimalFrom h
          have hten : 10 ≤ 10 ^ (c' :: cs).length := by
            rw [List.length_cons, Nat.pow_succ']
            exact Nat.le_mul_of_pos_right 10 (Nat.pow_pos (by decide))
          have hmul : 1 * 10 ≤ (10 * 0 + (d + 1)) * 10 ^ (c' :: cs).length :=
            Nat.mul_le_mul (by omega) hten
          omega
    · cases h

lemma decimalFrom_zeros (hn : n < 10) :
    decimalFrom 0 (List.replicate k '0' ++ [n.digitChar]) = some n := by
  induction k with
  | zero => simp [decimalFrom, digit?_eq_some_iff.mpr ⟨hn, rfl⟩]
  | succ k ih => exact ih

lemma decimal?_eq_some_iff (hn : n < 10) :
    decimal? cs = some n ↔ ∃ zeros, cs = List.replicate zeros '0' ++ [n.digitChar] := by
  constructor
  · intro h
    cases cs with
    | nil => cases h
    | cons c cs => exact exists_zeros_of_decimalFrom h (List.cons_ne_nil c cs) hn
  · rintro ⟨zeros, rfl⟩
    rw [← decimalFrom_zeros hn (k := zeros)]
    cases zeros <;> rfl

lemma unsigned?_of_head?_ne (h : cs.head? ≠ some '+') : unsigned? cs = decimal? cs := by
  unfold unsigned?
  split
  · exact absurd rfl h
  · rfl

lemma unsigned?_eq_some_iff (hn : n < 10) : unsigned? cs = some n ↔
    ∃ zeros, cs = List.replicate zeros '0' ++ [n.digitChar] ∨
      cs = '+' :: (List.replicate zeros '0' ++ [n.digitChar]) := by
  by_cases h : cs.head? = some '+'
  · obtain ⟨digits, rfl⟩ := List.head?_eq_some_iff.mp h
    have hnone : decimal? ('+' :: digits) ≠ some n := nofun
    rw [exists_or, ← decimal?_eq_some_iff hn, or_iff_right hnone]
    simp [unsigned?, decimal?_eq_some_iff hn]
  · rw [exists_or, ← decimal?_eq_some_iff hn, unsigned?_of_head?_ne h, or_iff_left]
    rintro ⟨zeros, rfl⟩
    exact h rfl

lemma not_number_of_isLower (h : c.toLower.isLower) : c ≠ '+' ∧ digit? c = none := by
  refine ⟨?_, Option.eq_none_iff_forall_ne_some.mpr fun d hd => ?_⟩
  · rintro rfl
    exact absurd h (by decide)
  · obtain ⟨hlt, rfl⟩ := digit?_eq_some_iff.mp hd
    revert h
    interval_cases d <;> decide

/-- What begins with a letter is no number. -/
lemma unsigned?_of_isLower (h : (cs.map Char.toLower).head?.any Char.isLower) :
    unsigned? cs = none := by
  cases cs with
  | nil => rfl
  | cons c cs =>
    obtain ⟨hplus, hdigit⟩ := not_number_of_isLower h
    rw [unsigned?_of_head?_ne (by simpa using hplus), decimal?, decimalFrom, hdigit]
    nofun

/-- The characters that levels are written with. -/
def isWordChar (c : Char) : Bool := c = '+' || c.isAlphanum

lemma toNat_of_isAlphanum (h : c.isAlphanum) : 48 ≤ c.toNat ∧ c.toNat ≤ 57 ∨
    65 ≤ c.toNat ∧ c.toNat ≤ 90 ∨ 97 ≤ c.toNat ∧ c.toNat ≤ 122 := by
  have hranges : decide (65 ≤ c.val ∧ c.val ≤ 90) || (97 ≤ c.val && c.val ≤ 122) ||
      (48 ≤ c.val && c.val ≤ 57) := h
  simp only [UInt32.le_iff_toNat_le, Bool.or_eq_true, Bool.and_eq_true, decide_eq_true_eq,
    Char.toNat_val, UInt32.reduceToNat] at hranges
  omega

lemma not_isBlank_of_isWordChar (h : isWordChar c) : ¬ isBlank c := by
  obtain h | h := Bool.or_eq_true_iff.mp h
  · rw [of_decide_eq_true h]
    decide
  · have hrange := toNat_of_isAlphanum h
    simp only [isBlank, Bool.or_eq_true, Bool.and_eq_true, decide_eq_true_eq]
    omega

/-- Blanks are dropped around a text, and nothing else if it has none itself. -/
lemma trim_append {before after : List Char} (hbefore : ∀ c ∈ before, isBlank c)
    (hafter : ∀ c ∈ after, isBlank c) (hcs : ∀ c ∈ cs, ¬ isBlank c) :
    trim (before ++ cs ++ after) = cs := by
  have hself : ∀ l : List Char, (∀ c ∈ l, ¬ isBlank c) → l.dropWhile isBlank = l :=
    fun l hl => List.dropWhile_eq_self_iff.mpr fun hpos => hl _ (List.getElem_mem hpos)
  have hright : (cs ++ after).rdropWhile isBlank = cs := by
    rw [List.rdropWhile, List.reverse_append, List.dropWhile_append_of_pos (by simpa using hafter),
      hself _ (by simpa using hcs), List.reverse_reverse]
  show ((before ++ cs ++ after).dropWhile isBlank).rdropWhile isBlank = cs
  rw [List.append_assoc, List.dropWhile_append_of_pos hbefore]
  cases cs with
  | nil => rw [List.nil_append, List.dropWhile_eq_nil_iff.mpr hafter, List.rdropWhile_nil]
  | cons c cs =>
    rw [List.cons_append, List.dropWhile_cons_of_neg (hcs c List.mem_cons_self), ← List.cons_append,
      hright]

lemma exists_trim (cs : List Char) : ∃ before after, cs = before ++ trim cs ++ after ∧
    (∀ c ∈ before, isBlank c) ∧ ∀ c ∈ after, isBlank c := by
  refine ⟨cs.takeWhile isBlank, (cs.dropWhile isBlank).rtakeWhile isBlank, ?_,
    fun c => List.mem_takeWhile_imp, fun c => List.mem_rtakeWhile_imp⟩
  calc cs = cs.takeWhile isBlank ++ cs.dropWhile isBlank := List.takeWhile_append_dropWhile.symm
    _ = cs.takeWhile isBlank ++ (trim cs ++ (cs.dropWhile isBlank).rtakeWhile isBlank) :=
      congrArg _ List.rdropWhile_append_rtakeWhile.symm
    _ = _ := (List.append_assoc ..).symm

end Text

/-! ### Spellings -/

namespace Logging.Severity

variable {cs : List Char} {c d : Char} {s : Severity} {level : String} {n : Nat}

/-- The ways to write a severity. -/
inductive Spelled (s : Severity) : List Char → Prop
  /-- Its name, every letter in either case. -/
  | name {cs : List Char} (h : List.Forall₂ (fun c d => d = c ∨ d = c.toUpper) s.name.toList cs) :
    Spelled s cs
  /-- Its number, with zeros before it. -/
  | number (zeros : Nat) : Spelled s (List.replicate zeros '0' ++ [s.number.digitChar])
  | signed (zeros : Nat) : Spelled s ('+' :: (List.replicate zeros '0' ++ [s.number.digitChar]))

/-- The level is the severity, with blanks before and after it. -/
def Denoted (s : Severity) (level : String) : Prop :=
  ∃ before cs after, level.toList = before ++ cs ++ after ∧ (∀ c ∈ before, isBlank c) ∧
    (∀ c ∈ after, isBlank c) ∧ s.Spelled cs

lemma number_pos (s : Severity) : 0 < s.number := by
  cases s <;> decide

lemma number_lt (s : Severity) : s.number < 10 := by
  cases s <;> decide

lemma find?_number_eq_some_iff : all.find? (·.number = n) = some s ↔ s.number = n := by
  constructor
  · intro h
    simpa using List.find?_some h
  · rintro rfl
    cases s <;> rfl

/-- A character that becomes a lower-case letter is this letter or its upper case. -/
lemma eq_or_eq_toUpper (h : d.toLower = c) : d = c ∨ d = c.toUpper := by
  by_cases hd : 65 ≤ d.toNat ∧ d.toNat ≤ 90
  · obtain ⟨hlow, hhigh⟩ := hd
    right
    rw [← h, ← Char.ofNat_toNat d]
    generalize d.toNat = n at hlow hhigh
    interval_cases n <;> rfl
  · have hlower : d.toLower = d := dif_neg hd
    exact .inl (hlower.symm.trans h)

lemma map_toLower_eq_iff {word : List Char}
    (hword : ∀ c ∈ word, c.toLower = c ∧ c.toUpper.toLower = c) :
    cs.map Char.toLower = word ↔ List.Forall₂ (fun c d => d = c ∨ d = c.toUpper) word cs := by
  induction word generalizing cs with
  | nil => simp
  | cons c word ih =>
    obtain ⟨⟨hlower, hupper⟩, hword⟩ := List.forall_mem_cons.mp hword
    cases cs with
    | nil => simp
    | cons d cs =>
      rw [List.map_cons, List.cons.injEq, List.forall₂_cons, ih hword]
      refine and_congr_left fun _ => ⟨eq_or_eq_toUpper, ?_⟩
      rintro (rfl | rfl)
      exacts [hlower, hupper]

lemma forall_of_forall₂_toUpper {p : Char → Prop} {word : List Char}
    (h : List.Forall₂ (fun c d => d = c ∨ d = c.toUpper) word cs)
    (hword : ∀ c ∈ word, p c ∧ p c.toUpper) : ∀ d ∈ cs, p d := by
  induction h with
  | nil => nofun
  | cons hd _ ih =>
    obtain ⟨⟨hlower, hupper⟩, hword⟩ := List.forall_mem_cons.mp hword
    refine List.forall_mem_cons.mpr ⟨?_, ih hword⟩
    obtain rfl | rfl := hd
    exacts [hlower, hupper]

lemma isNamed_iff :
    s.isNamed cs ↔ List.Forall₂ (fun c d => d = c ∨ d = c.toUpper) s.name.toList cs := by
  have hname : s.name.toList.all fun c => c.toLower = c ∧ c.toUpper.toLower = c := by
    cases s <;> decide
  rw [isNamed, decide_eq_true_iff]
  exact map_toLower_eq_iff fun c hc => of_decide_eq_true (List.all_eq_true.mp hname c hc)

/-- A name begins with no digit and no sign, in whatever case. -/
lemma unsigned?_of_isNamed (h : s.isNamed cs) : unsigned? cs = none := by
  have hname : s.name.toList.head?.any Char.isLower := by cases s <;> decide
  rw [← of_decide_eq_true h] at hname
  exact unsigned?_of_isLower hname

lemma find?_isNamed_eq_some_iff : all.find? (isNamed · cs) = some s ↔ s.isNamed cs := by
  constructor
  · exact fun h => List.find?_some (p := (isNamed · cs)) h
  · intro h
    have hnamed : (isNamed · cs) =
        fun s' : Severity => decide (s.name.toList = s'.name.toList) := by
      simp only [isNamed, of_decide_eq_true h]
    rw [hnamed]
    cases s <;> decide

lemma ofChars?_eq_some_iff : ofChars? cs = some s ↔ s.Spelled cs := by
  constructor
  · intro h
    unfold ofChars? at h
    split at h
    -- a number is tried before the names, with or without a sign
    next s' hnumber =>
      cases h
      obtain ⟨n, hn, hfind⟩ := Option.bind_eq_some_iff.mp hnumber
      obtain rfl := find?_number_eq_some_iff.mp hfind
      obtain ⟨zeros, rfl | rfl⟩ := (unsigned?_eq_some_iff s.number_lt).mp hn
      exacts [.number zeros, .signed zeros]
    next => exact .name (isNamed_iff.mp (find?_isNamed_eq_some_iff.mp h))
  · intro h
    have hnumber : ∀ zeros, (cs = List.replicate zeros '0' ++ [s.number.digitChar] ∨
        cs = '+' :: (List.replicate zeros '0' ++ [s.number.digitChar])) → ofChars? cs = some s := by
      intro zeros hzeros
      rw [ofChars?, (unsigned?_eq_some_iff s.number_lt).mpr ⟨zeros, hzeros⟩, Option.bind_some,
        find?_number_eq_some_iff.mpr rfl]
    cases h with
    | name h =>
      have hnamed := isNamed_iff.mpr h
      rw [ofChars?, unsigned?_of_isNamed hnamed]
      exact find?_isNamed_eq_some_iff.mpr hnamed
    | number zeros => exact hnumber zeros (.inl rfl)
    | signed zeros => exact hnumber zeros (.inr rfl)

lemma Spelled.forall_isWordChar (h : s.Spelled cs) : ∀ c ∈ cs, isWordChar c := by
  have hdigit : isWordChar s.number.digitChar := by cases s <;> decide
  have hzero : isWordChar '0' := by decide
  have hplus : isWordChar '+' := by decide
  cases h with
  | name h =>
    have hname : s.name.toList.all fun c => isWordChar c ∧ isWordChar c.toUpper := by
      cases s <;> decide
    exact forall_of_forall₂_toUpper h fun c hc => of_decide_eq_true (List.all_eq_true.mp hname c hc)
  | number zeros => simp_all [List.mem_replicate, or_imp]
  | signed zeros => simp_all [List.mem_replicate, or_imp]

lemma ofLevel?_eq_some_iff : ofLevel? level = some s ↔ s.Denoted level := by
  rw [ofLevel?, ofChars?_eq_some_iff]
  constructor
  · intro h
    obtain ⟨before, after, heq, hbefore, hafter⟩ := exists_trim level.toList
    exact ⟨before, _, after, heq, hbefore, hafter, h⟩
  · rintro ⟨before, cs, after, heq, hbefore, hafter, h⟩
    have hword : ∀ c ∈ cs, ¬ isBlank c := fun c hc =>
      not_isBlank_of_isWordChar (h.forall_isWordChar c hc)
    rwa [heq, trim_append hbefore hafter hword]

example : ofLevel? " +0004\u00a0" = some debug := by
  decide +kernel

lemma ofLevel?_eq_none_iff : ofLevel? level = none ↔ ∀ s : Severity, ¬ s.Denoted level := by
  simp only [Option.eq_none_iff_forall_ne_some, ← ofLevel?_eq_some_iff, ne_eq]

end Logging.Severity

/-! ### Filters of a level -/

namespace Logging

lemma Threshold.admits_iff {t : Threshold} {s : Severity} : t.admits s ↔ s.number ≤ t.number :=
  decide_eq_true_iff

namespace Filter

variable {f : Filter} {inside : Option Scope}

/-- What is known of a sample, its severity apart. -/
def sampleOrigin : Origin := ⟨target, .error, ["message", "n"], none⟩

/-- The number of the least grave severity that passes inside a scope. -/
def reach (f : Filter) (inside : Option Scope) : Nat :=
  max (f.threshold sampleOrigin).number
    (inside.elim 0 fun scope => (f.insideThreshold scope.origin scope.id).number)

lemma watchers_of_plain (h : ∀ d ∈ f.directives, ¬ d.isDynamic) : f.watchers = [] := by
  rw [watchers, List.filter_eq_nil_iff.mpr h, List.foldl_nil]

/-- Spans do not matter to a filter that does not look at them. -/
lemma insideThreshold_of_plain (h : ∀ d ∈ f.directives, ¬ d.isDynamic) (o : Origin) (id : Nat) :
    f.insideThreshold o id = none := by
  rw [insideThreshold, watchers_of_plain h]
  rfl

lemma reach_of_plain (h : ∀ d ∈ f.directives, ¬ d.isDynamic) (inside : Option Scope) :
    f.reach inside = (f.threshold sampleOrigin).number := by
  cases inside with
  | none => exact Nat.max_zero _
  | some scope =>
    rw [reach, Option.elim_some, insideThreshold_of_plain h]
    exact Nat.max_zero _

lemma plain_upTo (s : Severity) : ∀ d ∈ (upTo s).directives, ¬ d.isDynamic := by
  simp [upTo, Directive.isDynamic]

lemma threshold_upTo (s : Severity) (o : Origin) : (upTo s).threshold o = some s := by
  simp [threshold, upTo, choose, Directive.judges, Directive.isStatic, Directive.hasValue,
    Directive.hasTarget, Directive.missesField]

lemma reach_upTo (s : Severity) (inside : Option Scope) : (upTo s).reach inside = s.number := by
  rw [reach_of_plain (plain_upTo s), threshold_upTo, Threshold.number]

end Filter

namespace Subscriber

variable {s : Subscriber} {inside : Option Scope} {e : Sample}

/-- A threshold does not depend on the severity that it is asked about. -/
lemma threshold_origin (f : Filter) (e : Sample) :
    f.threshold e.origin = f.threshold Filter.sampleOrigin :=
  rfl

lemma admits_iff : s.admits inside e ↔ e.severity.number ≤ s.filter.reach inside := by
  have hpos := e.severity.number_pos
  rw [admits, Filter.reach, le_max_iff, Bool.or_eq_true, Threshold.admits_iff, threshold_origin]
  cases inside with
  | none => simp; omega
  | some scope => simp [Threshold.admits_iff]

end Subscriber

end Logging

/-! ### Diagnostics and logging -/

namespace SetupConfig

variable {c : SetupConfig} {text : String}

/-- All remarks on an unknown level are about the configured one. -/
lemma unknownLevelWarning_mem_iff : unknownLevelWarning text ∈ c.diagnostics.warnings ↔
    Severity.ofLevel? c.logging.level = none ∧
      unknownLevelWarning text = unknownLevelWarning c.logging.level := by
  have hhead := head?_unknownLevelWarning text
  rw [diagnostics, mem_warnings_levelDiagnostics, mem_warnings_timeoutDiagnostics]
  refine or_iff_right ?_
  rintro (hinterface | ⟨-, hzero⟩)
  · rw [eq_of_mem_warnings_interfaceDiagnostics hinterface] at hhead
    simp at hhead
  · rw [hzero] at hhead
    simp at hhead

/-- For every configuration, whatever its level is:

* the diagnostics remark on an unknown level if and only if the level denotes no severity: with
  the blanks around it left out it is neither a name in any case nor a number from 1 to 5;
* the first subscriber that is asked for with it, where the environment has no directives, lets
  through exactly the severities up to that of the level, if it denotes one, and up to info, if
  the diagnostics remark on it. No span changes that. -/
theorem diagnostics_agree_with_logging (c : SetupConfig) :
    (unknownLevelWarning c.logging.level ∈ c.diagnostics.warnings ↔
      ∀ s : Severity, ¬ s.Denoted c.logging.level) ∧
    (∀ text, unknownLevelWarning text ∈ c.diagnostics.warnings →
      unknownLevelWarning c.logging.level ∈ c.diagnostics.warnings) ∧
    ∃ n subscriber,
      (∀ s : Severity, s.Denoted c.logging.level → n = s.number) ∧
      (unknownLevelWarning c.logging.level ∈ c.diagnostics.warnings → n = 3) ∧
      Subscriber.install? none none (some c.logging) = some subscriber ∧
      subscriber.format = c.logging.format ∧
      (∀ o : Origin, (subscriber.filter.threshold o).admits o.severity ↔ o.severity.number ≤ n) ∧
      (∀ o id, subscriber.filter.insideThreshold o id = none) ∧
      ∀ inside e, subscriber.admits inside e ↔ e.severity.number ≤ n := by
  have hwarned : unknownLevelWarning c.logging.level ∈ c.diagnostics.warnings ↔
      Severity.ofLevel? c.logging.level = none := by
    rw [unknownLevelWarning_mem_iff, and_iff_left rfl]
  have hlevel : ∀ s o, ((Filter.upTo s).threshold o).admits o.severity ↔
      o.severity.number ≤ s.number := by
    intro s o
    rw [Filter.threshold_upTo, Threshold.admits_iff, Threshold.number]
  refine ⟨hwarned.trans Severity.ofLevel?_eq_none_iff,
    fun text htext => hwarned.mpr (unknownLevelWarning_mem_iff.mp htext).1,
    (Severity.ofLevel c.logging.level).number,
    ⟨.upTo (.ofLevel c.logging.level), c.logging.format⟩, ?_, ?_, rfl, rfl, hlevel _,
    Filter.insideThreshold_of_plain (Filter.plain_upTo _), fun inside e => ?_⟩
  · intro s hs
    rw [Severity.ofLevel, Severity.ofLevel?_eq_some_iff.mpr hs, Option.getD_some]
  · intro h
    rw [Severity.ofLevel, hwarned.mp h]
    rfl
  · rw [Subscriber.admits_iff, Filter.reach_upTo]

end SetupConfig

end PppoeSetup
