import PppoeSetup.Proofs.Prediction
import PppoeSetup.Proofs.Text.Quoted

/-!
# Remarks

The diagnostics of a configuration are remarks on it. A remark fits on one line, whatever texts the
configuration holds, and the line tells which remark it is and which text it is about.
-/

namespace PppoeSetup

open Logging Text

/-- What diagnostics can remark on a configuration. -/
inductive Remark
  | noInterface
  | invalidInterface (text : String) (fault : NameFault)
  | noLimit
  | unknownLevel (level : String)

namespace Remark

def message : Remark → String
  | noInterface => "interface: not specified, callers must name one"
  | invalidInterface text fault =>
    "interface: " ++ (SetupError.invalidInterfaceName text fault).message
  | noLimit => "connect_timeout_ms: 0 disables the timeout"
  | unknownLevel level => SetupConfig.unknownLevelWarning level

def severity : Remark → Severity
  | invalidInterface .. => .error
  | noInterface | noLimit | unknownLevel _ => .warn

/-- The remark is one on this configuration. -/
def Concerns (c : SetupConfig) : Remark → Prop
  | noInterface => c.interface? = none
  | invalidInterface text fault =>
    c.interface? = some text ∧ InterfaceName.ofText text = .error fault
  | noLimit => c.timeoutMillis? = some 0
  | unknownLevel level => c.logging.level = level ∧ Severity.ofLevel? level = none

variable {c c' : SetupConfig} {text : String} {remark : Remark}

/-! ### Messages -/

lemma message_invalidInterface (text : String) (fault : NameFault) :
    (invalidInterface text fault).message =
      "interface: invalid interface name " ++ (quoted text ++ (": " ++ fault.message)) := by
  have hsplit : "interface: invalid interface name " = "interface: " ++ "invalid interface name " :=
    rfl
  unfold message SetupError.message
  rw [hsplit]
  simp only [String.append_assoc]
  rfl

lemma message_unknownLevel (level : String) : (unknownLevel level).message =
    "logging.level: unknown level " ++ (quoted level ++ ", using info") :=
  String.append_assoc

/-- Whatever texts a remark is about, there are only printable characters in it. -/
lemma printable_message (remark : Remark) : Printable remark.message := by
  cases remark with
  | noInterface => exact printable_of_ascii (by decide +kernel)
  | noLimit => exact printable_of_ascii (by decide +kernel)
  | invalidInterface text fault =>
    have hopening : Printable "interface: invalid interface name " :=
      printable_of_ascii (by decide +kernel)
    have hcolon : Printable ": " := printable_of_ascii (by decide +kernel)
    have hfault : Printable fault.message := by
      cases fault <;> exact printable_of_ascii (by decide +kernel)
    rw [message_invalidInterface]
    exact hopening.append ((printable_quoted text).append (hcolon.append hfault))
  | unknownLevel level =>
    have hopening : Printable "logging.level: unknown level " :=
      printable_of_ascii (by decide +kernel)
    have hclosing : Printable ", using info" := printable_of_ascii (by decide +kernel)
    rw [message_unknownLevel]
    exact hopening.append ((printable_quoted level).append hclosing)

/-- The fourteenth character of a remark is another one for each kind. -/
def mark : Remark → Char
  | noInterface => 't'
  | invalidInterface .. => 'v'
  | noLimit => 'u'
  | unknownLevel _ => ':'

lemma getElem?_message (remark : Remark) : remark.message.toList[13]? = some remark.mark := by
  cases remark with
  | noInterface | noLimit => decide +kernel
  | invalidInterface text fault =>
    rw [message_invalidInterface, String.toList_append, List.getElem?_append_left (by decide)]
    rfl
  | unknownLevel level =>
    rw [message_unknownLevel, String.toList_append, List.getElem?_append_left (by decide)]
    rfl

lemma nameFault_message_injective : Function.Injective NameFault.message := by
  intro fault fault' h
  cases fault <;> cases fault' <;> first | rfl | exact absurd h (by decide)

lemma message_injective : Function.Injective Remark.message := by
  intro remark remark' h
  -- the mark tells the kind, and within a kind the quoted text can be read off
  have hmark : remark.mark = remark'.mark := by
    rw [← Option.some_inj, ← getElem?_message, ← getElem?_message, h]
  cases remark with
  | noInterface | noLimit => cases remark' <;> simp [mark] at hmark ⊢
  | invalidInterface text fault =>
    cases remark' with
    | invalidInterface text' fault' =>
      rw [message_invalidInterface, message_invalidInterface, String.append_right_inj] at h
      obtain ⟨rfl, hrest⟩ := quoted_append_inj h
      rw [nameFault_message_injective ((String.append_right_inj _).mp hrest)]
    | noInterface | noLimit | unknownLevel => simp [mark] at hmark
  | unknownLevel level =>
    cases remark' with
    | unknownLevel level' =>
      rw [message_unknownLevel, message_unknownLevel, String.append_right_inj] at h
      obtain ⟨rfl, -⟩ := quoted_append_inj h
      rfl
    | noInterface | noLimit | invalidInterface => simp [mark] at hmark

end Remark

/-! ### Diagnostics -/

namespace SetupConfig

variable {c c' : SetupConfig} {text text' message : String} {fault : NameFault}

lemma mem_warnings_interfaceDiagnostics : message ∈ (c.interfaceDiagnostics {}).warnings ↔
    c.interface? = none ∧ message = Remark.noInterface.message := by
  cases hi : c.interface? with
  | none => simp [interfaceDiagnostics, hi, Diagnostics.warn, Remark.message]
  | some text =>
    cases hv : InterfaceName.validate text <;>
      simp [interfaceDiagnostics, hi, hv, Diagnostics.error]

/-- The warnings are the remarks on what is missing, without effect or unknown. -/
lemma mem_warnings_iff : message ∈ c.diagnostics.warnings ↔
    ∃ remark : Remark, remark.Concerns c ∧ remark.severity = .warn ∧ message = remark.message := by
  rw [diagnostics, mem_warnings_levelDiagnostics, mem_warnings_timeoutDiagnostics,
    mem_warnings_interfaceDiagnostics]
  constructor
  · rintro ((⟨hi, rfl⟩ | ⟨hzero, rfl⟩) | ⟨hlevel, rfl⟩)
    · exact ⟨.noInterface, hi, rfl, rfl⟩
    · exact ⟨.noLimit, hzero, rfl, rfl⟩
    · exact ⟨.unknownLevel c.logging.level, ⟨rfl, hlevel⟩, rfl, rfl⟩
  · rintro ⟨remark, hconcerns, hseverity, rfl⟩
    cases remark with
    | noInterface => exact .inl (.inl ⟨hconcerns, rfl⟩)
    | invalidInterface => cases hseverity
    | noLimit => exact .inl (.inr ⟨hconcerns, rfl⟩)
    | unknownLevel level =>
      obtain ⟨rfl, hlevel⟩ := hconcerns
      exact .inr ⟨hlevel, rfl⟩

lemma errors_of_fault (hi : c.interface? = some text)
    (hfault : InterfaceName.ofText text = .error fault) :
    c.diagnostics.errors = [(Remark.invalidInterface text fault).message] := by
  have hv : InterfaceName.validate text = .error (.invalidInterfaceName text fault) := by
    rw [InterfaceName.validate, hfault]
  exact errors_of_invalid hi hv

lemma exists_fault_of_mem_errors (h : message ∈ c.diagnostics.errors) :
    ∃ text fault, c.interface? = some text ∧ InterfaceName.ofText text = .error fault ∧
      message = (Remark.invalidInterface text fault).message := by
  have herrors : c.diagnostics.hasErrors := by
    rw [Diagnostics.hasErrors, Bool.not_eq_true', List.isEmpty_eq_false_iff]
    exact List.ne_nil_of_mem h
  obtain ⟨text, e, hi, hv⟩ := hasErrors_iff.mp herrors
  obtain ⟨fault, hfault, rfl⟩ := InterfaceName.exists_fault_of_validate hv
  rw [errors_of_fault hi hfault, List.mem_singleton] at h
  exact ⟨text, fault, hi, hfault, h⟩

/-- The errors are the remarks on what is no interface name. -/
lemma mem_errors_iff : message ∈ c.diagnostics.errors ↔
    ∃ remark : Remark, remark.Concerns c ∧ remark.severity = .error ∧ message = remark.message := by
  constructor
  · intro h
    obtain ⟨text, fault, hi, hfault, rfl⟩ := exists_fault_of_mem_errors h
    exact ⟨.invalidInterface text fault, ⟨hi, hfault⟩, rfl, rfl⟩
  · rintro ⟨remark, hconcerns, hseverity, rfl⟩
    cases remark with
    | invalidInterface text fault =>
      obtain ⟨hi, hfault⟩ := hconcerns
      rw [errors_of_fault hi hfault]
      exact List.mem_singleton_self _
    | noInterface | noLimit | unknownLevel => cases hseverity

lemma printable_of_mem (h : message ∈ c.diagnostics.warnings ++ c.diagnostics.errors) :
    Printable message := by
  rcases List.mem_append.mp h with h | h
  · obtain ⟨remark, -, -, rfl⟩ := mem_warnings_iff.mp h
    exact remark.printable_message
  · obtain ⟨remark, -, -, rfl⟩ := mem_errors_iff.mp h
    exact remark.printable_message

/-- For every configuration, whatever characters its texts have:

* all characters of its diagnostics are printable; none is a control character or ends a line;
* the diagnostics are logged with one line each, warnings first, in their order;
* they are the remarks that concern the configuration, and the message of a remark tells which one
  it is. So two configurations share no message about an interface name unless they have the same
  name, and none about a level unless they have the same level. -/
theorem diagnostics_identify (c : SetupConfig) :
    (∀ message ∈ c.diagnostics.warnings ++ c.diagnostics.errors, ∀ x ∈ message.toList,
      isPrintable x ∧ isControl x = false ∧ x ∉ lineBreaks) ∧
    (c.diagnostics.records.map fun record => (record.severity, lines record.message)) =
      (c.diagnostics.warnings.map fun message => (Severity.warn, [message])) ++
        (c.diagnostics.errors.map fun message => (Severity.error, [message])) ∧
    (∀ message, message ∈ c.diagnostics.warnings ↔ ∃ remark : Remark,
      remark.Concerns c ∧ remark.severity = .warn ∧ message = remark.message) ∧
    (∀ message, message ∈ c.diagnostics.errors ↔ ∃ remark : Remark,
      remark.Concerns c ∧ remark.severity = .error ∧ message = remark.message) ∧
    Function.Injective Remark.message ∧
    ∀ c' : SetupConfig,
      (∀ text fault text' fault', c.interface? = some text →
        InterfaceName.ofText text = .error fault → c'.interface? = some text' →
        InterfaceName.ofText text' = .error fault' → text ≠ text' →
        ∃ message message', c.diagnostics.errors = [message] ∧
          c'.diagnostics.errors = [message'] ∧ message ≠ message') ∧
      (Severity.ofLevel? c.logging.level = none → c.logging.level ≠ c'.logging.level →
        unknownLevelWarning c.logging.level ∈ c.diagnostics.warnings ∧
          unknownLevelWarning c.logging.level ∉ c'.diagnostics.warnings) := by
  refine ⟨?_, ?_, fun _ => mem_warnings_iff, fun _ => mem_errors_iff, Remark.message_injective, ?_⟩
  · intro message h x hx
    have hprint := printable_of_mem h x hx
    exact ⟨hprint, not_isControl_of_isPrintable hprint, notMem_lineBreaks_of_isPrintable hprint⟩
  -- a message without line breaks is one line
  · have hline (message : String)
        (h : message ∈ c.diagnostics.warnings ++ c.diagnostics.errors) :
        lines message = [message] :=
      (printable_of_mem h).lines_eq
    rw [Diagnostics.records, List.map_append, List.map_map, List.map_map]
    congr 1 <;> refine List.map_congr_left fun message h => ?_
    · rw [Function.comp_apply, hline message (List.mem_append_left _ h)]
    · rw [Function.comp_apply, hline message (List.mem_append_right _ h)]
  · intro c'
    constructor
    · intro text fault text' fault' hi hfault hi' hfault' hne
      refine ⟨_, _, errors_of_fault hi hfault, errors_of_fault hi' hfault', ?_⟩
      intro heq
      cases Remark.message_injective heq
      exact hne rfl
    · intro hlevel hne
      refine ⟨mem_warnings_iff.mpr ⟨.unknownLevel _, ⟨rfl, hlevel⟩, rfl, rfl⟩, ?_⟩
      intro h
      obtain ⟨remark, hconcerns, -, heq⟩ := mem_warnings_iff.mp h
      have hremark : Remark.unknownLevel c.logging.level = remark := Remark.message_injective heq
      subst hremark
      exact hne hconcerns.1.symm

/-- A configuration with an interface and a level. -/
def withTexts (text level : String) : SetupConfig :=
  { interface? := some text, logging := { level } }

/-- A line feed is told apart from a backslash and a letter, and does not end the line. -/
theorem diagnostics_identify_line_feed :
    (∃ message message', (withTexts "eth 0\n" "loud\n").diagnostics.errors = [message] ∧
      (withTexts "eth 0\\n" "loud\\n").diagnostics.errors = [message'] ∧ message ≠ message') ∧
      unknownLevelWarning "loud\n" ∉ (withTexts "eth 0\\n" "loud\\n").diagnostics.warnings ∧
      '\n' ∉ (unknownLevelWarning "loud\n").toList := by
  obtain ⟨hprintable, -, -, -, -, hothers⟩ := diagnostics_identify (withTexts "eth 0\n" "loud\n")
  obtain ⟨hinterface, hlevel⟩ := hothers (withTexts "eth 0\\n" "loud\\n")
  obtain ⟨hmem, hnot⟩ := hlevel (by decide) (by decide)
  refine ⟨hinterface _ .badByte _ .badByte rfl rfl rfl rfl (by decide), hnot, ?_⟩
  intro hbreak
  exact (hprintable _ (List.mem_append_left _ hmem) _ hbreak).2.2 (by decide)

end SetupConfig

end PppoeSetup
