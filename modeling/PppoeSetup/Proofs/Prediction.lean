import PppoeSetup.Config.Diagnostics
import PppoeSetup.Proofs.AllOrNothing
import PppoeSetup.Proofs.Course.Refusals

/-!
# What diagnostics predict

The diagnostics of a configuration tell beforehand what a setup from it can come to: it fails over
the interface name exactly if the diagnostics have an error, and with the error that they quote.
All other failures are refusals of the kernel.
-/

namespace PppoeSetup

open Kernel Trace Connection DiscoverySocket ControlSocket

/-! ### Refusals in a run -/

namespace Kernel.Trace

variable {t u : Trace}

/-- Some call of the run is refused. -/
def Refuses (t : Trace) : Prop := t.refusals ≠ []

@[simp] lemma refuses_append : (t ++ u).Refuses ↔ t.Refuses ∨ u.Refuses := by
  simp only [Refuses, refusals, List.filterMap_append, ne_eq, List.append_eq_nil_iff]
  tauto

@[simp] lemma refuses_event {e : Event} : Refuses (.event e :: t) ↔ t.Refuses := by
  simp [Refuses, refusals]

@[simp] lemma refuses_call {r : Request} {a : r.Answer} :
    Refuses (.call r a :: t) ↔ (r.refusal? a).isSome ∨ t.Refuses := by
  cases h : r.refusal? a <;> simp [Refuses, refusals, h]

/-- What fails because of some refusal fails because of one that its error tells of. -/
lemma Decides.exists_refusal {blame : Request → IoError → SetupError} {outcome : Option SetupError}
    (h : t.Decides (fun _ => True) blame outcome) (ht : t.Refuses) :
    ∃ r errno, (r, errno) ∈ t.refusals ∧ outcome = some (blame r (.os errno)) := by
  obtain ⟨⟨r, errno⟩, hmem⟩ := List.exists_mem_of_ne_nil _ ht
  obtain ⟨v, a, x, hsplit, hrefused⟩ := exists_of_mem_refusals hmem
  exact ⟨r, errno, hmem, (h v r a x errno hsplit hrefused trivial).2⟩

end Kernel.Trace

/-! ### Failures without a refusal

Of all that a setup does, only the name can fail by itself. -/

variable {s s' : ControlSocket} {t : Trace} {e : SetupError}

namespace ControlSocket

lemma Opening.refuses (h : Opening s t (.error e) s') : t.Refuses := by
  cases h
  simp [Request.refusal?, errno?]

lemma Resolving.refuses {α β : Type} {name : InterfaceName}
    {entry : Descriptor → Except Errno α → Entry} {value : α → β} {event : β → Event}
    (hentry : ∀ fd errno, Refuses [entry fd (.error errno)])
    (h : Resolving name entry value event s t (.error e) s') : t.Refuses := by
  cases h with
  | failed ha =>
    cases ha with
    | unopened ho => exact ho.refuses
    | failed errno ho => exact refuses_append.mpr (.inr (hentry _ errno))

lemma ResolvingIndex.refuses {name : InterfaceName} (h : ResolvingIndex name s t (.error e) s') :
    t.Refuses :=
  Resolving.refuses (fun _ _ => by simp [Request.refusal?, errno?]) h

lemma ResolvingAddress.refuses {name : InterfaceName}
    (h : ResolvingAddress name s t (.error e) s') : t.Refuses :=
  Resolving.refuses (fun _ _ => by simp [Request.refusal?, errno?]) h

end ControlSocket

namespace Connection

variable {c c' : Connection} {text : String} {name : InterfaceName}

lemma Naming.refuses (h : Naming c text s t (.error e) c' s') (hc : c.name = none)
    (hv : InterfaceName.validate text = .ok name) : t.Refuses := by
  generalize hr : (Except.error e : Except SetupError Unit) = r at h
  cases h with
  | taken hname => cases hc.symm.trans hname
  | invalid _ hinvalid => cases hv.symm.trans hinvalid
  | unresolved _ _ ha => exact ha.refuses
  | named => cases hr

/-- A valid name that cannot be adopted has no address. -/
lemma Adoption.refuses (h : Adoption c s (some text) t (.error e) c' s')
    (hv : InterfaceName.validate text = .ok name) : t.Refuses := by
  cases h with
  | applied hc hn => exact hn.refuses hc hv

lemma Adoption.name_isSome (h : Adoption c s (some text) t (.ok ()) c' s') : c'.name.isSome := by
  cases h with
  | applied _ hn =>
    cases hn
    rfl
  | confirmed hc => exact Option.isSome_of_mem hc
  | kept hc => exact Option.isSome_of_mem hc

lemma DiscoveryOpening.refuses (h : DiscoveryOpening t (.error e)) : t.Refuses := by
  cases h <;> simp [Request.refusal?, errno?]

lemma Binding.refuses {fd : Descriptor} (h : Binding c fd s t (.error e) s')
    (hc : c.name.isSome) : t.Refuses := by
  generalize hr : (Except.error e : Except SetupError UInt32) = r at h
  cases h with
  | unnamed hname =>
    rw [hname] at hc
    cases hc
  | unresolved _ hi => exact hi.refuses
  | refused errno => simp [Request.refusal?, errno?]
  | bound => cases hr

lemma BoundOpening.refuses (h : BoundOpening c s t (.error e) s') (hc : c.name.isSome) :
    t.Refuses := by
  cases h with
  | unopened hd => exact hd.refuses
  | unbound closing hd hb => simp [hb.refuses hc]

lemma SocketsOpening.refuses (h : SocketsOpening c (some text) s t (.error e) c' s')
    (hv : InterfaceName.validate text = .ok name) : t.Refuses := by
  cases h with
  | refused errno => simp [Request.refusal?, errno?]
  | unnamed closing ha => simp [ha.refuses hv]
  | unbound closing ha hb => simp [hb.refuses ha.name_isSome]

lemma BringUp.refuses (h : BringUp c (some text) s t (.error e) c' s') (hc : c.state ≠ .ready)
    (hv : InterfaceName.validate text = .ok name) : t.Refuses := by
  cases h with
  | already hready => exact absurd hready hc
  | failed _ ho _ => simp [ho.refuses hv]

end Connection

namespace DiscoverySocket

variable {c : Connection} {d : DiscoverySocket} {text : String} {name : InterfaceName}

lemma FreshOpening.refuses (h : FreshOpening c text s t (.error e) s') (hc : c.state ≠ .ready)
    (hv : InterfaceName.validate text = .ok name) : t.Refuses := by
  cases h with
  | failed hb _ => simp [hb.refuses hc hv]
  | broughtUp hb hw =>
    -- what has come up is ready, so that it can be wrapped
    cases hw with
    | refused hne _ =>
      cases hb
      exact absurd (state_eq_ready.mpr ⟨rfl, rfl⟩) hne

lemma ModeSetting.refuses {nonblocking : Bool} (h : ModeSetting d nonblocking t (.error e)) :
    t.Refuses := by
  cases h <;> simp [Request.refusal?, errno?]

variable {config : SetupConfig}

/-- On a valid interface name, a setup fails only if the kernel refuses something. -/
lemma ConfiguredOpening.refuses (h : ConfiguredOpening config s t (.error e) s')
    (hi : config.interface? = some text) (hv : InterfaceName.validate text = .ok name) :
    t.Refuses := by
  cases h with
  | unnamed hnone => cases hi.symm.trans hnone
  | failed hsome hf =>
    cases hi.symm.trans hsome
    exact hf.refuses nofun hv
  | unswitched _ _ _ hm _ => simp [hm.refuses]

end DiscoverySocket

/-! ### Invalid names -/

/-- What a setup over an invalid name comes to: the session socket cannot be opened, or it alone is
opened and closed again. -/
inductive Rejecting (invalid : SetupError) : Trace → SetupError → Prop
  | unopened (errno : Errno) :
    Rejecting invalid
      [.call (.openSocket .session) (.error errno),
        .event (.setupFailed (.socketCreate .session (.os errno)))]
      (.socketCreate .session (.os errno))
  | reclosed (fd : Descriptor) (closing : Except Errno Unit) :
    Rejecting invalid
      [.call (.openSocket .session) (.ok fd), .event (.sessionOpened fd),
        .call (.close fd) closing, .event (.setupFailed invalid)]
      invalid

section

variable {c c' : Connection} {text : String} {invalid : SetupError} {timeout : Option Duration}

lemma Connection.Adoption.eq_of_invalid {r : Except SetupError Unit}
    (h : Adoption c s (some text) t r c' s') (hc : c.name = none)
    (hv : InterfaceName.validate text = .error invalid) :
    t = [] ∧ r = .error invalid ∧ c' = c := by
  cases h with
  | applied _ hn =>
    cases hn with
    | taken hname => cases hc.symm.trans hname
    | invalid _ hinvalid =>
      cases hv.symm.trans hinvalid
      exact ⟨rfl, rfl, rfl⟩
    | unresolved _ hvalid | named _ hvalid => cases hv.symm.trans hvalid
  | confirmed hname | kept hname => cases hc.symm.trans hname

lemma Connection.BringUp.rejecting {r : Except SetupError Unit}
    (h : BringUp (.fresh timeout) (some text) s t r c' s')
    (hv : InterfaceName.validate text = .error invalid) :
    ∃ e, Rejecting invalid t e ∧ r = .error e ∧ c' = .fresh timeout := by
  cases h with
  | already hready => cases hready
  | failed _ ho hclear =>
    cases ho with
    | refused errno =>
      obtain rfl := hclear.fresh_eq_nil
      exact ⟨_, .unopened errno, rfl, rfl⟩
    | unnamed closing ha =>
      obtain ⟨rfl, ⟨⟩, rfl⟩ := ha.eq_of_invalid rfl hv
      obtain rfl := hclear.fresh_eq_nil
      exact ⟨_, .reclosed _ closing, rfl, rfl⟩
    | unbound _ ha =>
      obtain ⟨-, ⟨⟩, -⟩ := ha.eq_of_invalid rfl hv
  | ready _ ho =>
    cases ho with
    | opened ha =>
      obtain ⟨-, ⟨⟩, -⟩ := ha.eq_of_invalid rfl hv

lemma DiscoverySocket.FreshOpening.rejecting {r : Except SetupError DiscoverySocket}
    (h : FreshOpening (.fresh timeout) text s t r s')
    (hv : InterfaceName.validate text = .error invalid) :
    ∃ e, Rejecting invalid t e ∧ r = .error e := by
  cases h with
  | failed hb hrelease =>
    obtain ⟨e, hrejecting, ⟨⟩, rfl⟩ := hb.rejecting hv
    obtain rfl := hrelease.eq_nil rfl rfl
    rw [List.append_nil]
    exact ⟨_, hrejecting, rfl⟩
  | broughtUp hb _ =>
    obtain ⟨e, -, ⟨⟩, -⟩ := hb.rejecting hv

lemma DiscoverySocket.ConfiguredOpening.rejecting {config : SetupConfig}
    {r : Except SetupError DiscoverySocket} (h : ConfiguredOpening config s t r s')
    (hi : config.interface? = some text) (hv : InterfaceName.validate text = .error invalid) :
    ∃ e, Rejecting invalid t e ∧ r = .error e := by
  cases h with
  | unnamed hnone => cases hi.symm.trans hnone
  | failed hsome hf | blocking hsome _ hf =>
    cases hi.symm.trans hsome
    exact hf.rejecting hv
  | unswitched hsome _ hf | switched hsome _ hf =>
    cases hi.symm.trans hsome
    obtain ⟨e, -, ⟨⟩⟩ := hf.rejecting hv

end

/-! ### Diagnostics -/

namespace SetupConfig

variable {c : SetupConfig} {d : Diagnostics} {text message : String} {name : InterfaceName}

@[simp] lemma errors_timeoutDiagnostics : (c.timeoutDiagnostics d).errors = d.errors := by
  unfold timeoutDiagnostics
  split <;> rfl

@[simp] lemma errors_levelDiagnostics : (c.levelDiagnostics d).errors = d.errors := by
  unfold levelDiagnostics
  split <;> rfl

/-- Only the interface can be wrong. -/
lemma errors_diagnostics (c : SetupConfig) :
    c.diagnostics.errors = (c.interfaceDiagnostics {}).errors := by
  simp [diagnostics]

lemma mem_warnings_timeoutDiagnostics :
    message ∈ (c.timeoutDiagnostics d).warnings ↔ message ∈ d.warnings ∨
      c.timeoutMillis? = some 0 ∧ message = "connect_timeout_ms: 0 disables the timeout" := by
  unfold timeoutDiagnostics
  split <;> simp_all [Diagnostics.warn]

lemma mem_warnings_levelDiagnostics :
    message ∈ (c.levelDiagnostics d).warnings ↔ message ∈ d.warnings ∨
      Logging.Severity.ofLevel? c.logging.level = none ∧
        message = unknownLevelWarning c.logging.level := by
  unfold levelDiagnostics
  split <;> simp_all [Diagnostics.warn]

lemma eq_of_mem_warnings_interfaceDiagnostics (h : message ∈ (c.interfaceDiagnostics {}).warnings) :
    message = "interface: not specified, callers must name one" := by
  unfold interfaceDiagnostics at h
  split at h
  · simpa [Diagnostics.warn] using h
  · split at h <;> simp [Diagnostics.error] at h

/-- The remark on an unknown level begins with `logging`. -/
lemma head?_unknownLevelWarning (level : String) :
    (unknownLevelWarning level).toList.head? = some 'l' := by
  have hprefix : (toString "logging.level: unknown level ").toList.head? = some 'l' := by
    decide +kernel
  unfold unknownLevelWarning
  rw [String.toList_append, String.toList_append, List.append_assoc, List.head?_append, hprefix]
  rfl

lemma warnings_subset : (c.interfaceDiagnostics {}).warnings ⊆ c.diagnostics.warnings := by
  intro message h
  rw [diagnostics, mem_warnings_levelDiagnostics, mem_warnings_timeoutDiagnostics]
  exact .inl (.inl h)

lemma errors_of_invalid (hi : c.interface? = some text)
    (hv : InterfaceName.validate text = .error e) :
    c.diagnostics.errors = ["interface: " ++ e.message] := by
  simp only [errors_diagnostics, interfaceDiagnostics, hi, hv]
  rfl

lemma errors_of_valid (hi : c.interface? = some text)
    (hv : InterfaceName.validate text = .ok name) : c.diagnostics.errors = [] := by
  simp only [errors_diagnostics, interfaceDiagnostics, hi, hv]

lemma errors_of_none (hi : c.interface? = none) : c.diagnostics.errors = [] := by
  simp only [errors_diagnostics, interfaceDiagnostics, hi]
  rfl

lemma hasErrors_iff :
    c.diagnostics.hasErrors ↔
      ∃ text e, c.interface? = some text ∧ InterfaceName.validate text = .error e := by
  cases hi : c.interface? with
  | none => simp [Diagnostics.hasErrors, errors_of_none hi]
  | some text =>
    cases hv : InterfaceName.validate text with
    | ok name => simp [Diagnostics.hasErrors, errors_of_valid hi hv, hv]
    | error e => simp [Diagnostics.hasErrors, errors_of_invalid hi hv, hv]

end SetupConfig

lemma InterfaceName.exists_fault_of_validate {text : String} (h : validate text = .error e) :
    ∃ fault, ofText text = .error fault ∧ e = .invalidInterfaceName text fault := by
  unfold validate at h
  split at h
  next => cases h
  next fault hfault =>
    cases h
    exact ⟨fault, hfault, rfl⟩

/-! ### Diagnostics and setups -/

/-- A call that the kernel has refused in the run is what the error tells of. -/
def SetupError.ComesOf (e : SetupError) (interface : String) (t : Trace) : Prop :=
  ∃ r errno, (r, errno) ∈ t.refusals ∧ e = (Asker.connection interface 0).blame r (.os errno) ∧
    e.source? = some (.os errno)

lemma DiscoverySocket.ConfiguredOpening.comesOf {config : SetupConfig} {text : String}
    {name : InterfaceName} (h : ConfiguredOpening config s t (.error e) s')
    (hi : config.interface? = some text) (hv : InterfaceName.validate text = .ok name) :
    e.ComesOf text t := by
  have hdecides : t.Decides (fun _ => True)
      (Asker.connection (config.interface?.getD "") 0).blame (some e) := h.decides
  obtain ⟨r, errno, hmem, he⟩ := hdecides.exists_refusal (h.refuses hi hv)
  rw [hi] at he
  cases he
  exact ⟨r, errno, hmem, rfl, Asker.source?_blame _ r _⟩

lemma DiscoverySocket.ConfiguredOpening.eq_of_none {config : SetupConfig}
    {r : Except SetupError DiscoverySocket} (h : ConfiguredOpening config s t r s')
    (hi : config.interface? = none) : t = [] ∧ r = .error (.config "no interface configured") := by
  cases h with
  | unnamed => exact ⟨rfl, rfl⟩
  | failed hsome | blocking hsome | unswitched hsome | switched hsome =>
    cases hi.symm.trans hsome

/-- The errors of a setup from a configuration: a missing interface is told as such, an invalid
one is rejected, and all else comes of a refused call. -/
lemma DiscoverySocket.ConfiguredOpening.cases_of_error {config : SetupConfig}
    (h : ConfiguredOpening config s t (.error e) s') :
    (config.interface? = none ∧ e = .config "no interface configured") ∨
      (∃ text invalid, config.interface? = some text ∧
        InterfaceName.validate text = .error invalid ∧ Rejecting invalid t e) ∨
      ∃ text name, config.interface? = some text ∧ InterfaceName.validate text = .ok name ∧
        e.ComesOf text t := by
  cases hi : config.interface? with
  | none =>
    obtain ⟨-, ⟨⟩⟩ := h.eq_of_none hi
    exact .inl ⟨rfl, rfl⟩
  | some text =>
    cases hv : InterfaceName.validate text with
    | error invalid =>
      obtain ⟨_, hrejecting, ⟨⟩⟩ := h.rejecting hi hv
      exact .inr (.inl ⟨text, invalid, rfl, hv, hrejecting⟩)
    | ok name => exact .inr (.inr ⟨text, name, rfl, hv, h.comesOf hi hv⟩)

/-- For every configuration, whatever the kernel answers to a setup from it:

* the diagnostics have an error if and only if there is an interface that is no interface name;
  it is the only one, and quotes the error of that name. A missing interface is a warning;
* the setup fails for want of a configured interface if and only if there is none, and then it
  asks nothing of the kernel;
* if the diagnostics have an error, the setup fails with the error that they quote, after it has
  opened and closed its session socket and nothing else, unless this cannot even be opened;
* if they have none, the setup never fails over an interface name. Unless the interface is
  missing, each of its errors comes of a call that the kernel refused. -/
theorem diagnostics_predict_setup (c : SetupConfig) :
    (c.diagnostics.hasErrors ↔ ∃ text invalid, c.interface? = some text ∧
      InterfaceName.validate text = .error invalid) ∧
    (∀ text invalid, c.interface? = some text → InterfaceName.validate text = .error invalid →
      c.diagnostics.errors = ["interface: " ++ invalid.message] ∧
        ∃ fault, InterfaceName.ofText text = .error fault ∧
          invalid = .invalidInterfaceName text fault) ∧
    (c.interface? = none →
      "interface: not specified, callers must name one" ∈ c.diagnostics.warnings) ∧
    ∀ s t r s', ((DiscoverySocket.ofConfig c).run.run s).Yields t (r, s') →
      ((∃ text, r = .error (.config text)) ↔ c.interface? = none) ∧
      (c.interface? = none → t = []) ∧
      (c.diagnostics.hasErrors → ∃ text invalid e, c.interface? = some text ∧
        InterfaceName.validate text = .error invalid ∧ r = .error e ∧ Rejecting invalid t e) ∧
      (c.diagnostics.hasErrors = false → ∀ e, r = .error e →
        (∀ text fault, e ≠ .invalidInterfaceName text fault) ∧
          (c.interface? = none ∨ ∃ text, c.interface? = some text ∧ e.ComesOf text t)) := by
  refine ⟨SetupConfig.hasErrors_iff, ?_, ?_, ?_⟩
  · intro text invalid hi hv
    exact ⟨SetupConfig.errors_of_invalid hi hv, InterfaceName.exists_fault_of_validate hv⟩
  · intro hi
    apply SetupConfig.warnings_subset
    simp [SetupConfig.interfaceDiagnostics, hi, Diagnostics.warn]
  · intro s t r s' h
    have hcourse := ConfiguredOpening.of_yields h
    refine ⟨⟨?_, ?_⟩, fun hi => (hcourse.eq_of_none hi).1, ?_, ?_⟩
    · rintro ⟨text, rfl⟩
      -- no other error says that the configuration names no interface
      rcases hcourse.cases_of_error with ⟨hi, -⟩ | ⟨_, invalid, -, hv, hrejecting⟩ |
        ⟨_, _, -, -, _, _, -, -, hsource⟩
      · exact hi
      · obtain ⟨fault, -, rfl⟩ := InterfaceName.exists_fault_of_validate hv
        cases hrejecting
      · cases hsource
    · intro hi
      exact ⟨_, (hcourse.eq_of_none hi).2⟩
    · intro herrors
      obtain ⟨text, invalid, hi, hv⟩ := SetupConfig.hasErrors_iff.mp herrors
      obtain ⟨e, hrejecting, hr⟩ := hcourse.rejecting hi hv
      exact ⟨text, invalid, e, hi, hv, hr, hrejecting⟩
    · rintro hnone e rfl
      rcases hcourse.cases_of_error with ⟨hi, rfl⟩ | ⟨text, invalid, hi, hv, -⟩ |
        ⟨text, name, hi, -, hcomes⟩
      · exact ⟨nofun, .inl hi⟩
      · have herrors := SetupConfig.hasErrors_iff.mpr ⟨text, invalid, hi, hv⟩
        rw [hnone] at herrors
        cases herrors
      · refine ⟨?_, .inr ⟨text, hi, hcomes⟩⟩
        rintro _ _ rfl
        obtain ⟨_, _, -, -, ⟨⟩⟩ := hcomes

/-- What a setup on this interface comes to on the simulated machine. -/
def settingUp (interface : String) :
    Outcome SimulatedState (Except SetupError DiscoverySocket × ControlSocket) :=
  ((DiscoverySocket.ofConfig { interface? := some interface }).run.run .closed).run simulated
    .oneInterface

/-- An interface name with a slash is rejected after the session socket has been opened; one that
is unknown to the machine is valid, and the setup fails when its address is looked up. -/
theorem diagnostics_predict_setup_unsuitable :
    Rejecting (.invalidInterfaceName "eth0/1" .badByte) (settingUp "eth0/1").trace
        (.invalidInterfaceName "eth0/1" .badByte) ∧
      (SetupError.lookup "eth1" (.os .noDevice)).ComesOf "eth1" (settingUp "eth1").trace := by
  obtain ⟨-, -, -, hslash⟩ := diagnostics_predict_setup { interface? := some "eth0/1" }
  obtain ⟨-, -, -, hunknown⟩ := diagnostics_predict_setup { interface? := some "eth1" }
  constructor
  · have hr : (settingUp "eth0/1").value.1 = .error (.invalidInterfaceName "eth0/1" .badByte) := by
      decide +kernel
    obtain ⟨-, -, herrors, -⟩ := hslash _ _ _ _ (Program.yields_run _ _ _)
    obtain ⟨text, invalid, e, hi, hv, he, hrejecting⟩ := herrors (by decide +kernel)
    cases hi
    cases hr.symm.trans he
    cases hv
    exact hrejecting
  · have hr : (settingUp "eth1").value.1 = .error (.lookup "eth1" (.os .noDevice)) := by
      decide +kernel
    obtain ⟨-, -, -, hvalid⟩ := hunknown _ _ _ _ (Program.yields_run _ _ _)
    obtain ⟨-, hnone | ⟨text, hi, hcomes⟩⟩ := hvalid (by decide +kernel) _ hr
    · cases hnone
    · cases hi
      exact hcomes

end PppoeSetup
