import PppoeSetup.Discovery.Socket
import PppoeSetup.Proofs.Kernel.Lawful
import PppoeSetup.Proofs.Kernel.Use

/-!
# Status flags

What is assumed of a kernel about the status flags of its descriptors, and what setting the mode
of a descriptor does to them.
-/

namespace PppoeSetup

open Kernel DiscoverySocket

/-! ### One flag of a word -/

/-- The nonblocking flag in this mode. -/
def Kernel.Request.modeFlag (on : Bool) : UInt32 := if on then nonblockingFlag else 0

/-- A later flag word beside an earlier one: the nonblocking flag is as it was asked for last, if
it ever was, and all other flags are the same. -/
structure Kernel.Request.Follows (mode : Option Bool) (word word' : UInt32) : Prop where
  flag : word' &&& nonblockingFlag = mode.elim (word &&& nonblockingFlag) modeFlag
  others : word' &&& ~~~nonblockingFlag = word &&& ~~~nonblockingFlag

open Request

variable {flags word word' : UInt32} {mode : Option Bool}

lemma withMode_flag (flags : UInt32) (on : Bool) :
    withMode flags on &&& nonblockingFlag = modeFlag on := by
  cases on with
  | true =>
    apply UInt32.toBitVec_inj.mp
    ext i hi
    simp [withMode, modeFlag, Bool.and_or_distrib_right]
  | false => simp [withMode, modeFlag, UInt32.and_assoc]

lemma withMode_others (flags : UInt32) (on : Bool) :
    withMode flags on &&& ~~~nonblockingFlag = flags &&& ~~~nonblockingFlag := by
  cases on with
  | true =>
    apply UInt32.toBitVec_inj.mp
    ext i hi
    simp [withMode, Bool.and_or_distrib_right]
  | false => simp [withMode, UInt32.and_assoc]

/-- A word is its nonblocking flag and its other flags. -/
lemma Kernel.Request.eq_of_flags (hflag : word &&& nonblockingFlag = word' &&& nonblockingFlag)
    (hothers : word &&& ~~~nonblockingFlag = word' &&& ~~~nonblockingFlag) : word = word' := by
  have hsplit (w : UInt32) : w = (w &&& nonblockingFlag) ||| (w &&& ~~~nonblockingFlag) := by
    apply UInt32.toBitVec_inj.mp
    ext i hi
    simp [← Bool.and_or_distrib_left]
  rw [hsplit word, hsplit word', hflag, hothers]

/-- Asking for the mode that a descriptor is in changes nothing. -/
lemma withMode_eq_self {on : Bool} (h : flags &&& nonblockingFlag = modeFlag on) :
    withMode flags on = flags :=
  eq_of_flags ((withMode_flag flags on).trans h.symm) (withMode_others flags on)

lemma withMode_withMode (flags : UInt32) (on : Bool) :
    withMode (withMode flags on) on = withMode flags on :=
  withMode_eq_self (withMode_flag flags on)

namespace Kernel.Request

lemma Follows.refl (word : UInt32) : Follows none word word := ⟨rfl, rfl⟩

lemma Follows.withMode (h : Follows mode word word') (on : Bool) :
    Follows (some on) word (DiscoverySocket.withMode word' on) :=
  ⟨withMode_flag word' on, (withMode_others word' on).trans h.others⟩

end Kernel.Request

/-! ### Kernels that keep flag words -/

namespace Kernel

/-- The word of the descriptor may be another one after this: the descriptor is new, or its flags
have been set. -/
inductive Entry.Rewrites (fd : Descriptor) : Entry → Prop
  | opened (kind : SocketKind) : Rewrites fd (.call (.openSocket kind) (.ok fd))
  | set (flags : UInt32) : Rewrites fd (.call (.setStatusFlags fd flags) (.ok ()))

/-- The kernel keeps a flag word for every descriptor, and `word t fd` is that of `fd` after `t`:
it tells this word if it is asked for the flags, and puts another one in its place if it sets them.
Nothing else changes the word of a descriptor while it is open. -/
structure Trace.KeepsFlags (word : Trace → Descriptor → UInt32) (t : Trace) : Prop where
  told {u : Trace} {fd : Descriptor} {flags : UInt32} {v : Trace} :
    t = u ++ .call (.statusFlags fd) (.ok flags) :: v → flags = word u fd
  set {u : Trace} {fd : Descriptor} {flags : UInt32} {v : Trace} :
    t = u ++ .call (.setStatusFlags fd flags) (.ok ()) :: v →
      word (u ++ [.call (.setStatusFlags fd flags) (.ok ())]) fd = flags
  kept {u : Trace} {entry : Entry} {v : Trace} {fd : Descriptor} :
    t = u ++ entry :: v → ¬ entry.Rewrites fd → word (u ++ [entry]) fd = word u fd

namespace Trace

/-- The flags of the descriptor are set. -/
def SetsFlags (fd : Descriptor) (t : Trace) : Prop :=
  ∃ flags, .call (.setStatusFlags fd flags) (.ok ()) ∈ t

variable {word : Trace → Descriptor → UInt32} {t u v x : Trace} {fd : Descriptor}

lemma setsFlags_append : (t ++ u).SetsFlags fd ↔ t.SetsFlags fd ∨ u.SetsFlags fd := by
  simp only [SetsFlags, List.mem_append, exists_or]

lemma KeepsFlags.left (h : (t ++ u).KeepsFlags word) : t.KeepsFlags word where
  told ht := h.told (by rw [ht, List.append_assoc]; rfl)
  set ht := h.set (by rw [ht, List.append_assoc]; rfl)
  kept ht := h.kept (by rw [ht, List.append_assoc]; rfl)

lemma KeepsFlags.word_eq_of_not_rewrites (h : (t ++ u).KeepsFlags word)
    (hu : ∀ entry ∈ u, ¬ entry.Rewrites fd) : word (t ++ u) fd = word t fd := by
  induction u using List.reverseRecOn with
  | nil => rw [List.append_nil]
  | append_singleton u entry ih =>
    rw [← List.append_assoc] at h ⊢
    rw [h.kept (v := []) rfl (hu entry (by simp)), ih h.left]
    intro entry' hentry'
    exact hu entry' (List.mem_append_left _ hentry')

/-- A descriptor that stays open is not given out. -/
lemma Lawful.notMem_openSocket (h : (t ++ u).Lawful) (ho : fd ∈ t.opened) (hc : fd ∉ u.closed)
    (kind : SocketKind) : .call (.openSocket kind) (.ok fd) ∉ u := by
  intro hmem
  obtain ⟨v, x, rfl⟩ := List.append_of_mem hmem
  refine h (t ++ v) kind fd x (by rw [List.append_assoc]) ?_
  rw [opened_append]
  refine mem_openFrom_of_mem ho fun hv => hc ?_
  rw [closed_append]
  exact List.mem_append_left _ hv

/-! ### Reading and writing flags -/

/-- A question about the flags is refused, or an attempt to set them. -/
def RefusesFlags (t : Trace) : Prop :=
  ∃ fd e, .call (.statusFlags fd) (.error e) ∈ t ∨
    ∃ flags, .call (.setStatusFlags fd flags) (.error e) ∈ t

/-- Flags are only set right after they have been read, to what they are in the mode that is asked
for; if a step of this is refused, they are not set at all. -/
structure Switches (mode : Option Bool) (t : Trace) : Prop where
  written {u : Trace} {fd : Descriptor} {flags : UInt32} {v : Trace} :
    t = u ++ .call (.setStatusFlags fd flags) (.ok ()) :: v →
      ∃ (x : Trace) (told : UInt32) (on : Bool),
        u = x ++ [.call (.statusFlags fd) (.ok told)] ∧ mode = some on ∧ flags = withMode told on
  refused (fd : Descriptor) : t.RefusesFlags → ¬ t.SetsFlags fd

/-- While a descriptor stays open, its word is as it was, or in the mode that is asked for. The
induction is on what happens in the meantime, from its end. -/
lemma Switches.word_cases (h : (u ++ (v ++ x)).Switches mode) (hl : (t ++ (u ++ v)).Lawful)
    (hk : (t ++ (u ++ v)).KeepsFlags word) (ho : fd ∈ (t ++ u).opened) (hc : fd ∉ v.closed) :
    (¬ v.SetsFlags fd ∧ word (t ++ (u ++ v)) fd = word (t ++ u) fd) ∨
      ∃ on, mode = some on ∧ v.SetsFlags fd ∧
        word (t ++ (u ++ v)) fd = withMode (word (t ++ u) fd) on := by
  induction v using List.reverseRecOn generalizing x with
  | nil => exact .inl ⟨by simp [SetsFlags], by rw [List.append_nil]⟩
  | append_singleton v entry ih =>
    have hassoc : t ++ (u ++ (v ++ [entry])) = t ++ (u ++ v) ++ [entry] := by simp
    rw [closed_append, List.mem_append, not_or] at hc
    rw [hassoc] at hl hk ⊢
    have hearlier := ih (x := entry :: x) (by simpa using h) hl.left hk.left hc.1
    by_cases hentry : ∃ flags, entry = .call (.setStatusFlags fd flags) (.ok ())
    · obtain ⟨flags, rfl⟩ := hentry
      have hsplit : u ++ (v ++ [.call (.setStatusFlags fd flags) (.ok ())] ++ x) =
          (u ++ v) ++ .call (.setStatusFlags fd flags) (.ok ()) :: x := by simp
      obtain ⟨y, told, on, hy, hmode, rfl⟩ := h.written hsplit
      -- the word that has been told is that of the descriptor when its flags are set
      have htold : word (t ++ (u ++ v)) fd = told := by
        rw [hy, ← List.append_assoc] at hk ⊢
        have hread := hk.left
        exact (hread.kept (v := []) rfl nofun).trans (hread.told (v := []) rfl).symm
      refine .inr ⟨on, hmode, ⟨withMode told on, by simp⟩, ?_⟩
      rw [hk.set (v := []) rfl, ← htold]
      rcases hearlier with ⟨-, hsame⟩ | ⟨on', hmode', -, hset⟩
      · rw [hsame]
      · obtain rfl : on = on' := Option.some.inj (hmode.symm.trans hmode')
        rw [hset, withMode_withMode]
    · have hsets : SetsFlags fd (v ++ [entry]) ↔ SetsFlags fd v := by
        rw [setsFlags_append, or_iff_left]
        rintro ⟨flags, hflags⟩
        exact hentry ⟨flags, (List.mem_singleton.mp hflags).symm⟩
      have hsame : word (t ++ (u ++ v) ++ [entry]) fd = word (t ++ (u ++ v)) fd := by
        apply hk.kept (v := []) rfl
        rintro ⟨kind⟩
        · have hopen : fd ∈ (t ++ (u ++ v)).opened := by
            rw [← List.append_assoc, opened_append]
            exact mem_openFrom_of_mem ho hc.1
          exact hl.notMem_openSocket hopen (by simp [Request.closing?]) kind (by simp)
        · exact hentry ⟨_, rfl⟩
      rwa [hsets, hsame]

end Trace

/-! ### The simulated kernel -/

/-- The word of a descriptor after one more entry. -/
def Entry.wordAfter (fd : Descriptor) (word : UInt32) : Entry → UInt32
  | .call (.setStatusFlags fd' flags) (.ok ()) => if fd' = fd then flags else word
  | _ => word

/-- The word that a descriptor has been given last; a new one has the word `new`. -/
def Trace.writtenWord (new : UInt32) (t : Trace) (fd : Descriptor) : UInt32 :=
  t.foldl (Entry.wordAfter fd) new

section

variable {s : SimulatedState} {entry : Entry} {fd : Descriptor} {t : Trace} {α : Type}

lemma Entry.wordAfter_eq_self (h : ¬ entry.Rewrites fd) : entry.wordAfter fd word = word := by
  cases entry with
  | event e => rfl
  | call r a =>
    cases r with
    | setStatusFlags fd' flags =>
      cases a with
      | error e => rfl
      | ok _ =>
        have hne : fd' ≠ fd := by
          rintro rfl
          exact h (.set flags)
        exact if_neg hne
    | _ => rfl

/-- Flags are only changed by setting them. -/
lemma SimulatedState.flagsOf_perform (r : Request) :
    (s.perform r).2.flagsOf fd = (Entry.call r (s.perform r).1).wordAfter fd (s.flagsOf fd) := by
  cases r with
  | setStatusFlags fd' flags =>
    by_cases hfd : fd = fd'
    · simp [perform, flagsOf, Entry.wordAfter, hfd]
    · simp [perform, flagsOf, Entry.wordAfter, Ne.symm hfd, List.lookup_cons, beq_false_of_ne hfd]
  | notifications fd' direction => cases direction <;> rfl
  | openSocket | setOption | statusFlags | close | register => rfl
  | _ =>
    simp only [perform, Entry.wordAfter]
    grind [flagsOf]

lemma flagsOf_respond (r : Request) : (simulated.respond s r).2.flagsOf fd =
    (Entry.call r (simulated.respond s r).1).wordAfter fd (s.flagsOf fd) := by
  obtain ⟨s', -, hflags, ⟨e, he, hr⟩ | hp⟩ := respond_eq s r
  · have hsame : s'.flagsOf fd = s.flagsOf fd := by simp only [SimulatedState.flagsOf, hflags]
    rw [hr, hsame]
    cases r with
    | setStatusFlags fd' flags =>
      rw [← Option.some.inj he]
      rfl
    | _ => rfl
  · rw [hp, SimulatedState.flagsOf_perform]
    simp only [SimulatedState.flagsOf, hflags]

lemma respond_statusFlags {flags : UInt32}
    (h : (simulated.respond s (.statusFlags fd)).1 = .ok flags) : flags = s.flagsOf fd := by
  obtain ⟨s', -, hflags, ⟨e, he, -⟩ | hp⟩ := respond_eq s (.statusFlags fd)
  · rw [h] at he
    cases he
  · rw [hp] at h
    cases h
    simp only [SimulatedState.flagsOf, hflags]

/-- The kernel tells what has been written last. The induction is on the program. -/
lemma told_of_run (p : Program α) {u v : Trace} {flags : UInt32}
    (ht : (p.run simulated s).trace = u ++ .call (.statusFlags fd) (.ok flags) :: v) :
    flags = u.writtenWord (s.flagsOf fd) fd := by
  induction p generalizing s u with
  | done a => simp [Program.run] at ht
  | tell e next ih =>
    cases u with
    | nil => cases ht
    | cons entry u =>
      obtain ⟨rfl, htail⟩ := List.cons.inj ht
      rw [ih htail]
      rfl
  | ask r next ih =>
    cases u with
    | nil =>
      obtain ⟨hr, -⟩ := List.cons.inj ht
      obtain ⟨rfl, ha⟩ := Entry.call.inj hr
      exact respond_statusFlags (eq_of_heq ha)
    | cons entry u =>
      obtain ⟨rfl, htail⟩ := List.cons.inj ht
      rw [ih _ htail, flagsOf_respond]
      rfl

theorem keepsFlags_run_simulated (p : Program α) (hs : s.flags = []) :
    (p.run simulated s).trace.KeepsFlags (Trace.writtenWord SimulatedState.newFlags) where
  told ht := by
    rw [told_of_run p ht]
    simp [SimulatedState.flagsOf, hs]
  set _ := by simp [Trace.writtenWord, Entry.wordAfter]
  kept _ hentry := by
    simp only [Trace.writtenWord, List.foldl_append, List.foldl_cons, List.foldl_nil]
    exact Entry.wordAfter_eq_self hentry

end

end Kernel

end PppoeSetup
