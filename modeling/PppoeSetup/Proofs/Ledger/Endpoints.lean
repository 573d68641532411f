import Mathlib.Algebra.BigOperators.Fin
import PppoeSetup.Proofs.Ledger.Courses
import PppoeSetup.Proofs.Readiness

/-!
# The ledger along the actions of a workbench

What each endpoint holds, and that every action has only calls in order and accounts for what it
opens and closes.
-/

namespace PppoeSetup

open Kernel Ledger Connection DiscoverySocket AsyncSocket

variable {client : Option Connection} {m : Holdings} {t : Trace} {s s' : ControlSocket}

namespace Endpoint

/-- What a slot holds, by way of its connection. -/
def holdings (held : Option Endpoint) : Holdings := held.elim 0 (·.underlying.holdings)

@[simp] lemma holdings_none : holdings none = 0 := rfl

@[simp] lemma holdings_some (e : Endpoint) : holdings (some e) = e.underlying.holdings := rfl

lemma Discarding.carries {held : Option Endpoint} (h : Discarding held t) :
    Carries client t (Holds · (holdings held + m)) (Holds · m) := by
  cases h with
  | empty =>
    rw [holdings_none, zero_add]
    exact .nil
  | released hr => exact hr.carries

end Endpoint

namespace DiscoverySocket

open Endpoint

variable {c : Connection} {d d' : DiscoverySocket}

/-- A discovery socket is used only after it has been bound. -/
lemma WellFormed.used (hd : d.WellFormed) {r : Request} {a : r.Answer}
    (hr : r.descriptor? = some d.rawFd) (hclose : r ≠ .close d.rawFd)
    (hallow : Stage.bound.allows r) :
    Carries client [.call r a] (Holds · (d.connection.holdings + m))
      (Holds · (d.connection.holdings + m)) := by
  have hm : (d.rawFd, Stage.bound) ∈ d.connection.holdings + m := by
    simp [Connection.holdings, hd.lent]
  apply Carries.used hm hr hclose rfl
  intro L hL
  exact permits_of_bound (hL.allows hm hr hallow) hallow

lemma Wrapping.carries {r : Except SetupError DiscoverySocket} (h : Wrapping c t r) :
    Carries client t (Holds · (c.holdings + m))
      (Holds · (Endpoint.holdings (made .discovery r).2 + m)) := by
  cases h with
  | wrapped => exact .nil
  | refused _ hr =>
    rw [made, holdings_none, zero_add]
    exact hr.carries

lemma FreshOpening.carries {name : String} {r : Except SetupError DiscoverySocket}
    (h : FreshOpening c name s t r s') :
    Carries client t (Holds · (s.holdings + (c.holdings + m)))
      (Holds · (s'.holdings + (Endpoint.holdings (made .discovery r).2 + m))) := by
  cases h with
  | failed hb hr =>
    rw [made, holdings_none, zero_add]
    refine .append hb.carries ?_
    rw [add_left_comm]
    exact hr.carries
  | broughtUp hb hw =>
    exact .append hb.carries (.beside (fun _ => hw.carries) _)

/-- A fresh connection holds nothing. -/
lemma FreshOpening.carries_fresh {timeout : Option Duration} {name : String}
    {r : Except SetupError DiscoverySocket} (h : FreshOpening (.fresh timeout) name s t r s') :
    Carries client t (Holds · (s.holdings + m))
      (Holds · (s'.holdings + (Endpoint.holdings (made .discovery r).2 + m))) := by
  refine h.carries.reorder ?_ rfl
  rw [holdings_fresh, zero_add]

lemma ModeSetting.carries (hd : d.WellFormed) {nonblocking : Bool} {r : Except SetupError Unit}
    (h : ModeSetting d nonblocking t r) :
    Carries client t (Holds · (d.connection.holdings + m))
      (Holds · (d.connection.holdings + m)) := by
  cases h with
  | unread e => exact hd.used rfl (by simp) rfl
  | refused flags e =>
    exact .append (t := [_]) (hd.used rfl (by simp) rfl)
      (hd.used rfl (by simp) rfl)
  | set flags =>
    refine .append (t := [_]) (hd.used rfl (by simp) rfl) ?_
    exact .append (t := [_]) (hd.used rfl (by simp) rfl) (.event .nil)

lemma ConfiguredOpening.carries {config : SetupConfig} {r : Except SetupError DiscoverySocket}
    (h : ConfiguredOpening config s t r s') :
    Carries client t (Holds · (s.holdings + m))
      (Holds · (s'.holdings + (Endpoint.holdings (made .discovery r).2 + m))) := by
  cases h with
  | unnamed =>
    rw [made, holdings_none, zero_add]
    exact .nil
  | failed _ hf | blocking _ _ hf => exact hf.carries_fresh
  | switched _ _ hf hm =>
    have hd := hf.wellFormed (.fresh _)
    exact .append hf.carries_fresh (.beside (fun _ => hm.carries hd) _)
  | unswitched _ _ hf hm hr =>
    have hd := hf.wellFormed (.fresh _)
    refine .append hf.carries_fresh (.append (.beside (fun _ => hm.carries hd) _) ?_)
    rw [made, holdings_none, zero_add, add_left_comm]
    exact hr.carries

lemma Transferring.carries (hd : d.WellFormed) (h : Transferring d t d') :
    Carries client t (Holds · (d.connection.holdings + m))
      (Holds · (d'.connection.holdings + m)) := by
  cases h with
  | sent h =>
    obtain ⟨rfl, rfl⟩ := yields_send.mp h
    exact hd.used rfl (by simp) rfl
  | received h =>
    obtain ⟨_, rfl, rfl, rfl⟩ := yields_receive.mp h
    exact hd.used rfl (by simp) rfl

end DiscoverySocket

namespace AsyncSocket

variable {d d' : DiscoverySocket}

lemma Retrying.carries {α : Type}
    {attempt : DiscoverySocket → Program (Except Errno α × DiscoverySocket)} {n : Nat}
    {r : Poll (Except Errno α)}
    (ha : ∀ {d t r d'}, (attempt d).Yields t (r, d') → Transferring d t d')
    (hd : d.WellFormed) (h : Retrying attempt n d t r d') :
    Carries client t (Holds · (d.connection.holdings + m))
      (Holds · (d'.connection.holdings + m)) := by
  induction h with
  | exhausted => exact .nil
  | putOff h _ ih => exact .append ((ha h).carries hd) (ih ((ha h).wellFormed hd))
  | finished _ h => exact (ha h).carries hd

lemma Awaiting.carries (hd : d.WellFormed) (h : Awaiting d t d') :
    Carries client t (Holds · (d.connection.holdings + m))
      (Holds · (d'.connection.holdings + m)) := by
  cases h with
  | sent h =>
    refine .append (t := [_]) (hd.used rfl (by simp) rfl) ?_
    exact Retrying.carries .sent hd h
  | received h =>
    refine .append (t := [_]) (hd.used rfl (by simp) rfl) ?_
    exact Retrying.carries .received hd h

lemma Watching.carries (hd : d.WellFormed)
    {r : Except SetupError AsyncSocket} (h : Watching d t r) :
    Carries client t (Holds · (d.connection.holdings + m))
      (Holds · (Endpoint.holdings (Endpoint.made .async r).2 + m)) := by
  cases h with
  | unswitched hm hr =>
    rw [Endpoint.made, Endpoint.holdings_none, zero_add]
    exact .append (hm.carries hd) hr.carries
  | unwatched e hm hr =>
    rw [Endpoint.made, Endpoint.holdings_none, zero_add]
    refine .append (hm.carries hd) (.append (t := [_]) ?_ hr.carries)
    exact hd.used rfl (by simp) rfl
  | watched hm =>
    refine .append (hm.carries hd) ?_
    exact hd.used rfl (by simp) rfl

lemma Unwatching.carries {a : AsyncSocket} (ha : a.socket.WellFormed)
    {r : Except SetupError DiscoverySocket} (h : Unwatching a t r) :
    Carries client t (Holds · (a.socket.connection.holdings + m))
      (Holds · (Endpoint.holdings (Endpoint.made .discovery r).2 + m)) := by
  cases h with
  | unswitched hm hr =>
    rw [Endpoint.made, Endpoint.holdings_none, zero_add]
    exact .append (hm.carries ha) hr.carries
  | switched hm => exact hm.carries ha

end AsyncSocket

/-! ### Actions and operations -/

namespace Endpoint

variable {held held' : Option Endpoint} {action : Action} {reply : Reply}

lemma underlying_of_socket {e : Endpoint} {d : DiscoverySocket} (h : e.socket? = some d) :
    e.underlying = d.connection := by
  cases e with
  | connection => cases h
  | discovery => cases h; rfl
  | async => cases h; rfl

lemma underlying_withSocket {e : Endpoint} {d d' : DiscoverySocket} (h : e.socket? = some d) :
    (e.withSocket d').underlying = d'.connection := by
  cases e with
  | connection => cases h
  | _ => rfl

lemma Acting.carries (h : Acting held s action t reply held' s')
    (hw : ∀ e, held = some e → e.WellFormed) :
    Carries (held.map (·.underlying)) t (Holds · (s.holdings + (holdings held + m)))
      (Holds · (s'.holdings + (holdings held' + m))) := by
  -- what the slot held is given up first, and what comes next starts from nothing;
  -- other actions keep what they hold
  cases h with
  | idle | timed | unwrapped => exact .nil
  | created hd | configured _ hd | unreadable _ hd | unreadableSetUp _ hd | dropped hd =>
    refine hd.carries.reorder (add_left_comm ..) ?_
    simp [underlying, Connection.ofConfig]
  | opened hd hf =>
    refine .append (hd.carries.reorder (add_left_comm ..) rfl) ?_
    exact hf.carries_fresh
  | setUp _ hd hc =>
    refine .append (hd.carries.reorder (add_left_comm ..) rfl) ?_
    exact hc.carries
  | named hn =>
    refine hn.carries.reorder rfl ?_
    rw [holdings_some, holdings_some, underlying, underlying, holdings_congr hn.keeps]
  | broughtUp hb => exact hb.carries
  | cleared hc =>
    refine hc.carries.reorder (add_left_comm ..) ?_
    rw [holdings_some, underlying, holdings_fresh, zero_add]
  | connected hc | connectedTo hc | wrapped hc => exact .beside (fun _ => hc.carries) _
  | channelled hc => exact .beside (fun _ => hc.carries (hw _ rfl).underlying.paired.mp) _
  | watched hwatch | unwatched hwatch | awaited _ hwatch =>
    exact .beside (fun _ => hwatch.carries (hw _ rfl)) _
  | switched hd hm =>
    have hwf := (hw _ rfl).socket hd
    rw [holdings_some, underlying_of_socket hd]
    exact .beside (fun _ => hm.carries hwf) _
  | transferred _ hd ht =>
    have hwf := (hw _ rfl).socket hd
    rw [holdings_some, holdings_some, underlying_of_socket hd, underlying_withSocket hd]
    exact .beside (fun _ => ht.carries hwf) _

end Endpoint

namespace Workbench

variable {slots : Nat} {w w' : Workbench slots}

def holdings (w : Workbench slots) : Holdings :=
  w.control.holdings + ∑ i, Endpoint.holdings (w.held i)

/-- One slot, and all others. -/
lemma holdings_eq (w : Workbench slots) (i : Fin slots) :
    w.holdings = w.control.holdings + (Endpoint.holdings (w.held i) +
      ∑ j ∈ Finset.univ.erase i, Endpoint.holdings (w.held j)) := by
  have hi := Finset.mem_univ i
  rw [holdings, ← Finset.add_sum_erase _ (fun j => Endpoint.holdings (w.held j)) hi]

lemma holdings_put (w : Workbench slots) (i : Fin slots) (e : Option Endpoint) :
    (w.put i e).holdings = w.control.holdings + (Endpoint.holdings e +
      ∑ j ∈ Finset.univ.erase i, Endpoint.holdings (w.held j)) := by
  rw [holdings_eq _ i, held_put_self, control_put]
  congr 2
  apply Finset.sum_congr rfl
  intro j hj
  rw [held_put_of_ne _ (Finset.ne_of_mem_erase hj)]

lemma Performing.carries {op : Operation slots} {reply : Reply} (h : Performing w op t reply w')
    (hw : ∀ i e, w.held i = some e → e.WellFormed) :
    Carries (w.client op) t (Holds · w.holdings) (Holds · w'.holdings) := by
  cases h with
  | opened ho | resolvedIndex _ ho | resolvedAddress _ ho => exact ho.carries
  | closed hc =>
    refine hc.carries.reorder rfl ?_
    simp [holdings]
  | described | invalidIndex | invalidAddress => exact .nil
  | @acted slot _ _ _ held s ha =>
    have hheld := w.holdings_eq slot
    rw [holdings_put, hheld]
    exact ha.carries (hw slot)

end Workbench

end PppoeSetup
