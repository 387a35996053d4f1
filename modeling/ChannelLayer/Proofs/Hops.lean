import ChannelLayer.Proofs.Acceptance

/-!
# Looking for a connection

An end, or a message, is over the first of its hops. Where there is none, `noHop` is a fault of the handler that
looks for it, and no way to turn a message down. Checking a message does not come to that (`Message.findsHop`)
where every end of the store has a hop: those that a message brings are counted before the first one is read.
-/

set_option autoImplicit false

namespace ChannelLayer

theorem ne_nil_of_length {hops : List ConnectionId} (h : hops.length = 1) : hops ≠ [] := by
  rintro rfl
  cases h

/-- The check does not look for the connection of an end that has none. -/
def FindsHop {α : Type} (x : Except HandlerError α) : Prop := x ≠ .error .noHop

/-! ## Checks -/

section
variable {ε α β : Type} {x : Except HandlerError α}

@[simp] theorem findsHop_ok {a : α} : FindsHop (.ok a) := by simp [FindsHop]

@[simp] theorem findsHop_error {e : HandlerError} :
    FindsHop (.error e : Except HandlerError α) ↔ e ≠ .noHop := by
  simp [FindsHop]

@[simp] theorem findsHop_pure {a : α} : FindsHop (pure a) := findsHop_ok

@[simp] theorem findsHop_throw {e : HandlerError} :
    FindsHop (throw e : Except HandlerError α) ↔ e ≠ .noHop := findsHop_error

@[simp] theorem findsHop_bind {f : α → Except HandlerError β} :
    FindsHop (x >>= f) ↔ FindsHop x ∧ ∀ a, x = .ok a → FindsHop (f a) := by
  cases x <;> simp [FindsHop, bind, Except.bind]

@[simp] theorem findsHop_map {f : α → β} : FindsHop (f <$> x) ↔ FindsHop x := by
  cases x <;> simp [FindsHop, Functor.map, Except.map]

@[simp] theorem findsHop_discard : FindsHop (discard x) ↔ FindsHop x := by
  cases x <;> simp [FindsHop, discard, Functor.mapConst, Except.map]

@[simp] theorem findsHop_ite {p : Prop} [Decidable p] {y : Except HandlerError α} :
    FindsHop (if p then x else y) ↔ (p → FindsHop x) ∧ (¬p → FindsHop y) := by
  split <;> simp [*]

/-- A fault of another kind is not this one. -/
@[simp] theorem findsHop_mapError {y : Except ε α} {f : ε → HandlerError} (hf : ∀ e, f e ≠ .noHop) :
    FindsHop (y.mapError f) := by
  cases y with
  | ok a => exact findsHop_ok
  | error e => exact findsHop_error.2 (hf e)

@[simp] theorem findsHop_lift {y : Except ε α} {f : ε → HandlerError} (hf : ∀ e, f e ≠ .noHop) :
    FindsHop (@MonadLift.monadLift (Except ε) (Except HandlerError) ⟨Except.mapError f⟩ α y) :=
  findsHop_mapError hf

@[simp] theorem findsHop_firstHop {hops : List ConnectionId} : FindsHop (firstHop hops) ↔ hops ≠ [] := by
  cases hops <;> simp [firstHop]

end

variable {host : Host} {s : Store} {app : App} {id : EndId} {hop : ConnectionId} {n : Sequence}

@[simp] theorem Signer.findsHop_check (m : Signer) : FindsHop m.check := by simp [check]

namespace Store

@[simp] theorem findsHop_channel : FindsHop (s.channel id) := by
  unfold channel
  split <;> simp

@[simp] theorem findsHop_upgrade : FindsHop (s.upgrade id) := by
  unfold upgrade
  split <;> simp

@[simp] theorem findsHop_counterpartyUpgrade : FindsHop (s.counterpartyUpgrade id) := by
  unfold counterpartyUpgrade
  split <;> simp

@[simp] theorem findsHop_nextReceive : FindsHop (s.nextReceive id) := by
  unfold nextReceive
  split <;> simp [missing]

@[simp] theorem findsHop_nextAck : FindsHop (s.nextAck id) := by
  unfold nextAck
  split <;> simp [missing]

@[simp] theorem findsHop_commitment : FindsHop (s.commitment id n) := by
  unfold commitment
  split <;> simp

@[simp] theorem findsHop_connection : FindsHop (s.connection hop) := by
  unfold connection
  split <;> simp

@[simp] theorem findsHop_openConnection : FindsHop (s.openConnection hop) := by simp [openConnection]

end Store

section
variable [Digest] {clients : Clients} {conn : ConnectionEnd} {proof : Bytes} {height : Height}

@[simp] theorem ConnectionEnd.findsHop_verifyEnd {remote : EndId} {expected : ChannelEnd} :
    FindsHop (conn.verifyEnd clients proof height remote expected) := by
  simp [verifyEnd]

@[simp] theorem ConnectionEnd.findsHop_verifyUpgrade {remote : EndId} {expected : Upgrade} :
    FindsHop (conn.verifyUpgrade clients proof height remote expected) := by
  simp [verifyUpgrade]

@[simp] theorem Packet.findsHop_verifyUnreceived {p : Packet} {order : ChannelOrder}
    {nextReceive : Sequence} :
    FindsHop (p.verifyUnreceived clients conn order nextReceive proof height) := by
  cases order <;> simp [verifyUnreceived]

@[simp] theorem Store.findsHop_checkInFlight {p : Packet} : FindsHop (s.checkInFlight p) := by
  simp [checkInFlight]

end

namespace Store

theorem findsHop_closable (hhops : ∀ c, (s.record id).channel = some c → c.hops ≠ []) :
    FindsHop (s.closable id) := by
  simp +contextual [closable, hhops]

@[simp] theorem findsHop_checkProposal {f : UpgradeFields} {c : ChannelEnd} :
    FindsHop (s.checkProposal f c) := by
  simp +contextual [checkProposal, ne_nil_of_length]

end Store

/-! ## Messages -/

namespace Message

theorem OpenInit.findsHop {m : OpenInit} : FindsHop (m.validate s app) := by
  simp +contextual [validate, ne_nil_of_length]

theorem UpgradeInit.findsHop {m : UpgradeInit} : FindsHop (m.validate s app) := by simp [validate]

section
variable [Digest]

theorem OpenTry.findsHop {m : OpenTry} : FindsHop (m.validate host s app) := by
  have hreopen (hlen : m.hops.length = 1) : FindsHop (m.checkReopen s app) := by
    simp only [checkReopen, findsHop_bind, findsHop_firstHop]
    refine ⟨ne_nil_of_length hlen, fun hop _ => ?_⟩
    split <;> simp
  simp +contextual [validate, ne_nil_of_length, hreopen]

theorem OpenAck.findsHop {m : OpenAck} : FindsHop (m.validate host s app) := by
  simp +contextual [validate, ne_nil_of_length]

theorem OpenConfirm.findsHop {m : OpenConfirm} : FindsHop (m.validate host s app) := by
  simp +contextual [validate, ne_nil_of_length]

end

-- From here on the first hop that is read is that of an end, which is not counted again.
section
variable (hhops : ∀ id c, (s.record id).channel = some c → c.hops ≠ [])

include hhops

theorem CloseInit.findsHop {m : CloseInit} : FindsHop (m.validate s app) := by
  simp [validate, Store.findsHop_closable (hhops m.id)]

variable [Digest]

theorem CloseConfirm.findsHop {m : CloseConfirm} : FindsHop (m.validate host s app) := by
  simp [validate, Store.findsHop_closable (hhops m.id)]

theorem Receive.findsHop {m : Receive} : FindsHop (m.validate host s) := by
  have horder (order : ChannelOrder) : FindsHop (m.checkOrder s order) := by
    cases order <;> simp [checkOrder]
  simp +contextual [validate, hhops m.packet.destination, horder]

theorem Acknowledge.findsHop {m : Acknowledge} : FindsHop (m.validate host s app) := by
  have horder (order : ChannelOrder) : FindsHop (m.checkOrder s order) := by simp [checkOrder]
  simp +contextual [validate, hhops m.packet.source, horder]

theorem Timeout.findsHop {m : Timeout} : FindsHop (m.validate host s app) := by
  simp +contextual [validate, hhops m.packet.source]

theorem TimeoutOnClose.findsHop {m : TimeoutOnClose} : FindsHop (m.validate host s app) := by
  simp +contextual [validate, hhops m.packet.source]

theorem UpgradeTry.findsHop {m : UpgradeTry} : FindsHop (m.validate host s) := by
  have hcrossing (c : ChannelEnd) : FindsHop (m.crossing? s c) := by simp [crossing?]
  simp +contextual [validate, hhops m.id, check_eq_ok, ne_nil_of_length, hcrossing,
    ChannelEnd.expectedRemote]

theorem UpgradeAck.findsHop {m : UpgradeAck} : FindsHop (m.validate host s) := by
  simp +contextual [validate, hhops m.id, ChannelEnd.expectedRemote]

theorem UpgradeConfirm.findsHop {m : UpgradeConfirm} : FindsHop (m.validate host s) := by
  simp +contextual [validate, hhops m.id, ChannelEnd.expectedRemote]

theorem UpgradeOpen.findsHop {m : UpgradeOpen} : FindsHop (m.validate host s) := by
  have hcounterparty (c : ChannelEnd) (u w : Upgrade) : FindsHop (m.checkCounterparty c u w) := by
    cases hstate : m.counterpartyChannel.state <;> simp [checkCounterparty, hstate]
  simp +contextual [validate, hhops m.id, hcounterparty]

theorem UpgradeCancel.findsHop {m : UpgradeCancel} : FindsHop (m.validate host s) := by
  simp +contextual [validate, hhops m.id]

theorem UpgradeExpire.findsHop {m : UpgradeExpire} : FindsHop (m.validate host s) := by
  simp +contextual [validate, hhops m.id]

/-- Where every end has a hop, no message is checked in vain. -/
theorem findsHop {m : Message} : FindsHop (m.validate host s app) := by
  cases m with
  | openInit m => exact OpenInit.findsHop
  | openTry m => exact OpenTry.findsHop
  | openAck m => exact OpenAck.findsHop
  | openConfirm m => exact OpenConfirm.findsHop
  | closeInit m => exact CloseInit.findsHop hhops
  | closeConfirm m => exact CloseConfirm.findsHop hhops
  | receive m => exact Receive.findsHop hhops
  | acknowledge m => exact Acknowledge.findsHop hhops
  | timeout m => exact Timeout.findsHop hhops
  | timeoutOnClose m => exact TimeoutOnClose.findsHop hhops
  | upgradeInit m => exact UpgradeInit.findsHop
  | upgradeTry m => exact UpgradeTry.findsHop hhops
  | upgradeAck m => exact UpgradeAck.findsHop hhops
  | upgradeConfirm m => exact UpgradeConfirm.findsHop hhops
  | upgradeOpen m => exact UpgradeOpen.findsHop hhops
  | upgradeCancel m => exact UpgradeCancel.findsHop hhops
  | upgradeExpire m => exact UpgradeExpire.findsHop hhops

end

end Message

end ChannelLayer
