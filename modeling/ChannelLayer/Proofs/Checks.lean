import ChannelLayer.Proofs.Execution

/-!
# What a passed check says

One lemma for each look-up and each check that handlers are made of, from the successful call to the fact
about the store, the message or the client that made it succeed.
-/

set_option autoImplicit false

namespace ChannelLayer

@[simp] theorem Signer.check_eq_ok {s : Signer} {u : Unit} : s.check = .ok u ↔ s.isEmpty = false := by
  simp [Signer.check]

@[simp] theorem firstHop_eq_ok {hops : List ConnectionId} {hop : ConnectionId} :
    firstHop hops = .ok hop ↔ hops.head? = some hop := by
  cases hops <;> simp [firstHop]

/-! ## Connections -/

@[simp] theorem ConnectionEnd.checkState_eq_ok {conn : ConnectionEnd} {expected : ConnectionState}
    {u : Unit} : conn.checkState expected = .ok u ↔ conn.state = expected := by
  simp [ConnectionEnd.checkState]

@[simp] theorem ConnectionEnd.remoteConnection_eq_ok {conn : ConnectionEnd} {hop : ConnectionId} :
    conn.remoteConnection = .ok hop ↔ conn.remote.connection = some hop := by
  unfold ConnectionEnd.remoteConnection; split <;> simp [*]

/-! ## Look-ups -/

namespace Store

variable {s : Store} {id : EndId}

@[simp] theorem channel_eq_ok {c : ChannelEnd} :
    s.channel id = .ok c ↔ (s.record id).channel = some c := by
  unfold Store.channel; split <;> simp [*]

@[simp] theorem upgrade_eq_ok {u : Upgrade} :
    s.upgrade id = .ok u ↔ (s.record id).upgrade = some u := by
  unfold Store.upgrade; split <;> simp [*]

@[simp] theorem counterpartyUpgrade_eq_ok {u : Upgrade} :
    s.counterpartyUpgrade id = .ok u ↔ (s.record id).counterpartyUpgrade = some u := by
  unfold Store.counterpartyUpgrade; split <;> simp [*]

@[simp] theorem nextSend_eq_ok {n : Sequence} :
    s.nextSend id = .ok n ↔ (s.record id).nextSend = some n := by
  unfold Store.nextSend; split <;> simp [Store.missing, *]

@[simp] theorem nextReceive_eq_ok {n : Sequence} :
    s.nextReceive id = .ok n ↔ (s.record id).nextReceive = some n := by
  unfold Store.nextReceive; split <;> simp [Store.missing, *]

@[simp] theorem nextAck_eq_ok {n : Sequence} :
    s.nextAck id = .ok n ↔ (s.record id).nextAck = some n := by
  unfold Store.nextAck; split <;> simp [Store.missing, *]

@[simp] theorem commitment_eq_ok {n : Sequence} {bytes : Bytes} :
    s.commitment id n = .ok bytes ↔ (s.record id).commitments.get? n = some bytes := by
  unfold Store.commitment; split <;> simp [*]

@[simp] theorem connection_eq_ok {hop : ConnectionId} {conn : ConnectionEnd} :
    s.connection hop = .ok conn ↔ s.connections.get? hop = some conn := by
  unfold Store.connection; split <;> simp [*]

@[simp] theorem openConnection_eq_ok {hop : ConnectionId} {conn : ConnectionEnd} :
    s.openConnection hop = .ok conn ↔ s.connections.get? hop = some conn ∧ conn.state = .opened := by
  simp only [openConnection, bind_eq_ok, connection_eq_ok, pure_eq_ok, MonadLiftT.monadLift, liftM,
    lift_eq_ok, ConnectionEnd.checkState_eq_ok]
  constructor
  · rintro ⟨conn, hget, -, hopen, rfl⟩
    exact ⟨hget, hopen⟩
  · rintro ⟨hget, hopen⟩
    exact ⟨conn, hget, (), hopen, rfl⟩

@[simp] theorem checkUnclaimed_eq_ok {u : Unit} :
    s.checkUnclaimed id = .ok u ↔ (s.record id).capability = none := by
  simp [checkUnclaimed]

@[simp] theorem checkClaimed_eq_ok {u : Unit} :
    s.checkClaimed id = .ok u ↔ (s.record id).capability ≠ none := by
  simp [checkClaimed, Option.isSome_iff_ne_none]

end Store

/-! ## Channel ends -/

@[simp] theorem checkHops_eq_ok {hops : List ConnectionId} {u : Unit} :
    checkHops hops = .ok u ↔ hops.length = 1 := by
  simp [checkHops]

@[simp] theorem checkOrder_eq_ok {order : ChannelOrder} {u : Unit} :
    checkOrder order = .ok u ↔ order ≠ .unspecified := by
  simp [checkOrder]

namespace ChannelEnd

variable {c : ChannelEnd} {u : Unit}

@[simp] theorem checkState_eq_ok {expected : ChannelState} :
    c.checkState expected = .ok u ↔ c.state = expected := by
  simp [checkState]

@[simp] theorem checkStateIn_eq_ok {allowed : List ChannelState} :
    c.checkStateIn allowed = .ok u ↔ c.state ∈ allowed := by
  simp [checkStateIn]

@[simp] theorem checkRemote_eq_ok {expected : Counterparty} :
    c.checkRemote expected = .ok u ↔ c.remote = expected := by
  simp [checkRemote]

@[simp] theorem remoteEnd_eq_ok {id : EndId} : c.remoteEnd = .ok id ↔ c.remote = .ofEnd id := by
  obtain ⟨-, -, ⟨port, channel⟩, -, -, -⟩ := c
  obtain ⟨port', channel'⟩ := id
  cases channel <;> simp [remoteEnd, Counterparty.ofEnd]

@[simp] theorem checked_eq_ok {d : ChannelEnd} :
    c.checked = .ok d ↔
      c = d ∧ c.state ≠ .uninitialized ∧ c.order ≠ .unspecified ∧ c.hops.length = 1 := by
  simp [checked, check, checkInitialized, and_comm, and_left_comm]

/-- The end expected on the other chain is the mirror of this one. -/
@[simp] theorem expectedRemote_eq_ok {id : EndId} {conn : ConnectionEnd} {state : ChannelState}
    {sequence : UInt64} {d : ChannelEnd} :
    c.expectedRemote id conn state sequence = .ok d ↔
      ∃ hop, conn.remote.connection = some hop ∧
        ⟨state, c.order, .ofEnd id, [hop], c.version, sequence⟩ = d ∧
          state ≠ .uninitialized ∧ c.order ≠ .unspecified := by
  simp [expectedRemote]

end ChannelEnd

@[simp] theorem UpgradeFields.checkHops_eq_ok {hops : List ConnectionId} {u : Unit} :
    UpgradeFields.checkHops hops = .ok u ↔ hops.length = 1 := by
  by_cases h : hops.length = 1 <;> simp [UpgradeFields.checkHops, ChannelLayer.checkHops, h]

@[simp] theorem UpgradeFields.check_eq_ok {f : UpgradeFields} {u : Unit} :
    f.check = .ok u ↔ f.order ≠ .unspecified ∧ f.hops.length = 1 ∧ f.version.text.isEmpty = false := by
  simp [UpgradeFields.check]

/-! ## Clients -/

namespace Clients

variable {cs : Clients} {id : ClientId} {height : Height}

@[simp] theorem active_eq_ok {c : Client} :
    cs.active id = .ok c ↔ cs.get? id = some c ∧ c.frozen = false := by
  unfold Clients.active
  split
  · rename_i d hd
    simp only [hd, Option.some.injEq]
    cases hf : d.frozen <;> simp
    · rintro rfl; exact hf
    · rintro rfl; exact hf
  · simp [*]

@[simp] theorem consensusTime_eq_ok {time : Timestamp} :
    cs.consensusTime id height = .ok time ↔
      ∃ c, cs.get? id = some c ∧ c.frozen = false ∧ c.consensus.get? height = some time := by
  simp only [consensusTime, bind_eq_ok, active_eq_ok, and_assoc]
  refine exists_congr fun c => and_congr_right fun _ => and_congr_right fun _ => ?_
  split <;> simp [*]

@[simp] theorem checkVerified_eq_ok {u : Unit} :
    cs.checkVerified id height = .ok u ↔
      ∃ c, cs.get? id = some c ∧ c.frozen = false ∧ (c.consensus.get? height).isSome = true := by
  simp [checkVerified, and_assoc, Option.isSome_iff_ne_none]

end Clients

end ChannelLayer
