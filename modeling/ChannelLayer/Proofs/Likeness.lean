import ChannelLayer.Dispatch
import ChannelLayer.Proofs.Orders

/-!
# What a message reads

A message that is for an end reads the record of that end, the connections, the light clients and the clock,
and nothing else (`Message.validate_congr`): where two chains agree on these it is accepted on both, or both
turn it down for the same reason. Tables agree if they bind the same keys to the same values, in whatever
order they came to do so.
-/

set_option autoImplicit false

namespace ChannelLayer

/-! ## Tables -/

namespace Table

variable {κ ν : Type} [DecidableEq κ]

/-- Both tables bind the same keys to the same values. -/
def Same (t t' : Table κ ν) : Prop := ∀ k, t.get? k = t'.get? k

variable {t t' : Table κ ν}

theorem Same.refl (t : Table κ ν) : t.Same t := fun _ => rfl

theorem Same.symm (h : t.Same t') : t'.Same t := fun k => (h k).symm

theorem Same.insert (h : t.Same t') (k : κ) (v : ν) : (t.insert k v).Same (t'.insert k v) := by
  intro j
  rw [get?_insert, get?_insert, h j]

theorem Same.erase (h : t.Same t') (k : κ) : (t.erase k).Same (t'.erase k) := by
  intro j
  rw [get?_erase, get?_erase, h j]

theorem Same.isEmpty (h : t.Same t') : t.isEmpty = t'.isEmpty := by
  rw [Bool.eq_iff_iff, isEmpty_iff, isEmpty_iff]
  exact forall_congr' fun k => by rw [h k]

theorem put_of_find (l : List (κ × ν)) (k : κ) (v : ν) (h : find l k = some v) : put l k v = l := by
  induction l with
  | nil => cases h
  | cons e rest ih =>
    obtain ⟨j, w⟩ := e
    by_cases hj : j = k
    · subst hj
      obtain rfl : w = v := by simpa [find] using h
      simp [put]
    · rw [find, if_neg hj] at h
      rw [put, if_neg hj, ih h]

/-- Binding a key to what it is bound to already changes nothing. -/
theorem insert_of_get? {k : κ} {v : ν} (h : t.get? k = some v) : t.insert k v = t :=
  congrArg mk (put_of_find t.entries k v h)

end Table

/-! ## Records -/

namespace ChannelRecord

/-- The two records say the same. -/
structure Same (r r' : ChannelRecord) : Prop where
  channel : r.channel = r'.channel
  nextSend : r.nextSend = r'.nextSend
  nextReceive : r.nextReceive = r'.nextReceive
  nextAck : r.nextAck = r'.nextAck
  commitments : r.commitments.Same r'.commitments
  receipts : r.receipts.Same r'.receipts
  acks : r.acks.Same r'.acks
  upgrade : r.upgrade = r'.upgrade
  counterpartyUpgrade : r.counterpartyUpgrade = r'.counterpartyUpgrade
  errorReceipt : r.errorReceipt = r'.errorReceipt
  capability : r.capability = r'.capability

theorem Same.refl (r : ChannelRecord) : r.Same r :=
  ⟨rfl, rfl, rfl, rfl, .refl _, .refl _, .refl _, rfl, rfl, rfl, rfl⟩

theorem Same.of_eq {r r' : ChannelRecord} (h : r = r') : r.Same r' := h ▸ .refl r

theorem Same.symm {r r' : ChannelRecord} (h : r.Same r') : r'.Same r where
  channel := h.channel.symm
  nextSend := h.nextSend.symm
  nextReceive := h.nextReceive.symm
  nextAck := h.nextAck.symm
  commitments := h.commitments.symm
  receipts := h.receipts.symm
  acks := h.acks.symm
  upgrade := h.upgrade.symm
  counterpartyUpgrade := h.counterpartyUpgrade.symm
  errorReceipt := h.errorReceipt.symm
  capability := h.capability.symm

end ChannelRecord

/-! ## Light clients -/

namespace Height

theorem le_of_lt {a b : Height} (h : a < b) : a ≤ b := h.imp_right (And.imp_right UInt64.le_of_lt)

theorem le_of_not_lt {a b : Height} (h : ¬a < b) : b ≤ a := by
  obtain ⟨hr, hn⟩ := not_or.1 h
  rcases Nat.lt_or_ge b.revision.toNat a.revision.toNat with hlt | hle
  · exact .inl (UInt64.lt_iff_toNat_lt.2 hlt)
  · have heq : a.revision = b.revision :=
      UInt64.toNat_inj.1 (Nat.le_antisymm hle (Nat.le_of_not_lt fun hlt => hr (UInt64.lt_iff_toNat_lt.2 hlt)))
    refine .inr ⟨heq.symm, UInt64.le_iff_toNat_le.2 (Nat.le_of_not_lt fun hlt => ?_)⟩
    exact hn ⟨heq, UInt64.lt_iff_toNat_lt.2 hlt⟩

end Height

namespace Client

theorem highest_eq_none {l : List Height} (h : highest l = none) : l = [] := by
  cases l with
  | nil => rfl
  | cons a rest =>
    simp only [highest] at h
    split at h
    · split at h <;> cases h
    · cases h

/-- The highest of some heights is one of them, and none is above it. -/
theorem highest_spec {l : List Height} {top : Height} (h : highest l = some top) :
    top ∈ l ∧ ∀ a ∈ l, a ≤ top := by
  induction l generalizing top with
  | nil => cases h
  | cons a rest ih =>
    simp only [highest] at h
    split at h
    · rename_i top' htop
      obtain ⟨hmem, hmax⟩ := ih htop
      split at h
      · rename_i hlt
        obtain rfl := Option.some.inj h
        refine ⟨List.mem_cons_self, List.forall_mem_cons.2 ⟨Height.le_refl _, fun b hb => ?_⟩⟩
        exact Height.le_trans (hmax b hb) (Height.le_of_lt hlt)
      · rename_i hlt
        obtain rfl := Option.some.inj h
        exact ⟨List.mem_cons_of_mem _ hmem, List.forall_mem_cons.2 ⟨Height.le_of_not_lt hlt, hmax⟩⟩
    · rename_i hnone
      obtain rfl := Option.some.inj h
      rw [highest_eq_none hnone]
      simpa using Height.le_refl a

theorem highest_congr {l l' : List Height} (h : ∀ a, a ∈ l ↔ a ∈ l') : highest l = highest l' := by
  cases hl : highest l with
  | none =>
    obtain rfl := highest_eq_none hl
    have hnil : l' = [] := List.eq_nil_iff_forall_not_mem.2 fun a ha => List.not_mem_nil ((h a).2 ha)
    rw [hnil]
    rfl
  | some top =>
    obtain ⟨hmem, hmax⟩ := highest_spec hl
    cases hl' : highest l' with
    | none =>
      rw [highest_eq_none hl'] at h
      exact absurd ((h top).1 hmem) List.not_mem_nil
    | some top' =>
      obtain ⟨hmem', hmax'⟩ := highest_spec hl'
      exact congrArg some (Height.le_antisymm (hmax' top ((h top).1 hmem)) (hmax top' ((h top').2 hmem')))

/-- Both clients have verified the same blocks. -/
structure Same (c c' : Client) : Prop where
  frozen : c.frozen = c'.frozen
  consensus : c.consensus.Same c'.consensus

variable {c c' : Client}

theorem Same.latest? (h : c.Same c') : c.latest? = c'.latest? := by
  refine highest_congr fun a => ?_
  rw [Table.mem_keys, Table.mem_keys, h.consensus a]

end Client

namespace Clients

/-- The same clients are known on both sides, and they have verified the same blocks. -/
def Same (cs cs' : Clients) : Prop :=
  ∀ id, match cs.get? id, cs'.get? id with
    | none, none => True
    | some c, some c' => c.Same c'
    | _, _ => False

theorem Same.refl (cs : Clients) : cs.Same cs := by
  intro id
  cases cs.get? id with
  | none => trivial
  | some c => exact ⟨rfl, .refl _⟩

variable {cs cs' : Clients}

/-- What is asked of an active client gets the same answer on both sides. -/
theorem Same.active_bind (h : cs.Same cs') {α : Type} {f : Client → Except ClientError α}
    (hf : ∀ c c', c.Same c' → f c = f c') (id : ClientId) :
    (cs.active id >>= f) = (cs'.active id >>= f) := by
  have hid := h id
  unfold Clients.active
  split at hid
  · rename_i hc hc'
    rw [hc, hc']
  · rename_i c c' hc hc'
    simp only [hc, hc', hid.frozen]
    cases c'.frozen with
    | false => exact hf c c' hid
    | true => rfl
  · exact hid.elim

theorem Same.latestHeight (h : cs.Same cs') (id : ClientId) : cs.latestHeight id = cs'.latestHeight id :=
  h.active_bind (fun c c' hc => by rw [hc.latest?]) id

theorem Same.consensusTime (h : cs.Same cs') (id : ClientId) (height : Height) :
    cs.consensusTime id height = cs'.consensusTime id height :=
  h.active_bind (fun c c' hc => by rw [hc.consensus height]) id

theorem Same.checkProofHeight (h : cs.Same cs') (id : ClientId) (height : Height) :
    cs.checkProofHeight id height = cs'.checkProofHeight id height := by
  unfold Clients.checkProofHeight
  rw [h.latestHeight]

theorem Same.checkVerified (h : cs.Same cs') (id : ClientId) (height : Height) :
    cs.checkVerified id height = cs'.checkVerified id height :=
  h.active_bind (fun c c' hc => by rw [hc.consensus height]) id

end Clients

/-! ## Hosts -/

/-- Two hosts that messages cannot tell apart. -/
structure Host.Agrees (h h' : Host) : Prop where
  height : h.height = h'.height
  time : h.time = h'.time
  clients : h.clients.Same h'.clients

namespace Host.Agrees

variable {h h' : Host}

theorem refl (h : Host) : h.Agrees h := ⟨rfl, rfl, .refl _⟩

theorem upgradeElapsed? (hh : h.Agrees h') (timeout : UpgradeTimeout) :
    h.upgradeElapsed? timeout = h'.upgradeElapsed? timeout := by
  unfold Host.upgradeElapsed?
  rw [hh.height, hh.time]

section
variable (hh : h.Agrees h') (conn : ConnectionEnd)

include hh

theorem checkProofHeight (height : Height) :
    conn.checkProofHeight h.clients height = conn.checkProofHeight h'.clients height :=
  hh.clients.checkProofHeight conn.client height

variable [Digest]

theorem verify (proof : Bytes) (height : Height) (path : Path) (value : Bytes) :
    conn.verify h.clients proof height path value = conn.verify h'.clients proof height path value := by
  unfold ConnectionEnd.verify Clients.verifyMembership
  rw [hh.clients.checkVerified]

theorem verifyAbsence (proof : Bytes) (height : Height) (path : Path) :
    conn.verifyAbsence h.clients proof height path = conn.verifyAbsence h'.clients proof height path := by
  unfold ConnectionEnd.verifyAbsence Clients.verifyAbsence
  rw [hh.clients.checkVerified]

theorem verifyEnd (proof : Bytes) (height : Height) (id : EndId) (expected : ChannelEnd) :
    conn.verifyEnd h.clients proof height id expected =
      conn.verifyEnd h'.clients proof height id expected := by
  unfold ConnectionEnd.verifyEnd
  rw [hh.verify]

theorem verifyUpgrade (proof : Bytes) (height : Height) (id : EndId) (expected : Upgrade) :
    conn.verifyUpgrade h.clients proof height id expected =
      conn.verifyUpgrade h'.clients proof height id expected := by
  unfold ConnectionEnd.verifyUpgrade
  rw [hh.verify]

theorem verifyUnreceived (p : Packet) (order : ChannelOrder) (nextReceive : Sequence) (proof : Bytes)
    (height : Height) :
    p.verifyUnreceived h.clients conn order nextReceive proof height =
      p.verifyUnreceived h'.clients conn order nextReceive proof height := by
  unfold Packet.verifyUnreceived
  cases order with
  | ordered => simp only [hh.verify]
  | unordered => simp only [hh.verifyAbsence]
  | unspecified => rfl

end

end Host.Agrees

/-! ## Stores -/

namespace Store

/-- Two stores that messages for the end `id` cannot tell apart. -/
structure Agrees (s s' : Store) (id : EndId) : Prop where
  record : (s.record id).Same (s'.record id)
  connections : s.connections.Same s'.connections

namespace Agrees

variable {s s' : Store} {id : EndId}

theorem refl (s : Store) (id : EndId) : s.Agrees s id := ⟨.refl _, .refl _⟩

variable (h : s.Agrees s' id)

include h

theorem connection (hop : ConnectionId) : s.connection hop = s'.connection hop := by
  unfold Store.connection
  rw [h.connections hop]

theorem openConnection (hop : ConnectionId) : s.openConnection hop = s'.openConnection hop := by
  unfold Store.openConnection
  rw [h.connection]

theorem channel : s.channel id = s'.channel id := by
  unfold Store.channel
  rw [h.record.channel]

theorem nextSend : s.nextSend id = s'.nextSend id := by
  unfold Store.nextSend
  rw [h.record.nextSend]

theorem nextReceive : s.nextReceive id = s'.nextReceive id := by
  unfold Store.nextReceive
  rw [h.record.nextReceive]

theorem nextAck : s.nextAck id = s'.nextAck id := by
  unfold Store.nextAck
  rw [h.record.nextAck]

theorem upgrade : s.upgrade id = s'.upgrade id := by
  unfold Store.upgrade
  rw [h.record.upgrade]

theorem counterpartyUpgrade : s.counterpartyUpgrade id = s'.counterpartyUpgrade id := by
  unfold Store.counterpartyUpgrade
  rw [h.record.counterpartyUpgrade]

theorem isFlushed : s.isFlushed id = s'.isFlushed id := h.record.commitments.isEmpty

theorem flushState : s.flushState id = s'.flushState id := by
  unfold Store.flushState
  rw [h.isFlushed]

theorem checkClaimed : s.checkClaimed id = s'.checkClaimed id := by
  unfold Store.checkClaimed
  rw [h.record.capability]

theorem closable : s.closable id = s'.closable id := by
  unfold Store.closable
  simp only [h.channel, h.checkClaimed, h.openConnection]

theorem hasReceived (order : ChannelOrder) (n : Sequence) :
    s.hasReceived id order n = s'.hasReceived id order n := by
  unfold Store.hasReceived Store.receipt
  cases order with
  | ordered => simp only [h.nextReceive]
  | unordered => simp only [h.record.receipts n]
  | unspecified => rfl

theorem checkProposal (f : UpgradeFields) (c : ChannelEnd) : s.checkProposal f c = s'.checkProposal f c := by
  unfold Store.checkProposal
  simp only [h.openConnection]

theorem connectionMismatch? (f g : UpgradeFields) :
    s.connectionMismatch? f g = s'.connectionMismatch? f g := by
  unfold Store.connectionMismatch?
  simp only [h.connection]

end Agrees

theorem Agrees.checkInFlight [Digest] {s s' : Store} {p : Packet} (h : s.Agrees s' p.source) :
    s.checkInFlight p = s'.checkInFlight p := by
  unfold Store.checkInFlight Store.commitment
  rw [h.record.commitments p.sequence]

end Store

/-! ## Checks -/

namespace Message

/-- The end that a message is for. What makes a new end is for none that is there. -/
def addressee? : Message → Option EndId
  | .openInit _ | .openTry _ => none
  | .openAck m => some m.id
  | .openConfirm m => some m.id
  | .closeInit m => some m.id
  | .closeConfirm m => some m.id
  | .receive m => some m.packet.destination
  | .acknowledge m => some m.packet.source
  | .timeout m => some m.packet.source
  | .timeoutOnClose m => some m.packet.source
  | .upgradeInit m => some m.id
  | .upgradeTry m => some m.id
  | .upgradeAck m => some m.id
  | .upgradeConfirm m => some m.id
  | .upgradeOpen m => some m.id
  | .upgradeCancel m => some m.id
  | .upgradeExpire m => some m.id

variable {h h' : Host} {s s' : Store} {app : App} {id : EndId}

/-- A message is handled by the application on the port of the end that it is for. -/
theorem port_of_addressee {m : Message} (hm : m.addressee? = some id) : m.port = id.port := by
  cases m with
  | openInit m => cases hm
  | openTry m => cases hm
  | _ => obtain rfl := Option.some.inj hm; rfl

theorem Receive.checkNotFlushed_congr [Digest] {m : Receive} (hs : s.Agrees s' m.packet.destination) :
    m.checkNotFlushed s = m.checkNotFlushed s' := by
  unfold Receive.checkNotFlushed
  rw [hs.record.counterpartyUpgrade]

theorem Receive.checkOrder_congr [Digest] {m : Receive} (hs : s.Agrees s' m.packet.destination)
    (order : ChannelOrder) : m.checkOrder s order = m.checkOrder s' order := by
  unfold Receive.checkOrder
  cases order with
  | ordered => simp only [hs.nextReceive]
  | _ => rfl

theorem Acknowledge.checkOrder_congr {m : Acknowledge} (hs : s.Agrees s' m.packet.source)
    (order : ChannelOrder) : m.checkOrder s order = m.checkOrder s' order := by
  unfold Acknowledge.checkOrder
  simp only [hs.nextAck]

theorem UpgradeTry.crossing?_congr {m : UpgradeTry} (hs : s.Agrees s' m.id) (c : ChannelEnd) :
    m.crossing? s c = m.crossing? s' c := by
  unfold UpgradeTry.crossing?
  simp only [hs.upgrade]

/-- Where the end that a message is for, the connections, the light clients and the clock are alike, the message
is accepted on both sides, or both turn it down for the same reason. -/
theorem validate_congr [Digest] {m : Message} (hm : m.addressee? = some id) (hs : s.Agrees s' id)
    (hh : h.Agrees h') : m.validate h s app = m.validate h' s' app := by
  cases m with
  | openInit m => cases hm
  | openTry m => cases hm
  | openAck m =>
    obtain rfl := Option.some.inj hm
    simp only [validate, OpenAck.validate, hs.channel, hs.checkClaimed, hs.openConnection,
      hh.checkProofHeight, hh.verifyEnd]
  | openConfirm m =>
    obtain rfl := Option.some.inj hm
    simp only [validate, OpenConfirm.validate, hs.channel, hs.checkClaimed, hs.openConnection,
      hh.checkProofHeight, hh.verifyEnd]
  | closeInit m =>
    obtain rfl := Option.some.inj hm
    simp only [validate, CloseInit.validate, hs.closable]
  | closeConfirm m =>
    obtain rfl := Option.some.inj hm
    simp only [validate, CloseConfirm.validate, hs.closable, hh.checkProofHeight, hh.verifyEnd]
  | receive m =>
    obtain rfl := Option.some.inj hm
    simp only [validate, Receive.validate, hs.channel, Receive.checkNotFlushed_congr hs,
      hs.openConnection, hh.height, hh.time, hh.checkProofHeight, hh.verify, Receive.checkOrder_congr hs]
  | acknowledge m =>
    obtain rfl := Option.some.inj hm
    simp only [validate, Acknowledge.validate, hs.channel, hs.openConnection, hs.checkInFlight,
      Acknowledge.checkOrder_congr hs, hh.checkProofHeight, hh.verify]
  | timeout m =>
    obtain rfl := Option.some.inj hm
    simp only [validate, Timeout.validate, hs.channel, hs.connection, hs.checkInFlight,
      hh.checkProofHeight, hh.clients.consensusTime, hh.verifyUnreceived]
  | timeoutOnClose m =>
    obtain rfl := Option.some.inj hm
    simp only [validate, TimeoutOnClose.validate, hs.channel, hs.connection, hs.checkInFlight,
      hh.checkProofHeight, hh.verifyEnd, hh.verifyUnreceived]
  | upgradeInit m =>
    obtain rfl := Option.some.inj hm
    simp only [validate, UpgradeInit.validate, hs.channel, hs.checkProposal]
  | upgradeTry m =>
    obtain rfl := Option.some.inj hm
    simp only [validate, UpgradeTry.validate, hs.channel, hs.openConnection,
      UpgradeTry.crossing?_congr hs, hh.checkProofHeight, hh.verifyEnd, hh.verifyUpgrade]
  | upgradeAck m =>
    obtain rfl := Option.some.inj hm
    simp only [validate, UpgradeAck.validate, hs.channel, hs.upgrade, hs.openConnection,
      hh.checkProofHeight, hh.verifyEnd, hh.verifyUpgrade]
  | upgradeConfirm m =>
    obtain rfl := Option.some.inj hm
    simp only [validate, UpgradeConfirm.validate, hs.channel, hs.upgrade, hs.openConnection,
      hh.checkProofHeight, hh.verifyEnd, hh.verifyUpgrade]
  | upgradeOpen m =>
    obtain rfl := Option.some.inj hm
    simp only [validate, UpgradeOpen.validate, hs.channel, hs.upgrade, hs.counterpartyUpgrade,
      hs.openConnection, hh.checkProofHeight, hh.verifyEnd]
  | upgradeCancel m =>
    obtain rfl := Option.some.inj hm
    simp only [validate, UpgradeCancel.validate, hs.channel, hs.upgrade, hs.openConnection,
      hh.checkProofHeight, hh.verify]
  | upgradeExpire m =>
    obtain rfl := Option.some.inj hm
    simp only [validate, UpgradeExpire.validate, hs.channel, hs.upgrade, hs.openConnection,
      hh.checkProofHeight, hh.clients.consensusTime, hh.verifyEnd]

end Message

end ChannelLayer
