import ChannelLayer.Proofs.Likeness
import ChannelLayer.Proofs.Trial

/-!
# What needs a light client

A light client that is not tracked, or that is frozen, answers nothing. Every message that brings proofs has its
proof height checked against the client of the connection it comes over, whatever else it proves and whatever
its end has seen before, and a packet is timed against the same client before it is sent. So over a connection
whose client is silent nothing is accepted and nothing is sent.

* `Message.answers_of_validate`, `Packet.answers_of_validateSend`: what is accepted has a client that answers.
* `Chain.silent_client_blocks`: with a silent client a message and a packet are refused, and nothing changes.
-/

set_option autoImplicit false

namespace ChannelLayer

namespace Clients

variable {cs : Clients} {id : ClientId} {height : Height}

/-- The client is tracked and not frozen. -/
def Answers (cs : Clients) (id : ClientId) : Prop := ∃ c, cs.get? id = some c ∧ c.frozen = false

/-- The client is not tracked, or it is frozen. -/
def Silent (cs : Clients) (id : ClientId) : Prop :=
  cs.get? id = none ∨ ∃ c, cs.get? id = some c ∧ c.frozen = true

theorem Answers.not_silent (h : cs.Answers id) : ¬ cs.Silent id := by
  obtain ⟨c, hc, hfrozen⟩ := h
  rintro (hnone | ⟨d, hd, hfrozen'⟩)
  · rw [hc] at hnone
    cases hnone
  · obtain rfl := Option.some.inj (hc.symm.trans hd)
    rw [hfrozen] at hfrozen'
    cases hfrozen'

theorem answers_of_latestHeight (h : cs.latestHeight id = .ok height) : cs.Answers id := by
  simp only [latestHeight, bind_eq_ok, active_eq_ok] at h
  obtain ⟨c, hactive, -⟩ := h
  exact ⟨c, hactive⟩

theorem answers_of_checkProofHeight (h : cs.checkProofHeight id height = .ok ()) : cs.Answers id := by
  simp only [checkProofHeight, bind_eq_ok] at h
  obtain ⟨latest, hlatest, -⟩ := h
  exact answers_of_latestHeight hlatest

end Clients

variable {host : Host} {s : Store} {app : App} {id : EndId} {c : ChannelEnd} {hop : ConnectionId}
  {conn conn' : ConnectionEnd}

/-- The connection that the end `id` runs over. -/
def Store.connectionOf? (s : Store) (id : EndId) : Option ConnectionEnd := (s.joined? id).map Prod.snd

theorem Store.connectionOf?_of (hc : (s.record id).channel = some c) (hhop : c.hops.head? = some hop)
    (hconn : s.connections.get? hop = some conn) : s.connectionOf? id = some conn := by
  rw [connectionOf?, joined?_of hc hhop hconn, Option.map_some]

namespace Message

/-- The connection over which the message's proofs come: that of the end it is for, and for a new end the one it
names. What starts something on the chain itself brings no proofs. -/
def connection? (s : Store) : Message → Option ConnectionEnd
  | .openInit _ | .closeInit _ | .upgradeInit _ => none
  | .openTry m => s.over? m.hops
  | m => m.addressee?.bind s.connectionOf?

section
variable [Digest] {m : Message}

omit [Digest] in
/-- The client that the proofs are checked with is that of the connection. -/
theorem answers_of_joined {height : Height} (hc : (s.record id).channel = some c)
    (hhop : c.hops.head? = some hop) (hconn' : s.connections.get? hop = some conn')
    (hheight : conn'.checkProofHeight host.clients height = .ok ())
    (hconn : s.connectionOf? id = some conn) : host.clients.Answers conn.client := by
  obtain rfl := Option.some.inj ((Store.connectionOf?_of hc hhop hconn').symm.trans hconn)
  exact Clients.answers_of_checkProofHeight hheight

/-- What is accepted has a client that answers. -/
theorem answers_of_validate (hok : m.validate host s app = .ok ()) (hconn : m.connection? s = some conn) :
    host.clients.Answers conn.client := by
  cases m with
  | openInit m => cases hconn
  | closeInit m => cases hconn
  | upgradeInit m => cases hconn
  | openTry m =>
    obtain ⟨-, -, -, hop, hhop, conn', ⟨hconn', -⟩, -, -, -, hheight, -⟩ := OpenTry.validate_eq_ok.1 hok
    have hover : s.over? m.hops = some conn' := by rw [Store.over?, hhop, Option.bind_some, hconn']
    obtain rfl := Option.some.inj (hover.symm.trans hconn)
    exact Clients.answers_of_checkProofHeight hheight
  | openAck m =>
    obtain ⟨-, c, hc, -, -, -, hop, hhop, conn', ⟨hconn', -⟩, hheight, -⟩ := OpenAck.validate_eq_ok.1 hok
    exact answers_of_joined hc hhop hconn' hheight hconn
  | openConfirm m =>
    obtain ⟨-, c, hc, -, -, -, hop, hhop, conn', ⟨hconn', -⟩, hheight, -⟩ := OpenConfirm.validate_eq_ok.1 hok
    exact answers_of_joined hc hhop hconn' hheight hconn
  | closeConfirm m =>
    obtain ⟨-, c, conn', hclosable, hheight, -⟩ := CloseConfirm.validate_eq_ok.1 hok
    obtain ⟨hc, -, -, -, hop, hhop, hconn', -⟩ := Store.closable_eq_ok.1 hclosable
    exact answers_of_joined hc hhop hconn' hheight hconn
  | receive m =>
    obtain ⟨-, c, hc, -, -, -, hop, hhop, conn', ⟨hconn', -⟩, -, hheight, -⟩ := Receive.validate_eq_ok.1 hok
    exact answers_of_joined hc hhop hconn' hheight hconn
  | acknowledge m =>
    obtain ⟨-, c, hc, -, -, hop, hhop, conn', ⟨hconn', -⟩, -, -, hheight, -⟩ :=
      Acknowledge.validate_eq_ok.1 hok
    exact answers_of_joined hc hhop hconn' hheight hconn
  | timeout m =>
    obtain ⟨-, c, hc, -, -, hop, hhop, conn', hconn', -, hheight, -⟩ := Timeout.validate_eq_ok.1 hok
    exact answers_of_joined hc hhop hconn' hheight hconn
  | timeoutOnClose m =>
    obtain ⟨-, c, hc, -, -, hop, hhop, conn', hconn', hheight, -⟩ := TimeoutOnClose.validate_eq_ok.1 hok
    exact answers_of_joined hc hhop hconn' hheight hconn
  | upgradeTry m =>
    obtain ⟨-, -, c, hc, -, hop, hhop, conn', ⟨hconn', -⟩, -, -, -, -, -, -, -, -, -, -, hheight, -⟩ :=
      UpgradeTry.validate_eq_ok.1 hok
    exact answers_of_joined hc hhop hconn' hheight hconn
  | upgradeAck m =>
    obtain ⟨-, c, hc, -, -, -, hop, hhop, conn', ⟨hconn', -⟩, -, -, -, -, hheight, -⟩ :=
      UpgradeAck.validate_eq_ok.1 hok
    exact answers_of_joined hc hhop hconn' hheight hconn
  | upgradeConfirm m =>
    obtain ⟨-, c, hc, -, -, -, hop, hhop, conn', ⟨hconn', -⟩, -, -, -, -, hheight, -⟩ :=
      UpgradeConfirm.validate_eq_ok.1 hok
    exact answers_of_joined hc hhop hconn' hheight hconn
  | upgradeOpen m =>
    obtain ⟨-, c, hc, -, -, -, -, -, hop, hhop, conn', ⟨hconn', -⟩, -, -, -, -, hheight, -⟩ :=
      UpgradeOpen.validate_eq_ok.1 hok
    exact answers_of_joined hc hhop hconn' hheight hconn
  | upgradeCancel m =>
    obtain ⟨-, c, hc, -, -, hop, hhop, conn', ⟨hconn', -⟩, -, -, hheight, -⟩ :=
      UpgradeCancel.validate_eq_ok.1 hok
    exact answers_of_joined hc hhop hconn' hheight hconn
  | upgradeExpire m =>
    obtain ⟨-, c, hc, -, -, -, hop, hhop, conn', ⟨hconn', -⟩, -, -, hheight, -⟩ :=
      UpgradeExpire.validate_eq_ok.1 hok
    exact answers_of_joined hc hhop hconn' hheight hconn

end

end Message

/-- A packet is timed against the client of the connection that its end runs over. -/
theorem Packet.answers_of_validateSend {p : Packet} {handle : Capability}
    (hok : p.validateSend host s handle = .ok ()) (hconn : s.connectionOf? p.source = some conn) :
    host.clients.Answers conn.client := by
  obtain ⟨-, c, hc, -, -, -, hop, hhop, conn', hconn', height, hlatest, -⟩ := validateSend_eq_ok.1 hok
  obtain rfl := Option.some.inj ((Store.connectionOf?_of hc hhop hconn').symm.trans hconn)
  exact Clients.answers_of_latestHeight hlatest

namespace Chain

section
variable [Digest]

/-- Where its client is not tracked or is frozen, nothing comes over a connection: a message that brings proofs
over it is refused, as is a packet from an end that runs over it, and the chain is left as it was, its store and
its applications with it. -/
theorem silent_client_blocks (c : Chain) (conn : ConnectionEnd)
    (hsilent : c.host.clients.Silent conn.client) :
    (∀ m : Message, m.connection? c.store = some conn → ∃ e, dispatch m c = .error e c) ∧
    (∀ (handle : Capability) (p : Packet), c.store.connectionOf? p.source = some conn →
      ∃ e, send handle p c = .error e c) := by
  constructor
  · intro m hconn
    rw [dispatch_eq]
    cases hvalid : c.validate m with
    | error e => exact ⟨e, rfl⟩
    | ok u =>
      simp only [validate, bind_eq_ok] at hvalid
      obtain ⟨⟨_, app⟩, -, hok⟩ := hvalid
      exact absurd hsilent (Message.answers_of_validate hok hconn).not_silent
  · intro handle p hconn
    rw [send_eq]
    cases hvalid : p.validateSend c.host c.store handle with
    | error e => exact ⟨e, rfl⟩
    | ok u => exact absurd hsilent (Packet.answers_of_validateSend hvalid hconn).not_silent

end

/-! ## A frozen client -/

section
attribute [local instance] Digest.plain

/-- A chain with one open end, which sends and receives. -/
def talking : Chain :=
  let c := (Sample.joined 5).a
  { c with
    store := (c.store.setOwnedChannel Sample.endId (Sample.channel .opened .unordered 0)).setNextSend
      Sample.endId .one }

/-- The same chain once the client has seen its chain misbehave. -/
def silenced : Chain :=
  { talking with host := { talking.host with clients := talking.host.clients.freeze Sample.client } }

/-- A packet from the other end, with the proof that it was sent. -/
def arriving : Message :=
  let p := Sample.packet 1
  .receive ⟨p, Sample.proofAt 5 (.commitment p.source p.sequence) p.commitment, ⟨0, 5⟩, Sample.signer⟩

theorem talking_facts : talking.takes arriving = true ∧
    talking.sends ⟨1⟩ (Sample.packet 1) = true ∧
    silenced.host.clients.get? Sample.client = some ⟨.insert {} ⟨0, 5⟩ Sample.startTime, true⟩ ∧
    arriving.connection? silenced.store = some (Sample.connection .opened) ∧
    silenced.store.connectionOf? Sample.endId = some (Sample.connection .opened) := by
  decide +kernel

/-- What the chain takes and sends, it neither takes nor sends when its client is frozen. -/
theorem blocked_when_frozen : talking.takes arriving = true ∧
    talking.sends ⟨1⟩ (Sample.packet 1) = true ∧
    (∃ e, dispatch arriving silenced = .error e silenced) ∧
    ∃ e, send ⟨1⟩ (Sample.packet 1) silenced = .error e silenced := by
  obtain ⟨htakes, hsends, hfrozen, hconn, hend⟩ := talking_facts
  obtain ⟨hmessages, hpackets⟩ :=
    silent_client_blocks silenced (Sample.connection .opened) (.inr ⟨_, hfrozen, rfl⟩)
  exact ⟨htakes, hsends, hmessages arriving hconn, hpackets ⟨1⟩ (Sample.packet 1) hend⟩

end

end Chain

end ChannelLayer
