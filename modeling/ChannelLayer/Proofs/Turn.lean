import ChannelLayer.Chain
import ChannelLayer.Proofs.Execution

/-!
# What can happen to a channel end

`Turn v id r r' es`: in one step the record `r` of the end `id` may become `r'`, with the decisive events
`es`, on a chain whose view is `v`. There is one constructor for each kind of change, with all that the
change asks for; whatever a message does to an end is one of them (`ChannelLayer.Proofs.Effects`), so that
an invariant of ends is proved by cases on `Turn`.
-/

set_option autoImplicit false

namespace ChannelLayer

/-- The end that a decisive event is about: it has handed a packet to its application, or it has committed
an attempt or given it up. -/
def Event.decides? : Event → Option EndId
  | .receivePacket p _ _ => some p.destination
  | .upgrade .opened info _ => some info.id
  | .upgradeError info _ _ => some info.id
  | _ => none

/-! ## What a message is about -/

namespace Message

/-- A channel gets its end on this chain. -/
def opens : Message → Bool
  | .openInit _ | .openTry _ => true
  | _ => false

/-- The packet that is settled, by the end that sent it. -/
def settles? : Message → Option (EndId × Sequence)
  | .acknowledge m => some (m.packet.source, m.packet.sequence)
  | .timeout m => some (m.packet.source, m.packet.sequence)
  | .timeoutOnClose m => some (m.packet.source, m.packet.sequence)
  | _ => none

/-- The packet that is given up as not received, by the end that sent it. -/
def lapses? : Message → Option (EndId × Sequence)
  | .timeout m => some (m.packet.source, m.packet.sequence)
  | .timeoutOnClose m => some (m.packet.source, m.packet.sequence)
  | _ => none

/-- The end that may put the fields of an upgrade in force. -/
def commits? : Message → Option EndId
  | .upgradeConfirm m => some m.id
  | .upgradeOpen m => some m.id
  | _ => none

/-- The end whose upgrade is proposed, settled or concluded. -/
def upgrades? : Message → Option EndId
  | .upgradeInit m => some m.id
  | .upgradeTry m => some m.id
  | .upgradeAck m => some m.id
  | .upgradeConfirm m => some m.id
  | .upgradeOpen m => some m.id
  | .upgradeCancel m => some m.id
  | .upgradeExpire m => some m.id
  | _ => none

end Message

/-! ## What a chain sees -/

/-- A chain's own host and connections, what it has learned of the other chain, namely what lay at which
path at which height (`shown`) and what the clock showed there (`clock`), the deadlines of upgrades that
it is told of, and what it is asked to do: the messages that are delivered to it and the packets that it
is to send. -/
structure View where
  host : Host
  connections : Table ConnectionId ConnectionEnd
  shown : Height → Path → Option Bytes → Prop
  clock : Height → Timestamp → Prop
  deadline : UpgradeTimeout → Prop
  delivered : Message → Prop
  sending : Packet → Prop

namespace View

variable (v : View)

def holds (h : Height) (id : EndId) (c : ChannelEnd) : Prop :=
  v.shown h (.channel id) (some c.encode)

def holdsUpgrade (h : Height) (id : EndId) (u : Upgrade) : Prop :=
  v.shown h (.upgrade id) (some u.encode)

def holdsReceipt (h : Height) (id : EndId) (receipt : ErrorReceipt) : Prop :=
  v.shown h (.upgradeError id) (some receipt.encode)

/-- The other end of `c` had acknowledged the packet `n`. -/
def acknowledged (c : ChannelEnd) (n : Sequence) : Prop :=
  ∃ h remote ack, c.remote = .ofEnd remote ∧ v.shown h (.ack remote n) (some ack)

/-- The connection `hop` names `remoteHop` as its other end. -/
def faces (hop remoteHop : ConnectionId) : Prop :=
  ∃ conn, v.connections.get? hop = some conn ∧ conn.remote.connection = some remoteHop

/-- The other chain held the mirror of the end `c`, in `state` at upgrade sequence `n`. -/
def mirrors (h : Height) (id : EndId) (c : ChannelEnd) (remote : EndId) (state : ChannelState)
    (n : UInt64) : Prop :=
  ∃ hop remoteHop, c.hops.head? = some hop ∧ v.faces hop remoteHop ∧
    v.holds h remote ⟨state, c.order, .ofEnd id, [remoteHop], c.version, n⟩

/-- Some channel is to get its end. -/
def opening : Prop := ∃ m, v.delivered m ∧ m.opens = true

/-- The end `c` is to be opened as `c'`: it is told of its other end, or that the other end is open. -/
inductive joining (id : EndId) (c c' : ChannelEnd) : Prop
  | told {m : Message.OpenAck} (hm : v.delivered (.openAck m)) (hid : m.id = id) (hstate : c.state = .init)
      (hend : c' = m.opened c) : joining id c c'
  | confirmed {m : Message.OpenConfirm} (hm : v.delivered (.openConfirm m)) (hid : m.id = id)
      (hstate : c.state = .tryOpen) (hend : c' = { c with state := .opened }) : joining id c c'

/-- The packet `n` of the end `id` is to be given up as not received. -/
def lapsing (id : EndId) (n : Sequence) : Prop := ∃ m, v.delivered m ∧ m.lapses? = some (id, n)

/-- The end `id` may be asked to put the fields of its upgrade in force. -/
def committing (id : EndId) : Prop := ∃ m, v.delivered m ∧ m.commits? = some id

/-- The packet `n` of the end `id` is to be settled. -/
def settling (id : EndId) (n : Sequence) : Prop := ∃ m, v.delivered m ∧ m.settles? = some (id, n)

/-- A packet is given up in order to be settled. -/
theorem settling_of_lapsing {v : View} {id : EndId} {n : Sequence} (h : v.lapsing id n) :
    v.settling id n := by
  obtain ⟨m, hm, hlapses⟩ := h
  refine ⟨m, hm, ?_⟩
  cases m <;> first | exact hlapses | cases hlapses

/-- The end `id` is to be upgraded. -/
def upgrading (id : EndId) : Prop := ∃ m, v.delivered m ∧ m.upgrades? = some id

/-- The packet `p` is to be taken in. -/
def receiving (p : Packet) : Prop := ∃ m, v.delivered (.receive m) ∧ m.packet = p

/-- The proposed connections are the two ends of one. -/
def hopsFace (f g : UpgradeFields) : Prop :=
  ∃ hop remoteHop, f.hops.head? = some hop ∧ g.hops.head? = some remoteHop ∧ v.faces hop remoteHop

/-- Why an end that has flushed may still give its attempt up. -/
inductive Excuses (id : EndId) (r : ChannelRecord) (c : ChannelEnd) : Prop
  | cancelled {h : Height} {remote : EndId} {message : String} (hto : c.remote = .ofEnd remote)
      (hreceipt : v.holdsReceipt h remote ⟨c.upgradeSequence, message⟩) : Excuses id r c
  | expired {h : Height} {time : Timestamp} {remote : EndId} {u : Upgrade} {d : ChannelEnd}
      (hto : c.remote = .ofEnd remote) (hu : r.upgrade = some u) (hclock : v.clock h time)
      (helapsed : u.timeout.hasElapsed h time = true) (hheld : v.holds h remote d)
      (hundone : ¬(d.state = .flushComplete ∧ d.upgradeSequence = c.upgradeSequence)) :
      Excuses id r c

end View

/-! ## Changes of a record -/

namespace ChannelRecord

variable (r : ChannelRecord)

/-- The packet `n` is no longer in flight. -/
def settle (n : Sequence) (nextAck : Option Sequence) : ChannelRecord :=
  { r with commitments := r.commitments.erase n, nextAck }

def setState (c : ChannelEnd) (state : ChannelState) : ChannelRecord :=
  { r with channel := some { c with state } }

/-- The end `c` waits for the packet `n` to be settled if it is ordered, and for the one after it from then
on, as the other end has acknowledged it. -/
structure Awaits (v : View) (c : ChannelEnd) (n : Sequence) (nextAck : Option Sequence) : Prop where
  ordered : c.order = .ordered → r.nextAck = some n ∧ nextAck = some n.next
  acknowledged : c.order = .ordered → v.acknowledged c n
  otherwise : c.order ≠ .ordered → nextAck = r.nextAck

/-- The state of an end that stops sending. -/
def flushState : ChannelState := if r.commitments.isEmpty then .flushComplete else .flushing

/-- The end `c` has given its attempt up. -/
def giveUp (c : ChannelEnd) (e : UpgradeError) : ChannelRecord :=
  { r with channel := some c.reopened, upgrade := none, counterpartyUpgrade := none
           errorReceipt := some (c.receiptFor e) }

/-- An end that becomes ordered goes on counting where the sending stopped. -/
def resumeCounting (c : ChannelEnd) (u w : Upgrade) : ChannelRecord :=
  if c.order = .unordered ∧ u.fields.order = .ordered then
    { r with nextReceive := some w.nextSend, nextAck := some u.nextSend }
  else r

/-- The end `c` runs the fields of `u`. -/
def commit (c : ChannelEnd) (u w : Upgrade) : ChannelRecord :=
  { r.resumeCounting c u w with
    channel := some (c.upgraded u.fields), upgrade := none, counterpartyUpgrade := none }

/-- The channel is closed for good, and an attempt under way goes with it. -/
def close (c : ChannelEnd) : ChannelRecord :=
  if c.state.isUpgrading = true then
    { r with channel := some { c with state := .closed }, upgrade := none, counterpartyUpgrade := none
             errorReceipt := some (c.receiptFor .channelClosed) }
  else { r with channel := some { c with state := .closed } }

section
variable {r}

@[simp] theorem channel_commit (c : ChannelEnd) (u w : Upgrade) :
    (r.commit c u w).channel = some (c.upgraded u.fields) := rfl

@[simp] theorem errorReceipt_commit (c : ChannelEnd) (u w : Upgrade) :
    (r.commit c u w).errorReceipt = r.errorReceipt := by
  unfold commit resumeCounting
  split <;> rfl

@[simp] theorem nextSend_commit (c : ChannelEnd) (u w : Upgrade) :
    (r.commit c u w).nextSend = r.nextSend := by
  unfold commit resumeCounting
  split <;> rfl

@[simp] theorem commitments_commit (c : ChannelEnd) (u w : Upgrade) :
    (r.commit c u w).commitments = r.commitments := by
  unfold commit resumeCounting
  split <;> rfl

@[simp] theorem receipts_commit (c : ChannelEnd) (u w : Upgrade) :
    (r.commit c u w).receipts = r.receipts := by
  unfold commit resumeCounting
  split <;> rfl

@[simp] theorem acks_commit (c : ChannelEnd) (u w : Upgrade) : (r.commit c u w).acks = r.acks := by
  unfold commit resumeCounting
  split <;> rfl

@[simp] theorem capability_commit (c : ChannelEnd) (u w : Upgrade) :
    (r.commit c u w).capability = r.capability := by
  unfold commit resumeCounting
  split <;> rfl

@[simp] theorem channel_close (c : ChannelEnd) :
    (r.close c).channel = some { c with state := .closed } := by
  unfold close
  split <;> rfl

@[simp] theorem nextSend_close (c : ChannelEnd) : (r.close c).nextSend = r.nextSend := by
  unfold close
  split <;> rfl

@[simp] theorem commitments_close (c : ChannelEnd) : (r.close c).commitments = r.commitments := by
  unfold close
  split <;> rfl

@[simp] theorem receipts_close (c : ChannelEnd) : (r.close c).receipts = r.receipts := by
  unfold close
  split <;> rfl

@[simp] theorem acks_close (c : ChannelEnd) : (r.close c).acks = r.acks := by
  unfold close
  split <;> rfl

@[simp] theorem nextAck_close (c : ChannelEnd) : (r.close c).nextAck = r.nextAck := by
  unfold close
  split <;> rfl

@[simp] theorem nextReceive_close (c : ChannelEnd) : (r.close c).nextReceive = r.nextReceive := by
  unfold close
  split <;> rfl

@[simp] theorem capability_close (c : ChannelEnd) : (r.close c).capability = r.capability := by
  unfold close
  split <;> rfl

end

end ChannelRecord

/-! ## Turns -/

inductive Turn [Digest] (v : View) (id : EndId) (r : ChannelRecord) :
    ChannelRecord → List Event → Prop
  | idle : Turn v id r r []
  | created {c : ChannelEnd} {handle : Capability} (hnew : r.channel = none)
      (hstate : c.state = .init ∧ c.remote.channel = none ∨
        c.state = .tryOpen ∧ c.remote.channel ≠ none)
      (horder : c.order ≠ .unspecified) (hhops : c.hops.length = 1) (hseq : c.upgradeSequence = 0)
      (hasked : v.opening) :
      Turn v id r { r with channel := some c, capability := some handle } []
  | opened {c c' : ChannelEnd} (hc : r.channel = some c)
      (hstate : c.state = .init ∨
        c.state = .tryOpen ∧ c'.remote = c.remote ∧ c'.version = c.version)
      (hopen : c'.state = .opened) (horder : c'.order = c.order) (hto : c'.remote.channel ≠ none)
      (hhops : c'.hops = c.hops) (hseq : c'.upgradeSequence = c.upgradeSequence)
      (hend : ∃ h remote state, state ≠ .init ∧ c'.remote = .ofEnd remote ∧
        v.mirrors h id c' remote state 0)
      (hasked : v.joining id c c') :
      Turn v id r { r with channel := some c', nextSend := some .one, nextReceive := some .one
                           nextAck := some .one } []
  | closed {c : ChannelEnd} (hc : r.channel = some c) (hopen : c.state = .opened) :
      Turn v id r (r.setState c .closed) []
  | sent {c : ChannelEnd} {p : Packet} (hc : r.channel = some c) (hsending : c.state.isSending = true)
      (hsource : p.source = id) (hto : c.remote = .ofEnd p.destination)
      (hnext : r.nextSend = some p.sequence) (hasked : v.sending p) :
      Turn v id r { r with nextSend := some p.sequence.next
                           commitments := r.commitments.insert p.sequence p.commitment } []
  -- An unordered end remembers a packet by a receipt, an ordered one by its counter.
  | receivedUnordered {c : ChannelEnd} {p : Packet} {h : Height} {hop : ConnectionId} {ack : Bytes}
      (hc : r.channel = some c) (hstate : c.state ∈ receivingStates) (horder : c.order = .unordered)
      (hdest : p.destination = id) (hfrom : c.remote = .ofEnd p.source)
      (hbefore : ∀ w, r.counterpartyUpgrade = some w → ¬w.nextSend ≤ p.sequence)
      (hshown : v.shown h (.commitment p.source p.sequence) (some p.commitment))
      (hfirst : (r.receipts.get? p.sequence).getD .none ≠ .received)
      (hintime : p.timedOut v.host.height v.host.time = false) (hasked : v.receiving p) :
      Turn v id r { r with receipts := r.receipts.insert p.sequence .received
                           acks := r.acks.insert p.sequence ack }
        [.receivePacket p c.order hop]
  | receivedOrdered {c : ChannelEnd} {p : Packet} {h : Height} {hop : ConnectionId} {ack : Bytes}
      (hc : r.channel = some c) (hstate : c.state ∈ receivingStates) (horder : c.order = .ordered)
      (hdest : p.destination = id) (hfrom : c.remote = .ofEnd p.source)
      (hbefore : ∀ w, r.counterpartyUpgrade = some w → ¬w.nextSend ≤ p.sequence)
      (hshown : v.shown h (.commitment p.source p.sequence) (some p.commitment))
      (hnext : r.nextReceive = some p.sequence)
      (hintime : p.timedOut v.host.height v.host.time = false) (hasked : v.receiving p) :
      Turn v id r { r with nextReceive := some p.sequence.next
                           acks := r.acks.insert p.sequence ack }
        [.receivePacket p c.order hop]
  -- A flushing end that has settled its last packet is flushed, so that it always waits for some.
  | settled {n : Sequence} {nextAck : Option Sequence} (hflight : r.commitments.get? n ≠ none)
      {c : ChannelEnd} (hc : r.channel = some c) (hawaits : r.Awaits v c n nextAck)
      (hrest : c.state = .flushing → (r.settle n nextAck).commitments.isEmpty = false)
      (hasked : v.settling id n) :
      Turn v id r (r.settle n nextAck) []
  | flushed {c : ChannelEnd} {w : Upgrade} {n : Sequence} {nextAck : Option Sequence}
      (hc : r.channel = some c) (hstate : c.state = .flushing) (hw : r.counterpartyUpgrade = some w)
      (htime : w.timeout.hasElapsed v.host.height v.host.time = false)
      (hlast : (r.settle n nextAck).commitments.isEmpty = true) (hflight : r.commitments.get? n ≠ none)
      (hawaits : r.Awaits v c n nextAck) (hasked : v.settling id n) :
      Turn v id r ((r.settle n nextAck).setState c .flushComplete) []
  | timedOut {c : ChannelEnd} {n : Sequence} (hc : r.channel = some c)
      (hto : c.remote.channel ≠ none) (hflight : r.commitments.get? n ≠ none) {es : List Event}
      (hes : es = if c.state.isUpgrading = true then
        [.upgradeError (.ofEnd id c) c.state (c.receiptFor .channelClosed)] else [])
      (horder : c.order = .ordered) (hasked : v.lapsing id n) :
      Turn v id r ((r.settle n r.nextAck).close c) es
  | proposed {c : ChannelEnd} {f : UpgradeFields} {timeout : UpgradeTimeout}
      (hc : r.channel = some c) (hopen : c.state = .opened) (hnew : f ≠ c.fields)
      (hhops : f.hops.length = 1) (hdeadline : v.deadline timeout) (horder : f.order ≠ .unspecified)
      (hasked : v.upgrading id)
      (hconnected : ∃ hop conn, f.hops.head? = some hop ∧ v.connections.get? hop = some conn) :
      Turn v id r { r with channel := some (Message.UpgradeInit.proposed c)
                           upgrade := some ⟨f, timeout, .zero⟩ } []
  | refused {c : ChannelEnd} {e : UpgradeError} (hc : r.channel = some c) (hopen : c.state = .opened) :
      Turn v id r { r with errorReceipt := some (c.receiptFor e) }
        [.upgradeError (.ofEnd id c) .opened (c.receiptFor e)]
  -- A crossing proposal is answered only if it goes before the own one.
  | answered {c : ChannelEnd} {p : Upgrade} {hops : List ConnectionId} {n : UInt64}
      {nextSend : Sequence} {h : Height} {remote : EndId} (hc : r.channel = some c)
      (hto : c.remote = .ofEnd remote)
      (hstate : c.state = .opened ∧ c.upgradeSequence < n ∨
        c.state = .initUpgrade ∧ ∃ own, r.upgrade = some own ∧
          upgradePrecedence ⟨c.upgradeSequence, own.fields, id⟩ ⟨n, p.fields, remote⟩ = .theirs)
      (hend : v.mirrors h id c remote .initUpgrade n) (hupgrade : v.holdsUpgrade h remote p)
      (hhops : hops.length = 1) (hface : v.hopsFace { p.fields with hops } p.fields)
      (hdeadline : v.deadline p.timeout)
      (htime : p.timeout.hasElapsed v.host.height v.host.time = false)
      (hnext : r.nextSend = some nextSend) (horder : p.fields.order ≠ .unspecified)
      (hasked : v.upgrading id) :
      Turn v id r { r with channel := some { c with state := .tryUpgrade, upgradeSequence := n }
                           upgrade := some ⟨{ p.fields with hops }, p.timeout, nextSend⟩ } []
  | acked {c : ChannelEnd} {u w : Upgrade} {nextSend : Sequence} {h : Height} {remote : EndId}
      (hc : r.channel = some c) (hto : c.remote = .ofEnd remote) (hstate : c.state = .initUpgrade)
      (hu : r.upgrade = some u) (hend : v.mirrors h id c remote .tryUpgrade c.upgradeSequence)
      (hupgrade : v.holdsUpgrade h remote w) (horder : u.fields.order = w.fields.order)
      (hface : v.hopsFace u.fields w.fields) (hdeadline : v.deadline w.timeout)
      (htime : w.timeout.hasElapsed v.host.height v.host.time = false)
      (hnext : r.nextSend = some nextSend) :
      Turn v id r { r with
        channel := some { c with state := r.flushState }
        upgrade := some { u with fields := { u.fields with version := w.fields.version }, nextSend }
        counterpartyUpgrade := some w } []
  | confirmed {c : ChannelEnd} {u w : Upgrade} {state : ChannelState} {h : Height} {remote : EndId}
      (hc : r.channel = some c) (hto : c.remote = .ofEnd remote) (hstate : c.state = .tryUpgrade)
      (hu : r.upgrade = some u) (htheirs : state = .flushing ∨ state = .flushComplete)
      (hend : v.mirrors h id c remote state c.upgradeSequence)
      (hupgrade : v.holdsUpgrade h remote w) (horder : w.fields.order = u.fields.order)
      (hversion : w.fields.version = u.fields.version) (hdeadline : v.deadline w.timeout)
      (htime : w.timeout.hasElapsed v.host.height v.host.time = false) :
      Turn v id r { r with channel := some { c with state := r.flushState }
                           counterpartyUpgrade := some w } []
  -- The same, where no packet is in flight either way.
  | confirmedLast {c : ChannelEnd} {u w : Upgrade} {h : Height} {remote : EndId}
      (hc : r.channel = some c) (hto : c.remote = .ofEnd remote) (hstate : c.state = .tryUpgrade)
      (hu : r.upgrade = some u)
      (hend : v.mirrors h id c remote .flushComplete c.upgradeSequence)
      (hupgrade : v.holdsUpgrade h remote w) (horder : w.fields.order = u.fields.order)
      (hversion : w.fields.version = u.fields.version) (hdeadline : v.deadline w.timeout)
      (htime : w.timeout.hasElapsed v.host.height v.host.time = false)
      (hlast : r.commitments.isEmpty = true) (hasked : v.committing id) :
      Turn v id r (r.commit c u w) [.upgrade .opened (.ofEnd id (c.upgraded u.fields)) u.fields]
  | committed {c d : ChannelEnd} {u w : Upgrade} {h : Height} {remote : EndId}
      (hc : r.channel = some c) (hto : c.remote = .ofEnd remote) (hstate : c.state = .flushComplete)
      (hu : r.upgrade = some u) (hw : r.counterpartyUpgrade = some w) (hheld : v.holds h remote d)
      (hdone : d.state = .flushComplete ∧ d.upgradeSequence = c.upgradeSequence ∨
        (d.state = .opened ∨ d.state = .initUpgrade) ∧ c.upgradeSequence ≤ d.upgradeSequence ∧
          d.fields = ⟨u.fields.order, w.fields.hops, u.fields.version⟩) (hasked : v.committing id) :
      Turn v id r (r.commit c u w) [.upgrade .opened (.ofEnd id (c.upgraded u.fields)) u.fields]
  -- An attempt may be given up at a later sequence than the end was at, which the other end has reached.
  | gaveUp {c : ChannelEnd} {base : ChannelRecord} {n : UInt64} {e : UpgradeError}
      (hc : r.channel = some c) (hbase : base = r ∨ ∃ m nextAck, base = r.settle m nextAck ∧
        r.commitments.get? m ≠ none ∧ r.Awaits v c m nextAck ∧ v.settling id m)
      (hstate : (c.state.isUpgrading = true ∨ r.upgrade ≠ none) ∧ c.upgradeSequence ≤ n ∨
        c.state = .opened ∧ c.upgradeSequence < n)
      (hexcuse : c.state = .flushComplete → n = c.upgradeSequence ∧ v.Excuses id r c) :
      Turn v id r (base.giveUp { c with upgradeSequence := n } e)
        [.upgradeError (.ofEnd id ({ c with upgradeSequence := n } : ChannelEnd).reopened) .opened
          (({ c with upgradeSequence := n } : ChannelEnd).receiptFor e)]

namespace Turn

variable [Digest] {v : View} {id : EndId} {r r' : ChannelRecord} {es : List Event}

/-- The owner of an end keeps it. -/
theorem owned (h : Turn v id r r' es) (hr : r.channel ≠ none → r.capability ≠ none) :
    r'.channel ≠ none → r'.capability ≠ none := by
  cases h with
  | idle => exact hr
  | created => intro _; simp
  | opened hc => intro _; exact hr (by simp [hc])
  | closed hc => intro _; exact hr (by simp [hc])
  | sent hc => exact hr
  | receivedUnordered => exact hr
  | receivedOrdered => exact hr
  | settled => exact hr
  | flushed hc => intro _; exact hr (by simp [hc])
  | timedOut hc =>
    intro _
    rw [ChannelRecord.capability_close]
    exact hr (by simp [hc])
  | proposed hc => intro _; exact hr (by simp [hc])
  | refused => exact hr
  | answered hc => intro _; exact hr (by simp [hc])
  | acked hc => intro _; exact hr (by simp [hc])
  | confirmed hc => intro _; exact hr (by simp [hc])
  | confirmedLast hc =>
    intro _
    rw [ChannelRecord.capability_commit]
    exact hr (by simp [hc])
  | committed hc =>
    intro _
    rw [ChannelRecord.capability_commit]
    exact hr (by simp [hc])
  | gaveUp hc hbase =>
    intro _
    rcases hbase with rfl | ⟨n, nextAck, rfl, -⟩ <;> exact hr (by simp [hc])

/-- The events of a turn are about the end that takes it. -/
theorem about (h : Turn v id r r' es) {e : Event} (he : e ∈ es) : e.decides? = some id := by
  cases h with
  | receivedUnordered _ _ _ hdest =>
    obtain rfl := List.mem_singleton.1 he
    exact congrArg some hdest
  | receivedOrdered _ _ _ hdest =>
    obtain rfl := List.mem_singleton.1 he
    exact congrArg some hdest
  | timedOut _ _ _ hes =>
    subst hes
    split at he
    · obtain rfl := List.mem_singleton.1 he
      rfl
    · cases he
  | refused => obtain rfl := List.mem_singleton.1 he; rfl
  | confirmedLast => obtain rfl := List.mem_singleton.1 he; rfl
  | committed => obtain rfl := List.mem_singleton.1 he; rfl
  | gaveUp => obtain rfl := List.mem_singleton.1 he; rfl
  | _ => cases he

end Turn

end ChannelLayer
