import ChannelLayer.Proofs.Acceptance
import ChannelLayer.Sample

/-!
# Whether the other end is done with an attempt

A flushed end commits if the other end is done with the attempt (open), and may give the attempt up once
the deadline has passed over there if it is not (expire). Each decides this for itself, from the same end of
the other chain under the same proof, and there are two ends on which they differ. One in INITUPGRADE has
committed and proposed anew, which open takes for done and expire does not, so both are accepted. One that is
open again on its old connection, after an upgrade that was to change nothing else, is done for expire, which
does not look at the hops, and is not for open, which does: neither is accepted.

* `counterpartyDone_of_open`: what open accepts, expire counts as done unless it is in INITUPGRADE.
* `expire_iff_of_open`: where open is accepted, when expire is too.
* `UpgradeExpire.ShowsOpen.concludes_iff`: of an open end, when one of the two is accepted.
-/

set_option autoImplicit false

namespace ChannelLayer.Message

section
variable [Digest] {host : Host} {s : Store}

omit [Digest] in
/-- Where open accepts the other end, expire counts it as done exactly if it is not in INITUPGRADE. -/
theorem counterpartyDone_of_open {o : UpgradeOpen} {e : UpgradeExpire} {c : ChannelEnd} {u w : Upgrade}
    (hend : e.counterpartyChannel = o.counterpartyChannel) (ho : o.checkCounterparty c u w = .ok ()) :
    e.counterpartyDone c u = false ↔ o.counterpartyChannel.state = .initUpgrade := by
  have hdone : e.counterpartyDone c u = true ↔ o.counterpartyChannel.state ≠ .initUpgrade := by
    rw [UpgradeExpire.counterpartyDone_iff, hend]
    rcases UpgradeOpen.checkCounterparty_eq_ok.1 ho with
        ⟨hflushed, hseq⟩ | ⟨hstate | hstate, hseq, hfields⟩
    · simp [hflushed, hseq]
    · simp only [ChannelEnd.fields, UpgradeFields.mk.injEq] at hfields
      simp [hstate, hseq, hfields.1, hfields.2.2]
    · simp [hstate]
  rw [← Bool.not_eq_true, hdone, Decidable.not_not]

/-- The deadline of the attempt had passed on the other chain when the proof was taken. -/
def UpgradeExpire.DeadlinePassed (e : UpgradeExpire) (host : Host) (s : Store) : Prop :=
  ∃ c u hop conn time, (s.record e.id).channel = some c ∧ (s.record e.id).upgrade = some u ∧
    c.hops.head? = some hop ∧ s.connections.get? hop = some conn ∧
    host.clients.consensusTime conn.client e.proofHeight = .ok time ∧
    u.timeout.hasElapsed e.proofHeight time = true

/-- A flushed end that may commit on a proof may give the attempt up on the same proof only if the proof
shows the other end in INITUPGRADE. -/
theorem expire_iff_of_open {o : UpgradeOpen} {e : UpgradeExpire} (hid : e.id = o.id)
    (hend : e.counterpartyChannel = o.counterpartyChannel) (hproof : e.proof = o.proof)
    (hheight : e.proofHeight = o.proofHeight) (ho : o.validate host s = .ok ()) :
    e.validate host s = .ok () ↔ o.counterpartyChannel.state = .initUpgrade ∧
      e.DeadlinePassed host s ∧ e.signer.isEmpty = false := by
  obtain ⟨-, c, hc, hflushed, u, hu, w, -, hop, hhop, conn, ⟨hconn, hopen⟩, hremote, hdone, remote,
    hto, hproofHeight, hchecked, hverified⟩ := UpgradeOpen.validate_eq_ok.1 ho
  rw [UpgradeExpire.validate_eq_ok, hid]
  constructor
  · rintro ⟨hsigner, c', hc', -, u', hu', hop', hhop', conn', ⟨hconn', -⟩, -, hundone, -, time, htime,
      helapsed, -⟩
    obtain rfl : c' = c := Option.some.inj (hc'.symm.trans hc)
    obtain rfl : u' = u := Option.some.inj (hu'.symm.trans hu)
    refine ⟨(counterpartyDone_of_open hend hdone).1 hundone, ?_, hsigner⟩
    exact ⟨c', u', hop', conn', time, by rwa [hid], by rwa [hid], hhop', hconn', htime, helapsed⟩
  · rintro ⟨hinit, ⟨c', u', hop', conn', time, hc', hu', hhop', hconn', htime, helapsed⟩, hsigner⟩
    rw [hid] at hc' hu'
    obtain rfl : c' = c := Option.some.inj (hc'.symm.trans hc)
    obtain rfl : u' = u := Option.some.inj (hu'.symm.trans hu)
    obtain rfl : hop' = hop := Option.some.inj (hhop'.symm.trans hhop)
    obtain rfl : conn' = conn := Option.some.inj (hconn'.symm.trans hconn)
    refine ⟨hsigner, c', hc, by simp [hflushed], u', hu, hop', hhop, conn', ⟨hconn, hopen⟩, ?_, ?_, ?_,
      time, htime, helapsed, remote, hto, ?_, ?_, ?_⟩
    · rwa [hend]
    · exact (counterpartyDone_of_open hend hdone).2 hinit
    · rwa [hheight]
    · rwa [hheight]
    · rwa [hheight]
    · rwa [hheight, hproof, hend]

end

/-! ## The two on one end -/

section
attribute [local instance] Digest.plain

/-- What the attempt proposes. -/
def samplePlan : Upgrade :=
  ⟨Sample.upgradeFields .unordered ⟨"dummy-2"⟩, .atHeight ⟨0, 20⟩, .one⟩

/-- A store whose one end has flushed attempt 1. -/
def flushedStore : Store where
  connections := ⟨[(Sample.connectionId, Sample.connection .opened)]⟩
  records := ⟨[(Sample.endId,
    { channel := some (Sample.channel .flushComplete .unordered 1)
      upgrade := some samplePlan
      counterpartyUpgrade := some samplePlan })]⟩

/-- A host whose client has verified the other chain up to the deadline. -/
def deadlineHost : Host where
  clients := ⟨[(Sample.client, ⟨⟨[(⟨0, 20⟩, Sample.startTime)]⟩, false⟩)]⟩

/-- The proof that the other chain holds `theirs` at the deadline. -/
def deadlineProof (theirs : ChannelEnd) : Bytes :=
  Proof.membership ⟨0, 20⟩ Sample.storePrefix (.channel Sample.endId) theirs.encode

def openOn (theirs : ChannelEnd) : UpgradeOpen :=
  ⟨Sample.endId, theirs, deadlineProof theirs, ⟨0, 20⟩, Sample.signer⟩

def expireOn (theirs : ChannelEnd) : UpgradeExpire :=
  ⟨Sample.endId, theirs, deadlineProof theirs, ⟨0, 20⟩, Sample.signer⟩

/-- The other end once it has committed attempt 1 and proposed attempt 2. -/
def proposingAnew : ChannelEnd :=
  { Sample.channel .initUpgrade .unordered 2 with version := ⟨"dummy-2"⟩ }

/-- An end in FLUSHCOMPLETE is accepted by open, and expire turns it down on the same proof. -/
theorem expire_refused_of_flushed :
    (openOn (Sample.channel .flushComplete .unordered 1)).validate deadlineHost flushedStore = .ok () ∧
      (expireOn (Sample.channel .flushComplete .unordered 1)).validate deadlineHost flushedStore
        ≠ .ok () :=
  have ho : (openOn (Sample.channel .flushComplete .unordered 1)).validate deadlineHost flushedStore
      = .ok () := by decide +kernel
  ⟨ho, fun he => by cases ((expire_iff_of_open rfl rfl rfl rfl ho).1 he).1⟩

/-- Of an end that has committed and proposed anew, both messages are accepted on one proof. -/
theorem open_and_expire_of_proposing :
    (openOn proposingAnew).validate deadlineHost flushedStore = .ok () ∧
      (expireOn proposingAnew).validate deadlineHost flushedStore = .ok () := by
  decide +kernel

end

/-! ## An end that is open -/

/-- The message that would commit on what the message shows. -/
def UpgradeExpire.asOpen (e : UpgradeExpire) : UpgradeOpen :=
  ⟨e.id, e.counterpartyChannel, e.proof, e.proofHeight, e.signer⟩

/-- The end `c` has flushed its attempt of `u` and `w`, and the other end is proved to be open, at this attempt or past
it, at a height at which the deadline had passed. -/
structure UpgradeExpire.ShowsOpen [Digest] (e : UpgradeExpire) (host : Host) (s : Store) (c : ChannelEnd)
    (u w : Upgrade) : Prop where
  signed : e.signer.isEmpty = false
  channel : (s.record e.id).channel = some c
  flushed : c.state = .flushComplete
  upgrade : (s.record e.id).upgrade = some u
  counterpartyUpgrade : (s.record e.id).counterpartyUpgrade = some w
  opened : e.counterpartyChannel.state = .opened
  reached : c.upgradeSequence ≤ e.counterpartyChannel.upgradeSequence
  named : e.counterpartyChannel.remote = .ofEnd e.id
  deadline : e.DeadlinePassed host s
  proved : ∃ hop conn remote, c.hops.head? = some hop ∧ s.connections.get? hop = some conn ∧ conn.state = .opened ∧
    c.remote = .ofEnd remote ∧ conn.checkProofHeight host.clients e.proofHeight = .ok () ∧
    conn.verifyEnd host.clients e.proof e.proofHeight remote e.counterpartyChannel = .ok ()

/-- The other end has the ordering and the version of the upgrade, and other hops. -/
def UpgradeExpire.ShowsOtherHops (e : UpgradeExpire) (u w : Upgrade) : Prop :=
  e.counterpartyChannel.order = u.fields.order ∧ e.counterpartyChannel.version = u.fields.version ∧
    e.counterpartyChannel.hops ≠ w.fields.hops

instance (e : UpgradeExpire) (u w : Upgrade) : Decidable (e.ShowsOtherHops u w) :=
  inferInstanceAs (Decidable (_ ∧ _ ∧ _))

namespace UpgradeExpire.ShowsOpen

variable [Digest] {e : UpgradeExpire} {host : Host} {s : Store} {c : ChannelEnd} {u w : Upgrade}
  (h : e.ShowsOpen host s c u w)

include h

theorem not_flushed (state : Prop) : ¬(e.counterpartyChannel.state = .flushComplete ∧ state) := by
  rintro ⟨hflushed, -⟩
  rw [h.opened] at hflushed
  cases hflushed

theorem done_iff : e.counterpartyDone c u = true ↔
    e.counterpartyChannel.order = u.fields.order ∧ e.counterpartyChannel.version = u.fields.version := by
  rw [counterpartyDone_iff, or_iff_right (h.not_flushed _), and_iff_right h.opened, and_iff_right h.reached]

/-- Of an open end, expire goes by the ordering and the version. -/
theorem expire_iff : e.validate host s = .ok () ↔
    ¬(e.counterpartyChannel.order = u.fields.order ∧ e.counterpartyChannel.version = u.fields.version) := by
  rw [← h.done_iff, Bool.not_eq_true, UpgradeExpire.validate_eq_ok]
  constructor
  · rintro ⟨-, c', hc', -, u', hu', _, -, _, -, -, hundone, -⟩
    obtain rfl : c' = c := Option.some.inj (hc'.symm.trans h.channel)
    obtain rfl : u' = u := Option.some.inj (hu'.symm.trans h.upgrade)
    exact hundone
  · intro hundone
    obtain ⟨c', u', hop', conn', time, hc', hu', hhop', hconn', htime, helapsed⟩ := h.deadline
    obtain rfl : c' = c := Option.some.inj (hc'.symm.trans h.channel)
    obtain rfl : u' = u := Option.some.inj (hu'.symm.trans h.upgrade)
    obtain ⟨hop, conn, remote, hhop, hconn, hopen, hto, hheight, hverified⟩ := h.proved
    obtain rfl : hop' = hop := Option.some.inj (hhop'.symm.trans hhop)
    obtain rfl : conn' = conn := Option.some.inj (hconn'.symm.trans hconn)
    obtain ⟨hchecked, hverified⟩ := ConnectionEnd.verifyEnd_eq_ok.1 hverified
    exact ⟨h.signed, c', h.channel, by simp [h.flushed], u', h.upgrade, hop', hhop, conn', ⟨hconn, hopen⟩, h.named,
      hundone, hheight, time, htime, helapsed, remote, hto, hheight, hchecked, hverified⟩

/-- What expire answers where it takes the other end to be done. -/
theorem expire_refused (hsame : e.counterpartyChannel.order = u.fields.order ∧
    e.counterpartyChannel.version = u.fields.version) :
    e.validate host s = .error (.upgrade (.committed .opened e.counterpartyChannel.upgradeSequence)) := by
  obtain ⟨hop, conn, remote, hhop, hconn, hopen, -⟩ := h.proved
  have hdone := h.done_iff.2 hsame
  have hsigner : e.signer.check = .ok () := by simp [h.signed]
  have hchannel : s.channel e.id = .ok c := by simp [h.channel]
  have hstate : c.checkStateIn [.initUpgrade, .tryUpgrade, .flushing, .flushComplete] = .ok () := by
    simp [h.flushed]
  have hupgrade : s.upgrade e.id = .ok u := by simp [h.upgrade]
  have hfirst : firstHop c.hops = .ok hop := by simp [hhop]
  have hconnection : s.openConnection hop = .ok conn := by simp [hconn, hopen]
  have hnamed : e.counterpartyChannel.checkRemote (.ofEnd e.id) = .ok () := by simp [h.named]
  rw [UpgradeExpire.validate, hsigner, hchannel]
  simp only [bind, Except.bind, hstate, hupgrade, hfirst, hconnection, hnamed, hdone, h.opened, if_true]
  rfl

/-- Of an open end, open goes by the hops too. -/
theorem open_iff : e.asOpen.validate host s = .ok () ↔
    e.counterpartyChannel.fields = ⟨u.fields.order, w.fields.hops, u.fields.version⟩ := by
  rw [UpgradeOpen.validate_eq_ok]
  constructor
  · rintro ⟨-, c', hc', -, u', hu', w', hw', _, -, _, -, -, hchecks, -⟩
    obtain rfl : u' = u := Option.some.inj (hu'.symm.trans h.upgrade)
    obtain rfl : w' = w := Option.some.inj (hw'.symm.trans h.counterpartyUpgrade)
    rcases UpgradeOpen.checkCounterparty_eq_ok.1 hchecks with hflushed | ⟨-, -, hfields⟩
    · exact absurd hflushed (h.not_flushed _)
    · exact hfields
  · intro hfields
    obtain ⟨hop, conn, remote, hhop, hconn, hopen, hto, hheight, hverified⟩ := h.proved
    obtain ⟨hchecked, hverified⟩ := ConnectionEnd.verifyEnd_eq_ok.1 hverified
    have hchecks : e.asOpen.checkCounterparty c u w = .ok () :=
      UpgradeOpen.checkCounterparty_eq_ok.2 (.inr ⟨.inl h.opened, h.reached, hfields⟩)
    exact ⟨h.signed, c, h.channel, h.flushed, u, h.upgrade, w, h.counterpartyUpgrade, hop, hhop, conn,
      ⟨hconn, hopen⟩, h.named, hchecks, remote, hto, hheight, hchecked, hverified⟩

/-- An open end lets expire or open be accepted, unless it has the ordering and the version of the upgrade over other
hops. Then expire takes it to be done, and open does not. -/
theorem concludes_iff : (e.validate host s = .ok () ∨ e.asOpen.validate host s = .ok () ↔ ¬e.ShowsOtherHops u w) ∧
    (e.ShowsOtherHops u w →
      e.validate host s = .error (.upgrade (.committed .opened e.counterpartyChannel.upgradeSequence))) := by
  refine ⟨?_, fun hother => h.expire_refused ⟨hother.1, hother.2.1⟩⟩
  rw [h.expire_iff, h.open_iff, ChannelEnd.fields, UpgradeFields.mk.injEq, UpgradeExpire.ShowsOtherHops]
  by_cases horder : e.counterpartyChannel.order = u.fields.order <;>
    by_cases hversion : e.counterpartyChannel.version = u.fields.version <;> simp [horder, hversion]

end UpgradeExpire.ShowsOpen

section
attribute [local instance] Digest.plain

/-- A store whose one end has flushed attempt 1, which is to carry out `plan` on both ends. -/
def flushedIn (plan : Upgrade) : Store :=
  flushedStore.update Sample.endId fun r => { r with upgrade := some plan, counterpartyUpgrade := some plan }

theorem showsOpen_of_flushedIn {plan : Upgrade} {theirs : ChannelEnd} (hdeadline : plan.timeout = .atHeight ⟨0, 20⟩)
    (hopen : theirs.state = .opened) (hseq : 1 ≤ theirs.upgradeSequence)
    (hnamed : theirs.remote = .ofEnd Sample.endId) :
    (expireOn theirs).ShowsOpen deadlineHost (flushedIn plan) (Sample.channel .flushComplete .unordered 1) plan
      plan where
  signed := (by decide : Sample.signer.isEmpty = false)
  channel := rfl
  flushed := rfl
  upgrade := rfl
  counterpartyUpgrade := rfl
  opened := hopen
  reached := hseq
  named := hnamed
  deadline := ⟨_, plan, Sample.connectionId, Sample.connection .opened, Sample.startTime, rfl, rfl, rfl, rfl, rfl,
    by rw [hdeadline]; rfl⟩
  proved := ⟨Sample.connectionId, Sample.connection .opened, Sample.endId, rfl, rfl, rfl, rfl, rfl,
    ConnectionEnd.verifyEnd_eq_ok.2 ⟨rfl, rfl⟩⟩

/-- An end that is open again with what it had before lets the attempt expire. -/
theorem expires_of_reopened :
    (expireOn (Sample.channel .opened .unordered 2)).ShowsOpen deadlineHost (flushedIn samplePlan)
        (Sample.channel .flushComplete .unordered 1) samplePlan samplePlan ∧
      ((expireOn (Sample.channel .opened .unordered 2)).validate deadlineHost (flushedIn samplePlan) = .ok () ∨
        (expireOn (Sample.channel .opened .unordered 2)).asOpen.validate deadlineHost (flushedIn samplePlan)
          = .ok ()) := by
  have hshows : (expireOn (Sample.channel .opened .unordered 2)).ShowsOpen deadlineHost (flushedIn samplePlan)
      (Sample.channel .flushComplete .unordered 1) samplePlan samplePlan :=
    showsOpen_of_flushedIn rfl rfl (by decide) rfl
  exact ⟨hshows, hshows.concludes_iff.1.2 (by decide)⟩

/-- An upgrade that moves the channel to another connection and changes nothing else. -/
def movingPlan : Upgrade := ⟨⟨.unordered, [.numbered 1], Sample.version⟩, .atHeight ⟨0, 20⟩, .one⟩

/-- An end that is open again on its old connection is taken to be done by expire, and is not by open. -/
theorem refused_of_old_hops :
    (expireOn (Sample.channel .opened .unordered 1)).ShowsOpen deadlineHost (flushedIn movingPlan)
        (Sample.channel .flushComplete .unordered 1) movingPlan movingPlan ∧
      (Sample.channel .opened .unordered 1).hops ≠ movingPlan.fields.hops ∧
      (expireOn (Sample.channel .opened .unordered 1)).validate deadlineHost (flushedIn movingPlan)
        = .error (.upgrade (.committed .opened 1)) ∧
      (expireOn (Sample.channel .opened .unordered 1)).asOpen.validate deadlineHost (flushedIn movingPlan)
        ≠ .ok () := by
  have hshows : (expireOn (Sample.channel .opened .unordered 1)).ShowsOpen deadlineHost (flushedIn movingPlan)
      (Sample.channel .flushComplete .unordered 1) movingPlan movingPlan :=
    showsOpen_of_flushedIn rfl rfl (by decide) rfl
  refine ⟨hshows, by decide, hshows.expire_refused (by decide), fun hopens => ?_⟩
  exact absurd (hshows.open_iff.1 hopens) (by decide)

end

end ChannelLayer.Message
