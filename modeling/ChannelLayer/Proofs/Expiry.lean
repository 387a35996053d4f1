import ChannelLayer.Proofs.Acceptance
import ChannelLayer.Proofs.Encoding
import ChannelLayer.Proofs.Orders
import ChannelLayer.Sample

/-!
# What a commitment says of the deadline

A packet is taken for the one in flight if the two are committed to alike, and what is committed to has
zero where there is no deadline. So a deadline of zero, which had passed before any chain began, is written
like none at all, and that is the only case in which two packets that are committed to alike may expire
differently (`Packet.commitment_tells_expiry_iff`).
-/

set_option autoImplicit false

namespace ChannelLayer

/-! ## Deadlines -/

namespace Packet

variable (p q : Packet)

/-- The packet was too late before any chain began. -/
def DueAtOnce : Prop := p.timeoutHeight = .at ⟨0, 0⟩ ∨ p.timeoutTime = .at ⟨0⟩

instance : Decidable p.DueAtOnce := inferInstanceAs (Decidable (_ ∨ _))

/-- No chain has one of the packets expire without the other. -/
def ExpiresWith : Prop := ∀ height time, p.timedOut height time = q.timedOut height time

variable {p q}

/-- A packet that was too late stays so. -/
theorem timedOut_mono {height height' : Height} {time time' : Timestamp} (hheight : height ≤ height')
    (htime : time ≤ time') (hlate : p.timedOut height time = true) : p.timedOut height' time' = true :=
  UpgradeTimeout.hasElapsed_mono (t := ⟨p.timeoutHeight, p.timeoutTime⟩) hheight htime hlate

theorem timedOut_of_dueAtOnce (h : p.DueAtOnce) (height : Height) (time : Timestamp) :
    p.timedOut height time = true := by
  unfold timedOut
  rw [Bool.or_eq_true]
  rcases h with h | h
  · left
    rw [h]
    simp only [TimeoutHeight.hasExpired, decide_eq_true_eq]
    exact Height.zero_le height
  · right
    rw [h]
    simp only [TimeoutTimestamp.hasExpired, decide_eq_true_eq]
    exact Timestamp.zero_le time

/-- The first moment of all is too late only for what was due at once. -/
theorem dueAtOnce_of_timedOut (h : p.timedOut ⟨0, 0⟩ ⟨0⟩ = true) : p.DueAtOnce := by
  unfold timedOut at h
  rw [Bool.or_eq_true] at h
  rcases h with h | h
  · left
    cases hheight : p.timeoutHeight with
    | never => simp [hheight, TimeoutHeight.hasExpired] at h
    | «at» height =>
      simp only [hheight, TimeoutHeight.hasExpired, decide_eq_true_eq] at h
      rw [Height.le_antisymm h (Height.zero_le height)]
  · right
    cases htime : p.timeoutTime with
    | never => simp [htime, TimeoutTimestamp.hasExpired] at h
    | «at» time =>
      simp only [htime, TimeoutTimestamp.hasExpired, decide_eq_true_eq] at h
      rw [Timestamp.le_antisymm h (Timestamp.zero_le time)]

/-! ## What is committed to -/

section
variable [Digest]

/-- What the commitment to the packet is the digest of. -/
def commitmentInput (p : Packet) : Bytes := packetCommitmentInput p.data p.timeoutHeight p.timeoutTime

/-- The numbers of a deadline can be read off what is committed to, each in its place. -/
theorem deadline_of_commitmentInput (h : p.commitmentInput = q.commitmentInput) :
    p.timeoutHeight.toHeight = q.timeoutHeight.toHeight ∧ p.timeoutTime.toNanos = q.timeoutTime.toNanos := by
  unfold commitmentInput packetCommitmentInput at h
  obtain ⟨h, -⟩ := List.append_inj h (by simp)
  obtain ⟨h, hblock⟩ := List.append_inj h (by simp)
  obtain ⟨htime, hrevision⟩ := List.append_inj h (by simp)
  have hblock := Bytes.ofUInt64_injective hblock
  have hrevision := Bytes.ofUInt64_injective hrevision
  exact ⟨(Height.mk.injEq ..).symm ▸ ⟨hrevision, hblock⟩, Bytes.ofUInt64_injective htime⟩

/-- Where no deadline is zero, what is committed to tells the deadlines. -/
theorem deadline_eq (h : p.commitmentInput = q.commitmentInput) (hp : ¬p.DueAtOnce) (hq : ¬q.DueAtOnce) :
    p.timeoutHeight = q.timeoutHeight ∧ p.timeoutTime = q.timeoutTime := by
  obtain ⟨hheight, htime⟩ := deadline_of_commitmentInput h
  unfold DueAtOnce at hp hq
  rw [not_or] at hp hq
  exact ⟨TimeoutHeight.toHeight_inj hp.1 hq.1 hheight, TimeoutTimestamp.toNanos_inj hp.2 hq.2 htime⟩

theorem expiresWith_iff (h : p.commitmentInput = q.commitmentInput) :
    p.ExpiresWith q ↔ (p.DueAtOnce ↔ q.DueAtOnce) := by
  constructor
  · intro hsame
    have hfirst := hsame ⟨0, 0⟩ ⟨0⟩
    constructor
    · intro hp
      apply dueAtOnce_of_timedOut
      rw [← hfirst]
      exact timedOut_of_dueAtOnce hp _ _
    · intro hq
      apply dueAtOnce_of_timedOut
      rw [hfirst]
      exact timedOut_of_dueAtOnce hq _ _
  · intro hboth height time
    by_cases hp : p.DueAtOnce
    · rw [timedOut_of_dueAtOnce hp, timedOut_of_dueAtOnce (hboth.1 hp)]
    · obtain ⟨hheight, htime⟩ := deadline_eq h hp (fun hq => hp (hboth.2 hq))
      unfold timedOut
      rw [hheight, htime]

/-- Of two packets that are committed to alike, one expires when the other does exactly if both or neither
were due at once; and a packet that is taken for the one in flight expires when that one does exactly in
the same case, as long as the hash tells the two apart. -/
theorem commitment_tells_expiry_iff (p q : Packet) :
    (p.commitmentInput = q.commitmentInput → (p.ExpiresWith q ↔ (p.DueAtOnce ↔ q.DueAtOnce))) ∧
    ∀ s : Store, p.source = q.source → p.sequence = q.sequence →
      s.checkInFlight p = .ok () → s.checkInFlight q = .ok () →
      (p.commitment = q.commitment → p.commitmentInput = q.commitmentInput) →
        (p.ExpiresWith q ↔ (p.DueAtOnce ↔ q.DueAtOnce)) := by
  refine ⟨expiresWith_iff, ?_⟩
  intro s hsource hsequence hsent hpasses hapart
  have hp := Store.checkInFlight_eq_ok.1 hsent
  have hq := Store.checkInFlight_eq_ok.1 hpasses
  rw [hsource, hsequence, hq] at hp
  exact expiresWith_iff (hapart (Option.some.inj hp).symm)

end

/-! ## Deadlines of zero -/

section
attribute [local instance] Digest.plain

/-- A deadline of height 100 alone. -/
def unhurried : Packet := Sample.packet 1

/-- The same with a deadline of time zero beside it. -/
def overdue : Packet := { unhurried with timeoutTime := .at ⟨0⟩ }

/-- A deadline of height zero, and none of time. -/
def overdueByHeight : Packet := { unhurried with timeoutHeight := .at ⟨0, 0⟩ }

/-- A deadline of time zero, and none of height. -/
def overdueByTime : Packet := { unhurried with timeoutHeight := .never, timeoutTime := .at ⟨0⟩ }

/-- A store that has sent the packet `p`. -/
def sentStore (p : Packet) : Store :=
  Store.update {} p.source fun r => { r with commitments := r.commitments.insert p.sequence p.commitment }

/-- Zero is zero, whether it is of height or of time. -/
theorem expires_alike_when_overdue : overdueByHeight ≠ overdueByTime ∧
    (sentStore overdueByHeight).checkInFlight overdueByTime = .ok () ∧
    overdueByHeight.ExpiresWith overdueByTime := by
  have hinput : overdueByHeight.commitmentInput = overdueByTime.commitmentInput := by decide
  have hsent : (sentStore overdueByHeight).checkInFlight overdueByHeight = .ok () := by decide
  have hpasses : (sentStore overdueByHeight).checkInFlight overdueByTime = .ok () := by decide
  have halike := (commitment_tells_expiry_iff overdueByHeight overdueByTime).2 (sentStore overdueByHeight)
    rfl rfl hsent hpasses (fun _ => hinput)
  exact ⟨by decide, hpasses, halike.2 (by decide)⟩

/-- A packet that is overdue passes for one that can still be received. -/
theorem overdue_passes_for_unhurried : unhurried.data = overdue.data ∧
    unhurried.commitmentInput = overdue.commitmentInput ∧
    (sentStore unhurried).checkInFlight overdue = .ok () ∧
    unhurried.timedOut ⟨0, 10⟩ Sample.startTime = false ∧
    overdue.timedOut ⟨0, 10⟩ Sample.startTime = true := by
  decide

end

end Packet

end ChannelLayer
