import ChannelLayer.Proofs.Abandonment

/-!
# The numbers of attempts

An attempt is numbered where it is proposed, takes over the number of the other end where that is answered, and
is followed by the next number where it is given up, after a receipt of the other end may have moved it ahead.
None of this goes back (`Turn.grows`): a crossing proposal is answered only if it goes first, and the number
comes before all else there. An error receipt is never ahead of the end that has left it
(`Turn.receipted`), so that a later one never says less.
-/

set_option autoImplicit false

namespace ChannelLayer

namespace ChannelRecord

/-- No number of an attempt has run over. Where one is added to the last number the result is zero: a proposal
would be at zero, or an end at zero would be beside the receipt of the last number. -/
structure InRange (r : ChannelRecord) : Prop where
  proposal : ∀ c, r.channel = some c → c.state = .initUpgrade → c.upgradeSequence ≠ 0
  receipt : ∀ c e, r.channel = some c → r.errorReceipt = some e → e.sequence = lastAttempt →
    c.upgradeSequence ≠ 0

instance (r : ChannelRecord) : Decidable r.InRange :=
  decidable_of_iff ((∀ c ∈ r.channel, c.state = .initUpgrade → c.upgradeSequence ≠ 0) ∧
    ∀ c ∈ r.channel, ∀ e ∈ r.errorReceipt, e.sequence = lastAttempt → c.upgradeSequence ≠ 0)
    ⟨fun h => ⟨h.1, fun c e hc he => h.2 c hc e he⟩,
      fun h => ⟨h.proposal, fun c hc e he => h.receipt c e hc he⟩⟩

/-- An error receipt is not ahead of its end. -/
def Receipted (r : ChannelRecord) : Prop :=
  ∀ e, r.errorReceipt = some e → ∃ c, r.channel = some c ∧ e.sequence ≤ c.upgradeSequence

/-- The receipt that is kept in `r'` says no less than the one in `r`. -/
def ReceiptLe (r r' : ChannelRecord) : Prop :=
  ∀ e, r.errorReceipt = some e → ∃ e', r'.errorReceipt = some e' ∧ e.sequence ≤ e'.sequence

theorem ReceiptLe.of_eq {r r' : ChannelRecord} (h : r'.errorReceipt = r.errorReceipt) : r.ReceiptLe r' :=
  fun e he => ⟨e, h.trans he, UInt64.le_refl _⟩

theorem ReceiptLe.trans {r r' r'' : ChannelRecord} (h : r.ReceiptLe r') (h' : r'.ReceiptLe r'') :
    r.ReceiptLe r'' := by
  intro e he
  obtain ⟨e', he', hle⟩ := h e he
  obtain ⟨e'', he'', hle'⟩ := h' e' he'
  exact ⟨e'', he'', UInt64.le_trans hle hle'⟩

end ChannelRecord

namespace ChannelRecord.InRange

variable {r : ChannelRecord} {c : ChannelEnd} {n : UInt64}

theorem lt_of_proposal (h : r.InRange) (hc : r.channel = some c) (hinit : c.state = .initUpgrade)
    (hseq : c.upgradeSequence = n + 1) : n < n + 1 := by
  refine lt_add_one_of_not_last fun hlast => h.proposal c hc hinit ?_
  rw [hseq, hlast]
  rfl

theorem lt_of_receipt {e : ErrorReceipt} (h : r.InRange) (hc : r.channel = some c)
    (he : r.errorReceipt = some e) (hn : e.sequence = n) (hseq : c.upgradeSequence = n + 1) : n < n + 1 := by
  refine lt_add_one_of_not_last fun hlast => h.receipt c e hc he (hn.trans hlast) ?_
  rw [hseq, hlast]
  rfl

end ChannelRecord.InRange

/-- The end goes from `c` to `c'` without going back, and to a new number where it enters an attempt. -/
structure ChannelEnd.GrowsTo (c c' : ChannelEnd) : Prop where
  le : c.upgradeSequence ≤ c'.upgradeSequence
  proposed : c'.state = .initUpgrade → c.state ≠ .initUpgrade → c.upgradeSequence < c'.upgradeSequence
  answered : c'.state = .tryUpgrade → c.state = .opened → c.upgradeSequence < c'.upgradeSequence

/-- An end that keeps its number enters no attempt. -/
theorem ChannelEnd.GrowsTo.of_kept {c c' : ChannelEnd} (hseq : c'.upgradeSequence = c.upgradeSequence)
    (hinit : c'.state = .initUpgrade → c.state = .initUpgrade)
    (htry : c'.state = .tryUpgrade → c.state = .tryUpgrade) : c.GrowsTo c' where
  le := UInt64.le_of_eq hseq.symm
  proposed hinit' hne := absurd (hinit hinit') hne
  answered htry' hopen := by
    rw [htry htry'] at hopen
    cases hopen

namespace Turn

variable [Digest] {v : View} {id : EndId} {r r' : ChannelRecord} {es : List Event}

/-- The numbers of an end do not go back. -/
theorem grows (h : Turn v id r r' es) (hrange : r'.InRange) {c : ChannelEnd} (hc : r.channel = some c) :
    ∃ c', r'.channel = some c' ∧ c.GrowsTo c' := by
  have hsame {d : ChannelEnd} (hd : r.channel = some d) : d = c :=
    Option.some.inj (hd.symm.trans hc)
  have hflush {state : ChannelState} (hno : state ≠ .flushing ∧ state ≠ .flushComplete) :
      r.flushState ≠ state := by
    rcases r.flushState_eq with hflush | hflush <;> rw [hflush]
    · exact hno.1.symm
    · exact hno.2.symm
  cases h with
  | created hnew => simp [hc] at hnew
  | opened hd hstate hopen horder hto hhops hseq =>
    obtain rfl := hsame hd
    exact ⟨_, rfl, .of_kept hseq (by rw [hopen]; nofun) (by rw [hopen]; nofun)⟩
  | closed hd => obtain rfl := hsame hd; exact ⟨_, rfl, .of_kept rfl nofun nofun⟩
  | flushed hd => obtain rfl := hsame hd; exact ⟨_, rfl, .of_kept rfl nofun nofun⟩
  | timedOut hd =>
    obtain rfl := hsame hd
    exact ⟨_, ChannelRecord.channel_close _, .of_kept rfl nofun nofun⟩
  | proposed hd hopen =>
    obtain rfl := hsame hd
    have hlt := hrange.lt_of_proposal rfl rfl rfl
    exact ⟨_, rfl, UInt64.le_of_lt hlt, fun _ _ => hlt, nofun⟩
  | answered hd hto hstate =>
    obtain rfl := hsame hd
    refine ⟨_, rfl, ?_, nofun, fun _ hopen => ?_⟩
    · rcases hstate with ⟨-, hlt⟩ | ⟨-, own, -, htheirs⟩
      · exact UInt64.le_of_lt hlt
      · exact sequence_le_of_theirs htheirs
    · rcases hstate with ⟨-, hlt⟩ | ⟨hinit, -⟩
      · exact hlt
      · rw [hinit] at hopen
        cases hopen
  | acked hd =>
    obtain rfl := hsame hd
    exact ⟨_, rfl, .of_kept rfl (fun h => absurd h (hflush (by decide))) fun h => absurd h (hflush (by decide))⟩
  | confirmed hd =>
    obtain rfl := hsame hd
    exact ⟨_, rfl, .of_kept rfl (fun h => absurd h (hflush (by decide))) fun h => absurd h (hflush (by decide))⟩
  | confirmedLast hd =>
    obtain rfl := hsame hd
    exact ⟨_, ChannelRecord.channel_commit .., .of_kept rfl nofun nofun⟩
  | committed hd =>
    obtain rfl := hsame hd
    exact ⟨_, ChannelRecord.channel_commit .., .of_kept rfl nofun nofun⟩
  | gaveUp hd hbase hguard =>
    obtain rfl := hsame hd
    have hle := UInt64.le_iff_toNat_le.2 (sequence_le_of_gaveUp hguard)
    have hlt := hrange.lt_of_receipt rfl rfl rfl rfl
    exact ⟨_, rfl, UInt64.le_trans hle (UInt64.le_of_lt hlt), nofun, nofun⟩
  | _ => exact ⟨c, hc, .of_kept rfl (fun h => h) fun h => h⟩

/-- A new receipt says no less than the one before it, and is not ahead of the end. -/
theorem receipted (h : Turn v id r r' es) (hrange : r'.InRange) (hr : r.Receipted) :
    r.ReceiptLe r' ∧ r'.Receipted := by
  -- A receipt at the number of the end or above it says no less than any before it.
  have hnew {c : ChannelEnd} {e' : ErrorReceipt} (hc : r.channel = some c)
      (he' : r'.errorReceipt = some e') (hle : c.upgradeSequence ≤ e'.sequence) : r.ReceiptLe r' := by
    intro e he
    obtain ⟨d, hd, hbound⟩ := hr e he
    obtain rfl := Option.some.inj (hc.symm.trans hd)
    exact ⟨e', he', UInt64.le_trans hbound hle⟩
  have hkept (hsame : r'.errorReceipt = r.errorReceipt) : r.ReceiptLe r' ∧ r'.Receipted := by
    refine ⟨.of_eq hsame, fun e he => ?_⟩
    obtain ⟨c, hc, hle⟩ := hr e (hsame ▸ he)
    obtain ⟨c', hc', hgrows⟩ := h.grows hrange hc
    exact ⟨c', hc', UInt64.le_trans hle hgrows.le⟩
  cases h with
  | @timedOut c n hc =>
    by_cases hin : c.state.isUpgrading = true
    · have he : ((r.settle n r.nextAck).close c).errorReceipt = some (c.receiptFor .channelClosed) := by
        rw [ChannelRecord.close, if_pos hin]
      refine ⟨hnew hc he (UInt64.le_refl _), fun e he' => ⟨_, ChannelRecord.channel_close c, ?_⟩⟩
      obtain rfl := Option.some.inj (he.symm.trans he')
      exact UInt64.le_refl _
    · exact hkept (by rw [ChannelRecord.close, if_neg hin]; rfl)
  | refused hc hopen =>
    refine ⟨hnew hc rfl (UInt64.le_refl _), fun e he => ⟨_, hc, ?_⟩⟩
    obtain rfl := Option.some.inj he
    exact UInt64.le_refl _
  | gaveUp hc hbase hguard =>
    refine ⟨hnew hc rfl (UInt64.le_iff_toNat_le.2 (sequence_le_of_gaveUp hguard)), fun e he => ⟨_, rfl, ?_⟩⟩
    obtain rfl := Option.some.inj he
    exact UInt64.le_of_lt (hrange.lt_of_receipt rfl rfl rfl rfl)
  | confirmedLast => exact hkept (ChannelRecord.errorReceipt_commit ..)
  | committed => exact hkept (ChannelRecord.errorReceipt_commit ..)
  | _ => exact hkept rfl

end Turn

/-! ## A course -/

namespace Course

section
variable [Digest] (course : Course)

/-- The end `id`, which is `c`, becomes `c'` in deed `i` and does not go back; an attempt that it abandons is
behind it if it is open again. -/
structure Counts (i : Nat) (id : EndId) (c c' : ChannelEnd) : Prop extends c.GrowsTo c' where
  abandoned : ∀ n, course.Abandons i id c n → c'.state = .opened →
    c.upgradeSequence ≤ n ∧ n < c'.upgradeSequence

end

section
variable [Digest] {course : Course} {i j : Nat} {id : EndId} {c : ChannelEnd}

theorem grows (h : course.Regular) (hrange : ∀ i, (course.record i id).InRange)
    (hc : (course.record i id).channel = some c) :
    ∃ c', (course.record (i + 1) id).channel = some c' ∧ c.GrowsTo c' := by
  rcases turn (standing h i) id with ⟨es, hturn⟩ | hreleased
  · exact hturn.grows (hrange (i + 1)) hc
  · refine ⟨c, ?_, .of_kept rfl (fun h => h) fun h => h⟩
    rw [hreleased]
    exact hc

theorem counts (h : course.Regular) (hrange : ∀ i, (course.record i id).InRange)
    (hc : (course.record i id).channel = some c) :
    ∃ c', (course.record (i + 1) id).channel = some c' ∧ course.Counts i id c c' := by
  obtain ⟨c', hc', hgrows⟩ := grows h hrange hc
  refine ⟨c', hc', hgrows, fun n habandons hopen => ?_⟩
  obtain ⟨d, e, hleaves⟩ := leaves_of_abandons h hc habandons
  obtain rfl := Option.some.inj (hc'.symm.trans hleaves.channel)
  obtain ⟨base, -, hrecord⟩ := hleaves.abandons.record
  have hreceipt : (course.record (i + 1) id).errorReceipt = some e := by rw [hrecord]
  rcases hleaves.abandons.outcome with hend | ⟨hend, -⟩
  · have hseq : c'.upgradeSequence = e.sequence + 1 := by rw [hend]
    refine ⟨hleaves.sequence, ?_⟩
    rw [hseq]
    exact UInt64.lt_of_le_of_lt hleaves.receipt ((hrange (i + 1)).lt_of_receipt hc' hreceipt rfl hseq)
  · rw [hend] at hopen
    cases hopen

theorem sequence_le_of_le (h : course.Regular) (hrange : ∀ i, (course.record i id).InRange)
    (hc : (course.record i id).channel = some c) (hij : i ≤ j) :
    ∃ c', (course.record j id).channel = some c' ∧ c.upgradeSequence ≤ c'.upgradeSequence := by
  induction hij with
  | refl => exact ⟨c, hc, UInt64.le_refl _⟩
  | step _ ih =>
    obtain ⟨b, hb, hle⟩ := ih
    obtain ⟨c', hc', hgrows⟩ := grows h hrange hb
    exact ⟨c', hc', UInt64.le_trans hle hgrows.le⟩

theorem receipted (h : course.Regular) (hrange : ∀ i, (course.record i id).InRange) (i : Nat) :
    (course.record i id).Receipted := by
  induction i with
  | zero =>
    rw [record_zero h]
    exact fun e he => by cases he
  | succ i ih =>
    rcases turn (standing h i) id with ⟨es, hturn⟩ | hreleased
    · exact (hturn.receipted (hrange (i + 1)) ih).2
    · rw [hreleased]
      exact ih

theorem receiptLe (h : course.Regular) (hrange : ∀ i, (course.record i id).InRange) (hij : i ≤ j) :
    (course.record i id).ReceiptLe (course.record j id) := by
  induction hij with
  | refl => exact .of_eq rfl
  | @step j _ ih =>
    refine ih.trans ?_
    rcases turn (standing h j) id with ⟨es, hturn⟩ | hreleased
    · exact (hturn.receipted (hrange (j + 1)) (receipted h hrange j)).1
    · exact .of_eq (by rw [hreleased])

/-- Neither the number of an end nor that of its receipt ever goes back, and the receipt is never ahead. -/
theorem upgrade_sequences_grow (h : course.Regular) (hrange : ∀ i, (course.record i id).InRange) :
    (∀ i c, (course.record i id).channel = some c →
      ∃ c', (course.record (i + 1) id).channel = some c' ∧ course.Counts i id c c') ∧
    (∀ i j c, i ≤ j → (course.record i id).channel = some c →
      ∃ c', (course.record j id).channel = some c' ∧ c.upgradeSequence ≤ c'.upgradeSequence) ∧
    (∀ i j, i ≤ j → (course.record i id).ReceiptLe (course.record j id)) ∧
    ∀ i, (course.record i id).Receipted :=
  ⟨fun _ _ hc => counts h hrange hc, fun _ _ _ hij hc => sequence_le_of_le h hrange hc hij,
    fun _ _ hij => receiptLe h hrange hij, receipted h hrange⟩

end

/-! ## The numbers of an attempt that comes to nothing -/

section
attribute [local instance] Digest.plain

open Sample (endId channel)

theorem dragging_inRange (i : Nat) : (dragging.record i endId).InRange := by
  refine (forall_chain dragging (P := fun c => (c.store.record endId).InRange)).2 ?_ i
  decide +kernel

/-- The end gives up the attempt 1 and is at the number 2 from then on, past its receipt. -/
theorem numbers_when_dragging : (∀ i, (dragging.record i endId).InRange) ∧
    dragging.Counts 8 endId (channel .flushing .unordered 1) (channel .opened .unordered 2) ∧
    (∀ j, 9 ≤ j → ∃ c, (dragging.record j endId).channel = some c ∧ 2 ≤ c.upgradeSequence) ∧
    (dragging.record 9 endId).Receipted := by
  obtain ⟨hnumbering, hbefore, hafter, -⟩ := dragging_facts
  obtain ⟨hsteps, hgrow, -, hreceipted⟩ :=
    upgrade_sequences_grow (Sample.regular_of_numbering hnumbering) dragging_inRange
  obtain ⟨c', hc', hcounts⟩ := hsteps 8 _ hbefore
  obtain rfl := Option.some.inj (hafter.symm.trans hc')
  exact ⟨dragging_inRange, hcounts, fun j hj => hgrow 9 j _ hj hafter, hreceipted 9⟩

end

end Course

end ChannelLayer
