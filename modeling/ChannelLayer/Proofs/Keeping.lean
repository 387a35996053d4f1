import ChannelLayer.Proofs.Course

/-!
# What is kept beside an end

An end that is in an attempt keeps its upgrade and, once it has stopped sending, the other end's; an end that
is not keeps neither (`ChannelRecord.Attempting`). A proposal does not say yet where the sending stops, and a
flushing end waits for some packet (`ChannelRecord.Waiting`). Each turn that moves an end on settles all of
this at once (`Turn.orderly`, `Turn.waiting`), so that it holds of every end at any time
(`Course.upgrades_kept_for`).
-/

set_option autoImplicit false

namespace ChannelLayer

namespace ChannelRecord

/-- What is kept beside the end `c` for an upgrade goes with the state that it is in. -/
structure KeptFor (r : ChannelRecord) (c : ChannelEnd) : Prop where
  upgrade : r.upgrade ≠ none ↔
    c.state = .initUpgrade ∨ c.state = .tryUpgrade ∨ c.state = .flushing ∨ c.state = .flushComplete
  counterparty : r.counterpartyUpgrade ≠ none ↔ c.state = .flushing ∨ c.state = .flushComplete
  proposal : c.state = .initUpgrade →
    ∃ u, r.upgrade = some u ∧ u.nextSend = .zero ∧ u.fields ≠ c.fields
  plan : c.state = .tryUpgrade ∨ c.state = .flushing ∨ c.state = .flushComplete →
    ∃ u, r.upgrade = some u ∧ r.nextSend = some u.nextSend
  flushing : c.state = .flushing → ∃ n, r.commitments.get? n ≠ none
  flushed : c.state = .flushComplete → ∀ n, r.commitments.get? n = none

/-- A proposal leaves open where the sending stops, and a flushing end waits for some packet. -/
structure Waiting (r : ChannelRecord) : Prop where
  proposal : ∀ c u, r.channel = some c → c.state = .initUpgrade → r.upgrade = some u → u.nextSend = .zero
  flushing : ∀ c, r.channel = some c → c.state = .flushing → r.commitments.isEmpty = false

variable {r r' : ChannelRecord} {c : ChannelEnd}

theorem Waiting.of_state (state : ChannelState) (hc : r'.channel = some c) (hstate : c.state = state)
    (hinit : state ≠ .initUpgrade) (hflushing : state ≠ .flushing) : r'.Waiting where
  proposal d u hd hd' := by
    obtain rfl := Option.some.inj (hc.symm.trans hd)
    exact absurd (hstate.symm.trans hd') hinit
  flushing d hd hd' := by
    obtain rfl := Option.some.inj (hc.symm.trans hd)
    exact absurd (hstate.symm.trans hd') hflushing

/-- The state of an end that stops sending says whether it waits for a packet. -/
theorem Waiting.of_flushState (hc : r'.channel = some c) (hstate : c.state = r.flushState)
    (hflight : r'.commitments = r.commitments) : r'.Waiting where
  proposal d u hd hinit := by
    obtain rfl := Option.some.inj (hc.symm.trans hd)
    rw [hstate] at hinit
    unfold flushState at hinit
    split at hinit <;> cases hinit
  flushing d hd hflushing := by
    obtain rfl := Option.some.inj (hc.symm.trans hd)
    rw [hstate] at hflushing
    unfold flushState at hflushing
    split at hflushing
    · cases hflushing
    · rename_i hempty
      rw [hflight]
      exact Bool.not_eq_true _ ▸ hempty

theorem keptFor (hr : r.Orderly) (hw : r.Waiting) (hc : r.channel = some c) : r.KeptFor c := by
  have hattempt := hr.attempting c hc
  unfold Attempting at hattempt
  cases hs : c.state <;> simp only [hs] at hattempt
  case initUpgrade =>
    obtain ⟨u, hu, hnone, -, hnew⟩ := hattempt
    have hzero := hw.proposal c u hc hs hu
    constructor <;> simp [hs, hu, hnone, hzero, hnew]
  case tryUpgrade =>
    obtain ⟨u, hu, hnone, -, hnext⟩ := hattempt
    constructor <;> simp [hs, hu, hnone, hnext]
  case flushing =>
    obtain ⟨u, w, hu, hw', -, hnext⟩ := hattempt
    have hrest := hw.flushing c hc hs
    have hsome : ∃ n, r.commitments.get? n ≠ none := by
      rw [← Bool.not_eq_true, Table.isEmpty_iff] at hrest
      exact Classical.not_forall.1 hrest
    constructor <;> simp [hs, hu, hw', hnext]
    simpa using hsome
  case flushComplete =>
    obtain ⟨u, w, hu, hw', -, hnext, hempty⟩ := hattempt
    rw [Table.isEmpty_iff] at hempty
    constructor <;> simp [hs, hu, hw', hnext, hempty]
  all_goals constructor <;> simp [hs, hattempt.1, hattempt.2]

end ChannelRecord

namespace Turn

variable [Digest] {v : View} {id : EndId} {r r' : ChannelRecord} {es : List Event}

theorem waiting (h : Turn v id r r' es) (hr : r.Waiting) : r'.Waiting := by
  cases h with
  | created hnew hinit =>
    rcases hinit with ⟨hstate, -⟩ | ⟨hstate, -⟩
    · exact .of_state .init rfl hstate (by decide) (by decide)
    · exact .of_state .tryOpen rfl hstate (by decide) (by decide)
  | opened hc hinit hopen => exact .of_state .opened rfl hopen (by decide) (by decide)
  | closed => exact .of_state .closed rfl rfl (by decide) (by decide)
  | sent hc hsending =>
    refine ⟨hr.proposal, fun d hd hflushing => ?_⟩
    obtain rfl := Option.some.inj (hc.symm.trans hd)
    rw [hflushing] at hsending
    cases hsending
  | settled hflight hc hawaits hrest =>
    refine ⟨hr.proposal, fun d hd hflushing => ?_⟩
    obtain rfl := Option.some.inj (hc.symm.trans hd)
    exact hrest hflushing
  | flushed => exact .of_state .flushComplete rfl rfl (by decide) (by decide)
  | timedOut => exact .of_state .closed (ChannelRecord.channel_close _) rfl (by decide) (by decide)
  | proposed =>
    refine ⟨fun d u hd hinit hu => ?_, fun d hd hflushing => ?_⟩
    · obtain rfl := Option.some.inj hu
      rfl
    · obtain rfl := Option.some.inj hd
      cases hflushing
  | answered => exact .of_state .tryUpgrade rfl rfl (by decide) (by decide)
  | acked => exact .of_flushState rfl rfl rfl
  | confirmed => exact .of_flushState rfl rfl rfl
  | confirmedLast => exact .of_state .opened (ChannelRecord.channel_commit ..) rfl (by decide) (by decide)
  | committed => exact .of_state .opened (ChannelRecord.channel_commit ..) rfl (by decide) (by decide)
  | gaveUp => exact .of_state .opened rfl rfl (by decide) (by decide)
  | _ => exact ⟨hr.proposal, hr.flushing⟩

end Turn

namespace Course

section
variable [Digest] {course : Course} {i : Nat} {id : EndId} {c : ChannelEnd}

theorem waiting (h : course.Regular) (i : Nat) (id : EndId) : (course.record i id).Waiting := by
  refine record_induction h i id ?_ (fun j hj r' es hturn hr => hturn.waiting hr) fun r hr => ?_
  · exact ⟨fun _ _ hc => (by cases hc), fun _ hc => (by cases hc)⟩
  · exact ⟨hr.proposal, hr.flushing⟩

/-- At any time, what is kept for an upgrade goes with the state of the end. -/
theorem upgrades_kept_for (h : course.Regular) (hc : (course.record i id).channel = some c) :
    (course.record i id).KeptFor c :=
  ChannelRecord.keptFor (orderly h i id) (waiting h i id) hc

end

/-! ## A packet in flight -/

section
attribute [local instance] Digest.plain

open Sample (endId channel)

/-- Chain `a` opens a channel, sends a packet and agrees to an upgrade. -/
def flushing : Course :=
  Sample.alone [6, 8] (Sample.opening .unordered 6 7 ++ [Step.mk .a (.send ⟨1⟩ (Sample.packet 1))] ++
    Sample.joining (channel .opened .unordered 0) Sample.second Sample.upgradeTimeout 8 8)

theorem flushing_facts : (∀ i, i < flushing.deeds.length →
      (flushing.chain i).store.channelCounter ≠ lastChannel) ∧
    (flushing.record 7 endId).channel = some (channel .flushing .unordered 1) := by
  decide +kernel

/-- An end with a packet in flight flushes, beside both upgrades. -/
theorem upgrades_kept_when_flushing :
    (flushing.record 7 endId).channel = some (channel .flushing .unordered 1) ∧
      (flushing.record 7 endId).KeptFor (channel .flushing .unordered 1) :=
  have ⟨hnumbering, hc⟩ := flushing_facts
  ⟨hc, upgrades_kept_for (Sample.regular_of_numbering hnumbering) hc⟩

end

end Course

end ChannelLayer
