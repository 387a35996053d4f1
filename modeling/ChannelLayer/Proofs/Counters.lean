import ChannelLayer.Proofs.Pairing
import ChannelLayer.Proofs.Reception

/-!
# The counters of ordered ends

An ordered end counts what it has sent, received and had acknowledged. The counters of two ends move at
different times, so what is known of each is where its value comes from: an end has received nothing that the
other one had not sent by some world (`Run.received_sent`), and it waits for the first packet, for the one after
a packet that the other end had acknowledged, or for the one at which it stopped sending for an upgrade that made
the channel ordered (`Run.awaited`). In each case the other end, if it is ordered too, has received all before
(`Run.Awaited.le`): what it acknowledged it had taken in, and where its counter started anew it went on from
there or from later (`Run.resumes_past`).
-/

set_option autoImplicit false

namespace ChannelLayer.Run

section
variable [Digest] (run : Run)

/-- By world `i` the end `id` of chain `x` had sent every packet before `n`. -/
def SentBefore (x : Side) (i : Nat) (id : EndId) (n : Sequence) : Prop :=
  n = .one ∨ ∃ j s, j ≤ i ∧ (run.record x j id).IsJoined ∧ (run.record x j id).nextSend = some s ∧ n ≤ s

/-- Why the ordered end `id` waits for the packet `n` of those that it sends to `remote`. -/
inductive Awaited (x : Side) (i : Nat) (id remote : EndId) : Sequence → Prop
  | opened : Awaited x i id remote .one
  | acknowledged {k : Nat} {n : Sequence} (hki : k ≤ i)
      (hack : (run.record x.other k remote).acks.get? n ≠ none) : Awaited x i id remote n.next
  | resumed {k : Nat} {m : UInt64} {c : ChannelEnd} {u : Upgrade} (hki : k < i)
      (hcommit : run.Commits x k id remote m u.fields) (hc : (run.record x k id).channel = some c)
      (hu : (run.record x k id).upgrade = some u) (hold : c.order = .unordered)
      (hnew : u.fields.order = .ordered) : Awaited x i id remote u.nextSend

/-- At world `i` the end `id` waits for no packet that the end `remote` has not got to, and `remote` waits for
none that `id` has not got to. -/
def InStep (x : Side) (i : Nat) (id remote : EndId) : Prop :=
  ∃ a r s, (run.record x i id).nextAck = some a ∧ (run.record x.other i remote).nextReceive = some r ∧
    (run.record x i id).nextSend = some s ∧ a ≤ r ∧ r ≤ s

end

section
variable [Digest] {run : Run} {x : Side} {i j k : Nat} {id remote : EndId} {c d : ChannelEnd}
  {u : Upgrade} {n s : Sequence} {m : UInt64}

/-! ## Sending and acknowledging -/

theorem SentBefore.mono (hsent : run.SentBefore x j id n) (hji : j ≤ i) : run.SentBefore x i id n := by
  rcases hsent with hone | ⟨k, s, hkj, hsent⟩
  · exact .inl hone
  · exact .inr ⟨k, s, Nat.le_trans hkj hji, hsent⟩

theorem SentBefore.le (h : run.Honest) (hsent : run.SentBefore x i id n)
    (hjoined : (run.record x i id).IsJoined) :
    ∃ s, (run.record x i id).nextSend = some s ∧ n ≤ s := by
  rcases hsent with rfl | ⟨j, s, hji, hjoined', hs, hle⟩
  · exact (sending h x i id).counter hjoined
  · obtain ⟨s', hs', hle'⟩ := nextSend_le h hji hjoined' hs
    exact ⟨s', hs', Sequence.le_trans hle hle'⟩

/-- What an end acknowledges of a packet it has acknowledged since it handed the packet over. -/
theorem acks_handed (h : run.Honest) {bytes : Bytes}
    (hn : (run.record x i id).acks.get? n = some bytes) :
    ∃ k p order hop, k < i ∧ Event.receivePacket p order hop ∈ run.happens x k id ∧ p.sequence = n ∧
      (run.record x (k + 1) id).acks.get? n = some bytes := by
  induction i with
  | zero =>
    rw [record_zero h] at hn
    cases hn
  | succ i ih =>
    rcases (turn h x i id).of_ack n with hsame | ⟨p, order, hop, hhand, hp⟩
    · obtain ⟨k, p, order, hop, hki, hhand⟩ := ih (hsame ▸ hn)
      exact ⟨k, p, order, hop, Nat.lt_succ_of_lt hki, hhand⟩
    · exact ⟨i, p, order, hop, Nat.lt_succ_self i, hhand, hp, hn⟩

/-- An ordered end has just opened, or was joined to the same end before and moved its counters. -/
theorem ordered_succ (h : run.Honest) (hc : (run.record x (i + 1) id).channel = some c)
    (hjoined : c.state.isJoined = true) (horder : c.order = .ordered) :
    Turn.Opens (run.view x i) id (run.record x (i + 1) id) c ∨
      ∃ d, (run.record x i id).channel = some d ∧ d.state.isJoined = true ∧ d.remote = c.remote ∧
        Turn.Counts (run.view x i) id (run.record x i id) (run.record x (i + 1) id)
          (run.happens x i id) := by
  have hbefore (hjoined' : (run.record x i id).IsJoined) : ∃ d, (run.record x i id).channel = some d ∧
      d.state.isJoined = true ∧ d.remote = c.remote ∧ Turn.Counts (run.view x i) id (run.record x i id)
        (run.record x (i + 1) id) (run.happens x i id) := by
    obtain ⟨d, hd, hjoined'⟩ := hjoined'
    obtain ⟨c', hc', -, hsame, -⟩ := (turn h x i id).of_joined hd hjoined'
    obtain rfl := Option.some.inj (hc.symm.trans hc')
    exact ⟨d, hd, hjoined', hsame.symm,
      (turn h x i id).of_ordered (specified h x i id) ⟨d, hd, hjoined'⟩ hc horder⟩
  rcases (turn h x i id).of_isJoined (orderly h x i id) hc hjoined with hjoined' | ⟨-, n, hn⟩ | hopens
  · exact .inr (hbefore hjoined')
  · exact .inr (hbefore ((sending h x i id).inFlight n hn))
  · exact .inl hopens

/-! ## What is waited for -/

theorem Awaited.mono (hawaited : run.Awaited x j id remote n) (hji : j ≤ i) :
    run.Awaited x i id remote n := by
  cases hawaited with
  | opened => exact .opened
  | acknowledged hkj hack => exact .acknowledged (Nat.le_trans hkj hji) hack
  | resumed hkj hcommit hc hu hold hnew =>
    exact .resumed (Nat.lt_of_lt_of_le hkj hji) hcommit hc hu hold hnew

theorem awaited (h : run.Honest) (hc : (run.record x i id).channel = some c)
    (hjoined : c.state.isJoined = true) (horder : c.order = .ordered) (hto : c.remote = .ofEnd remote) :
    ∃ n, (run.record x i id).nextAck = some n ∧ run.Awaited x i id remote n := by
  induction i generalizing c with
  | zero =>
    rw [record_zero h] at hc
    cases hc
  | succ i ih =>
    rcases ordered_succ h hc hjoined horder with hopens | ⟨d, hd, hjoined', hsame, hcounts⟩
    · exact ⟨.one, hopens.nextAck, .opened⟩
    have hto' : d.remote = .ofEnd remote := hsame.trans hto
    have hkept {d' : ChannelEnd} (hd' : (run.record x i id).channel = some d')
        (hordered : d'.order = .ordered)
        (hack : (run.record x (i + 1) id).nextAck = (run.record x i id).nextAck) :
        ∃ n, (run.record x (i + 1) id).nextAck = some n ∧ run.Awaited x (i + 1) id remote n := by
      obtain rfl := Option.some.inj (hd.symm.trans hd')
      obtain ⟨n, hn, hawaited⟩ := ih hd hjoined' hordered hto'
      exact ⟨n, hack.trans hn, hawaited.mono (Nat.le_succ i)⟩
    cases hcounts with
    | kept hd' hordered hreceive hack => exact hkept hd' hordered hack
    | handed hd' hordered hhand hack => exact hkept hd' hordered hack
    | acknowledged hd' hordered hreceive hshown hack =>
      obtain rfl := Option.some.inj (hd.symm.trans hd')
      obtain ⟨height, remote', ack, hto'', k, hki, -, hvalue⟩ := hshown
      obtain rfl := Counterparty.ofEnd_inj (hto'.symm.trans hto'')
      exact ⟨_, hack, .acknowledged (Nat.le_succ_of_le hki) (Option.ne_none_iff_exists'.2 ⟨ack, hvalue⟩)⟩
    | resumed hd' hold hu hnew hcommits hack =>
      obtain rfl := Option.some.inj (hd.symm.trans hd')
      obtain ⟨u', hu', hcommit⟩ := commits_of_turn hto' hcommits
      obtain rfl := Option.some.inj (hu.symm.trans hu')
      exact ⟨_, hack, .resumed (Nat.lt_succ_self i) hcommit hd hu hold hnew⟩

section
variable (h : run.Honest) (hcount : run.Counting) (hplain : run.PlainDeadlines) (hclimb : run.Climbing)

include h hcount hplain hclimb

/-! ## Becoming ordered -/

/-- An end that becomes ordered starts its counters anew from where the two ends stopped sending, which both had
done in the attempt. -/
theorem Commits.resumes (hcommit : run.Commits x i id remote m u.fields)
    (hc : (run.record x i id).channel = some c) (hu : (run.record x i id).upgrade = some u)
    (hold : c.order = .unordered) (hnew : u.fields.order = .ordered) :
    ∃ w j d, (run.record x (i + 1) id).nextReceive = some w.nextSend ∧
      (run.record x i id).nextSend = some u.nextSend ∧ j ≤ i ∧ run.Matched x id c u remote j d w ∧
      d.state.isUpgrading = true ∧ d.state ≠ .initUpgrade := by
  obtain ⟨hlo, hhi, -⟩ := hcommit.phase h
  obtain ⟨c', u', w, hc', hu', -, hto, -, hgrounds, hrecord⟩ := hcommit.grounds h
  obtain rfl := Option.some.inj (hc.symm.trans hc')
  obtain rfl := Option.some.inj (hu.symm.trans hu')
  obtain ⟨j, d, hji, hmatched, hupgrading, hinit, -⟩ :=
    matched_of_grounds h hcount hplain hclimb hc hu hto hgrounds
  refine ⟨w, j, d, ?_, stands_at_plan h hlo hhi hu, hji, hmatched, hupgrading, hinit⟩
  rw [hrecord, ChannelRecord.nextReceive_commit hold hnew]

variable (hsend : run.SendsOn)

include hsend

/-! ## What was received -/

/-- An ordered end has received no packet that the other end had not sent. -/
theorem received_sent (hc : (run.record x i id).channel = some c) (hjoined : c.state.isJoined = true)
    (horder : c.order = .ordered) (hto : c.remote = .ofEnd remote) :
    ∃ n, (run.record x i id).nextReceive = some n ∧ .one ≤ n ∧ run.SentBefore x.other i remote n := by
  induction i generalizing c with
  | zero =>
    rw [record_zero h] at hc
    cases hc
  | succ i ih =>
    rcases ordered_succ h hc hjoined horder with hopens | ⟨d, hd, hjoined', hsame, hcounts⟩
    · exact ⟨.one, hopens.nextReceive, UInt64.le_refl _, .inl rfl⟩
    have hto' : d.remote = .ofEnd remote := hsame.trans hto
    have hkept {d' : ChannelEnd} (hd' : (run.record x i id).channel = some d')
        (hordered : d'.order = .ordered)
        (hreceive : (run.record x (i + 1) id).nextReceive = (run.record x i id).nextReceive) : ∃ n,
          (run.record x (i + 1) id).nextReceive = some n ∧ .one ≤ n ∧
            run.SentBefore x.other (i + 1) remote n := by
      obtain rfl := Option.some.inj (hd.symm.trans hd')
      obtain ⟨n, hn, hone, hsent⟩ := ih hd hjoined' hordered hto'
      exact ⟨n, hreceive.trans hn, hone, hsent.mono (Nat.le_succ i)⟩
    cases hcounts with
    | kept hd' hordered hreceive => exact hkept hd' hordered hreceive
    | acknowledged hd' hordered hreceive => exact hkept hd' hordered hreceive
    | @handed d' p hop hd' hordered hhand =>
      have hhands : run.Hands x i id p.sequence .ordered := ⟨p, hop, hhand, rfl⟩
      obtain ⟨e, remote', j, next, htaken⟩ := hhands.taken h hsend
      obtain rfl := Option.some.inj (hd.symm.trans htaken.channel)
      obtain rfl := Counterparty.ofEnd_inj (hto'.symm.trans htaken.facing)
      obtain ⟨-, hreceive⟩ := htaken.remembers.counter_of_ordered
      exact ⟨_, hreceive, Sequence.one_le_next (Sequence.ne_last_of_lt htaken.sent),
        .inr ⟨j, next, Nat.le_succ_of_le htaken.shown, htaken.sender, htaken.counter,
          Sequence.next_le_of_lt htaken.sent⟩⟩
    | resumed hd' hold hu hnew hcommits =>
      -- What the other end said that it had sent stood in its upgrade, in the attempt that is committed.
      obtain rfl := Option.some.inj (hd.symm.trans hd')
      obtain ⟨u', hu', hcommit⟩ := commits_of_turn hto' hcommits
      obtain rfl := Option.some.inj (hu.symm.trans hu')
      obtain ⟨w, j, e, hreceive, -, hji, hmatched, hupgrading, hinit⟩ :=
        hcommit.resumes h hcount hplain hclimb hd hu hold hnew
      obtain ⟨hlo, hhi⟩ := hmatched.phase hupgrading hinit
      have hsender : (run.record x.other j remote).IsJoined :=
        ⟨e, hmatched.there, ChannelState.isJoined_of_isUpgrading hupgrading⟩
      have hplan := stands_at_plan h hlo hhi hmatched.upgrade
      obtain ⟨s, hs, hone⟩ := (sending h x.other j remote).counter hsender
      obtain rfl := Option.some.inj (hplan.symm.trans hs)
      exact ⟨_, hreceive, hone, .inr ⟨j, _, Nat.le_succ_of_le hji, hsender, hplan, UInt64.le_refl _⟩⟩

/-- An end that was unordered in attempt `m` or later has, once it is ordered, got past all that the other end
had sent up to its own part in that attempt. -/
theorem resumes_past {m : Nat} (hji : j ≤ i) (hd : (run.record x j id).channel = some d)
    (hjoined : d.state.isJoined = true) (hto : d.remote = .ofEnd remote) (hold : d.order = .unordered)
    (hlo : 5 * m < (run.record x j id).phase) (hsender : (run.record x.other k remote).IsJoined)
    (hs : (run.record x.other k remote).nextSend = some s)
    (hwithin : (run.record x.other k remote).phase ≤ 5 * m + 3)
    (hc : (run.record x i id).channel = some c) (horder : c.order = .ordered) :
    ∃ n, (run.record x i id).nextReceive = some n ∧ s ≤ n := by
  induction hji generalizing c with
  | refl =>
    obtain rfl := Option.some.inj (hd.symm.trans hc)
    rw [hold] at horder
    cases horder
  | @step i hji ih =>
    obtain ⟨e, he, hjoined', hto', -⟩ := stays_joined h hji hd hjoined
    cases (turn h x i id).of_ordered (specified h x i id) ⟨e, he, hjoined'⟩ hc horder with
    | kept he' hordered hreceive =>
      obtain ⟨n, hn, hle⟩ := ih he' hordered
      exact ⟨n, hreceive.trans hn, hle⟩
    | acknowledged he' hordered hreceive =>
      obtain ⟨n, hn, hle⟩ := ih he' hordered
      exact ⟨n, hreceive.trans hn, hle⟩
    | @handed e' p hop he' hordered hhand =>
      obtain ⟨n, hn, hle⟩ := ih he' hordered
      have hhands : run.Hands x i id p.sequence .ordered := ⟨p, hop, hhand, rfl⟩
      obtain ⟨_, _, _, _, htaken⟩ := hhands.taken h hsend
      obtain ⟨hreceive, hreceive'⟩ := htaken.remembers.counter_of_ordered
      obtain rfl := Option.some.inj (hn.symm.trans hreceive)
      exact ⟨_, hreceive', Sequence.le_trans hle (Sequence.le_next _)⟩
    | resumed he' hunordered hu hnew hcommits =>
      obtain rfl := Option.some.inj (he.symm.trans he')
      obtain ⟨u', hu', hcommit⟩ := commits_of_turn (hto'.trans hto) hcommits
      obtain rfl := Option.some.inj (hu.symm.trans hu')
      obtain ⟨w, l, e', hreceive, -, -, hmatched, hupgrading, hinit⟩ :=
        hcommit.resumes h hcount hplain hclimb he hu hunordered hnew
      obtain ⟨-, hhi, -⟩ := hcommit.phase h
      have hmono := phase_le h hcount x id hji
      exact ⟨_, hreceive, nextSend_le_plan h hcount hmatched hupgrading hinit hsender hs (by omega)⟩

/-- The other end has received all that comes before what an end waits for. -/
theorem Awaited.le (hawaited : run.Awaited x i id remote n)
    (hd : (run.record x.other i remote).channel = some d) (hjoined : d.state.isJoined = true)
    (horder : d.order = .ordered) (hback : d.remote = .ofEnd id) :
    ∃ r, (run.record x.other i remote).nextReceive = some r ∧ n ≤ r := by
  cases hawaited with
  | opened =>
    obtain ⟨r, hr, hone, -⟩ := received_sent h hcount hplain hclimb hsend hd hjoined horder hback
    exact ⟨r, hr, hone⟩
  | @acknowledged k n hki hack =>
    obtain ⟨bytes, hbytes⟩ := Option.ne_none_iff_exists'.1 hack
    obtain ⟨l, p, o, hop, hlk, hhand, hp, -⟩ := acks_handed h hbytes
    obtain ⟨r, hr, hlt⟩ := counted h hcount hplain hclimb hsend hd horder
      (Nat.lt_of_lt_of_le hlk hki) ⟨p, hop, hhand, hp⟩
    exact ⟨r, hr, Sequence.next_le_of_lt hlt⟩
  | @resumed k m c u hki hcommit hc hu hold hnew =>
    -- The other end was still unordered when this one was shown its part in the attempt.
    obtain ⟨w, j, e, -, hs, hjk, hmatched, hupgrading, hinit⟩ :=
      hcommit.resumes h hcount hplain hclimb hc hu hold hnew
    obtain ⟨hupgrading₀, rfl, -⟩ := hcommit.partakes h hc
    obtain ⟨-, hhi, -⟩ := hcommit.phase h
    obtain ⟨hlo, -⟩ := hmatched.phase hupgrading hinit
    have hjoined₀ := ChannelState.isJoined_of_isUpgrading hupgrading₀
    exact resumes_past (x := x.other) (k := k) h hcount hplain hclimb hsend
      (Nat.le_trans hjk (Nat.le_of_lt hki)) hmatched.there
      (ChannelState.isJoined_of_isUpgrading hupgrading) hmatched.back
      (hmatched.agree.order.symm.trans hold) hlo (by rw [Side.other_other]; exact ⟨c, hc, hjoined₀⟩)
      (by rw [Side.other_other]; exact hs) (by rw [Side.other_other]; exact hhi) hd horder

end

/-! ## Both ends -/

/-- The counters of two ordered ends of one channel are in step, in both directions. -/
theorem counters_in_step (h : run.Honest) (hcount : run.Counting) (hplain : run.PlainDeadlines)
    (hclimb : run.Climbing) (hsend : run.SendsOn) (hc : (run.record x i id).channel = some c)
    (hto : c.remote = .ofEnd remote) (hd : (run.record x.other i remote).channel = some d)
    (hjoined : c.state.isJoined = true ∧ d.state.isJoined = true)
    (horder : c.order = .ordered ∧ d.order = .ordered) :
    run.InStep x i id remote ∧ run.InStep x.other i remote id := by
  -- The two directions are alike.
  have hdirection {x : Side} {id remote : EndId} {c d : ChannelEnd}
      (hc : (run.record x i id).channel = some c) (hjoined : c.state.isJoined = true)
      (horder : c.order = .ordered) (hto : c.remote = .ofEnd remote)
      (hd : (run.record x.other i remote).channel = some d) (hjoined' : d.state.isJoined = true)
      (horder' : d.order = .ordered) (hback : d.remote = .ofEnd id) : run.InStep x i id remote := by
    obtain ⟨a, ha, hawaited⟩ := awaited h hc hjoined horder hto
    obtain ⟨r, hr, har⟩ := hawaited.le h hcount hplain hclimb hsend hd hjoined' horder' hback
    obtain ⟨r', hr', -, hsent⟩ :=
      received_sent h hcount hplain hclimb hsend hd hjoined' horder' hback
    obtain rfl := Option.some.inj (hr.symm.trans hr')
    rw [Side.other_other] at hsent
    obtain ⟨s, hs, hrs⟩ := hsent.le h ⟨c, hc, hjoined⟩
    exact ⟨a, r, s, ha, hr, hs, har, hrs⟩
  obtain ⟨remote', d', hto', hd', hback, -⟩ := named_back h hc hjoined.1
  obtain rfl := Counterparty.ofEnd_inj (hto.symm.trans hto')
  obtain rfl := Option.some.inj (hd.symm.trans hd')
  refine ⟨hdirection hc hjoined.1 horder.1 hto hd hjoined.2 horder.2 hback, ?_⟩
  exact hdirection hd hjoined.2 horder.2 hback (by rwa [Side.other_other]) hjoined.1 horder.1 hto

end

/-! ## A channel that becomes ordered -/

section
attribute [local instance] Digest.plain

open Sample (endId channel upgradeFields upgradeTimeout)

/-- Chain `a` has the packet 1 acknowledged, both ends make the channel ordered, and `a` sends the packet 2. -/
def becomingOrdered : Run :=
  let c := channel .opened .unordered 0
  let f := upgradeFields .ordered Sample.version
  ⟨Sample.joined 5, Sample.opening .unordered 6 7 ++ receiving ++
    [Sample.hears .a, Sample.gets .a (.acknowledge ⟨Sample.packet 1, successAck,
      Sample.proofAt 8 (.ack endId .one) successAck.commitment, ⟨0, 8⟩, Sample.signer⟩)] ++
    Sample.joining c f upgradeTimeout 9 9 ++
    Sample.confirming c ⟨f, upgradeTimeout, Sequence.one.next⟩ 10 ++ Sample.concluding c f 10 ++
    [⟨.a, .send ⟨1⟩ (Sample.packet 2)⟩]⟩

theorem becomingOrdered_facts :
    (∀ i, i < becomingOrdered.steps.length → becomingOrdered.TruthfulAt i) ∧
    becomingOrdered.Counting ∧ becomingOrdered.PlainDeadlines ∧ becomingOrdered.Climbing ∧
    becomingOrdered.SendsOn ∧
    (becomingOrdered.record .a 22 endId).channel = some (channel .opened .ordered 1) ∧
    (becomingOrdered.record .b 22 endId).channel = some (channel .opened .ordered 1) ∧
    (becomingOrdered.record .a 22 endId).nextSend = some ⟨3⟩ ∧
    (becomingOrdered.record .b 22 endId).nextReceive = some ⟨2⟩ := by
  decide +kernel

theorem in_step_when_ordered : becomingOrdered.InStep .a 22 endId endId ∧
    becomingOrdered.InStep .b 22 endId endId :=
  have ⟨htrue, hcount, hplain, hclimb, hsend, hc, hd, _⟩ := becomingOrdered_facts
  counters_in_step (Sample.honest_of_truthful htrue) hcount hplain hclimb hsend hc rfl hd ⟨rfl, rfl⟩
    ⟨rfl, rfl⟩

/-- Chain `a` stands at the last block, where its proposal lies beside its flushed end. Chain `b` is shown the
proposal as what `a` has settled on, so that it does not learn where `a` stopped sending, and both ends commit. -/
def miscounting : Run :=
  let c := channel .opened .unordered 0
  let f := upgradeFields .ordered Sample.version
  let top := Height.lastBlock
  ⟨Sample.joined top, Sample.opening .unordered top top ++ Sample.joining c f (Sample.within 1000) top 8 ++
    Sample.confirming c ⟨f, Sample.within 1000, .zero⟩ top ++ Sample.concluding c f 9⟩

theorem miscounting_facts :
    (∀ i, i < miscounting.steps.length → miscounting.TruthfulAt i) ∧
    miscounting.Counting ∧ miscounting.PlainDeadlines ∧ miscounting.SendsOn ∧
    (miscounting.record .a 16 endId).channel = some (channel .opened .ordered 1) ∧
    (miscounting.record .b 16 endId).channel = some (channel .opened .ordered 1) ∧
    (miscounting.record .a 16 endId).nextAck = some .one ∧
    (miscounting.record .b 16 endId).nextReceive = some .zero := by
  decide +kernel

/-- At the last block an end comes to wait for the packet 0, which is never sent, and the other one for the
acknowledgement of the packet 1. -/
theorem out_of_step_at_last_block : miscounting.Honest ∧ miscounting.Counting ∧
    miscounting.PlainDeadlines ∧ miscounting.SendsOn ∧
    ∃ c d, (miscounting.record .a 16 endId).channel = some c ∧ c.remote = .ofEnd endId ∧
      (miscounting.record .b 16 endId).channel = some d ∧ d.remote = .ofEnd endId ∧
      (c.state = .opened ∧ d.state = .opened) ∧ (c.order = .ordered ∧ d.order = .ordered) ∧
      (miscounting.record .a 16 endId).nextAck = some .one ∧
      (miscounting.record .b 16 endId).nextReceive = some .zero ∧
      ¬miscounting.InStep .a 16 endId endId := by
  obtain ⟨htrue, hcount, hplain, hsend, hc, hd, hack, hreceive⟩ := miscounting_facts
  refine ⟨Sample.honest_of_truthful htrue, hcount, hplain, hsend, _, _, hc, rfl, hd, rfl, ⟨rfl, rfl⟩,
    ⟨rfl, rfl⟩, hack, hreceive, ?_⟩
  rintro ⟨a, r, s, ha, hr, -, har, -⟩
  obtain rfl := Option.some.inj (ha.symm.trans hack)
  obtain rfl := Option.some.inj (hr.symm.trans hreceive)
  exact absurd har (by decide)

end

end ChannelLayer.Run
