import ChannelLayer.Proofs.Course

/-!
# What a chain has sent

Each deed adds at most one entry to the books of an end: it sends its next packet, one of its packets is
settled, or its counters start (`Course.entry`). What has been sent, what is in flight and where the counter
stands follow from the entries (`ChannelRecord.Books`, `Course.books`). An ordered end settles its packets in
turn, so that those in flight lie between its two counters; an end that becomes ordered has nothing in flight
and starts to count where its sending had stopped (`Turn.windowed`).
-/

set_option autoImplicit false

namespace ChannelLayer

namespace ChannelRecord

/-! ## The window of an ordered end -/

/-- The packets in flight are those from `a` up to `s`, which are the next one to be settled and the next one
to be sent. -/
structure Window (r : ChannelRecord) (a s : Sequence) : Prop where
  nextAck : r.nextAck = some a
  nextSend : r.nextSend = some s
  le : a ≤ s
  flight : ∀ n, r.commitments.get? n ≠ none ↔ a ≤ n ∧ n < s

/-- An ordered end that is joined and not closed settles its packets in turn. -/
def Windowed (r : ChannelRecord) : Prop :=
  ∀ c, r.channel = some c → c.order = .ordered → c.state.isJoined = true → c.state ≠ .closed →
    ∃ a s, r.Window a s

/-- An end counts what it sends only once it is joined. -/
def Started (r : ChannelRecord) : Prop := r.nextSend ≠ none → r.IsJoined

variable {r r' : ChannelRecord} {a s : Sequence}

theorem Window.congr (h : r.Window a s) (hack : r'.nextAck = r.nextAck) (hsend : r'.nextSend = r.nextSend)
    (hflight : r'.commitments = r.commitments) : r'.Window a s where
  nextAck := hack.trans h.nextAck
  nextSend := hsend.trans h.nextSend
  le := h.le
  flight := by rw [hflight]; exact h.flight

/-- With nothing in flight the two counters are at one place. -/
theorem Window.of_empty (hack : r.nextAck = some s) (hsend : r.nextSend = some s)
    (hflight : ∀ n, r.commitments.get? n = none) : r.Window s s where
  nextAck := hack
  nextSend := hsend
  le := UInt64.le_refl _
  flight n := by
    constructor
    · intro hn
      exact absurd (hflight n) hn
    · rintro ⟨hle, hlt⟩
      rw [← Sequence.not_le] at hlt
      exact absurd hle hlt

theorem Window.send {commitment : Bytes} (h : r.Window a s) (hlast : s ≠ .last) :
    Window { r with nextSend := some s.next, commitments := r.commitments.insert s commitment } a s.next where
  nextAck := h.nextAck
  nextSend := rfl
  le := Sequence.le_trans h.le (Sequence.le_next s)
  flight n := by
    have hnext := Sequence.toNat_next hlast
    have hle := h.le
    have hflight := h.flight n
    rw [Table.get?_insert]
    simp only [Sequence.le_iff, Sequence.lt_iff] at hle hflight ⊢
    by_cases hn : s = n
    · subst hn
      rw [if_pos rfl]
      simp only [ne_eq, reduceCtorEq, not_false_eq_true, true_iff]
      omega
    · have hne : s.number.toNat ≠ n.number.toNat := fun heq => hn (Sequence.eq_of_toNat heq)
      rw [if_neg hn, hflight]
      omega

/-- The packet that is settled is the first one in flight. -/
theorem Window.settle {n : Sequence} (h : r.Window a s) (hn : r.commitments.get? n ≠ none)
    (hack : r.nextAck = some n) : (r.settle n (some n.next)).Window n.next s := by
  obtain rfl : a = n := Option.some.inj (h.nextAck.symm.trans hack)
  have hlt := ((h.flight a).1 hn).2
  have hnext := Sequence.toNat_next (Sequence.ne_last_of_lt hlt)
  refine ⟨rfl, h.nextSend, ?_, fun k => ?_⟩
  · rw [Sequence.lt_iff] at hlt
    rw [Sequence.le_iff, hnext]
    exact hlt
  · have hflight := h.flight k
    show (r.commitments.erase a).get? k ≠ none ↔ _
    rw [Table.get?_erase]
    simp only [Sequence.le_iff, Sequence.lt_iff, hnext] at hflight ⊢
    by_cases hk : a = k
    · subst hk
      rw [if_pos rfl]
      simp only [ne_eq, not_true_eq_false, false_iff]
      omega
    · have hne : a.number.toNat ≠ k.number.toNat := fun heq => hk (Sequence.eq_of_toNat heq)
      rw [if_neg hk, hflight]
      omega

/-- An ordered end settles the packet that it waits for. -/
theorem Window.settle_of_awaits {v : View} {c : ChannelEnd} {n : Sequence} {nextAck : Option Sequence}
    (h : r.Window a s) (hordered : c.order = .ordered) (hn : r.commitments.get? n ≠ none)
    (hawaits : r.Awaits v c n nextAck) : (r.settle n nextAck).Window n.next s := by
  obtain ⟨hack, rfl⟩ := hawaits.ordered hordered
  exact h.settle hn hack

theorem Windowed.of_closed {c : ChannelEnd} (hc : r.channel = some c) (hclosed : c.state = .closed) :
    r.Windowed := by
  intro d hd _ _ hopen
  obtain rfl := Option.some.inj (hc.symm.trans hd)
  exact absurd hclosed hopen

/-- An end that keeps its ordering, and that was joined and not closed before, moves its window. -/
theorem Windowed.move (h : r.Windowed) {c c' : ChannelEnd} (hc : r.channel = some c)
    (hc' : r'.channel = some c') (horder : c'.order = c.order)
    (hbefore : c'.state.isJoined = true → c'.state ≠ .closed → c.state.isJoined = true ∧ c.state ≠ .closed)
    (hmoves : c.order = .ordered → ∀ a s, r.Window a s → ∃ a s, r'.Window a s) : r'.Windowed := by
  intro d hd hordered hjoined hopen
  obtain rfl := Option.some.inj (hc'.symm.trans hd)
  rw [horder] at hordered
  obtain ⟨hjoined₀, hopen₀⟩ := hbefore hjoined hopen
  obtain ⟨a, s, hwindow⟩ := h c hc hordered hjoined₀ hopen₀
  exact hmoves hordered a s hwindow

theorem Windowed.congr (h : r.Windowed) (hc : r'.channel = r.channel) (hack : r'.nextAck = r.nextAck)
    (hsend : r'.nextSend = r.nextSend) (hflight : r'.commitments = r.commitments) : r'.Windowed := by
  intro c hc' hordered hjoined hopen
  obtain ⟨a, s, hwindow⟩ := h c (hc ▸ hc') hordered hjoined hopen
  exact ⟨a, s, hwindow.congr hack hsend hflight⟩

/-- An end that commits has nothing in flight: if it was ordered before, its window stays, and if it was not,
it starts to count where its sending has stopped. -/
theorem Windowed.commit (h : r.Windowed) (hspec : r.Specified) {c : ChannelEnd} {u w : Upgrade}
    (hc : r.channel = some c) (hjoined : c.state.isJoined = true) (hopen : c.state ≠ .closed)
    (hstop : r.nextSend = some u.nextSend) (hempty : ∀ n, r.commitments.get? n = none) :
    (r.commit c u w).Windowed := by
  intro d hd hordered _ _
  rw [channel_commit] at hd
  obtain rfl := Option.some.inj hd
  have hnew : u.fields.order = .ordered := hordered
  cases hold : c.order with
  | unspecified => exact absurd hold (hspec.channel c hc)
  | unordered =>
    refine ⟨_, _, .of_empty (nextAck_commit hold hnew) ?_ ?_⟩
    · rw [nextSend_commit]
      exact hstop
    · rw [commitments_commit]
      exact hempty
  | ordered =>
    obtain ⟨a, s, hwindow⟩ := h c hc hold hjoined hopen
    exact ⟨a, s, hwindow.congr (nextAck_commit_of_ordered hold) (nextSend_commit ..)
      (commitments_commit ..)⟩

/-! ## The books of an end -/

/-- All that an end has sent, and what of it was settled, as far as its record tells. -/
structure Books [Digest] (r : ChannelRecord) (sent : List Packet) (settled : List Sequence) : Prop where
  unsent : r.nextSend = none → sent = []
  counted : ∀ s, r.nextSend = some s → s.number.toNat = sent.length + 1
  numbered : sent.map (·.sequence.number.toNat) = List.range' 1 sent.length
  flight : ∀ n bytes, r.commitments.get? n = some bytes ↔
    (∃ p ∈ sent, p.sequence = n ∧ p.commitment = bytes) ∧ n ∉ settled
  wasSent : ∀ n ∈ settled, ∃ p ∈ sent, p.sequence = n
  once : settled.Nodup

namespace Books

variable [Digest] {sent : List Packet} {settled : List Sequence}

theorem congr (h : r.Books sent settled) (hnext : r'.nextSend = r.nextSend)
    (hflight : r'.commitments = r.commitments) : r'.Books sent settled where
  unsent := by rw [hnext]; exact h.unsent
  counted := by rw [hnext]; exact h.counted
  numbered := h.numbered
  flight := by rw [hflight]; exact h.flight
  wasSent := h.wasSent
  once := h.once

/-- An end whose counters start has sent nothing. -/
theorem start (h : r.Books sent settled) (hnone : r.nextSend = none) (hnext : r'.nextSend = some .one)
    (hflight : r'.commitments = r.commitments) : r'.Books sent settled where
  unsent hnone' := by
    rw [hnext] at hnone'
    cases hnone'
  counted s hs := by
    obtain rfl := Option.some.inj (hnext.symm.trans hs)
    rw [h.unsent hnone]
    rfl
  numbered := h.numbered
  flight := by rw [hflight]; exact h.flight
  wasSent := h.wasSent
  once := h.once

theorem le_length (h : r.Books sent settled) {p : Packet} (hp : p ∈ sent) :
    p.sequence.number.toNat ≤ sent.length := by
  have hmem : p.sequence.number.toNat ∈ List.range' 1 sent.length := by
    rw [← h.numbered]
    exact List.mem_map_of_mem hp
  rw [List.mem_range'_1] at hmem
  omega

/-- The next packet is a new one. -/
theorem fresh (h : r.Books sent settled) {p q : Packet} (hnext : r.nextSend = some p.sequence)
    (hq : q ∈ sent) : q.sequence ≠ p.sequence := by
  intro heq
  have hle := h.le_length hq
  rw [heq, h.counted _ hnext] at hle
  exact absurd hle (Nat.not_succ_le_self _)

theorem send (h : r.Books sent settled) {p : Packet} (hnext : r.nextSend = some p.sequence)
    (hlast : r.nextSend ≠ some .last) (hnext' : r'.nextSend = some p.sequence.next)
    (hflight : r'.commitments = r.commitments.insert p.sequence p.commitment) :
    r'.Books (sent ++ [p]) settled where
  unsent hnone := by
    rw [hnext'] at hnone
    cases hnone
  counted s hs := by
    obtain rfl := Option.some.inj (hnext'.symm.trans hs)
    rw [Sequence.toNat_next fun heq => hlast (heq ▸ hnext), h.counted _ hnext, List.length_append,
      List.length_singleton]
  numbered := by
    rw [List.map_append, h.numbered, List.map_singleton, h.counted _ hnext, List.length_append,
      List.length_singleton, List.range'_1_concat, Nat.add_comm 1]
  flight n bytes := by
    rw [hflight, Table.get?_insert]
    by_cases hn : p.sequence = n
    · subst hn
      have hnew : p.sequence ∉ settled := by
        intro hsettled
        obtain ⟨q, hq, heq⟩ := h.wasSent _ hsettled
        exact h.fresh hnext hq heq
      have hold : ¬∃ q ∈ sent, q.sequence = p.sequence ∧ q.commitment = bytes := by
        rintro ⟨q, hq, heq, -⟩
        exact h.fresh hnext hq heq
      simp [hnew, or_and_right, exists_or, hold]
    · simp [hn, h.flight, or_and_right, exists_or]
  wasSent n hn := by
    obtain ⟨q, hq, heq⟩ := h.wasSent n hn
    exact ⟨q, List.mem_append_left _ hq, heq⟩
  once := h.once

theorem settle {n : Sequence} (h : r.Books sent settled) (hbefore : r.commitments.get? n ≠ none)
    (hnext : r'.nextSend = r.nextSend) (hflight : r'.commitments = r.commitments.erase n) :
    r'.Books sent (settled ++ [n]) := by
  obtain ⟨bytes, hbytes⟩ := Option.ne_none_iff_exists'.1 hbefore
  obtain ⟨⟨p, hp, hseq, -⟩, hnew⟩ := (h.flight n bytes).1 hbytes
  refine ⟨by rw [hnext]; exact h.unsent, by rw [hnext]; exact h.counted, h.numbered, ?_, ?_, ?_⟩
  · intro k bytes
    rw [hflight, Table.get?_erase, List.mem_append, List.mem_singleton, not_or]
    by_cases hk : n = k
    · subst hk
      simp
    · rw [if_neg hk, h.flight, and_iff_left (Ne.symm hk)]
  · intro k hk
    rcases List.mem_append.1 hk with hold | hlast
    · exact h.wasSent k hold
    · rw [List.mem_singleton.1 hlast]
      exact ⟨p, hp, hseq⟩
  · refine List.nodup_append.2 ⟨h.once, List.nodup_cons.2 ⟨List.not_mem_nil, List.nodup_nil⟩, ?_⟩
    intro k hk l hl heq
    rw [List.mem_singleton.1 hl] at heq
    exact hnew (heq ▸ hk)

end Books

end ChannelRecord

namespace Turn

variable [Digest] {v : View} {id : EndId} {r r' : ChannelRecord} {es : List Event}

theorem started (h : Turn v id r r' es) (hr : r.Started) : r'.Started := by
  intro hne
  cases h.sends with
  | kept hnext => exact h.isJoined (hr (hnext ▸ hne))
  | settled hasked hnext => exact h.isJoined (hr (hnext ▸ hne))
  | opened hnew hnext hflight hjoined => exact hjoined
  | sent hasked hjoined => exact h.isJoined hjoined

theorem windowed (h : Turn v id r r' es) (hr : r.Orderly) (hspec : r.Specified) (htally : r.Tallied)
    (hlast : r.nextSend ≠ some .last) (hw : r.Windowed) : r'.Windowed := by
  cases h with
  | created hnew hinit =>
    intro d hd _ hjoined
    obtain rfl := Option.some.inj hd
    rcases hinit with ⟨h, -⟩ | ⟨h, -⟩ <;> rw [h] at hjoined <;> cases hjoined
  | opened hc hinit =>
    intro d hd _ _ _
    refine ⟨.one, .one, .of_empty rfl rfl fun n => ?_⟩
    refine Decidable.byContradiction fun hn => ?_
    exact ChannelRecord.not_isJoined_of_unopened hc hinit (htally n hn).1
  | closed => exact .of_closed rfl rfl
  | sent hc hsending hsource hto hnext =>
    refine hw.move hc hc rfl (fun hjoined hopen => ⟨hjoined, hopen⟩) fun _ a s hwindow => ?_
    obtain rfl := Option.some.inj (hnext.symm.trans hwindow.nextSend)
    exact ⟨a, _, hwindow.send fun heq => hlast (heq ▸ hnext)⟩
  | settled hflight hc hawaits =>
    exact hw.move hc hc rfl (fun hjoined hopen => ⟨hjoined, hopen⟩) fun hordered a s hwindow =>
      ⟨_, s, hwindow.settle_of_awaits hordered hflight hawaits⟩
  | flushed hc hstate hw' htime hlast' hflight hawaits =>
    exact hw.move hc rfl rfl (fun _ _ => by rw [hstate]; decide) fun hordered a s hwindow =>
      ⟨_, s, (hwindow.settle_of_awaits hordered hflight hawaits).congr rfl rfl rfl⟩
  | timedOut => exact .of_closed (ChannelRecord.channel_close _) rfl
  | proposed hc hopen =>
    exact hw.move hc rfl rfl (fun _ _ => by rw [hopen]; decide) fun _ a s hwindow =>
      ⟨a, s, hwindow.congr rfl rfl rfl⟩
  | answered hc hto hguard =>
    refine hw.move hc rfl rfl (fun _ _ => ?_) fun _ a s hwindow => ⟨a, s, hwindow.congr rfl rfl rfl⟩
    rcases hguard with ⟨hstate, -⟩ | ⟨hstate, -⟩ <;> rw [hstate] <;> decide
  | acked hc hto hstate =>
    exact hw.move hc rfl rfl (fun _ _ => by rw [hstate]; decide) fun _ a s hwindow =>
      ⟨a, s, hwindow.congr rfl rfl rfl⟩
  | confirmed hc hto hstate =>
    exact hw.move hc rfl rfl (fun _ _ => by rw [hstate]; decide) fun _ a s hwindow =>
      ⟨a, s, hwindow.congr rfl rfl rfl⟩
  | confirmedLast hc hto hstate hu hend hupgrade horder hversion hdeadline htime hempty =>
    have hstop := hr.nextSend_of_flushing hc (by rw [hstate]; decide) (by rw [hstate]; decide) hu
    exact hw.commit hspec hc (by rw [hstate]; rfl) (by rw [hstate]; decide) hstop (Table.isEmpty_iff.1 hempty)
  | committed hc hto hstate hu =>
    have hstop := hr.nextSend_of_flushing hc (by rw [hstate]; decide) (by rw [hstate]; decide) hu
    have hattempt := hr.attempting _ hc
    simp only [ChannelRecord.Attempting, hstate] at hattempt
    obtain ⟨-, -, -, -, -, -, hempty⟩ := hattempt
    exact hw.commit hspec hc (by rw [hstate]; rfl) (by rw [hstate]; decide) hstop (Table.isEmpty_iff.1 hempty)
  | @gaveUp c base n e hc hbase hguard =>
    refine hw.move hc rfl rfl (fun _ _ => ?_) fun hordered a s hwindow => ?_
    · rcases hr.isUpgrading_or_opened hc hguard with hstate | hopen
      · exact ⟨ChannelState.isJoined_of_isUpgrading hstate, ChannelState.ne_closed_of_isUpgrading hstate⟩
      · rw [hopen]
        decide
    · rcases hbase with rfl | ⟨m, nextAck, rfl, hflight, hawaits, -⟩
      · exact ⟨a, s, hwindow.congr rfl rfl rfl⟩
      · exact ⟨_, s, (hwindow.settle_of_awaits hordered hflight hawaits).congr rfl rfl rfl⟩
  | _ => exact hw.congr rfl rfl rfl rfl

end Turn

namespace Course

section
variable [Digest] (course : Course)

/-! ## What the deeds send and settle -/

/-- The packet of the end `id` that deed `i` sends. -/
def sends? (id : EndId) (i : Nat) : Option Packet :=
  match course.deeds[i]? with
  | some (.send handle p) => if (course.chain i).sends handle p = true ∧ p.source = id then some p else none
  | _ => none

/-- The packet of the end `id` that deed `i` settles. -/
def settles? (id : EndId) (i : Nat) : Option Sequence :=
  match course.deeds[i]? with
  | some (.deliver m) =>
    if (course.chain i).takes m = true then (m.settles?.filter (·.1 = id)).map (·.2) else none
  | _ => none

/-- All that the end `id` has sent before deed `i`. -/
def sent (i : Nat) (id : EndId) : List Packet := (List.range i).filterMap (course.sends? id)

/-- All of it that was settled. -/
def settled (i : Nat) (id : EndId) : List Sequence := (List.range i).filterMap (course.settles? id)

/-- What deed `i` means for what the end `id` has sent, with the record `r` before it and `r'` after it. -/
inductive Entry (i : Nat) (id : EndId) (r r' : ChannelRecord) : Prop
  | kept (hsent : course.sends? id i = none) (hsettled : course.settles? id i = none)
      (hnext : r'.nextSend = r.nextSend) (hflight : r'.commitments = r.commitments) : Entry i id r r'
  | opened (hsent : course.sends? id i = none) (hsettled : course.settles? id i = none)
      (hnew : ¬r.IsJoined) (hnext : r'.nextSend = some .one) (hflight : r'.commitments = r.commitments) :
      Entry i id r r'
  | sent {p : Packet} (hsent : course.sends? id i = some p) (hsettled : course.settles? id i = none)
      (hnext : r.nextSend = some p.sequence) (hnext' : r'.nextSend = some p.sequence.next)
      (hflight : r'.commitments = r.commitments.insert p.sequence p.commitment) : Entry i id r r'
  | settled {n : Sequence} (hsent : course.sends? id i = none) (hsettled : course.settles? id i = some n)
      (hbefore : r.commitments.get? n ≠ none) (hnext : r'.nextSend = r.nextSend)
      (hflight : r'.commitments = r.commitments.erase n) : Entry i id r r'

end

section
variable [Digest] {course : Course} {i : Nat} {id : EndId}

theorem sent_of_none (h : course.sends? id i = none) : course.sent (i + 1) id = course.sent i id := by
  simp [sent, List.range_succ, h]

theorem sent_of_some {p : Packet} (h : course.sends? id i = some p) :
    course.sent (i + 1) id = course.sent i id ++ [p] := by
  simp [sent, List.range_succ, h]

theorem settled_of_none (h : course.settles? id i = none) :
    course.settled (i + 1) id = course.settled i id := by
  simp [settled, List.range_succ, h]

theorem settled_of_some {n : Sequence} (h : course.settles? id i = some n) :
    course.settled (i + 1) id = course.settled i id ++ [n] := by
  simp [settled, List.range_succ, h]

/-- A deed that sends nothing and settles nothing lets the end take some other turn. -/
theorem entry_of_other (h : course.Standing i) (hsent : course.sends? id i = none)
    (hsettled : course.settles? id i = none) (hsending : ∀ p, ¬(course.view i).sending p)
    (hsettling : ∀ n, ¬(course.view i).settling id n) :
    course.Entry i id (course.record i id) (course.record (i + 1) id) := by
  rcases turn h id with ⟨es, hturn⟩ | hreleased
  · cases hturn.sends with
    | kept hnext hflight => exact .kept hsent hsettled hnext hflight
    | settled hasked => exact absurd hasked (hsettling _)
    | opened hnew hnext hflight => exact .opened hsent hsettled hnew hnext hflight
    | sent hasked => exact absurd hasked (hsending _)
  · rw [hreleased]
    exact .kept hsent hsettled rfl rfl

theorem not_sending {m : Message} (hdeed : course.deeds[i]? = some (.deliver m)) (p : Packet) :
    ¬(course.view i).sending p := by
  rintro ⟨handle, hsend⟩
  cases hsend.symm.trans hdeed

/-- What a message that succeeds settles was in flight. -/
theorem entry_of_settles {m : Message} {n : Sequence}
    (hdeed : course.deeds[i]? = some (.deliver m)) (htakes : (course.chain i).takes m = true)
    (hm : m.settles? = some (id, n)) :
    course.Entry i id (course.record i id) (course.record (i + 1) id) := by
  have hsent : course.sends? id i = none := by simp [sends?, hdeed]
  have hsettled : course.settles? id i = some n := by simp [settles?, hdeed, htakes, hm]
  obtain ⟨owner, app, l', -, hv, hx, hafter⟩ := Chain.after_of_takes htakes
  obtain ⟨r', es, hw, hturn, hbefore, herased⟩ := Message.settles hm (fits hdeed) hv hx
  have hrecord : course.record (i + 1) id = r' := by
    rw [record, chain_succ hdeed, Chain.undergo, hafter]
    exact hw.self
  rw [hrecord]
  refine .settled hsent hsettled hbefore ?_ herased
  cases hturn.sends with
  | kept hnext => exact hnext
  | settled hasked hnext => exact hnext
  | opened hnew hnext hflight =>
    have hgone : r'.commitments.get? n = none := by simp [herased]
    rw [hflight] at hgone
    exact absurd hgone hbefore
  | sent hasked => exact absurd hasked (not_sending hdeed _)

theorem entry_of_deliver {m : Message} (h : course.Standing i)
    (hdeed : course.deeds[i]? = some (.deliver m)) :
    course.Entry i id (course.record i id) (course.record (i + 1) id) := by
  have hsent : course.sends? id i = none := by simp [sends?, hdeed]
  by_cases htakes : (course.chain i).takes m = true
  · by_cases hm : ∃ n, m.settles? = some (id, n)
    · obtain ⟨n, hm⟩ := hm
      exact entry_of_settles hdeed htakes hm
    · refine entry_of_other h hsent ?_ (not_sending hdeed) ?_
      · cases hsettles : m.settles? with
        | none => simp [settles?, hdeed, hsettles]
        | some settled =>
          obtain ⟨id', n⟩ := settled
          have hid : id' ≠ id := fun heq => hm ⟨n, heq ▸ hsettles⟩
          simp [settles?, hdeed, hsettles, hid]
      · rintro n ⟨m', hdelivered, hsettles⟩
        have hdelivered : course.deeds[i]? = some (.deliver m') := hdelivered
        cases hdelivered.symm.trans hdeed
        exact hm ⟨n, hsettles⟩
  · have hsettled : course.settles? id i = none := by simp [settles?, hdeed, htakes]
    rw [record, record, chain_succ hdeed, Chain.undergo, Chain.store_of_not_takes htakes]
    exact .kept hsent hsettled rfl rfl

theorem entry_of_send {handle : Capability} {p : Packet}
    (hdeed : course.deeds[i]? = some (.send handle p)) :
    course.Entry i id (course.record i id) (course.record (i + 1) id) := by
  have hsettled : course.settles? id i = none := by simp [settles?, hdeed]
  rw [record, record, chain_succ hdeed, Chain.undergo]
  by_cases hsends : (course.chain i).sends handle p = true
  · obtain ⟨hv, hx⟩ := Chain.store_of_sends hsends
    have hw := Packet.send_writes hv hx
    by_cases hid : p.source = id
    · subst hid
      have hsent : course.sends? p.source i = some p := by simp [sends?, hdeed, hsends]
      obtain ⟨-, c, -, -, -, -, -, -, -, -, -, -, -, -, -, hnext⟩ := Packet.validateSend_eq_ok.1 hv
      rw [hw.self]
      exact .sent hsent hsettled hnext rfl rfl
    · have hsent : course.sends? id i = none := by simp [sends?, hdeed, hid]
      rw [hw.record, if_neg hid]
      exact .kept hsent hsettled rfl rfl
  · have hsent : course.sends? id i = none := by simp [sends?, hdeed, hsends]
    rw [Chain.store_of_not_sends hsends]
    exact .kept hsent hsettled rfl rfl

/-- Each deed adds at most one entry to the books of an end. -/
theorem entry (h : course.Standing i) (id : EndId) :
    course.Entry i id (course.record i id) (course.record (i + 1) id) := by
  have hother (hsend : ∀ handle p, course.deeds[i]? ≠ some (.send handle p))
      (hdeliver : ∀ m, course.deeds[i]? ≠ some (.deliver m)) :
      course.Entry i id (course.record i id) (course.record (i + 1) id) := by
    refine entry_of_other h ?_ ?_ ?_ ?_
    · unfold sends?
      split
      · exact absurd ‹_› (hsend _ _)
      · rfl
    · unfold settles?
      split
      · exact absurd ‹_› (hdeliver _)
      · rfl
    · rintro p ⟨handle, hdeed⟩
      exact hsend handle p hdeed
    · rintro n ⟨m, hdelivered, -⟩
      exact hdeliver m hdelivered
  cases hdeed : course.deeds[i]? with
  | none => exact hother (by simp [hdeed]) (by simp [hdeed])
  | some deed =>
    cases deed with
    | deliver m => exact entry_of_deliver h hdeed
    | send handle p => exact entry_of_send hdeed
    | _ => exact hother (by simp [hdeed]) (by simp [hdeed])

/-! ## The records of a course -/

theorem specified (h : course.Regular) (i : Nat) (id : EndId) : (course.record i id).Specified := by
  refine record_induction h i id ?_ (fun j hj r' es hturn hr => hturn.specified hr) fun r hr => ?_
  · exact ⟨fun _ hc => (by cases hc), fun _ hu => (by cases hu)⟩
  · exact ⟨hr.channel, hr.upgrade⟩

theorem started (h : course.Regular) (i : Nat) (id : EndId) : (course.record i id).Started := by
  refine record_induction h i id ?_ (fun j hj r' es hturn hr => hturn.started hr) fun r hr => hr
  intro hne
  exact absurd rfl hne

theorem tallied (h : course.Regular) (hbelow : ∀ j, j < i → (course.record j id).nextSend ≠ some .last) :
    (course.record i id).Tallied := by
  refine record_induction h i id ?_ (fun j hj r' es hturn hr => hturn.tallied hr (hbelow j hj))
    fun r hr => hr
  intro n hn
  exact absurd rfl hn

theorem windowed (h : course.Regular) (hbelow : ∀ j, j < i → (course.record j id).nextSend ≠ some .last) :
    (course.record i id).Windowed := by
  refine record_induction h i id ?_ (fun j hj r' es hturn hr => ?_) fun r hr c hc hordered hjoined hopen => ?_
  · intro c hc
    cases hc
  · have hbefore : ∀ k, k < j → (course.record k id).nextSend ≠ some .last :=
      fun k hk => hbelow k (Nat.lt_trans hk hj)
    exact hturn.windowed (orderly h j id) (specified h j id) (tallied h hbefore) (hbelow j hj) hr
  · obtain ⟨a, s, hwindow⟩ := hr c hc hordered hjoined hopen
    exact ⟨a, s, hwindow.congr rfl rfl rfl⟩

theorem books (h : course.Regular) (hbelow : ∀ j, j < i → (course.record j id).nextSend ≠ some .last) :
    (course.record i id).Books (course.sent i id) (course.settled i id) := by
  induction i with
  | zero =>
    rw [record_zero h]
    exact ⟨fun _ => rfl, fun _ hs => (by cases hs), rfl, fun n bytes => by simp [sent, settled],
      fun _ hn => (by cases hn), List.nodup_nil⟩
  | succ i ih =>
    have hbooks := ih fun j hj => hbelow j (Nat.lt_succ_of_lt hj)
    cases entry (standing h i) id with
    | kept hsent hsettled hnext hflight =>
      rw [sent_of_none hsent, settled_of_none hsettled]
      exact hbooks.congr hnext hflight
    | opened hsent hsettled hnew hnext hflight =>
      have hnone : (course.record i id).nextSend = none :=
        Decidable.byContradiction fun hne => hnew (started h i id hne)
      rw [sent_of_none hsent, settled_of_none hsettled]
      exact hbooks.start hnone hnext hflight
    | sent hsent hsettled hnext hnext' hflight =>
      rw [sent_of_some hsent, settled_of_none hsettled]
      exact hbooks.send hnext (hbelow i (Nat.lt_succ_self i)) hnext' hflight
    | settled hsent hsettled hbefore hnext hflight =>
      rw [sent_of_none hsent, settled_of_some hsettled]
      exact hbooks.settle hbefore hnext hflight

/-- At any time, what an end has sent and not yet settled is in flight, and its counters bound it. -/
theorem books_balance (h : course.Regular)
    (hbelow : ∀ j, j < i → (course.record j id).nextSend ≠ some .last) :
    (course.record i id).Books (course.sent i id) (course.settled i id) ∧ (course.record i id).Windowed :=
  ⟨books h hbelow, windowed h hbelow⟩

end

/-! ## Two packets in flight -/

section
attribute [local instance] Digest.plain

open Sample (endId packet)

/-- Chain `a` opens an ordered channel and sends two packets, the first of which is acknowledged. -/
def halfSettled : Course :=
  Sample.alone [6, 8] (Sample.opening .ordered 6 7 ++
    [Step.mk .a (.send ⟨1⟩ (packet 1)), Step.mk .a (.send ⟨1⟩ (packet 2)),
      Sample.gets .a (.acknowledge ⟨packet 1, successAck, Sample.proofAt 8 (.ack endId .one)
        successAck.commitment, ⟨0, 8⟩, Sample.signer⟩)])

theorem halfSettled_facts : (∀ i, i < halfSettled.deeds.length →
      (halfSettled.chain i).store.channelCounter ≠ lastChannel) ∧
    (∀ i, i < 7 → (halfSettled.record i endId).nextSend ≠ some .last) ∧
    halfSettled.sent 7 endId = [packet 1, packet 2] ∧ halfSettled.settled 7 endId = [.one] := by
  decide +kernel

/-- The second packet is in flight, and the end waits for it. -/
theorem books_balance_when_half_settled :
    (halfSettled.record 7 endId).Books [packet 1, packet 2] [.one] ∧
      (halfSettled.record 7 endId).Windowed :=
  have ⟨hnumbering, hbelow, hsent, hsettled⟩ := halfSettled_facts
  hsent ▸ hsettled ▸ books_balance (Sample.regular_of_numbering hnumbering) hbelow

end

end Course

end ChannelLayer
