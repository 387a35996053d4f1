import ChannelLayer.Proofs.LifeCycle
import ChannelLayer.Proofs.Separation

/-!
# Names and handles are given once

A channel is named after a counter, and its owner gets a handle from another one. Neither is looked up before it
is given: who answers a proposed channel does not ask for an end of that name, and handles are let go. So that
neither is given twice rests on the counters. A deed opens an end or leaves both counters as they are
(`Course.opens_or_retains`), every end and every handle goes back to the deed that gave it
(`Course.exists_opens`, `Course.Held.exists_opens`), and no two of these deeds saw a counter at one number.
-/

set_option autoImplicit false

namespace ChannelLayer

/-- The number of the last handle that can be given. -/
def lastHandle : UInt64 := UInt64.ofNat (UInt64.size - 1)

/-! ## What gives neither a name nor a handle -/

/-- From `s` to `s'` no end came into being and no handle was given; an end may have lost its owner. -/
structure Store.Retains (s s' : Store) : Prop where
  channels : s'.channelCounter = s.channelCounter
  handles : s'.capabilityCounter = s.capabilityCounter
  held : ∀ id, (s'.record id).capability = (s.record id).capability ∨ (s'.record id).capability = none

theorem Store.release_eq_ok {s s' : Store} {handle : Capability} {id : EndId} :
    s.release handle id = .ok s' ↔
      s.authenticates handle id = true ∧ s' = s.update id fun r => { r with capability := none } := by
  cases hauth : s.authenticates handle id with
  | false => simp [Store.release, hauth]
  | true =>
    have hheld : (s.record id).capability = some handle := of_decide_eq_true hauth
    have hclaimed : s.checkClaimed id = .ok () := by simp [hheld]
    have hrelease : s.release handle id = .ok (s.update id fun r => { r with capability := none }) := by
      simp only [Store.release, hclaimed, hauth]
      rfl
    rw [hrelease, Except.ok.injEq, and_iff_right rfl, eq_comm]

section
variable [Digest] {v : View} {id : EndId} {r r' : ChannelRecord} {es : List Event}

/-- Only an end that comes into being gets an owner. -/
theorem Turn.capability_eq (h : Turn v id r r' es) :
    r'.capability = r.capability ∨ r.channel = none ∧ r'.channel ≠ none := by
  cases h with
  | created hnew => exact .inr ⟨hnew, Option.some_ne_none _⟩
  | timedOut => exact .inl (ChannelRecord.capability_close _)
  | confirmedLast => exact .inl (ChannelRecord.capability_commit _ _ _)
  | committed => exact .inl (ChannelRecord.capability_commit _ _ _)
  | gaveUp _ hbase => rcases hbase with rfl | ⟨n, nextAck, rfl, -⟩ <;> exact .inl rfl
  | _ => exact .inl rfl

/-- Nothing is done with what is not there. -/
theorem Turn.eq_of_unborn (h : Turn v id r r' es) (hnone : r'.channel = none) : r' = r := by
  cases h with
  | idle => rfl
  | sent hc => cases hc.symm.trans hnone
  | receivedUnordered hc => cases hc.symm.trans hnone
  | receivedOrdered hc => cases hc.symm.trans hnone
  | settled _ hc => cases hc.symm.trans hnone
  | refused hc => cases hc.symm.trans hnone
  | timedOut => rw [ChannelRecord.channel_close] at hnone; cases hnone
  | _ => cases hnone

end

namespace Message

theorem exists_addressee {m : Message} (h : m.opens = false) : ∃ id, m.addressee? = some id := by
  cases m with
  | openInit m => cases h
  | openTry m => cases h
  | _ => exact ⟨_, rfl⟩

/-- A message that opens no channel leaves the counters as they are. -/
theorem counters_of_execute [Digest] {m : Message} {host : Host} {s : Store} {app : App} {l' : Ledger}
    (hm : m.opens = false) (hx : m.execute host ⟨s, app⟩ = .ok () l') :
    l'.store.channelCounter = s.channelCounter ∧ l'.store.capabilityCounter = s.capabilityCounter := by
  obtain ⟨id, hid⟩ := exists_addressee hm
  have hends := execute_alike hid (.refl host) s s app (.refl s id)
  rw [hx] at hends
  cases hends with
  | ok a hparallel =>
    obtain ⟨-, es, lines, htouches, -⟩ := hparallel
    exact ⟨htouches.channelCounter, htouches.capabilityCounter⟩

end Message

theorem Packet.counters_of_executeSend [Digest] {p : Packet} {s s' : Store} (hx : p.executeSend s = .ok () s') :
    s'.channelCounter = s.channelCounter ∧ s'.capabilityCounter = s.capabilityCounter := by
  simp [Packet.executeSend, Store.commit, and_assoc] at hx
  obtain ⟨next, -, c, -, hop, -, rfl⟩ := hx
  exact ⟨rfl, rfl⟩

/-- Both counters stay as they are unless a message opens a channel. -/
theorem Chain.counters_undergo [Digest] {c : Chain} {deed : Deed}
    (hnot : ∀ m, deed = .deliver m → c.takes m = true → m.opens = false) :
    (c.undergo deed).store.channelCounter = c.store.channelCounter ∧
      (c.undergo deed).store.capabilityCounter = c.store.capabilityCounter := by
  cases c.effect deed with
  | idle hstore =>
    rw [hstore]
    exact ⟨rfl, rfl⟩
  | delivered hdeed htakes _ hx hstore =>
    rw [hstore]
    exact Message.counters_of_execute (hnot _ hdeed htakes) hx
  | sent _ _ hx => exact Packet.counters_of_executeSend hx
  | released hstore =>
    rw [hstore]
    exact ⟨rfl, rfl⟩

namespace Course

section
variable [Digest] (course : Course) (i : Nat)

/-- In deed `i` a message opens the end `id`. -/
def Opens (id : EndId) : Prop :=
  ∃ m, course.Succeeds i m ∧ m.opens = true ∧ id = ⟨m.port, (course.chain i).store.nextChannelId⟩

/-- At world `i` the handle authenticates the end `id`. -/
def Held (handle : Capability) (id : EndId) : Prop := (course.chain i).store.authenticates handle id = true

/-- In deed `i` the owner of the end `id` lets go of it. -/
def Releases (handle : Capability) (id : EndId) : Prop :=
  course.deeds[i]? = some (.release handle id) ∧ ∃ s, (course.chain i).store.release handle id = .ok s

/-- In deed `i` the packet `p` is sent by who shows `handle`. -/
def Sends (handle : Capability) (p : Packet) : Prop :=
  course.deeds[i]? = some (.send handle p) ∧ (course.chain i).sends handle p = true

/-- There is a handle for every end that is opened. -/
def Granting : Prop := ∀ i, i < course.deeds.length → (course.chain i).store.capabilityCounter ≠ lastHandle

/-- Deed `i` makes the end `id` where there was nothing before, with a handle that no one has had, and leaves
every other end as it is. -/
structure OpensAnew (id : EndId) : Prop where
  unused : ∀ j, j ≤ i → course.record j id = {}
  opened : ∃ c handle, course.record (i + 1) id = { channel := some c, capability := some handle } ∧
    ∀ j, j ≤ i → ∀ id', ¬course.Held j handle id'
  others : ∀ id', id' ≠ id → course.record (i + 1) id' = course.record i id'

/-- No name and no handle is given twice, and a packet is sent by who holds the handle of its end. -/
structure GivesOnce : Prop where
  numbered : ∀ i id, course.record i id ≠ {} →
    ∃ n, id.channel = .numbered n ∧ n < (course.chain i).store.channelCounter
  onePort : ∀ i k id id', course.record i id ≠ {} → course.record k id' ≠ {} → id.channel = id'.channel → id = id'
  anew : ∀ i m, course.Succeeds i m → m.opens = true →
    course.OpensAnew i ⟨m.port, (course.chain i).store.nextChannelId⟩
  oneEnd : ∀ i k handle id id', course.Held i handle id → course.Held k handle id' → id = id'
  released : ∀ i k handle id id', course.Releases i handle id → i < k → ¬course.Held k handle id'
  sent : ∀ i handle p, course.Sends i handle p → ∀ id, course.Held i handle id ↔ id = p.source

end

section
variable [Digest] {course : Course} {i k : Nat} {id id' : EndId} {handle : Capability}

theorem held_iff : course.Held i handle id ↔ (course.record i id).capability = some handle := by
  simp [Held, Store.authenticates, record]

/-! ## The step -/

/-- A deed that opens no end gives neither a name nor a handle. -/
theorem retains (h : course.Standing i) (hnot : ∀ id, ¬course.Opens i id) :
    (course.chain i).store.Retains (course.chain (i + 1)).store := by
  have hcounters :
      (course.chain (i + 1)).store.channelCounter = (course.chain i).store.channelCounter ∧
        (course.chain (i + 1)).store.capabilityCounter = (course.chain i).store.capabilityCounter := by
    cases hdeed : course.deeds[i]? with
    | none => rw [chain_over hdeed]; exact ⟨rfl, rfl⟩
    | some deed =>
      rw [chain_succ hdeed]
      refine Chain.counters_undergo fun m hm htakes => ?_
      subst hm
      exact Bool.eq_false_iff.2 fun hopens => hnot _ ⟨m, ⟨hdeed, htakes⟩, hopens, rfl⟩
  refine ⟨hcounters.1, hcounters.2, fun id => ?_⟩
  rcases turn h id with ⟨es, hturn⟩ | hreleased
  · refine hturn.capability_eq.imp_right fun ⟨hnone, hborn⟩ => ?_
    obtain ⟨m, hsucceeds, hopens, hid, -⟩ := founded_of_new h hnone hborn
    exact absurd ⟨m, hsucceeds, hopens, hid⟩ (hnot id)
  · exact .inr (congrArg ChannelRecord.capability hreleased)

theorem opens_or_retains (h : course.Standing i) :
    (∃ id, course.Opens i id) ∨ (course.chain i).store.Retains (course.chain (i + 1)).store := by
  by_cases hopens : ∃ id, course.Opens i id
  · exact .inl hopens
  · exact .inr (retains h fun id hid => hopens ⟨id, hid⟩)

theorem Opens.founds (h : course.Opens i id) :
    (course.chain i).store.Founds (course.chain (i + 1)).store id := by
  obtain ⟨m, hsucceeds, hopens, rfl⟩ := h
  exact hsucceeds.founds hopens

/-- A deed opens one end at most. -/
theorem Opens.unique (h : course.Opens i id) (h' : course.Opens i id') : id = id' := by
  obtain ⟨m, ⟨hdeed, -⟩, -, rfl⟩ := h
  obtain ⟨m', ⟨hdeed', -⟩, -, rfl⟩ := h'
  obtain rfl := Deed.deliver.inj (Option.some.inj (hdeed.symm.trans hdeed'))
  rfl

theorem Opens.lt_length (h : course.Opens i id) : i < course.deeds.length := by
  obtain ⟨m, ⟨hdeed, -⟩, -, rfl⟩ := h
  exact (List.getElem?_eq_some_iff.1 hdeed).1

/-! ## The counters -/

omit [Digest] in
/-- A counter that goes up in two deeds shows another number in each. -/
theorem counter_injective {count : Nat → UInt64} (hmono : ∀ {i k}, i ≤ k → count i ≤ count k)
    (hi : count i < count (i + 1)) (hk : count k < count (k + 1)) (heq : count i = count k) : i = k := by
  rcases Nat.lt_trichotomy i k with hik | hik | hki
  · exact absurd hi (UInt64.not_lt.2 (heq ▸ hmono hik))
  · exact hik
  · exact absurd hk (UInt64.not_lt.2 (heq ▸ hmono hki))

section
variable (h : course.Regular)

include h

theorem Opens.channelCounter_lt (hopens : course.Opens i id) :
    (course.chain i).store.channelCounter < (course.chain (i + 1)).store.channelCounter := by
  rw [hopens.founds.channels]
  exact lt_add_one_of_not_last (h.numbering i hopens.lt_length)

/-- The next name of a chain is given in one deed. -/
theorem Opens.eq_of_channel (hopens : course.Opens i id) (hopens' : course.Opens k id')
    (hname : id.channel = id'.channel) : id = id' := by
  have hcounter : (course.chain i).store.channelCounter = (course.chain k).store.channelCounter :=
    ChannelId.numbered_injective (hopens.founds.name.symm.trans (hname.trans hopens'.founds.name))
  have hik := counter_injective (fun hik => channelCounter_le h hik) (hopens.channelCounter_lt h)
    (hopens'.channelCounter_lt h) hcounter
  subst hik
  exact hopens.unique hopens'

section
variable (hgranting : course.Granting)

include hgranting

omit h in
theorem Opens.capabilityCounter_lt (hopens : course.Opens i id) :
    (course.chain i).store.capabilityCounter < (course.chain (i + 1)).store.capabilityCounter := by
  rw [hopens.founds.handles]
  exact lt_add_one_of_not_last (hgranting i hopens.lt_length)

theorem capabilityCounter_le (hik : i ≤ k) :
    (course.chain i).store.capabilityCounter ≤ (course.chain k).store.capabilityCounter := by
  induction hik with
  | refl => exact UInt64.le_refl _
  | @step k _ ih =>
    refine UInt64.le_trans ih ?_
    rcases opens_or_retains (standing h k) with ⟨id, hopens⟩ | hretains
    · exact UInt64.le_of_lt (hopens.capabilityCounter_lt hgranting)
    · rw [hretains.handles]
      exact UInt64.le_refl _

/-- The next handle of a chain is given in one deed. -/
theorem Opens.eq_of_handle (hopens : course.Opens i id) (hopens' : course.Opens k id')
    (hcounter : (course.chain i).store.capabilityCounter = (course.chain k).store.capabilityCounter) :
    id = id' := by
  have hik := counter_injective (fun hik => capabilityCounter_le h hgranting hik)
    (hopens.capabilityCounter_lt hgranting) (hopens'.capabilityCounter_lt hgranting) hcounter
  subst hik
  exact hopens.unique hopens'

end

/-! ## Where an end and its handle come from -/

/-- An end has been opened. -/
theorem exists_opens (hborn : (course.record i id).channel ≠ none) : ∃ k, k < i ∧ course.Opens k id := by
  induction i with
  | zero =>
    rw [record_zero h] at hborn
    exact absurd rfl hborn
  | succ i ih =>
    by_cases hnone : (course.record i id).channel = none
    · obtain ⟨m, hsucceeds, hopens, hid, -⟩ := founded_of_new (standing h i) hnone hborn
      exact ⟨i, Nat.lt_succ_self i, m, hsucceeds, hopens, hid⟩
    · obtain ⟨k, hk, hopens⟩ := ih hnone
      exact ⟨k, Nat.lt_succ_of_lt hk, hopens⟩

/-- The handle of an end is the one that it was opened with. -/
theorem Held.exists_opens (hheld : course.Held i handle id) :
    ∃ k, k < i ∧ course.Opens k id ∧ handle = ⟨(course.chain k).store.capabilityCounter + 1⟩ := by
  rw [held_iff] at hheld
  induction i with
  | zero =>
    rw [record_zero h] at hheld
    cases hheld
  | succ i ih =>
    have hbefore (hsame : (course.record i id).capability = some handle) :
        ∃ k, k < i + 1 ∧ course.Opens k id ∧ handle = ⟨(course.chain k).store.capabilityCounter + 1⟩ := by
      obtain ⟨k, hk, hopens⟩ := ih hsame
      exact ⟨k, Nat.lt_succ_of_lt hk, hopens⟩
    rcases opens_or_retains (standing h i) with ⟨id₀, hopens⟩ | hretains
    · by_cases hid : id = id₀
      · subst hid
        obtain ⟨c, hrecord⟩ := hopens.founds.record
        rw [record, hrecord] at hheld
        exact ⟨i, Nat.lt_succ_self i, hopens, (Option.some.inj hheld).symm⟩
      · rw [record, hopens.founds.others id hid] at hheld
        exact hbefore hheld
    · rcases hretains.held id with hsame | hnone
      · exact hbefore (hsame.symm.trans hheld)
      · cases hheld.symm.trans hnone

/-- Nothing is kept of an end before it is opened. -/
theorem blank_of_unborn (hnone : (course.record i id).channel = none) : course.record i id = {} := by
  refine record_induction (P := fun r => r.channel = none → r = {}) h i id (fun _ => rfl) ?_ ?_ hnone
  · intro j hj r' es hturn hr hnone
    obtain rfl := hturn.eq_of_unborn hnone
    exact hr hnone
  · intro r hr hnone
    rw [hr hnone]

theorem born_succ (hborn : (course.record i id).channel ≠ none) : (course.record (i + 1) id).channel ≠ none := by
  obtain ⟨c, hc⟩ := Option.ne_none_iff_exists'.1 hborn
  obtain ⟨c', hc', -⟩ := passes h hc
  rw [hc']
  exact Option.some_ne_none c'

/-- An end that has lost its owner gets no other one. -/
theorem unowned_of_le (hik : i ≤ k) (hborn : (course.record i id).channel ≠ none)
    (hnone : (course.record i id).capability = none) :
    (course.record k id).channel ≠ none ∧ (course.record k id).capability = none := by
  induction hik with
  | refl => exact ⟨hborn, hnone⟩
  | @step k _ ih =>
    refine ⟨born_succ h ih.1, ?_⟩
    rcases opens_or_retains (standing h k) with ⟨id₀, hopens⟩ | hretains
    · have hne : id ≠ id₀ := by
        rintro rfl
        obtain ⟨m, -, -, rfl⟩ := hopens
        exact ih.1 (unborn h (Nat.le_refl k) m.port)
      rw [record, hopens.founds.others id hne]
      exact ih.2
    · rcases hretains.held id with hsame | hlost
      · exact hsame.trans ih.2
      · exact hlost

end

/-- A release takes the handle from the end. -/
theorem Releases.unowned (hreleases : course.Releases i handle id) :
    course.Held i handle id ∧ (course.record (i + 1) id).channel = (course.record i id).channel ∧
      (course.record (i + 1) id).capability = none := by
  obtain ⟨hdeed, s, hs⟩ := hreleases
  have hsucc : course.chain (i + 1) = (course.chain i).release handle id := chain_succ hdeed
  rw [Chain.release, hs] at hsucc
  obtain ⟨hheld, rfl⟩ := Store.release_eq_ok.1 hs
  rw [record, hsucc, Store.record_update_self]
  exact ⟨hheld, rfl, rfl⟩

/-- A packet is sent by who holds the handle of its end. -/
theorem Sends.held {p : Packet} (hsends : course.Sends i handle p) : course.Held i handle p.source := by
  obtain ⟨hv, -⟩ := Chain.store_of_sends hsends.2
  obtain ⟨-, c, -, -, hauth, -⟩ := Packet.validateSend_eq_ok.1 hv
  exact hauth

section
variable (h : course.Regular) (hgranting : course.Granting)

include h hgranting

/-- A handle is that of one end, at all times. -/
theorem Held.unique (hheld : course.Held i handle id) (hheld' : course.Held k handle id') : id = id' := by
  obtain ⟨j, -, hopens, hhandle⟩ := hheld.exists_opens h
  obtain ⟨j', -, hopens', hhandle'⟩ := hheld'.exists_opens h
  refine hopens.eq_of_handle h hgranting hopens' (UInt64.add_left_inj 1 |>.1 ?_)
  exact congrArg Capability.index (hhandle.symm.trans hhandle')

theorem Opens.anew (hopens : course.Opens i id) : course.OpensAnew i id := by
  have hunused (j : Nat) (hj : j ≤ i) : course.record j id = {} := by
    obtain ⟨m, -, -, rfl⟩ := hopens
    exact blank_of_unborn h (unborn h hj m.port)
  have hfounds := hopens.founds
  obtain ⟨c, hrecord⟩ := hfounds.record
  have hblank : (course.chain i).store.record id = {} := hunused i (Nat.le_refl i)
  rw [hblank] at hrecord
  refine ⟨hunused, ⟨c, _, hrecord, fun j hj id' hheld => ?_⟩, hfounds.others⟩
  -- Who had the handle would be the new end, of which nothing was kept.
  have hnew : course.Held (i + 1) ⟨(course.chain i).store.capabilityCounter + 1⟩ id := by
    rw [held_iff, record, hrecord]
  obtain rfl := hheld.unique h hgranting hnew
  rw [held_iff, hunused j hj] at hheld
  cases hheld

/-- A handle that its end has lost is that of no end. -/
theorem Releases.not_held (hreleases : course.Releases i handle id) (hik : i < k) (id' : EndId) :
    ¬course.Held k handle id' := by
  intro hheld'
  obtain ⟨hheld, hsame, hnone⟩ := hreleases.unowned
  obtain rfl := hheld.unique h hgranting hheld'
  have hborn : (course.record i id).channel ≠ none := by
    intro hunborn
    rw [held_iff, blank_of_unborn h hunborn] at hheld
    cases hheld
  have hlost := (unowned_of_le h hik (hsame ▸ hborn) hnone).2
  rw [held_iff, hlost] at hheld'
  cases hheld'

/-- On a new chain neither a name nor a handle is given twice. -/
theorem gives_once : course.GivesOnce where
  numbered i id hid :=
    (standing h i).named id fun hnone => hid (blank_of_unborn h hnone)
  onePort i k id id' hid hid' hname := by
    obtain ⟨j, -, hopens⟩ := exists_opens h fun hnone => hid (blank_of_unborn h hnone)
    obtain ⟨j', -, hopens'⟩ := exists_opens h fun hnone => hid' (blank_of_unborn h hnone)
    exact hopens.eq_of_channel h hopens' hname
  anew i m hsucceeds hopens := Opens.anew h hgranting ⟨m, hsucceeds, hopens, rfl⟩
  oneEnd i k handle id id' hheld hheld' := hheld.unique h hgranting hheld'
  released i k handle id id' hreleases hik := hreleases.not_held h hgranting hik id'
  sent i handle p hsends id := by
    refine ⟨fun hheld => hheld.unique h hgranting hsends.held, ?_⟩
    rintro rfl
    exact hsends.held

end

end

/-! ## A channel that is let go -/

section
attribute [local instance] Digest.plain

open Sample (endId connectionId port signer version)

/-- Chain `a` opens a channel, its owner sends a packet and lets go of the channel, and a second one is opened. -/
def lettingGo : Course :=
  ⟨(Sample.joined 5).a, (Sample.alone [6] (Sample.opening .ordered 6 7 ++
      [Step.mk .a (.send ⟨1⟩ (Sample.packet 1))])).deeds ++
    [.release ⟨1⟩ endId, .deliver (.openInit ⟨port, [connectionId], port, .ordered, version, signer⟩)]⟩

theorem lettingGo_facts : (∀ i, i < lettingGo.deeds.length →
      (lettingGo.chain i).store.channelCounter ≠ lastChannel ∧
        (lettingGo.chain i).store.capabilityCounter ≠ lastHandle) ∧
    (lettingGo.chain 3).sends ⟨1⟩ (Sample.packet 1) = true ∧
    (lettingGo.chain 4).store.authenticates ⟨1⟩ endId = true ∧
    (lettingGo.chain 6).store.authenticates ⟨2⟩ ⟨port, .numbered 1⟩ = true := by
  decide +kernel

/-- The second channel gets a handle of its own, and the first handle, which was shown for the packet, is that of
no end any more. -/
theorem gives_once_when_let_go : lettingGo.Sends 3 ⟨1⟩ (Sample.packet 1) ∧ lettingGo.Releases 4 ⟨1⟩ endId ∧
    lettingGo.Held 6 ⟨2⟩ ⟨port, .numbered 1⟩ ∧ (∀ id, ¬lettingGo.Held 6 ⟨1⟩ id) ∧ lettingGo.GivesOnce := by
  obtain ⟨hcounters, hsends, hheld, hsecond⟩ := lettingGo_facts
  have hreleases : lettingGo.Releases 4 ⟨1⟩ endId := ⟨rfl, _, Store.release_eq_ok.2 ⟨hheld, rfl⟩⟩
  have honce : lettingGo.GivesOnce :=
    gives_once (Sample.regular_of_deeds fun i hi => (hcounters i hi).1) fun i hi => (hcounters i hi).2
  exact ⟨⟨rfl, hsends⟩, hreleases, hsecond, fun id => honce.released 4 6 ⟨1⟩ endId id hreleases (by decide), honce⟩

end

end Course

end ChannelLayer
