import ChannelLayer.Proofs.Tally
import ChannelLayer.Proofs.Trial

/-!
# Runs of one chain

A course takes one chain, on which nothing is kept about any channel yet, through any list of deeds. What a
relayer says of the other chain may be anything: every proof that verifies is taken, and light clients learn
whatever they are told.

Channels are named by a counter that goes up (`Course.named_of_new`), so that a new channel never takes the
place of an old one, not even of one whose owner has let go of it. `Course.turn` is the step lemma: in each
deed each end takes one turn (`ChannelLayer.Proofs.Turn`) or loses its owner. Invariants follow by
`Course.record_induction`.
-/

set_option autoImplicit false

namespace ChannelLayer

/-- What can be done with a chain. -/
inductive Deed where
  | deliver (m : Message)
  | send (handle : Capability) (p : Packet)
  | release (handle : Capability) (id : EndId)
  | advanceBlock
  | advanceTime (duration : UInt64)
  | learn (client : ClientId) (height : Height) (time : Timestamp)
  deriving DecidableEq

namespace Chain

/-- The owner of the end `id` lets go of it, if it shows its handle. -/
def release (c : Chain) (handle : Capability) (id : EndId) : Chain :=
  match c.store.release handle id with
  | .ok s => { c with store := s }
  | .error _ => c

/-- The light client `client` learns of a block. -/
def learn (c : Chain) (client : ClientId) (height : Height) (time : Timestamp) : Chain :=
  { c with host := { c.host with clients := c.host.clients.update client height time } }

def undergo [Digest] (c : Chain) : Deed → Chain
  | .deliver m => c.after (deliver m)
  | .send handle p => c.after (send handle p)
  | .release handle id => c.release handle id
  | .advanceBlock => c.advanceBlock
  | .advanceTime duration => c.advanceTime duration
  | .learn client height time => c.learn client height time

/-- Letting go of an end changes nothing else. -/
theorem store_release (c : Chain) (handle : Capability) (id : EndId) :
    (c.release handle id).store = c.store ∨
      (c.release handle id).store = c.store.update id fun r => { r with capability := none } := by
  unfold release Store.release
  cases c.store.checkClaimed id with
  | error e => exact .inl rfl
  | ok u =>
    cases hauth : c.store.authenticates handle id with
    | false =>
      left
      simp [bind, Except.bind, throw, throwThe, MonadExceptOf.throw]
    | true =>
      right
      simp [bind, Except.bind, pure, Except.pure]

/-- What a deed may make of the store of `c`: a message or a packet takes effect, an end loses its owner, or the
store stays as it is. -/
inductive Effect [Digest] (c : Chain) (deed : Deed) (s' : Store) : Prop
  | idle (hstore : s' = c.store)
  | delivered {m : Message} {app : App} {l' : Ledger} (hdeed : deed = .deliver m)
      (htakes : c.takes m = true) (hvalid : m.validate c.host c.store app = .ok ())
      (hx : m.execute c.host ⟨c.store, app⟩ = .ok () l') (hstore : s' = l'.store)
  | sent {handle : Capability} {p : Packet} (hdeed : deed = .send handle p)
      (hvalid : p.validateSend c.host c.store handle = .ok ()) (hx : p.executeSend c.store = .ok () s')
  | released {id : EndId} (hstore : s' = c.store.update id fun r => { r with capability := none })

theorem effect [Digest] (c : Chain) (deed : Deed) : c.Effect deed (c.undergo deed).store := by
  cases deed with
  | deliver m =>
    by_cases htakes : c.takes m = true
    · obtain ⟨name, app, l', -, hvalid, hx, hafter⟩ := after_of_takes htakes
      exact .delivered rfl htakes hvalid hx (by rw [undergo, hafter]; rfl)
    · exact .idle (store_of_not_takes htakes)
  | send handle p =>
    by_cases hsends : c.sends handle p = true
    · obtain ⟨hvalid, hx⟩ := store_of_sends hsends
      exact .sent rfl hvalid hx
    · exact .idle (store_of_not_sends hsends)
  | release handle id =>
    rcases c.store_release handle id with hsame | hreleased
    · exact .idle hsame
    · exact .released hreleased
  | advanceBlock => exact .idle rfl
  | advanceTime duration => exact .idle rfl
  | learn client height time => exact .idle rfl

theorem router_release (c : Chain) (handle : Capability) (id : EndId) :
    (c.release handle id).router = c.router := by
  unfold release
  split <;> rfl

end Chain

/-- The last number that a channel can have. -/
def lastChannel : UInt64 := UInt64.ofNat (UInt64.size - 1)

/-- Every end of the store has a name that was given before. -/
def Store.Named (s : Store) : Prop :=
  ∀ id, (s.record id).channel ≠ none → ∃ n, id.channel = .numbered n ∧ n < s.channelCounter

theorem Store.Named.namesAnew {s : Store} (h : s.Named) : s.NamesAnew := by
  intro id hid _
  refine Decidable.byContradiction fun hborn => ?_
  obtain ⟨n, hname, hlt⟩ := h id hborn
  have hnext : ChannelId.numbered n = .numbered s.channelCounter := hname.symm.trans hid
  rw [ChannelId.numbered_injective hnext] at hlt
  exact UInt64.lt_irrefl _ hlt

/-- An end comes into being as one that is to be opened, where a message asks for that. -/
theorem Turn.of_new [Digest] {v : View} {id : EndId} {r r' : ChannelRecord} {es : List Event}
    (h : Turn v id r r' es) (hnone : r.channel = none) {c' : ChannelEnd} (hc' : r'.channel = some c') :
    v.opening ∧ (c'.state = .init ∨ c'.state = .tryOpen) := by
  have hnot {c : ChannelEnd} (hc : r.channel = some c) :
      v.opening ∧ (c'.state = .init ∨ c'.state = .tryOpen) := by
    rw [hnone] at hc
    cases hc
  cases h with
  | created hnew hstate horder hhops hseq hasked =>
    obtain rfl := Option.some.inj hc'
    exact ⟨hasked, hstate.imp (fun h => h.1) fun h => h.1⟩
  | opened hc => exact hnot hc
  | closed hc => exact hnot hc
  | flushed hc => exact hnot hc
  | timedOut hc => exact hnot hc
  | proposed hc => exact hnot hc
  | answered hc => exact hnot hc
  | acked hc => exact hnot hc
  | confirmed hc => exact hnot hc
  | confirmedLast hc => exact hnot hc
  | committed hc => exact hnot hc
  | gaveUp hc => exact hnot hc
  | _ => exact hnot hc'

structure Course where
  start : Chain
  deeds : List Deed
  deriving DecidableEq

namespace Course

section
variable [Digest] (course : Course) (i : Nat)

/-- The chain before deed `i`; a course that is over leaves it as it is. -/
def chain : Chain := (course.deeds.take i).foldl Chain.undergo course.start

def record (id : EndId) : ChannelRecord := (course.chain i).store.record id

/-- The decisive events about the end `id` in deed `i`. -/
def happens (id : EndId) : List Event :=
  (course.chain i).store.news (course.chain (i + 1)).store id

/-- In deed `i` the message `m` is delivered with success. -/
def Succeeds (m : Message) : Prop :=
  course.deeds[i]? = some (.deliver m) ∧ (course.chain i).takes m = true

instance (m : Message) : Decidable (course.Succeeds i m) := inferInstanceAs (Decidable (_ ∧ _))

/-- Whatever is said of the other chain may be so. -/
def view : View where
  host := (course.chain i).host
  connections := (course.chain i).store.connections
  shown _ _ _ := True
  clock _ _ := True
  deadline _ := True
  delivered m := course.deeds[i]? = some (.deliver m)
  sending p := ∃ handle, course.deeds[i]? = some (.send handle p)

/-- The chain is new, its applications are samples, and its channels can all be numbered. -/
structure Regular : Prop where
  blank : ∀ id, course.start.store.record id = {}
  applications : course.start.router.AllSample
  numbering : ∀ i, i < course.deeds.length → (course.chain i).store.channelCounter ≠ lastChannel

end

section
variable [Digest] {course : Course} {i : Nat} {id : EndId}

theorem chain_succ {deed : Deed} (h : course.deeds[i]? = some deed) :
    course.chain (i + 1) = (course.chain i).undergo deed := by
  simp [chain, List.take_add_one, h]

theorem record_zero (h : course.Regular) (id : EndId) : course.record 0 id = {} := h.blank id

/-- A message that changes the store is delivered with success. -/
theorem succeeds_of_changed {m : Message} (hdeed : course.deeds[i]? = some (.deliver m))
    (hchanged : (course.chain (i + 1)).store ≠ (course.chain i).store) : course.Succeeds i m := by
  refine ⟨hdeed, Decidable.byContradiction fun htakes => hchanged ?_⟩
  rw [chain_succ hdeed]
  exact Chain.store_of_not_takes htakes

theorem chain_over (h : course.deeds[i]? = none) : course.chain (i + 1) = course.chain i := by
  have hlen := List.getElem?_eq_none_iff.1 h
  rw [chain, chain, List.take_of_length_le hlen, List.take_of_length_le (Nat.le_succ_of_le hlen)]

theorem chain_min (course : Course) (i : Nat) : course.chain i = course.chain (min i course.deeds.length) := by
  rw [chain, chain, ← List.take_eq_take_min]

/-- What holds up to the end of a course holds of it for good. -/
theorem forall_chain (course : Course) {P : Chain → Prop} :
    (∀ i, P (course.chain i)) ↔ ∀ i, i ≤ course.deeds.length → P (course.chain i) :=
  ⟨fun h i _ => h i, fun h i => chain_min course i ▸ h _ (Nat.min_le_right _ _)⟩

/-- What stays true of a chain whatever is done with it, apart from its channels. -/
structure Standing (course : Course) (i : Nat) : Prop where
  applications : (course.chain i).router.AllSample
  named : (course.chain i).store.Named

theorem fits {m : Message} (hdeed : course.deeds[i]? = some (.deliver m)) :
    (course.view i).Fits (course.chain i).host (course.chain i).store m where
  hostEq := rfl
  connectionsEq := rfl
  shown _ _ _ := trivial
  clock _ _ _ _ := trivial
  deadline _ _ := trivial
  delivered := hdeed

/-- What a deed does to the store: one end takes one turn, an end loses its owner, or nothing. -/
theorem store_succ (h : course.Standing i) :
    (course.chain (i + 1)).store = (course.chain i).store ∨
    (∃ id, (course.chain i).store.TakesTurn (course.view i) id (course.chain (i + 1)).store) ∨
    ∃ handle id, course.deeds[i]? = some (.release handle id) := by
  cases hdeed : course.deeds[i]? with
  | none => exact .inl (by rw [chain_over hdeed])
  | some deed =>
    rw [chain_succ hdeed]
    cases deed with
    | deliver m =>
      rcases Chain.store_deliver h.applications (fits hdeed) h.named.namesAnew with
          hstore | ⟨id, hturn, -⟩
      · exact .inl hstore
      · exact .inr (.inl ⟨id, hturn⟩)
    | send handle p =>
      by_cases hsends : (course.chain i).sends handle p = true
      · obtain ⟨hv, hx⟩ := Chain.store_of_sends hsends
        exact .inr (.inl ⟨_, p.send_turn ⟨handle, hdeed⟩ hv hx⟩)
      · exact .inl (Chain.store_of_not_sends hsends)
    | release handle id => exact .inr (.inr ⟨handle, id, rfl⟩)
    | advanceBlock => exact .inl rfl
    | advanceTime duration => exact .inl rfl
    | learn client height time => exact .inl rfl

/-- In each deed each end takes one turn, with the events of the deed that are about it, unless it loses its
owner. -/
theorem turn_happens (h : course.Standing i) (id : EndId) :
    Turn (course.view i) id (course.record i id) (course.record (i + 1) id) (course.happens i id) ∨
      course.record (i + 1) id = { course.record i id with capability := none } := by
  have hidle (hstore : (course.chain (i + 1)).store = (course.chain i).store) :
      Turn (course.view i) id (course.record i id) (course.record (i + 1) id) (course.happens i id) := by
    have hnone : course.happens i id = [] := by simp [happens, Store.news, hstore]
    rw [hnone, record, record, hstore]
    exact .idle
  rcases store_succ h with hstore | ⟨id', hturn⟩ | ⟨handle, id', hdeed⟩
  · exact .inl (hidle hstore)
  · exact .inl (hturn.turn id)
  · have hsucc : course.chain (i + 1) = (course.chain i).release handle id' := chain_succ hdeed
    rcases (course.chain i).store_release handle id' with hsame | hreleased
    · exact .inl (hidle (by rw [hsucc, hsame]))
    · have hrecord : course.record (i + 1) id = if id' = id then
          { course.record i id' with capability := none } else course.record i id := by
        rw [record, hsucc, hreleased, Store.record_update]
        rfl
      by_cases hid : id' = id
      · rw [hrecord, if_pos hid, hid]
        exact .inr rfl
      · have hnone : course.happens i id = [] := by
          rw [happens, Store.news, hsucc, hreleased]
          simp [Store.update]
        rw [hrecord, if_neg hid, hnone]
        exact .inl .idle

/-- In each deed each end takes one turn, unless it loses its owner. -/
theorem turn (h : course.Standing i) (id : EndId) :
    (∃ es, Turn (course.view i) id (course.record i id) (course.record (i + 1) id) es) ∨
      course.record (i + 1) id = { course.record i id with capability := none } :=
  (turn_happens h id).imp_left fun hturn => ⟨_, hturn⟩

theorem applications_succ (h : (course.chain i).router.AllSample) :
    (course.chain (i + 1)).router.AllSample := by
  cases hdeed : course.deeds[i]? with
  | none => rwa [chain_over hdeed]
  | some deed =>
    rw [chain_succ hdeed]
    cases deed with
    | deliver m => exact ((course.chain i).after_deliver m h).1
    | send handle p =>
      rw [Chain.undergo, ((course.chain i).after_send handle p).2.1]
      exact h
    | release handle id =>
      rw [Chain.undergo, Chain.router_release]
      exact h
    | advanceBlock => exact h
    | advanceTime duration => exact h
    | learn client height time => exact h

/-! ## Names -/

/-- A message that opens a channel gives the end the next name of the chain and its next handle. -/
theorem Succeeds.founds {m : Message} (h : course.Succeeds i m) (hopens : m.opens = true) :
    (course.chain i).store.Founds (course.chain (i + 1)).store
      ⟨m.port, (course.chain i).store.nextChannelId⟩ := by
  obtain ⟨hdeed, htakes⟩ := h
  obtain ⟨name, app, l', -, -, hx, hafter⟩ := Chain.after_of_takes htakes
  rw [chain_succ hdeed, Chain.undergo, hafter]
  exact Message.founds hopens hx

/-- The counter of channels goes up where a channel is opened, and it does not move otherwise. -/
theorem channelCounter_succ (hregular : course.Regular) (h : course.Standing i) :
    (course.chain i).store.channelCounter ≤ (course.chain (i + 1)).store.channelCounter := by
  rcases store_succ h with hstore | ⟨id, r, es, hw, -⟩ | ⟨handle, id, hdeed⟩
  · rw [hstore]
    exact UInt64.le_refl _
  · rcases hw.counter with hsame | hnext
    · rw [hsame]
      exact UInt64.le_refl _
    · rw [hnext]
      cases hdeed : course.deeds[i]? with
      | none =>
        rw [← hnext, chain_over hdeed]
        exact UInt64.le_refl _
      | some deed =>
        have hlast := hregular.numbering i (List.getElem?_eq_some_iff.1 hdeed).1
        exact UInt64.le_of_lt (lt_add_one_of_not_last hlast)
  · rw [chain_succ hdeed]
    rcases (course.chain i).store_release handle id with hsame | hreleased
    · rw [Chain.undergo, hsame]
      exact UInt64.le_refl _
    · rw [Chain.undergo, hreleased]
      exact UInt64.le_refl _

/-- An end that comes into being is the one that a message opens. -/
theorem founded_of_new (h : course.Standing i) (hnone : (course.record i id).channel = none)
    (hborn : (course.record (i + 1) id).channel ≠ none) :
    ∃ m, course.Succeeds i m ∧ m.opens = true ∧ id = ⟨m.port, (course.chain i).store.nextChannelId⟩ ∧
      (course.chain i).store.Founds (course.chain (i + 1)).store id := by
  rcases turn h id with ⟨es, hturn⟩ | hreleased
  · obtain ⟨c', hc'⟩ := Option.ne_none_iff_exists'.1 hborn
    obtain ⟨⟨m, hdelivered, hopens⟩, -⟩ := hturn.of_new hnone hc'
    have hsucceeds : course.Succeeds i m := succeeds_of_changed hdelivered fun hstore => by
      rw [record, hstore] at hborn
      exact hborn hnone
    have hfounds := hsucceeds.founds hopens
    obtain rfl : id = ⟨m.port, (course.chain i).store.nextChannelId⟩ := by
      refine Decidable.byContradiction fun hne => hborn ?_
      rw [record, hfounds.others id hne]
      exact hnone
    exact ⟨m, hsucceeds, hopens, rfl, hfounds⟩
  · rw [hreleased] at hborn
    exact absurd hnone hborn

/-- An end that comes into being gets the next name. -/
theorem named_of_new (hregular : course.Regular) (h : course.Standing i)
    (hnone : (course.record i id).channel = none) (hborn : (course.record (i + 1) id).channel ≠ none) :
    ∃ n, id.channel = .numbered n ∧ n < (course.chain (i + 1)).store.channelCounter := by
  obtain ⟨m, hsucceeds, -, -, hfounds⟩ := founded_of_new h hnone hborn
  refine ⟨(course.chain i).store.channelCounter, hfounds.name, ?_⟩
  rw [hfounds.channels]
  exact lt_add_one_of_not_last (hregular.numbering i (List.getElem?_eq_some_iff.1 hsucceeds.1).1)

theorem standing (h : course.Regular) (i : Nat) : course.Standing i := by
  induction i with
  | zero =>
    refine ⟨h.applications, fun id hborn => ?_⟩
    exact absurd (congrArg ChannelRecord.channel (record_zero h id)) hborn
  | succ i ih =>
    refine ⟨applications_succ ih.applications, fun id hborn => ?_⟩
    cases hc : (course.record i id).channel with
    | none => exact named_of_new h ih hc hborn
    | some c =>
      have hold : ((course.chain i).store.record id).channel ≠ none := by
        intro hnone
        rw [record, hnone] at hc
        cases hc
      obtain ⟨n, hname, hlt⟩ := ih.named id hold
      have hle := UInt64.le_iff_toNat_le.1 (channelCounter_succ h ih)
      have hlt := UInt64.lt_iff_toNat_lt.1 hlt
      exact ⟨n, hname, UInt64.lt_iff_toNat_lt.2 (Nat.lt_of_lt_of_le hlt hle)⟩

theorem channelCounter_le (h : course.Regular) {k : Nat} (hki : k ≤ i) :
    (course.chain k).store.channelCounter ≤ (course.chain i).store.channelCounter := by
  induction hki with
  | refl => exact UInt64.le_refl _
  | step _ ih => exact UInt64.le_trans ih (channelCounter_succ h (standing h _))

/-- No end has had the next name so far. -/
theorem unborn (h : course.Regular) {k : Nat} (hki : k ≤ i) (p : PortId) :
    (course.record k ⟨p, (course.chain i).store.nextChannelId⟩).channel = none := by
  refine Decidable.byContradiction fun hborn => ?_
  obtain ⟨n, hname, hlt⟩ := (standing h k).named _ hborn
  obtain rfl := ChannelId.numbered_injective (show ChannelId.numbered _ = .numbered n from hname)
  exact absurd hlt (UInt64.not_lt.2 (channelCounter_le h hki))

/-! ## What every record satisfies -/

/-- What turns preserve and an owner has no part in holds of all records. -/
theorem record_induction {P : ChannelRecord → Prop} (h : course.Regular) (i : Nat) (id : EndId)
    (hempty : P {})
    (hturn : ∀ j, j < i → ∀ r' es, Turn (course.view j) id (course.record j id) r' es →
      P (course.record j id) → P r')
    (hrelease : ∀ r : ChannelRecord, P r → P { r with capability := none }) : P (course.record i id) := by
  induction i with
  | zero =>
    rw [record_zero h]
    exact hempty
  | succ i ih =>
    have hr := ih fun j hj => hturn j (Nat.lt_succ_of_lt hj)
    rcases turn (standing h i) id with ⟨es, hstep⟩ | hreleased
    · exact hturn i (Nat.lt_succ_self i) _ es hstep hr
    · rw [hreleased]
      exact hrelease _ hr

theorem orderly (h : course.Regular) (i : Nat) (id : EndId) : (course.record i id).Orderly := by
  refine record_induction h i id ?_ (fun j hj r' es hturn hr => hturn.orderly hr) fun r hr => ?_
  · exact ⟨fun _ => ⟨rfl, rfl⟩, fun _ hc => (by cases hc), fun _ hc => (by cases hc),
      fun _ hc => (by cases hc)⟩
  · exact hr.congr rfl rfl rfl rfl fun hempty => hempty

theorem sending (h : course.Regular) (i : Nat) (id : EndId) : (course.record i id).Sending := by
  refine record_induction h i id ChannelRecord.sending_empty ?_ fun r hr => ⟨hr.inFlight, hr.counter⟩
  intro j hj r' es hturn hr
  exact hturn.sending (orderly h j id) hr

end

end Course

/-! ## One side of a run -/

/-- What a step does with the chain `x`. What the light clients of the chain learn is left to be said. -/
def Step.deed? (x : Side) (s : Step) : Option Deed :=
  if s.side = x then
    match s.action with
    | .deliver m => some (.deliver m)
    | .send handle p => some (.send handle p)
    | .advanceBlock => some .advanceBlock
    | .advanceTime duration => some (.advanceTime duration)
    | .update _ => none
  else none

namespace Sample

/-- What chain `a` goes through in `steps`, once its light client has learned the blocks `blocks`. -/
def alone (blocks : List UInt64) (steps : List Step) : Course :=
  ⟨(joined 5).a, blocks.map (fun n => .learn client ⟨0, n⟩ startTime) ++ steps.filterMap (Step.deed? .a)⟩

/-- What a new chain goes through in `deeds`. -/
theorem regular_of_deeds [Digest] {deeds : List Deed}
    (h : ∀ i, i < deeds.length →
      ((⟨(joined 5).a, deeds⟩ : Course).chain i).store.channelCounter ≠ lastChannel) :
    (⟨(joined 5).a, deeds⟩ : Course).Regular :=
  have hready : (joined 5).a.Ready (joined 5).b :=
    Relay.join_ready rfl rfl ⟨rfl, rfl⟩ ⟨allSample_chainAt _, allSample_chainAt _⟩ .a
  ⟨hready.blank, hready.applications, h⟩

theorem regular_of_numbering [Digest] {blocks : List UInt64} {steps : List Step}
    (h : ∀ i, i < (alone blocks steps).deeds.length →
      ((alone blocks steps).chain i).store.channelCounter ≠ lastChannel) :
    (alone blocks steps).Regular :=
  regular_of_deeds h

end Sample

end ChannelLayer
