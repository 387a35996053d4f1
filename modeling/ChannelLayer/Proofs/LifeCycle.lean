import ChannelLayer.Proofs.Course

/-!
# The life of an end

`ChannelState.successors` are the states that an end may pass to. Not every message is checked for the state
of the end that it is for: a timeout on a closed channel and a cancellation are not. That they respect the
table follows from what is kept beside the end: an end has packets in flight only from the time it is joined,
and none once it is flushed, and it keeps an upgrade only during an attempt.

`Turn.passes` says of one turn which states it leads to, what it takes to open an end and to close one in an
attempt, and when the make-up of an end is revised. A closed end stays as it is (`Course.closed_for_good`).
-/

set_option autoImplicit false

namespace ChannelLayer

/-- The states that an end may pass to from the one it is in. -/
def ChannelState.successors : ChannelState → List ChannelState
  | .init => [.opened]
  | .tryOpen => [.opened]
  | .opened => [.closed, .initUpgrade, .tryUpgrade]
  | .initUpgrade => [.tryUpgrade, .flushing, .flushComplete, .opened, .closed]
  | .tryUpgrade => [.flushing, .flushComplete, .opened, .closed]
  | .flushing => [.flushComplete, .opened, .closed]
  | .flushComplete => [.opened]
  | .closed | .uninitialized => []

theorem ChannelState.opened_mem_successors {s : ChannelState} (h : s.isUpgrading = true) :
    .opened ∈ s.successors := by
  cases s <;> first | decide | cases h

/-- An attempt begins where the channel is open. -/
theorem ChannelState.opened_or_isUpgrading {s s' : ChannelState} (h : s' = s ∨ s' ∈ s.successors)
    (hin : s'.isUpgrading = true) : s = .opened ∨ s.isUpgrading = true := by
  rcases h with rfl | hnext
  · exact .inr hin
  · cases s <;> cases s' <;> simp_all [successors, isUpgrading]

namespace ChannelEnd

/-- How the other end, the ordering, the connection and the version of an end may change from `c` to `c'`,
where the end keeps the upgrade `u?` and reports `es`, and `done` are the messages that take effect: they stay,
or the end is told of its other end, or it puts the upgrade in force. -/
inductive Revised (done : Message → Prop) (id : EndId) (u? : Option Upgrade) (es : List Event)
    (c c' : ChannelEnd) : Prop
  | kept (hremote : c'.remote = c.remote) (hfields : c'.fields = c.fields) : Revised done id u? es c c'
  | told {m : Message.OpenAck} (hm : done (.openAck m)) (hid : m.id = id) (hstate : c.state = .init)
      (hend : c' = m.opened c) : Revised done id u? es c c'
  | committed {m : Message} {u : Upgrade} (hm : done m) (hid : m.commits? = some id) (hu : u? = some u)
      (hend : c' = c.upgraded u.fields) (hevent : .upgrade .opened (.ofEnd id c') u.fields ∈ es) :
      Revised done id u? es c c'

/-- The end `c` may become `c'`: it stays in its state or passes to one of the next, it opens only when it is
told of its other end or that the other end is open, in an attempt it closes only if it is ordered and a packet
has not been received, and once it is closed nothing about it changes. -/
structure Passes (done : Message → Prop) (id : EndId) (u? : Option Upgrade) (es : List Event)
    (c c' : ChannelEnd) : Prop where
  state : c'.state = c.state ∨ c'.state ∈ c.state.successors
  told : c.state = .init → c'.state = .opened → ∃ m, done (.openAck m) ∧ m.id = id
  confirmed : c.state = .tryOpen → c'.state = .opened → ∃ m, done (.openConfirm m) ∧ m.id = id
  lapsed : c.state.isUpgrading = true → c'.state = .closed →
    c.order = .ordered ∧ ∃ m n, done m ∧ m.lapses? = some (id, n)
  final : c.state = .closed → c' = c
  revised : Revised done id u? es c c'

variable {done done' : Message → Prop} {id : EndId} {u? : Option Upgrade} {es es' : List Event}
  {c c' : ChannelEnd}

theorem Revised.imp (h : Revised done id u? es c c') (hdone : ∀ m, done m → done' m) :
    Revised done' id u? es c c' := by
  cases h with
  | kept hremote hfields => exact .kept hremote hfields
  | told hm hid hstate hend => exact .told (hdone _ hm) hid hstate hend
  | committed hm hid hu hend hevent => exact .committed (hdone _ hm) hid hu hend hevent

theorem Passes.refl (c : ChannelEnd) : Passes done id u? es c c where
  state := .inl rfl
  told hinit hopen := by rw [hinit] at hopen; cases hopen
  confirmed htry hopen := by rw [htry] at hopen; cases hopen
  lapsed hupgrading hclosed := absurd hclosed (ChannelState.ne_closed_of_isUpgrading hupgrading)
  final _ := rfl
  revised := .kept rfl rfl

/-- Only a message that changes the end has to take effect. -/
theorem Passes.imp (h : Passes done id u? es c c') (hdone : c' ≠ c → ∀ m, done m → done' m) :
    Passes done' id u? es c c' := by
  by_cases hsame : c' = c
  · subst hsame
    exact .refl c'
  · have hdone := hdone hsame
    exact {
      state := h.state
      told := fun hinit hopen => (h.told hinit hopen).imp fun m hm => ⟨hdone _ hm.1, hm.2⟩
      confirmed := fun htry hopen => (h.confirmed htry hopen).imp fun m hm => ⟨hdone _ hm.1, hm.2⟩
      lapsed := fun hupgrading hclosed => by
        obtain ⟨hordered, m, n, hm, hlapses⟩ := h.lapsed hupgrading hclosed
        exact ⟨hordered, m, n, hdone m hm, hlapses⟩
      final := h.final
      revised := h.revised.imp hdone }

/-- A joined end passes to one of the next states, and does not close if it is in an attempt. -/
theorem Passes.move {state state' : ChannelState} (hstate : c.state = state) (hstate' : c'.state = state')
    (hnext : state' ∈ state.successors ∧ state.isJoined = true ∧
      (state.isUpgrading = true → state' ≠ .closed))
    (hrevised : Revised done id u? es c c') : Passes done id u? es c c' := by
  subst hstate hstate'
  obtain ⟨hnext, hjoined, hopen⟩ := hnext
  exact {
    state := .inr hnext
    told := fun hinit => by rw [hinit] at hjoined; cases hjoined
    confirmed := fun htry => by rw [htry] at hjoined; cases hjoined
    lapsed := fun hupgrading hclosed => absurd hclosed (hopen hupgrading)
    final := fun hclosed => by rw [hclosed] at hnext; cases hnext
    revised := hrevised }

/-- An end with a packet in flight that has not been received is closed. -/
theorem Passes.lapse {n : Sequence} {m : Message} (hjoined : c.state.isJoined = true)
    (hborn : c.state ≠ .uninitialized) (hflushed : c.state ≠ .flushComplete) (hordered : c.order = .ordered)
    (hm : done m) (hlapses : m.lapses? = some (id, n)) :
    Passes done id u? es c { c with state := .closed } where
  state := by
    cases hs : c.state
    case init => rw [hs] at hjoined; cases hjoined
    case tryOpen => rw [hs] at hjoined; cases hjoined
    case uninitialized => exact absurd hs hborn
    case flushComplete => exact absurd hs hflushed
    case closed => exact .inl rfl
    all_goals exact .inr (show ChannelState.closed ∈ _ by decide)
  told hinit := by rw [hinit] at hjoined; cases hjoined
  confirmed htry := by rw [htry] at hjoined; cases hjoined
  lapsed _ _ := ⟨hordered, m, n, hm, hlapses⟩
  final hclosed := by rw [← hclosed]
  revised := .kept rfl rfl

end ChannelEnd

theorem ChannelRecord.flushState_eq (r : ChannelRecord) :
    r.flushState = .flushing ∨ r.flushState = .flushComplete := by
  unfold flushState
  split
  · exact .inr rfl
  · exact .inl rfl

/-! ## One turn -/

/-- An end that is there has a state. -/
def ChannelRecord.Initialized (r : ChannelRecord) : Prop :=
  ∀ c, r.channel = some c → c.state ≠ .uninitialized

namespace Turn

variable [Digest] {v : View} {id : EndId} {r r' : ChannelRecord} {es : List Event}

theorem passes (h : Turn v id r r' es) (hr : r.Orderly) (hsending : r.Sending) (hinit : r.Initialized)
    {c : ChannelEnd} (hc : r.channel = some c) :
    ∃ c', r'.channel = some c' ∧ c.Passes v.delivered id r.upgrade es c' := by
  have hsame {d : ChannelEnd} (hd : r.channel = some d) : d = c :=
    Option.some.inj (hd.symm.trans hc)
  -- Most turns lead from one state to the next and no end of an attempt closes.
  have hmove {c' : ChannelEnd} {state : ChannelState} (state' : ChannelState) (hc' : r'.channel = some c')
      (hstate : c.state = state) (hstate' : c'.state = state')
      (hnext : state' ∈ state.successors ∧ state.isJoined = true ∧
        (state.isUpgrading = true → state' ≠ .closed))
      (hrevised : c.Revised v.delivered id r.upgrade es c') :
      ∃ c', r'.channel = some c' ∧ c.Passes v.delivered id r.upgrade es c' :=
    ⟨c', hc', .move hstate hstate' hnext hrevised⟩
  cases h with
  | created hnew => simp [hc] at hnew
  | opened hd hinit hopen horder hto hhops hseq hend hasked =>
    obtain rfl := hsame hd
    refine ⟨_, rfl, ?_⟩
    cases hasked with
    | @told m hm hid hstate hend =>
      subst hend
      refine ⟨.inr ?_, fun _ _ => ⟨m, hm, hid⟩, ?_, ?_, ?_, .told hm hid hstate rfl⟩ <;> rw [hstate]
      · exact List.mem_singleton.2 rfl
      all_goals exact fun h => by cases h
    | @confirmed m hm hid hstate hend =>
      subst hend
      refine ⟨.inr ?_, ?_, fun _ _ => ⟨m, hm, hid⟩, ?_, ?_, .kept rfl rfl⟩ <;> rw [hstate]
      · exact List.mem_singleton.2 rfl
      all_goals exact fun h => by cases h
  | closed hd hopen => obtain rfl := hsame hd; exact hmove .closed rfl hopen rfl (by decide) (.kept rfl rfl)
  | flushed hd hstate =>
    obtain rfl := hsame hd
    exact hmove .flushComplete rfl hstate rfl (by decide) (.kept rfl rfl)
  | @timedOut d n hd hto hflight es' hes hordered hasked =>
    obtain rfl := hsame hd
    obtain ⟨m, hm, hlapses⟩ := hasked
    obtain ⟨e, he, hjoined⟩ := hsending.inFlight n hflight
    obtain rfl := hsame he
    refine ⟨_, ChannelRecord.channel_close _, .lapse hjoined (hinit _ hd) (fun hflushed => ?_) hordered hm
      hlapses⟩
    have hattempt := hr.attempting _ hd
    simp only [ChannelRecord.Attempting, hflushed] at hattempt
    obtain ⟨-, -, -, -, -, -, hempty⟩ := hattempt
    exact hflight (Table.isEmpty_iff.1 hempty n)
  | proposed hd hopen => obtain rfl := hsame hd; exact hmove .initUpgrade rfl hopen rfl (by decide) (.kept rfl rfl)
  | answered hd hto hguard =>
    obtain rfl := hsame hd
    rcases hguard with ⟨hstate, -⟩ | ⟨hstate, -⟩ <;>
      exact hmove .tryUpgrade rfl hstate rfl (by decide) (.kept rfl rfl)
  | acked hd hto hstate =>
    obtain rfl := hsame hd
    rcases r.flushState_eq with hflush | hflush <;>
      exact hmove _ rfl hstate hflush (by decide) (.kept rfl rfl)
  | confirmed hd hto hstate =>
    obtain rfl := hsame hd
    rcases r.flushState_eq with hflush | hflush <;>
      exact hmove _ rfl hstate hflush (by decide) (.kept rfl rfl)
  | confirmedLast hd hto hstate hu hend hupgrade horder hversion hdeadline htime hlast hasked =>
    obtain rfl := hsame hd
    obtain ⟨m, hm, hcommits⟩ := hasked
    exact hmove .opened (ChannelRecord.channel_commit ..) hstate rfl (by decide)
      (.committed hm hcommits hu rfl (List.mem_singleton.2 rfl))
  | committed hd hto hstate hu hw hheld hdone hasked =>
    obtain rfl := hsame hd
    obtain ⟨m, hm, hcommits⟩ := hasked
    exact hmove .opened (ChannelRecord.channel_commit ..) hstate rfl (by decide)
      (.committed hm hcommits hu rfl (List.mem_singleton.2 rfl))
  | gaveUp hd hbase hguard =>
    obtain rfl := hsame hd
    rcases hr.isUpgrading_or_opened hd hguard with hstate | hopen
    · exact hmove .opened rfl rfl rfl ⟨ChannelState.opened_mem_successors hstate,
        ChannelState.isJoined_of_isUpgrading hstate, fun _ => by decide⟩ (.kept rfl rfl)
    · refine ⟨_, rfl, .inl hopen.symm, ?_, ?_, ?_, ?_, .kept rfl rfl⟩ <;> rw [hopen]
      all_goals exact fun h => by cases h
  | _ => exact ⟨c, hc, .refl c⟩

theorem initialized (h : Turn v id r r' es) (hr : r.Orderly) (hsending : r.Sending) (hinit : r.Initialized) :
    r'.Initialized := by
  intro c' hc'
  cases hc : r.channel with
  | none => rcases (h.of_new hc hc').2 with hstate | hstate <;> rw [hstate] <;> decide
  | some c =>
    obtain ⟨d, hd, hpasses⟩ := h.passes hr hsending hinit hc
    obtain rfl := Option.some.inj (hd.symm.trans hc')
    have hstate := hinit c hc
    rcases hpasses.state with hsame | hnext
    · rwa [hsame]
    · intro hnone
      rw [hnone] at hnext
      cases hs : c.state <;> rw [hs] at hnext <;> simp [ChannelState.successors] at hnext

end Turn

/-! ## A course -/

namespace Course

section
variable [Digest] {course : Course} {i : Nat} {id : EndId} {c : ChannelEnd}

theorem initialized (h : course.Regular) (i : Nat) (id : EndId) : (course.record i id).Initialized := by
  refine record_induction h i id (fun _ hc => by cases hc) (fun j hj r' es hturn hr => ?_) fun r hr => hr
  exact hturn.initialized (orderly h j id) (sending h j id) hr

/-- What a deed may make of an end. -/
theorem passes (h : course.Regular) (hc : (course.record i id).channel = some c) :
    ∃ c', (course.record (i + 1) id).channel = some c' ∧
      c.Passes (course.Succeeds i) id (course.record i id).upgrade (course.happens i id) c' := by
  rcases turn_happens (standing h i) id with hturn | hreleased
  · obtain ⟨c', hc', hpasses⟩ := hturn.passes (orderly h i id) (sending h i id) (initialized h i id) hc
    refine ⟨c', hc', hpasses.imp fun hne m hdelivered => succeeds_of_changed hdelivered fun hstore => hne ?_⟩
    rw [record, hstore] at hc'
    exact Option.some.inj (hc'.symm.trans hc)
  · refine ⟨c, ?_, .refl c⟩
    rw [hreleased]
    exact hc

/-- Nothing about a closed end ever changes. -/
theorem closed_for_good (h : course.Regular) (hc : (course.record i id).channel = some c)
    (hclosed : c.state = .closed) {j : Nat} (hij : i ≤ j) : (course.record j id).channel = some c := by
  induction hij with
  | refl => exact hc
  | step _ ih =>
    obtain ⟨c', hc', hpasses⟩ := passes h ih
    rwa [hpasses.final hclosed] at hc'

/-- Whatever is done with a chain, its ends pass from state to state as the table says. -/
theorem life_cycle (h : course.Regular) (hc : (course.record i id).channel = some c) :
    (∃ c', (course.record (i + 1) id).channel = some c' ∧
      c.Passes (course.Succeeds i) id (course.record i id).upgrade (course.happens i id) c') ∧
    (c.state = .closed → ∀ j, i ≤ j → (course.record j id).channel = some c) :=
  ⟨passes h hc, fun hclosed _ hij => closed_for_good h hc hclosed hij⟩

end

/-! ## An attempt that ends with its channel -/

section
attribute [local instance] Digest.plain

open Sample (endId channel)

/-- A packet that is to be received before block 8. -/
def brief : Packet := { Sample.packet 1 with timeoutHeight := .at ⟨0, 8⟩ }

/-- Chain `a` opens an ordered channel, sends a packet and proposes an upgrade; then the packet is given up. -/
def closing : Course :=
  ⟨(Sample.joined 5).a, (Sample.alone [6] (Sample.opening .ordered 6 7 ++ [Step.mk .a (.send ⟨1⟩ brief),
      Sample.gets .a (.upgradeInit ⟨endId, Sample.second, Sample.upgradeTimeout, Sample.signer⟩)])).deeds ++
    [.learn Sample.client ⟨0, 8⟩ Sample.startTime,
      .deliver (.timeout ⟨brief, .one, Sample.proofAt 8 (.nextReceive endId) Sequence.one.toBytes, ⟨0, 8⟩,
        Sample.signer⟩)]⟩

theorem closing_facts : (∀ i, i < closing.deeds.length →
      (closing.chain i).store.channelCounter ≠ lastChannel) ∧
    (closing.record 6 endId).channel = some (channel .initUpgrade .ordered 1) ∧
    (closing.record 7 endId).channel = some (channel .closed .ordered 1) := by
  decide +kernel

/-- The end passes from its attempt to the closed state. -/
theorem life_cycle_when_closing :
    (closing.record 6 endId).channel = some (channel .initUpgrade .ordered 1) ∧
    (closing.record 7 endId).channel = some (channel .closed .ordered 1) ∧
    (∃ c', (closing.record 7 endId).channel = some c' ∧
      (channel .initUpgrade .ordered 1).Passes (closing.Succeeds 6) endId (closing.record 6 endId).upgrade
        (closing.happens 6 endId) c') ∧
    ((channel .initUpgrade .ordered 1).state = .closed → ∀ j, 6 ≤ j →
      (closing.record j endId).channel = some (channel .initUpgrade .ordered 1)) :=
  have ⟨hnumbering, hc, hclosed⟩ := closing_facts
  ⟨hc, hclosed, life_cycle (Sample.regular_of_deeds hnumbering) hc⟩

end

end Course

end ChannelLayer
