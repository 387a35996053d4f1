import ChannelLayer.Proofs.Phase
import ChannelLayer.Proofs.UpgradeEffects
import ChannelLayer.Relay

/-!
# Runs of two chains

A run takes two chains through any list of steps: messages and packets in any order and any number, blocks,
moving clocks and updates of the light clients. It is honest if every claim that verified was true at some
time before, which is what light clients and a hash without collisions are trusted for.

`Run.turn` is the step lemma: in each step each end takes one turn (`ChannelLayer.Proofs.Turn`). What is
proved about runs is proved from it by induction on the number of steps.
-/

set_option autoImplicit false

namespace ChannelLayer

inductive Side where
  | a
  | b
  deriving DecidableEq

namespace Side

def other : Side → Side
  | .a => .b
  | .b => .a

@[simp] theorem other_other (x : Side) : x.other.other = x := by cases x <;> rfl

end Side

/-- What can be done with one of the two chains. -/
inductive Action where
  | deliver (m : Message)
  | send (handle : Capability) (p : Packet)
  | advanceBlock
  | advanceTime (duration : UInt64)
  | update (client : ClientId)
  deriving DecidableEq

structure Step where
  side : Side
  action : Action
  deriving DecidableEq

def Relay.chain (r : Relay) : Side → Chain
  | .a => r.a
  | .b => r.b

namespace Chain

/-- The chain after a step, also one that failed. -/
def after {α : Type} (step : ChainStep α) (c : Chain) : Chain :=
  match step c with
  | .ok _ c' => c'
  | .error _ c' => c'

/-- The light client `client` learns the latest block of `other`. -/
def updateClient (c other : Chain) (client : ClientId) : Chain :=
  { c with host := { c.host with
    clients := c.host.clients.update client other.host.height other.host.time } }

/-- A relayer that brings a client up to date takes such a step. -/
theorem follow_eq (c other : Chain) : c.follow other = c.updateClient other Sample.client := rfl

def act [Digest] (c other : Chain) : Action → Chain
  | .deliver m => c.after (deliver m)
  | .send handle p => c.after (send handle p)
  | .advanceBlock => c.advanceBlock
  | .advanceTime duration => c.advanceTime duration
  | .update client => c.updateClient other client

end Chain

section
variable [Digest]

def Relay.step (r : Relay) (s : Step) : Relay :=
  match s.side with
  | .a => { r with a := r.a.act r.b s.action }
  | .b => { r with b := r.b.act r.a s.action }

theorem Relay.chain_step (r : Relay) (x y : Side) (action : Action) :
    (r.step ⟨x, action⟩).chain y =
      if x = y then (r.chain y).act (r.chain y.other) action else r.chain y := by
  cases x <;> cases y <;> rfl

end

/-! ## What one action does -/

section
variable [Digest] {c d : Chain} {m : Message}

/-- All applications of a chain are samples. -/
def Router.AllSample (r : Router) : Prop := ∀ id app, r.modules.get? id = some app → app.isSample = true

omit [Digest] in
theorem Router.AllSample.setModule {r : Router} (hr : r.AllSample) {id : ModuleId} {app : App}
    (happ : app.isSample = true) : (r.setModule id app).AllSample := by
  intro j app' h
  simp only [Router.setModule, Table.get?_insert] at h
  split at h
  · exact Option.some.inj h ▸ happ
  · exact hr j app' h

omit [Digest] in
theorem Router.find_eq_ok {r : Router} {port : PortId} {id : ModuleId} {app : App} :
    r.find port = .ok (id, app) ↔ r.ports.get? port = some id ∧ r.modules.get? id = some app := by
  unfold Router.find
  constructor
  · intro h
    split at h
    · cases h
    · rename_i j hj
      split at h
      · cases h
      · rename_i app' happ
        cases h
        exact ⟨hj, happ⟩
  · rintro ⟨hport, happ⟩
    simp only [hport, happ]

omit [Digest] in
theorem Router.AllSample.find {r : Router} (hr : r.AllSample) {port : PortId} {id : ModuleId} {app : App}
    (h : r.find port = .ok (id, app)) : app.isSample = true :=
  hr _ _ (Router.find_eq_ok.1 h).2

theorem Chain.dispatch_eq (c : Chain) (m : Message) :
    dispatch m c = match c.validate m with
      | .ok () => execute m c
      | .error e => .error e c := by
  show EStateM.bind (monadLift (c.validate m)) (fun _ => execute m) c = _
  unfold EStateM.bind
  cases c.validate m <;> rfl

omit [Digest] in
theorem Chain.afterRun_allSample {id : ModuleId} {l : Ledger} (hr : c.router.AllSample)
    (hl : l.app.isSample = true) : (c.afterRun id l).router.AllSample :=
  hr.setModule hl

/-- A message takes effect as a whole, in a block of its own, or not at all. -/
theorem Chain.after_deliver (c : Chain) (m : Message) (hr : c.router.AllSample) :
    (c.after (deliver m)).router.AllSample ∧
      ((c.after (deliver m)).host = c.host ∧ (c.after (deliver m)).store = c.store ∨
      ∃ app l', app.isSample = true ∧ m.validate c.host c.store app = .ok () ∧
        m.execute c.host ⟨c.store, app⟩ = .ok () l' ∧
        (c.after (deliver m)).host = c.host.advanceBlock ∧
        (c.after (deliver m)).store = l'.store) := by
  unfold Chain.after deliver
  rw [dispatch_eq]
  cases hv : c.validate m with
  | error e => exact ⟨hr, .inl ⟨rfl, rfl⟩⟩
  | ok u =>
    simp only [validate, bind_eq_ok] at hv
    obtain ⟨⟨id, app⟩, hfind, hv⟩ := hv
    replace hfind : c.router.find m.port = .ok (id, app) := by simpa using hfind
    have happ := hr.find hfind
    have hkept := (Message.execute_keepsSample : (m.execute c.host).KeepsSample) ⟨c.store, app⟩ happ
    unfold Exec.after at hkept
    simp only [execute, hfind]
    cases hx : m.execute c.host ⟨c.store, app⟩ with
    | error e l =>
      rw [hx] at hkept
      exact ⟨c.afterRun_allSample hr hkept, .inl ⟨rfl, rfl⟩⟩
    | ok u l =>
      rw [hx] at hkept
      exact ⟨c.afterRun_allSample hr hkept, .inr ⟨app, l, happ, hv, hx, rfl, rfl⟩⟩

/-- What a packet was checked for is all that its sending needs. -/
theorem Packet.executeSend_ok {p : Packet} {host : Host} {s : Store} {handle : Capability}
    (hv : p.validateSend host s handle = .ok ()) : ∃ s', p.executeSend s = .ok () s' := by
  obtain ⟨-, e, he, -, -, -, hop, hhop, -, -, -, -, -, -, -, hnext⟩ := Packet.validateSend_eq_ok.1 hv
  simp [Packet.executeSend, Store.commit, he, hnext, hhop, and_assoc]

theorem Chain.send_eq (c : Chain) (handle : Capability) (p : Packet) :
    send handle p c = match p.validateSend c.host c.store handle with
      | .ok () => onStore p.executeSend c
      | .error e => .error e c := by
  show EStateM.bind (monadLift (p.validateSend c.host c.store handle))
    (fun _ => onStore p.executeSend) c = _
  unfold EStateM.bind
  cases p.validateSend c.host c.store handle <;> rfl

omit [Digest] in
/-- A light client knows of a block what it knew before or has just been told. -/
theorem Clients.consensusTime_update {cs : Clients} {client id : ClientId} {h h' : Height}
    {t t' : Timestamp} (ht : (cs.update client h' t').consensusTime id h = .ok t) :
    cs.consensusTime id h = .ok t ∨ h' = h ∧ t' = t := by
  rw [consensusTime_eq_ok] at ht ⊢
  obtain ⟨c, hc, hfrozen, hconsensus⟩ := ht
  simp only [update, Table.get?_insert] at hc
  split at hc
  · rename_i hid
    subst hid
    obtain rfl := Option.some.inj hc
    simp only [Table.get?_insert] at hconsensus
    split at hconsensus
    · exact .inr ⟨‹_›, Option.some.inj hconsensus⟩
    · cases hold : cs.get? client with
      | none => simp [hold] at hconsensus
      | some c' =>
        simp only [hold, Option.getD_some] at hfrozen hconsensus
        exact .inl ⟨c', rfl, hfrozen, hconsensus⟩
  · exact .inl ⟨c, hc, hfrozen, hconsensus⟩

/-- Delivering the message succeeds. -/
def Chain.takes (c : Chain) (m : Message) : Bool :=
  match deliver m c with
  | .ok _ _ => true
  | .error _ _ => false

/-- A message that is accepted and executes is delivered with success. -/
theorem Chain.takes_of_executes {id : ModuleId} {app : App} {l' : Ledger}
    (hfind : c.router.find m.port = .ok (id, app)) (hv : m.validate c.host c.store app = .ok ())
    (hx : m.execute c.host ⟨c.store, app⟩ = .ok () l') :
    c.takes m = true ∧ c.after (deliver m) = (c.afterRun id l').advanceBlock := by
  have hvalid : c.validate m = .ok () := by
    simp only [validate, hfind, bind_eq_ok]
    exact ⟨(id, app), rfl, hv⟩
  simp [takes, after, deliver, dispatch_eq, hvalid, execute, hfind, hx]

/-- A message that is accepted and executes takes effect. -/
theorem Chain.store_after_deliver {app : App} {l' : Ledger} {id : ModuleId}
    (hfind : c.router.find m.port = .ok (id, app)) (hv : m.validate c.host c.store app = .ok ())
    (hx : m.execute c.host ⟨c.store, app⟩ = .ok () l') : (c.after (deliver m)).store = l'.store := by
  rw [(takes_of_executes hfind hv hx).2]
  rfl

/-- A message that is delivered with success was accepted and has executed, and a block is sealed. -/
theorem Chain.after_of_takes (h : c.takes m = true) :
    ∃ id app l', c.router.find m.port = .ok (id, app) ∧ m.validate c.host c.store app = .ok () ∧
      m.execute c.host ⟨c.store, app⟩ = .ok () l' ∧
      c.after (deliver m) = (c.afterRun id l').advanceBlock := by
  unfold takes deliver at h
  unfold after deliver
  rw [dispatch_eq] at h ⊢
  cases hv : c.validate m with
  | error e => rw [hv] at h; cases h
  | ok u =>
    have hvalid := hv
    simp only [validate, bind_eq_ok] at hv
    obtain ⟨⟨id, app⟩, hfind, hv⟩ := hv
    replace hfind : c.router.find m.port = .ok (id, app) := by simpa using hfind
    simp only [hvalid, execute, hfind] at h ⊢
    cases hx : m.execute c.host ⟨c.store, app⟩ with
    | error e l => rw [hx] at h; cases h
    | ok u l => exact ⟨id, app, l, rfl, hv, hx, rfl⟩

/-- A message that fails leaves the store as it was. -/
theorem Chain.store_of_not_takes (h : ¬c.takes m = true) : (c.after (deliver m)).store = c.store := by
  unfold takes at h
  unfold after
  unfold deliver at h ⊢
  cases hx : dispatch m c with
  | ok u c' => rw [hx] at h; exact absurd rfl h
  | error e c' => rfl

/-- A message has one end take one turn, in a block of its own, or it leaves the store as it was. -/
theorem Chain.store_deliver {v : View} (hr : c.router.AllSample) (hfit : v.Fits c.host c.store m)
    (hanew : c.store.NamesAnew) : (c.after (deliver m)).store = c.store ∨
      ∃ id, c.store.TakesTurn v id (c.after (deliver m)).store ∧
        (c.after (deliver m)).host = c.host.advanceBlock := by
  obtain ⟨-, ⟨-, hstore⟩ | ⟨app, l', happ, hv, hx, hhost, hstore⟩⟩ := c.after_deliver m hr
  · exact .inl hstore
  · obtain ⟨id, hturn⟩ := Message.turn happ hfit hanew hv hx
    have hturn := hturn.toStore
    rw [← hstore] at hturn
    exact .inr ⟨id, hturn, hhost⟩

/-- The decisive events about the end `id` that were emitted from `s` to `s'`. -/
def Store.news (s s' : Store) (id : EndId) : List Event :=
  (s'.events.drop s.events.length).filter fun e => e.decides? = some id

omit [Digest] in
/-- The news of an end are among the events of the end that was written. -/
theorem Store.Writes.news {s s' : Store} {id' : EndId} {r : ChannelRecord} {es : List Event}
    (hw : s.Writes s' id' r es) (id : EndId) :
    s.news s' id = es.filter fun e => e.decides? = some id := by
  obtain ⟨all, hall, hes⟩ := hw.reports
  rw [Store.news, hall, List.drop_left, ← hes, Event.decisive, List.filter_filter]
  refine List.filter_congr fun e _ => ?_
  cases hd : e.decides? <;> simp

/-- Where one end takes a turn, so does each other one, an idle one. -/
theorem Store.TakesTurn.turn {v : View} {s s' : Store} {id' : EndId} (h : s.TakesTurn v id' s')
    (id : EndId) : Turn v id (s.record id) (s'.record id) (s.news s' id) := by
  obtain ⟨r, es, hw, hturn⟩ := h
  by_cases hid : id' = id
  · subst hid
    have hself : es.filter (fun e => e.decides? = some id') = es :=
      List.filter_eq_self.2 fun e he => by simp [hturn.about he]
    rw [hw.news, hself, hw.self]
    exact hturn
  · have hnone : es.filter (fun e => e.decides? = some id) = [] :=
      List.filter_eq_nil_iff.2 fun e he => by simp [hturn.about he, hid]
    rw [hw.news, hnone, hw.record, if_neg hid]
    exact .idle

/-- A packet is sent or nothing happens, and either way within the block. -/
theorem Chain.after_send (c : Chain) (handle : Capability) (p : Packet) :
    (c.after (send handle p)).host = c.host ∧ (c.after (send handle p)).router = c.router ∧
      ((c.after (send handle p)).store = c.store ∨ p.validateSend c.host c.store handle = .ok () ∧
        p.executeSend c.store = .ok () (c.after (send handle p)).store) := by
  unfold Chain.after
  rw [send_eq]
  cases hv : p.validateSend c.host c.store handle with
  | error e => exact ⟨rfl, rfl, .inl rfl⟩
  | ok u =>
    obtain ⟨s', hx⟩ := Packet.executeSend_ok hv
    simp [onStore, hx]

/-- Sending the packet succeeds. -/
def Chain.sends (c : Chain) (handle : Capability) (p : Packet) : Bool :=
  match send handle p c with
  | .ok _ _ => true
  | .error _ _ => false

/-- A packet that is sent with success was accepted and has executed. -/
theorem Chain.store_of_sends {handle : Capability} {p : Packet} (h : c.sends handle p = true) :
    p.validateSend c.host c.store handle = .ok () ∧
      p.executeSend c.store = .ok () (c.after (send handle p)).store := by
  unfold sends at h
  unfold after
  rw [send_eq] at h ⊢
  cases hv : p.validateSend c.host c.store handle with
  | error e => rw [hv] at h; cases h
  | ok u =>
    obtain ⟨s', hx⟩ := Packet.executeSend_ok hv
    simp [onStore, hx]

/-- A packet that is not sent leaves the store as it was. -/
theorem Chain.store_of_not_sends {handle : Capability} {p : Packet} (h : ¬c.sends handle p = true) :
    (c.after (send handle p)).store = c.store := by
  unfold sends at h
  unfold after
  rw [send_eq] at h ⊢
  cases hv : p.validateSend c.host c.store handle with
  | error e => rfl
  | ok u =>
    obtain ⟨s', hx⟩ := Packet.executeSend_ok hv
    rw [hv] at h
    simp [onStore, hx] at h

/-- Sending leaves the end and its upgrade as they were. -/
theorem Packet.record_executeSend {p : Packet} {s s' : Store} (hx : p.executeSend s = .ok () s')
    (id : EndId) : (s'.record id).channel = (s.record id).channel ∧
      (s'.record id).upgrade = (s.record id).upgrade := by
  simp [Packet.executeSend, Store.commit, and_assoc] at hx
  obtain ⟨next, -, c, -, hop, -, rfl⟩ := hx
  by_cases hid : p.source = id
  · subst hid; simp
  · simp [hid]

end

/-! ## Runs -/

/-- The chain `c` is set up beside `d`: nothing is kept about any channel yet, every connection is one of
both chains, every light client knows the present block of `d` at most, and all applications are samples. -/
structure Chain.Ready (c d : Chain) : Prop where
  blank : ∀ id, c.store.record id = {}
  connected : ∀ k conn, c.store.connections.get? k = some conn →
    ∃ k', conn.remote.connection = some k' ∧
      ∃ conn', d.store.connections.get? k' = some conn' ∧ conn'.remote.connection = some k
  clients : ∀ id h t, c.host.clients.consensusTime id h = .ok t → h = d.host.height ∧ t = d.host.time
  applications : c.router.AllSample

structure Run where
  start : Relay
  steps : List Step
  deriving DecidableEq

namespace Run

section
variable [Digest] (run : Run) (x : Side) (i : Nat)

/-- The two chains before step `i`; a run that is over leaves them as they are. -/
def world : Relay := (run.steps.take i).foldl Relay.step run.start

def chain : Chain := (run.world i).chain x

def host : Host := (run.chain x i).host

def record (id : EndId) : ChannelRecord := (run.chain x i).store.record id

/-- At world `j` the chain `x` was at height `h`, with `value` or nothing at `path`. -/
def held (j : Nat) (h : Height) (path : Path) (value : Option Bytes) : Prop :=
  (run.host x j).height = h ∧ (run.chain x j).store.valueAt? path = value

/-- The decisive events about the end `id` of chain `x` in step `i`. -/
def happens (id : EndId) : List Event :=
  ((run.chain x (i + 1)).store.events.drop (run.chain x i).store.events.length).filter
    fun e => e.decides? = some id

/-- In step `i` chain `x` accepts the message `m`. -/
def Accepts (m : Message) : Prop :=
  run.steps[i]? = some ⟨x, .deliver m⟩ ∧ (run.chain x i).validate m = .ok ()

/-- In step `i` the message `m` is delivered to chain `x` with success. -/
def Succeeds (m : Message) : Prop :=
  run.steps[i]? = some ⟨x, .deliver m⟩ ∧ (run.chain x i).takes m = true

instance (m : Message) : Decidable (run.Succeeds x i m) := inferInstanceAs (Decidable (_ ∧ _))

/-- What is delivered in step `i`. -/
def message? : Option Message :=
  match run.steps[i]? with
  | some ⟨_, .deliver m⟩ => some m
  | _ => none

def view : View where
  host := run.host x i
  connections := run.start.chain x |>.store.connections
  shown h path value := ∃ j, j ≤ i ∧ run.held x.other j h path value
  clock h t := ∃ j, j ≤ i ∧ (run.host x.other j).height = h ∧ (run.host x.other j).time = t
  deadline t := ∃ m, run.message? i = some m ∧ t ∈ m.deadlines
  delivered m := run.steps[i]? = some ⟨x, .deliver m⟩
  sending p := ∃ handle, run.steps[i]? = some ⟨x, .send handle p⟩

/-- Every claim that verifies where a message is delivered was true at some time. -/
def TruthfulAt : Prop :=
  match run.steps[i]? with
  | some ⟨x, .deliver m⟩ => ∀ e ∈ m.evidence (run.chain x i).store, e.Verified →
      ∃ j, j ≤ i ∧ run.held x.other j e.height e.path e.value
  | _ => True

instance : Decidable (run.TruthfulAt i) := by
  unfold TruthfulAt held
  split <;> infer_instance

/-- The two chains are set up beside each other, and no proof is accepted of what never was. -/
structure Honest : Prop where
  ready : ∀ x, (run.start.chain x).Ready (run.start.chain x.other)
  truthful : ∀ i, i < run.steps.length → run.TruthfulAt i

end

section
variable [Digest] {run : Run} {x : Side} {i : Nat}

theorem world_zero : run.world 0 = run.start := rfl

theorem world_succ {s : Step} (h : run.steps[i]? = some s) :
    run.world (i + 1) = (run.world i).step s := by
  simp [world, List.take_add_one, h]

theorem world_of_length_le (h : run.steps.length ≤ i) : run.world i = run.world run.steps.length := by
  simp [world, List.take_of_length_le h]

theorem chain_succ {y : Side} {action : Action} (h : run.steps[i]? = some ⟨y, action⟩) :
    run.chain x (i + 1) =
      if y = x then (run.chain x i).act (run.chain x.other i) action else run.chain x i := by
  rw [chain, world_succ h, Relay.chain_step]
  rfl

theorem chain_over (h : run.steps[i]? = none) : run.chain x (i + 1) = run.chain x i := by
  have hlen := List.getElem?_eq_none_iff.1 h
  rw [chain, chain, world_of_length_le hlen, world_of_length_le (Nat.le_succ_of_le hlen)]

/-- What stays true of a chain while it runs, apart from its channels. -/
structure Standing (run : Run) (x : Side) (i : Nat) : Prop where
  connections : (run.chain x i).store.connections = (run.start.chain x).store.connections
  applications : (run.chain x i).router.AllSample
  clocks : ∀ id h t, (run.host x i).clients.consensusTime id h = .ok t → (run.view x i).clock h t
  owned : (run.chain x i).store.Owned

/-- The view of a chain is true of each message that it is delivered. -/
theorem fits (h : run.Honest) (hx : run.Standing x i) {m : Message}
    (hstep : run.steps[i]? = some ⟨x, .deliver m⟩) :
    (run.view x i).Fits (run.chain x i).host (run.chain x i).store m where
  hostEq := rfl
  connectionsEq := hx.connections.symm
  shown e he hverified := by
    have htrue := h.truthful i (List.getElem?_eq_some_iff.1 hstep).1
    rw [TruthfulAt, hstep] at htrue
    exact htrue e he hverified
  clock := hx.clocks
  deadline t ht := ⟨m, by rw [message?, hstep], ht⟩
  delivered := hstep

/-- A message that a chain accepts passes the checks for it beside the application of its port. -/
theorem Accepts.valid {m : Message} (haccepts : run.Accepts x i m) :
    ∃ id app, (run.chain x i).router.find m.port = .ok (id, app) ∧
      m.validate (run.chain x i).host (run.chain x i).store app = .ok () := by
  obtain ⟨-, hvalid⟩ := haccepts
  simp only [Chain.validate, bind_eq_ok] at hvalid
  obtain ⟨⟨id, app⟩, hfind, hvalid⟩ := hvalid
  exact ⟨id, app, by simpa using hfind, hvalid⟩

/-- A message that is delivered with success passes the checks for it beside the application of its port, and
executes. -/
theorem Succeeds.executed {m : Message} (h : run.Succeeds x i m) :
    ∃ id app l', (run.chain x i).router.find m.port = .ok (id, app) ∧
      m.validate (run.chain x i).host (run.chain x i).store app = .ok () ∧
      m.execute (run.chain x i).host ⟨(run.chain x i).store, app⟩ = .ok () l' ∧
      (run.chain x (i + 1)).store = l'.store ∧
      (run.host x (i + 1)).height = (run.host x i).height.next := by
  obtain ⟨hstep, htakes⟩ := h
  obtain ⟨id, app, l', hfind, hv, hx, hafter⟩ := Chain.after_of_takes htakes
  have hchain : run.chain x (i + 1) = ((run.chain x i).afterRun id l').advanceBlock := by
    rw [chain_succ hstep, if_pos rfl]
    exact hafter
  refine ⟨id, app, l', hfind, hv, hx, by rw [hchain]; rfl, ?_⟩
  rw [host, hchain]
  rfl

/-- A message that changes the store is delivered with success. -/
theorem succeeds_of_changed {m : Message} (hstep : run.steps[i]? = some ⟨x, .deliver m⟩)
    (hchanged : (run.chain x (i + 1)).store ≠ (run.chain x i).store) : run.Succeeds x i m := by
  refine ⟨hstep, Decidable.byContradiction fun htakes => hchanged ?_⟩
  rw [chain_succ hstep, if_pos rfl]
  exact Chain.store_of_not_takes htakes

/-- What a step does to the store of a chain. Only a packet that is sent stays within the block. -/
theorem store_succ (h : run.Honest) (hx : run.Standing x i) :
    (run.chain x (i + 1)).store = (run.chain x i).store ∨
    ∃ id, (run.chain x i).store.TakesTurn (run.view x i) id (run.chain x (i + 1)).store ∧
      ((run.host x (i + 1)).height = (run.host x i).height.next ∨
        ∀ id, (run.record x (i + 1) id).channel = (run.record x i id).channel ∧
          (run.record x (i + 1) id).upgrade = (run.record x i id).upgrade) := by
  cases hstep : run.steps[i]? with
  | none => exact .inl (by rw [chain_over hstep])
  | some step =>
    obtain ⟨y, action⟩ := step
    have hchain := chain_succ (x := x) hstep
    split at hchain
    · subst_vars
      simp only [host, record, hchain]
      cases action with
      | deliver m =>
        simp only [Chain.act]
        rcases Chain.store_deliver hx.applications (fits h hx hstep) hx.owned.namesAnew with
            hstore | ⟨id, hturn, hhost⟩
        · exact .inl hstore
        · rw [hhost]
          exact .inr ⟨id, hturn, .inl rfl⟩
      | send handle p =>
        simp only [Chain.act]
        obtain ⟨hhost, -, hstore | ⟨hv, hexec⟩⟩ := (run.chain y i).after_send handle p
        · exact .inl hstore
        · exact .inr ⟨_, p.send_turn ⟨handle, hstep⟩ hv hexec, .inr (p.record_executeSend hexec)⟩
      | advanceBlock => exact .inl rfl
      | advanceTime duration => exact .inl rfl
      | update client => exact .inl rfl
    · exact .inl (by rw [hchain])

/-- A step moves the clock forward, if at all, and the height by at most one block. -/
theorem host_succ (hx : (run.chain x i).router.AllSample) :
    ((run.host x (i + 1)).height = (run.host x i).height ∨
      (run.host x (i + 1)).height = (run.host x i).height.next) ∧
    (run.host x i).time ≤ (run.host x (i + 1)).time := by
  cases hstep : run.steps[i]? with
  | none => simp [host, chain_over hstep, Timestamp.le_refl]
  | some step =>
    obtain ⟨y, action⟩ := step
    have hchain := chain_succ (x := x) hstep
    split at hchain
    · subst_vars
      simp only [host, hchain]
      cases action with
      | deliver m =>
        obtain ⟨-, ⟨hhost, -⟩ | ⟨-, -, -, -, -, hhost, -⟩⟩ := (run.chain y i).after_deliver m hx
        · simp [Chain.act, hhost, Timestamp.le_refl]
        · simp [Chain.act, hhost, Host.advanceBlock, Timestamp.le_advance]
      | send handle p =>
        obtain ⟨hhost, -⟩ := (run.chain y i).after_send handle p
        simp [Chain.act, hhost, Timestamp.le_refl]
      | advanceBlock => exact ⟨.inr rfl, Timestamp.le_advance _ _⟩
      | advanceTime duration => exact ⟨.inl rfl, Timestamp.le_advance _ _⟩
      | update client => exact ⟨.inl rfl, Timestamp.le_refl _⟩
    · simp [host, hchain, Timestamp.le_refl]

/-- What a light client knows after a step it knew before, or it has just learned it. -/
theorem clients_succ (hx : (run.chain x i).router.AllSample) {id : ClientId} {h : Height}
    {t : Timestamp} (ht : (run.host x (i + 1)).clients.consensusTime id h = .ok t) :
    (run.host x i).clients.consensusTime id h = .ok t ∨
      (run.host x.other i).height = h ∧ (run.host x.other i).time = t := by
  cases hstep : run.steps[i]? with
  | none => exact .inl (by rwa [host, chain_over hstep] at ht)
  | some step =>
    obtain ⟨y, action⟩ := step
    have hchain := chain_succ (x := x) hstep
    split at hchain
    · subst_vars
      simp only [host, hchain] at ht ⊢
      cases action with
      | deliver m =>
        obtain ⟨-, ⟨hhost, -⟩ | ⟨-, -, -, -, -, hhost, -⟩⟩ := (run.chain y i).after_deliver m hx
        · exact .inl (by simpa only [Chain.act, hhost] using ht)
        · exact .inl (by simpa only [Chain.act, hhost, Host.advanceBlock] using ht)
      | send handle p =>
        obtain ⟨hhost, -⟩ := (run.chain y i).after_send handle p
        exact .inl (by simpa only [Chain.act, hhost] using ht)
      | advanceBlock => exact .inl ht
      | advanceTime duration => exact .inl ht
      | update client =>
        rcases Clients.consensusTime_update ht with ht | ⟨hh, htime⟩
        · exact .inl ht
        · exact .inr ⟨hh, htime⟩
    · exact .inl (by rwa [host, hchain] at ht)

theorem applications_succ (hx : (run.chain x i).router.AllSample) :
    (run.chain x (i + 1)).router.AllSample := by
  cases hstep : run.steps[i]? with
  | none => rwa [chain_over hstep]
  | some step =>
    obtain ⟨y, action⟩ := step
    have hchain := chain_succ (x := x) hstep
    split at hchain
    · subst_vars
      rw [hchain]
      cases action with
      | deliver m => exact ((run.chain y i).after_deliver m hx).1
      | send handle p =>
        rw [Chain.act, ((run.chain y i).after_send handle p).2.1]
        exact hx
      | advanceBlock => exact hx
      | advanceTime duration => exact hx
      | update client => exact hx
    · rwa [hchain]

/-- All attempts of the run can be numbered. -/
def Counting (run : Run) : Prop := ∀ i x id, (run.record x i id).Counting

theorem standing_zero (h : run.Honest) : run.Standing x 0 where
  connections := rfl
  applications := (h.ready x).applications
  clocks id height t ht := by
    obtain ⟨rfl, rfl⟩ := (h.ready x).clients id height t ht
    exact ⟨0, Nat.le_refl 0, rfl, rfl⟩
  owned id hid := absurd (by rw [chain, world_zero, (h.ready x).blank]) hid

theorem standing_succ (h : run.Honest) (hx : run.Standing x i) :
    run.Standing x (i + 1) where
  connections := by
    rcases store_succ h hx with hstore | ⟨id, ⟨r, es, hw, -⟩, -⟩
    · rw [hstore, hx.connections]
    · rw [hw.connections, hx.connections]
  applications := applications_succ hx.applications
  clocks id height t ht := by
    rcases clients_succ hx.applications ht with ht | ⟨hh, htime⟩
    · obtain ⟨j, hj, hheld⟩ := hx.clocks id height t ht
      exact ⟨j, Nat.le_succ_of_le hj, hheld⟩
    · exact ⟨i, Nat.le_succ i, hh, htime⟩
  owned id := by
    rcases store_succ h hx with hstore | ⟨id', ⟨r, es, hw, hturn⟩, -⟩
    · rw [hstore]
      exact hx.owned id
    · rw [hw.record]
      split
      · rename_i hid
        exact hturn.owned (hid ▸ hx.owned id')
      · exact hx.owned id

theorem standing (h : run.Honest) (x : Side) (i : Nat) : run.Standing x i := by
  induction i with
  | zero => exact standing_zero h
  | succ i ih => exact standing_succ h ih

/-- In each step each end takes one turn. -/
theorem turn (h : run.Honest) (x : Side) (i : Nat) (id : EndId) :
    Turn (run.view x i) id (run.record x i id) (run.record x (i + 1) id) (run.happens x i id) := by
  rcases store_succ h (standing h x i) with hstore | ⟨id', hturn, -⟩
  · have hnone : run.happens x i id = [] := by simp [happens, hstore]
    rw [hnone, record, record, hstore]
    exact .idle
  · exact hturn.turn id

end

end Run

end ChannelLayer
