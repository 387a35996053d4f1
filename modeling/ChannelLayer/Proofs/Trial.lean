import ChannelLayer.Proofs.History

/-!
# Trial runs

On a given run it can be decided whether it stays within bounds: a run that is over changes no more, and
all but finitely many records are empty. Two new chains that are joined are set up beside each other
(`Relay.join_ready`), and `Sample.opening` opens a channel between them.
-/

set_option autoImplicit false

namespace ChannelLayer

/-! ## Deciding bounds -/

theorem Table.mem_of_find {κ ν : Type} [DecidableEq κ] {k : κ} {v : ν} :
    ∀ {l : List (κ × ν)}, Table.find l k = some v → (k, v) ∈ l
  | (j, w) :: rest, h => by
    simp only [Table.find] at h
    split at h
    · rename_i hj
      subst hj
      obtain rfl := Option.some.inj h
      exact List.mem_cons_self
    · exact List.mem_cons_of_mem _ (mem_of_find h)

/-- What holds of empty records and of those that were touched holds of all. -/
theorem Store.forall_record {P : ChannelRecord → Prop} (s : Store) (hempty : P {}) :
    (∀ id, P (s.record id)) ↔ ∀ e ∈ s.records.entries, P (s.record e.1) := by
  refine ⟨fun h e _ => h e.1, fun h id => ?_⟩
  cases hid : s.records.get? id with
  | none =>
    rw [record, hid]
    exact hempty
  | some r => exact h (id, r) (Table.mem_of_find hid)

theorem ChannelRecord.counting_empty : ({} : ChannelRecord).Counting :=
  ⟨fun _ h => (by cases h), fun _ h => (by cases h)⟩

instance (r : ChannelRecord) : Decidable r.Counting :=
  decidable_of_iff ((∀ c ∈ r.channel, c.upgradeSequence ≠ lastAttempt) ∧
    ∀ receipt ∈ r.errorReceipt, receipt.sequence ≠ lastAttempt)
    ⟨fun h => ⟨h.1, h.2⟩, fun h => ⟨h.attempt, h.receipt⟩⟩

theorem Side.forall_iff {P : Side → Prop} : (∀ x, P x) ↔ P .a ∧ P .b :=
  ⟨fun h => ⟨h .a, h .b⟩, fun h x => match x with
    | .a => h.1
    | .b => h.2⟩

namespace Run

variable [Digest] (run : Run)

theorem world_min (i : Nat) : run.world i = run.world (min i run.steps.length) := by
  rw [world, world, ← List.take_eq_take_min]

/-- What holds up to the end of a run holds of it for good. -/
theorem forall_world {P : Relay → Prop} :
    (∀ i, P (run.world i)) ↔ ∀ i, i ≤ run.steps.length → P (run.world i) :=
  ⟨fun h i _ => h i, fun h i => world_min run i ▸ h _ (Nat.min_le_right _ _)⟩

instance : Decidable run.Climbing :=
  decidable_of_iff (∀ i, i ≤ run.steps.length →
    ((run.world i).chain .a).host.height.block ≠ Height.lastBlock ∧
      ((run.world i).chain .b).host.height.block ≠ Height.lastBlock) <| by
    rw [← forall_world run (P := fun w => (w.chain .a).host.height.block ≠ Height.lastBlock ∧
      (w.chain .b).host.height.block ≠ Height.lastBlock)]
    exact forall_congr' fun i =>
      (Side.forall_iff (P := fun x => (run.host x i).height.block ≠ Height.lastBlock)).symm

/-- All records of a chain are so. -/
def allOn (P : ChannelRecord → Prop) [DecidablePred P] (w : Relay) (x : Side) : Bool :=
  (w.chain x).store.records.entries.all fun e => P ((w.chain x).store.record e.1)

/-- What holds of empty records is decided for all records of a run. -/
theorem forall_record {P : ChannelRecord → Prop} [DecidablePred P] (hempty : P {}) :
    (∀ i x id, P (run.record x i id)) ↔ ∀ i, i ≤ run.steps.length →
      allOn P (run.world i) .a = true ∧ allOn P (run.world i) .b = true := by
  rw [← forall_world run (P := fun w => allOn P w .a = true ∧ allOn P w .b = true)]
  refine forall_congr' fun i => ?_
  rw [← Side.forall_iff (P := fun x => allOn P (run.world i) x = true)]
  refine forall_congr' fun x => ?_
  rw [allOn, List.all_eq_true]
  simp only [decide_eq_true_eq]
  exact (run.chain x i).store.forall_record hempty

instance : Decidable run.Counting :=
  decidable_of_iff _ (forall_record run ChannelRecord.counting_empty).symm

end Run

/-! ## Two new chains -/

/-- Two chains that were joined when they were new are set up beside each other. -/
theorem Relay.join_ready {a b : Chain} (ha : a.store = {}) (hb : b.store = {})
    (hclients : a.host.clients = {} ∧ b.host.clients = {})
    (happs : a.router.AllSample ∧ b.router.AllSample) (x : Side) :
    ((join a b).chain x).Ready ((join a b).chain x.other) := by
  -- Both sides are made in the same way.
  have hconnect {c d : Chain} (hc : c.store = {}) (hd : d.store = {}) (hclients : c.host.clients = {})
      (happs : c.router.AllSample) : (c.connect d).Ready (d.connect c) := by
    refine ⟨fun id => ?_, fun k conn hconn => ?_, fun id h t ht => ?_, happs⟩
    · simp only [Chain.connect, Store.setConnection, hc]
      rfl
    · simp only [Chain.connect, Store.setConnection, hc, Table.get?_insert, Table.get?_empty] at hconn
      split at hconn
      · rename_i hk
        subst hk
        obtain rfl := Option.some.inj hconn
        refine ⟨_, rfl, Sample.connection .opened, ?_, rfl⟩
        simp [Chain.connect, Store.setConnection]
      · cases hconn
    · have hnone : Clients.consensusTime {} id h ≠ Except.ok t := by
        simp
      rcases Clients.consensusTime_update ht with ht | ⟨hh, htime⟩
      · rw [hclients] at ht
        exact absurd ht hnone
      · exact ⟨hh.symm, htime.symm⟩
  cases x with
  | a => exact hconnect ha hb hclients.1 happs.1
  | b => exact hconnect hb ha hclients.2 happs.2

namespace Sample

/-- A new chain at block `block`, with the dummy application. -/
def chainAt (block : UInt64) : Chain where
  host := { height := ⟨0, block⟩ }
  router := Router.add {} port ⟨"dummy"⟩ (.dummy {})

theorem allSample_chainAt (block : UInt64) : (chainAt block).router.AllSample :=
  Router.AllSample.setModule (fun _ _ h => by cases h) rfl

/-- Two new chains, the first one at block `block`. -/
def joined (block : UInt64) : Relay := .join (chainAt block) (chainAt 5)

theorem honest_of_truthful [Digest] {block : UInt64} {steps : List Step}
    (h : ∀ i, i < steps.length → (⟨joined block, steps⟩ : Run).TruthfulAt i) :
    (⟨joined block, steps⟩ : Run).Honest :=
  ⟨Relay.join_ready rfl rfl ⟨rfl, rfl⟩ ⟨allSample_chainAt _, allSample_chainAt _⟩, h⟩

/-! ## Steps of a relayer

The blocks that proofs are taken at are told by those who put the steps together. -/

/-- A deadline that many seconds from the start. -/
def within (seconds : UInt64) : UpgradeTimeout := .atTime ⟨startTime.nanos + seconds * 1000000000⟩

/-- The fields that a channel is upgraded to. -/
def second : UpgradeFields := upgradeFields .unordered ⟨"dummy-2"⟩

def gets (x : Side) (m : Message) : Step := ⟨x, .deliver m⟩

/-- The client on chain `x` learns the latest block. -/
def hears (x : Side) : Step := ⟨x, .update client⟩

section
variable [Digest]

def proofAt (block : UInt64) (path : Path) (value : Bytes) : Bytes :=
  Proof.membership ⟨0, block⟩ storePrefix path value

def proofOfEnd (block : UInt64) (c : ChannelEnd) : Bytes := proofAt block (.channel endId) c.encode

def proofOfUpgrade (block : UInt64) (u : Upgrade) : Bytes := proofAt block (.upgrade endId) u.encode

/-- The handshake of a channel that is proposed on `a`. -/
def opening (order : ChannelOrder) (m n : UInt64) : List Step :=
  let fresh : ChannelEnd := { channel .init order 0 with remote := ⟨port, none⟩ }
  [gets .a (.openInit ⟨port, [connectionId], port, order, version, signer⟩), hears .b,
    gets .b (.openTry ⟨port, [connectionId], endId, version, order, proofOfEnd m fresh, ⟨0, m⟩, signer⟩),
    hears .a,
    gets .a (.openAck ⟨endId, channelId, version, proofOfEnd 6 (channel .tryOpen order 0), ⟨0, 6⟩,
      signer⟩),
    hears .b,
    gets .b (.openConfirm ⟨endId, proofOfEnd n (channel .opened order 0), ⟨0, n⟩, signer⟩)]

/-- Chain `b`, where the channel is at `c`, answers the proposal of `f` that `a` made at block `m`. -/
def answering (c : ChannelEnd) (f : UpgradeFields) (deadline : UpgradeTimeout) (m : UInt64) : Message :=
  let proposed := Message.UpgradeInit.proposed c
  .upgradeTry ⟨endId, [connectionId], f, deadline, proposed.upgradeSequence, proofOfEnd m proposed,
    proofOfUpgrade m ⟨f, deadline, .zero⟩, ⟨0, m⟩, signer⟩

/-- An upgrade to `f` is proposed on `a`, answered on `b` and acknowledged on `a`. -/
def joining (c : ChannelEnd) (f : UpgradeFields) (deadline : UpgradeTimeout) (m n : UInt64) : List Step :=
  let answered : ChannelEnd := { Message.UpgradeInit.proposed c with state := .tryUpgrade }
  let plan : Upgrade := ⟨f, deadline, .one⟩
  [gets .a (.upgradeInit ⟨endId, f, deadline, signer⟩), hears .b, gets .b (answering c f deadline m),
    hears .a,
    gets .a (.upgradeAck ⟨endId, plan, proofOfEnd n answered, proofOfUpgrade n plan, ⟨0, n⟩, signer⟩)]

/-- Chain `b` learns that `a` has flushed, with `plan` as its upgrade. -/
def confirming (c : ChannelEnd) (plan : Upgrade) (m : UInt64) : List Step :=
  let flushed : ChannelEnd := { Message.UpgradeInit.proposed c with state := .flushComplete }
  [hears .b, gets .b (.upgradeConfirm ⟨endId, .flushComplete, plan, proofOfEnd m flushed,
    proofOfUpgrade m plan, ⟨0, m⟩, signer⟩)]

/-- Chain `a` learns that `b` runs the fields `f`. -/
def concluding (c : ChannelEnd) (f : UpgradeFields) (m : UInt64) : List Step :=
  let upgraded := (Message.UpgradeInit.proposed c).upgraded f
  [hears .a, gets .a (.upgradeOpen ⟨endId, upgraded, proofOfEnd m upgraded, ⟨0, m⟩, signer⟩)]

end

end Sample

end ChannelLayer
