import ChannelLayer.Digest.Sha256
import ChannelLayer.Proofs.Encoding
import ChannelLayer.Proofs.Intake
import ChannelLayer.Proofs.Integrity
import ChannelLayer.Proofs.Paths

/-!
# What a proof is bound to

The parts that are hashed into a proof stand one behind the other, and nothing tells where the path ends and the
value begins. It can be told from what is kept under the paths of each kind (`Path.Kind.Holds`): numbers have eight
bytes and commitments as many as a hash, and an end, an upgrade or an error receipt in its wire form begins with
the number of a field, which no name can go on with. So what is hashed tells height, path and value
(`Evidence.eq_of_input`), and a proof that a chain gives shows what the chain keeps and nothing else
(`proofs_bind`).
-/

set_option autoImplicit false

namespace ChannelLayer

open Identifier (Stops isAllowedByte)

/-! ## How wire forms begin -/

theorem Identifier.isAllowedByte_of_lt {b : UInt8} (h : b.toNat < 32) : isAllowedByte b = false := by
  have hcontrol : ∀ n : Fin 32, isAllowed (Char.ofNat n) = false := by decide
  exact hcontrol ⟨b.toNat, h⟩

namespace Protobuf

section
variable {k : Nat} {r : Bytes} (hk : k < 4)

include hk

theorem stops_writeKey {code : Nat} (hcode : code < 8) (bs : Bytes) : Stops (writeKey k code ++ bs) := by
  intro b hb
  rw [head?_writeKey (by omega) hcode] at hb
  obtain rfl := Option.some.inj hb
  apply Identifier.isAllowedByte_of_lt
  rw [UInt8.toNat_ofNat']
  omega

theorem stops_writeBytes (bs : Bytes) : Stops (writeBytes k bs ++ r) := by
  rw [writeBytes, List.append_assoc, List.append_assoc]
  exact stops_writeKey hk (by decide) _

theorem stops_writeNumber (hr : Stops r) (n : UInt64) : Stops (writeNumber k n ++ r) := by
  unfold writeNumber
  split
  · exact hr
  · rw [List.append_assoc]
    exact stops_writeKey hk (by decide) _

theorem stops_writeText (hr : Stops r) (s : String) : Stops (writeText k s ++ r) := by
  unfold writeText
  split
  · exact hr
  · exact stops_writeBytes hk _

end

end Protobuf

open Protobuf

theorem ChannelEnd.stops_encode (c : ChannelEnd) : Stops c.encode := by
  rw [encode_eq]
  exact stops_writeNumber (by decide) (stops_writeNumber (by decide) (stops_writeBytes (by decide) _) _) _

theorem Upgrade.stops_encode (u : Upgrade) : Stops u.encode := by
  rw [encode_eq]
  exact stops_writeBytes (by decide) _

theorem ErrorReceipt.stops_encode (e : ErrorReceipt) : Stops e.encode := by
  rw [encode_eq]
  exact stops_writeNumber (by decide) (stops_writeText (by decide) Identifier.stops_nil _) _

/-! ## What lies under a path -/

namespace Path.Kind

section
variable [Digest]

/-- The form of what is kept under the paths of a kind. -/
def Holds : Kind → Bytes → Prop
  | nextChannel, v | nextSend, v | nextReceive, v | nextAck, v | capability, v => ∃ n, v = .ofUInt64 n
  | channel, v => ∃ c : ChannelEnd, v = c.encode
  | commitment, v | ack, v => ∃ input, v = digest input
  | receipt, v => v = [1]
  | upgrade, v | counterpartyUpgrade, v => ∃ u : Upgrade, v = u.encode
  | upgradeError, v => ∃ e : ErrorReceipt, v = e.encode

/-- Of two values of one kind it is known that they are equally long or that no name goes on with them. -/
theorem Holds.ends (hlength : ∀ input, (digest input).length = 32) {k : Kind} {v w : Bytes} (hv : k.Holds v)
    (hw : k.Holds w) : v.length = w.length ∨ Stops v ∧ Stops w := by
  have hnumbers (hv : ∃ n, v = .ofUInt64 n) (hw : ∃ n, w = .ofUInt64 n) : v.length = w.length := by
    obtain ⟨m, rfl⟩ := hv
    obtain ⟨n, rfl⟩ := hw
    rfl
  have hdigests (hv : ∃ input, v = digest input) (hw : ∃ input, w = digest input) : v.length = w.length := by
    obtain ⟨a, rfl⟩ := hv
    obtain ⟨b, rfl⟩ := hw
    rw [hlength, hlength]
  have hupgrades (hv : ∃ u : Upgrade, v = u.encode) (hw : ∃ u : Upgrade, w = u.encode) : Stops v ∧ Stops w := by
    obtain ⟨u, rfl⟩ := hv
    obtain ⟨u', rfl⟩ := hw
    exact ⟨u.stops_encode, u'.stops_encode⟩
  cases k with
  | channel =>
    obtain ⟨c, rfl⟩ := hv
    obtain ⟨d, rfl⟩ := hw
    exact .inr ⟨c.stops_encode, d.stops_encode⟩
  | commitment => exact .inl (hdigests hv hw)
  | ack => exact .inl (hdigests hv hw)
  | receipt =>
    obtain rfl : v = [1] := hv
    obtain rfl : w = [1] := hw
    exact .inl rfl
  | upgrade => exact .inr (hupgrades hv hw)
  | counterpartyUpgrade => exact .inr (hupgrades hv hw)
  | upgradeError =>
    obtain ⟨e, rfl⟩ := hv
    obtain ⟨e', rfl⟩ := hw
    exact .inr ⟨e.stops_encode, e'.stops_encode⟩
  | _ => exact .inl (hnumbers hv hw)

end

end Path.Kind

/-! ## What is hashed into a proof -/

namespace Evidence

/-- What is hashed into the proof that bears the claim out. -/
def input (e : Evidence) : Bytes :=
  match e.value with
  | some value => Proof.membershipInput e.height e.storePrefix e.path value
  | none => Proof.absenceInput e.height e.storePrefix e.path

/-- The value that is claimed has the form of what lies under such a path. -/
def Fits [Digest] (e : Evidence) : Prop := ∀ v, e.value = some v → e.path.kind.Holds v

/-- The claim is about accepted names, and about a value that may lie where it says. -/
structure Formed [Digest] (e : Evidence) : Prop where
  path : e.path.Valid
  value : e.Fits

theorem height_eq_of_location {h h' : Height} {r r' : Bytes}
    (heq : Bytes.ofUInt64 h.revision ++ (Bytes.ofUInt64 h.block ++ r) =
      Bytes.ofUInt64 h'.revision ++ (Bytes.ofUInt64 h'.block ++ r')) : h = h' ∧ r = r' := by
  obtain ⟨hrevision, heq⟩ := List.append_inj heq (by simp)
  obtain ⟨hblock, heq⟩ := List.append_inj heq (by simp)
  exact ⟨(Height.mk.injEq ..).symm ▸ ⟨Bytes.ofUInt64_injective hrevision, Bytes.ofUInt64_injective hblock⟩, heq⟩

variable [Digest] {e f : Evidence}

theorem expected_eq (e : Evidence) : e.expected = digest e.input := by
  unfold expected input
  cases e.value <;> rfl

/-- What is hashed into a proof tells what it proves. -/
theorem eq_of_input (hlength : ∀ input, (digest input).length = 32) (he : e.Formed) (hf : f.Formed)
    (hstored : e.storePrefix = f.storePrefix) (h : e.input = f.input) :
    e.height = f.height ∧ e.path = f.path ∧ e.value = f.value := by
  unfold input at h
  cases hv : e.value with
  | none =>
    cases hw : f.value with
    | some w => simp [hv, hw, Proof.absenceInput, Proof.membershipInput] at h
    | none =>
      simp only [hv, hw, Proof.absenceInput, Proof.location, hstored, List.append_assoc, List.cons.injEq,
        true_and] at h
      obtain ⟨hheight, h⟩ := height_eq_of_location h
      exact ⟨hheight, Path.toBytes_inj he.path hf.path (List.append_cancel_left h), rfl⟩
  | some v =>
    cases hw : f.value with
    | none => simp [hv, hw, Proof.absenceInput, Proof.membershipInput] at h
    | some w =>
      simp only [hv, hw, Proof.membershipInput, Proof.location, hstored, List.cons_append, List.append_assoc,
        List.cons.injEq, true_and] at h
      obtain ⟨hheight, h⟩ := height_eq_of_location h
      have hends (hkind : e.path.kind = f.path.kind) : v.length = w.length ∨ Stops v ∧ Stops w :=
        (he.value v hv).ends hlength (hkind ▸ hf.value w hw)
      obtain ⟨hpath, rfl⟩ := Path.toBytes_append_inj he.path hf.path hends (List.append_cancel_left h)
      exact ⟨hheight, hpath, rfl⟩

end Evidence

/-! ## What a chain keeps -/

namespace Course

section
variable [Digest] {course : Course} {i : Nat} {id : EndId} {n : Sequence} {bytes : Bytes}

/-- A packet is handed over where a message that asks for it is delivered with success. -/
theorem succeeds_of_hand (h : course.Standing i) {p : Packet} {order : ChannelOrder} {hop : ConnectionId}
    (hhand : .receivePacket p order hop ∈ course.happens i id) :
    ∃ m, course.Succeeds i (.receive m) ∧ m.packet = p ∧ p.destination = id := by
  rcases turn_or_released h id with hturn | ⟨-, hnone⟩
  · obtain ⟨-, -, m, hdelivered, hm⟩ := hturn.hand_in_time hhand
    have hid : p.destination = id := Option.some.inj (hturn.about hhand)
    refine ⟨m, succeeds_of_changed hdelivered fun hsame => ?_, hm, hid⟩
    rw [happens, Store.news, hsame, List.drop_length] at hhand
    cases hhand
  · rw [hnone] at hhand
    cases hhand

theorem digest_of_commitment (h : course.Regular)
    (hn : (course.record i id).commitments.get? n = some bytes) : ∃ input, bytes = digest input := by
  induction i with
  | zero =>
    rw [record_zero h] at hn
    cases hn
  | succ i ih =>
    cases entry (standing h i) id with
    | kept hsent hsettled hnext hflight => exact ih (hflight ▸ hn)
    | opened hsent hsettled hnew hnext hflight => exact ih (hflight ▸ hn)
    | @sent p hsent hsettled hnext hnext' hflight =>
      rw [hflight, Table.get?_insert] at hn
      split at hn
      · exact ⟨_, (Option.some.inj hn).symm⟩
      · exact ih hn
    | settled hsent hsettled hbefore hnext hflight =>
      rw [hflight, Table.get?_erase] at hn
      split at hn
      · cases hn
      · exact ih hn

theorem digest_of_ack (h : course.Regular) (hn : (course.record i id).acks.get? n = some bytes) :
    ∃ input, bytes = digest input := by
  induction i with
  | zero =>
    rw [record_zero h] at hn
    cases hn
  | succ i ih =>
    rcases turn_or_released (standing h i) id with hturn | ⟨hreleased, -⟩
    · rcases hturn.of_ack n with hsame | ⟨p, order, hop, hhand, -⟩
      · exact ih (hsame ▸ hn)
      · obtain ⟨m, ⟨hdeed, htakes⟩, rfl, rfl⟩ := succeeds_of_hand (standing h i) hhand
        obtain ⟨name, app, l', -, -, hx, hafter⟩ := Chain.after_of_takes htakes
        have hstore : (course.chain (i + 1)).store = l'.store := by
          rw [chain_succ hdeed, Chain.undergo, hafter]
          rfl
        rw [record, hstore] at hn
        rcases Message.Receive.acks_of_execute hx with hkept | hacks
        · rw [hkept] at hn
          exact ih hn
        · rw [hacks, Table.get?_insert] at hn
          split at hn
          · exact ⟨_, (Option.some.inj hn).symm⟩
          · exact ih hn
    · rw [hreleased] at hn
      exact ih hn

/-- What a chain keeps under a path has the form that goes with its kind. -/
theorem holds (h : course.Regular) {p : Path} {v : Bytes} (hv : (course.chain i).store.valueAt? p = some v) :
    p.kind.Holds v := by
  have hnumber {counter : Option Sequence} (hv : counter.map Sequence.toBytes = some v) :
      ∃ n, v = .ofUInt64 n := by
    obtain ⟨n, -, rfl⟩ := Option.map_eq_some_iff.1 hv
    exact ⟨_, rfl⟩
  have hupgrade {plan : Option Upgrade} (hv : plan.map Upgrade.encode = some v) :
      ∃ u : Upgrade, v = u.encode := by
    obtain ⟨u, -, rfl⟩ := Option.map_eq_some_iff.1 hv
    exact ⟨u, rfl⟩
  cases p with
  | nextChannel => exact ⟨_, (Option.some.inj hv).symm⟩
  | channel id =>
    obtain ⟨c, -, rfl⟩ := Option.map_eq_some_iff.1 hv
    exact ⟨c, rfl⟩
  | nextSend id => exact hnumber hv
  | nextReceive id => exact hnumber hv
  | nextAck id => exact hnumber hv
  | commitment id n => exact digest_of_commitment h hv
  | ack id n => exact digest_of_ack h hv
  | receipt id n =>
    obtain ⟨receipt, -, hreceived⟩ := Option.bind_eq_some_iff.1 hv
    cases receipt with
    | received => exact (Option.some.inj hreceived).symm
    | none => cases hreceived
  | upgrade id => exact hupgrade hv
  | counterpartyUpgrade id => exact hupgrade hv
  | upgradeError id =>
    obtain ⟨e, -, rfl⟩ := Option.map_eq_some_iff.1 hv
    exact ⟨e, rfl⟩
  | capability id =>
    obtain ⟨handle, -, rfl⟩ := Option.map_eq_some_iff.1 hv
    exact ⟨_, rfl⟩

end

end Course

namespace Chain

variable [Digest]

/-- The chain is one that some course of deeds leads to. -/
def Reachable (c : Chain) : Prop := ∃ (course : Course) (i : Nat), course.Regular ∧ c = course.chain i

theorem Reachable.holds {c : Chain} (h : c.Reachable) {path : Path} {v : Bytes}
    (hv : c.store.valueAt? path = some v) : path.kind.Holds v := by
  obtain ⟨course, i, hregular, rfl⟩ := h
  exact course.holds hregular hv

/-- What the chain shows of a path at its present height. -/
def shows (c : Chain) (path : Path) : Evidence :=
  ⟨c.prove path, c.host.height, c.host.storePrefix, path, c.store.valueAt? path⟩

theorem prove_eq (c : Chain) (path : Path) : c.prove path = digest (c.shows path).input := by
  unfold prove shows Evidence.input
  cases c.store.valueAt? path <;> rfl

/-- The hash does not take `input` for what the chain has hashed into its proof about the path. -/
def TellsApart (c : Chain) (path : Path) (input : Bytes) : Prop :=
  digest input = digest (c.shows path).input → input = (c.shows path).input

end Chain

/-- The value is kept under a path of this kind by some chain at some time. -/
def Path.Kind.Occurs [Digest] (k : Kind) (v : Bytes) : Prop :=
  ∃ (c : Chain) (path : Path), c.Reachable ∧ path.kind = k ∧ c.store.valueAt? path = some v

/-! ## What handlers ask for -/

section
variable [Digest] {c : ConnectionEnd} {proof : Bytes} {height : Height} {id : EndId}

@[simp] theorem ConnectionEnd.fits_claimEnd (expected : ChannelEnd) :
    (c.claimEnd proof height id expected).Fits := by
  rintro _ ⟨⟩
  exact ⟨expected, rfl⟩

@[simp] theorem ConnectionEnd.fits_claimUpgrade (expected : Upgrade) :
    (c.claimUpgrade proof height id expected).Fits := by
  rintro _ ⟨⟩
  exact ⟨expected, rfl⟩

@[simp] theorem ConnectionEnd.fits_claim_commitment (n : Sequence) (p : Packet) :
    (c.claim proof height (.commitment id n) (some p.commitment)).Fits := by
  rintro _ ⟨⟩
  exact ⟨_, rfl⟩

@[simp] theorem ConnectionEnd.fits_claim_ack (n : Sequence) (ack : Acknowledgement) :
    (c.claim proof height (.ack id n) (some ack.commitment)).Fits := by
  rintro _ ⟨⟩
  exact ⟨_, rfl⟩

@[simp] theorem ConnectionEnd.fits_claim_upgradeError (receipt : ErrorReceipt) :
    (c.claim proof height (.upgradeError id) (some receipt.encode)).Fits := by
  rintro _ ⟨⟩
  exact ⟨receipt, rfl⟩

theorem Packet.fits_unreceivedEvidence (p : Packet) (order : ChannelOrder) (next : Sequence) :
    ∀ e ∈ p.unreceivedEvidence c order next proof height, e.Fits := by
  intro e he v hv
  cases order with
  | ordered =>
    obtain rfl := List.mem_singleton.1 he
    exact ⟨_, (Option.some.inj hv).symm⟩
  | unordered =>
    obtain rfl := List.mem_singleton.1 he
    cases hv
  | unspecified => cases he

/-- The claims fit, if it can be told what they are. -/
def Evidence.AllFit (claims : Option (List Evidence)) : Prop := ∀ es, claims = some es → ∀ e ∈ es, e.Fits

@[simp] theorem Evidence.allFit_some {es : List Evidence} : AllFit (some es) ↔ ∀ e ∈ es, e.Fits := by
  simp [AllFit]

@[simp] theorem Evidence.allFit_bind {α : Type} {x : Option α} {f : α → Option (List Evidence)} :
    AllFit (x.bind f) ↔ ∀ a, x = some a → AllFit (f a) := by
  cases x <;> simp [AllFit]

/-- What a message claims to lie under a path has the form that goes with its kind. -/
theorem Message.fits_of_evidence {m : Message} {s : Store} : ∀ e ∈ m.evidence s, e.Fits := by
  have hall : Evidence.AllFit (m.evidence? s) := by
    cases m with
    | timeout m =>
      simp only [evidence?, Option.bind_eq_bind, Evidence.allFit_bind]
      rintro ⟨c, conn⟩ -
      exact Evidence.allFit_some.2 (m.packet.fits_unreceivedEvidence c.order m.nextReceive)
    | timeoutOnClose m =>
      simp only [evidence?, Option.bind_eq_bind, Evidence.allFit_bind]
      rintro ⟨c, conn⟩ - expected - remote -
      refine Evidence.allFit_some.2 (List.forall_mem_cons.2 ⟨?_, ?_⟩)
      · exact conn.fits_claimEnd expected
      · exact m.packet.fits_unreceivedEvidence c.order m.nextReceive
    | _ => simp [evidence?]
  unfold evidence
  cases hm : m.evidence? s with
  | none => simp
  | some es => exact hall es hm

end

/-! ## What a proof shows -/

namespace Clients

variable [Digest] {cs : Clients} {client : ClientId} {storePrefix proof : Bytes} {height : Height} {path : Path}

theorem verifyMembership_eq_ok {value : Bytes} :
    cs.verifyMembership client storePrefix proof height path value = .ok () ↔
      cs.checkVerified client height = .ok () ∧
        Evidence.Verified ⟨proof, height, storePrefix, path, some value⟩ := by
  simp [verifyMembership, Evidence.Verified, Evidence.expected]

theorem verifyAbsence_eq_ok :
    cs.verifyAbsence client storePrefix proof height path = .ok () ↔
      cs.checkVerified client height = .ok () ∧ Evidence.Verified ⟨proof, height, storePrefix, path, none⟩ := by
  simp [verifyAbsence, Evidence.Verified, Evidence.expected]

end Clients

section
variable [Digest] {c : Chain} {path : Path}

/-- A proof that a chain gives bears out no other claim than what the chain shows. -/
theorem Chain.Reachable.verified_iff (hlength : ∀ input, (digest input).length = 32) (h : c.Reachable)
    (hpath : path.Valid) {e : Evidence} (he : e.Formed) (hstored : e.storePrefix = c.host.storePrefix)
    (hproof : e.proof = c.prove path) (hapart : c.TellsApart path e.input) :
    e.Verified ↔ e.height = c.host.height ∧ e.path = path ∧ e.value = c.store.valueAt? path := by
  have hshows : (c.shows path).Formed := ⟨hpath, fun v hv => h.holds hv⟩
  rw [Evidence.Verified, Evidence.expected_eq, hproof, Chain.prove_eq]
  constructor
  · exact fun hverified => Evidence.eq_of_input hlength he hshows hstored (hapart hverified.symm)
  · rintro ⟨hheight, rfl, hvalue⟩
    unfold Evidence.input Chain.shows
    rw [hheight, hstored, hvalue]

/-- What is hashed into a proof tells height, path and value, or that there is none, for all values that can lie
under such a path. So a proof that a chain gives is accepted at no height but its own, for no other path, and only for
what lies there, and every handler takes it so, as long as the hash tells apart what is compared. -/
theorem proofs_bind (hlength : ∀ input, (digest input).length = 32) :
    (∀ (k : Path.Kind) (v : Bytes), k.Occurs v → k.Holds v) ∧
    (∀ e f : Evidence, e.Formed → f.Formed → e.storePrefix = f.storePrefix → e.input = f.input →
      e.height = f.height ∧ e.path = f.path ∧ e.value = f.value) ∧
    ∀ (c : Chain) (path : Path), c.Reachable → path.Valid →
      (∀ (clients : Clients) (client : ClientId) (height : Height) (p : Path), p.Valid →
        (∀ value, p.kind.Holds value →
          c.TellsApart path (Proof.membershipInput height c.host.storePrefix p value) →
          (clients.verifyMembership client c.host.storePrefix (c.prove path) height p value = .ok () ↔
            clients.checkVerified client height = .ok () ∧ height = c.host.height ∧ p = path ∧
              c.store.valueAt? path = some value)) ∧
        (c.TellsApart path (Proof.absenceInput height c.host.storePrefix p) →
          (clients.verifyAbsence client c.host.storePrefix (c.prove path) height p = .ok () ↔
            clients.checkVerified client height = .ok () ∧ height = c.host.height ∧ p = path ∧
              c.store.valueAt? path = none))) ∧
      ∀ (m : Message) (s : Store), ∀ e ∈ m.evidence s, e.path.Valid → e.storePrefix = c.host.storePrefix →
        e.proof = c.prove path → c.TellsApart path e.input →
        (e.Verified ↔ e.height = c.host.height ∧ e.path = path ∧ e.value = c.store.valueAt? path) := by
  refine ⟨?_, fun e f he hf => Evidence.eq_of_input hlength he hf, fun c path h hpath => ⟨?_, ?_⟩⟩
  · rintro k v ⟨c, path, h, rfl, hv⟩
    exact h.holds hv
  · intro clients client height p hp
    constructor
    · intro value hvalue hapart
      have hfits : Evidence.Fits ⟨c.prove path, height, c.host.storePrefix, p, some value⟩ :=
        fun v hv => Option.some.inj hv ▸ hvalue
      have hverified := h.verified_iff hlength hpath ⟨hp, hfits⟩ rfl rfl hapart
      rw [Clients.verifyMembership_eq_ok, hverified]
      exact and_congr_right fun _ => and_congr_right fun _ => and_congr_right fun _ => eq_comm
    · intro hapart
      have hfits : Evidence.Fits ⟨c.prove path, height, c.host.storePrefix, p, none⟩ := fun v hv => nomatch hv
      have hverified := h.verified_iff hlength hpath ⟨hp, hfits⟩ rfl rfl hapart
      rw [Clients.verifyAbsence_eq_ok, hverified]
      exact and_congr_right fun _ => and_congr_right fun _ => and_congr_right fun _ => eq_comm
  · intro m s e he hvalid hstored hproof hapart
    exact h.verified_iff hlength hpath ⟨hvalid, Message.fits_of_evidence e he⟩ hstored hproof hapart

end

/-! ## The proof of a proposed channel -/

section

open Sample (client connectionId endId port signer version)

/-- A new chain is asked to open a channel. -/
def askedToOpen : Course :=
  ⟨(Sample.joined 5).a, [.deliver (.openInit ⟨port, [connectionId], port, .ordered, version, signer⟩)]⟩

/-- The end of the channel, which does not know its other end yet. -/
def proposedEnd : ChannelEnd := { Sample.channel .init .ordered 0 with remote := ⟨port, none⟩ }

theorem askedToOpen_facts : (∀ i, i < askedToOpen.deeds.length →
      (askedToOpen.chain i).store.channelCounter ≠ lastChannel) ∧
    ((askedToOpen.chain 1).store.record endId).channel = some proposedEnd := by
  decide +kernel

/-- The chain with the proposed end, and light clients that have learned of its block. -/
def asked : Chain := askedToOpen.chain 1

def informed : Clients := Clients.update {} client asked.host.height Sample.startTime

theorem asked_reachable : asked.Reachable :=
  ⟨askedToOpen, 1, Sample.regular_of_deeds askedToOpen_facts.1, rfl⟩

theorem valueAt?_asked : asked.store.valueAt? (.channel endId) = some proposedEnd.encode :=
  congrArg (Option.map ChannelEnd.encode) askedToOpen_facts.2

/-- This end is claimed to lie at `id` at block 5. -/
def proposedAt (id : EndId) : Evidence := ⟨[], ⟨0, 5⟩, Sample.storePrefix, .channel id, some proposedEnd.encode⟩

theorem formed_proposedAt {id : EndId} (hid : id.Valid) : (proposedAt id).Formed :=
  ⟨Path.valid_of_end? rfl hid, fun _ hv => ⟨proposedEnd, (Option.some.inj hv).symm⟩⟩

/-- With the hash that chains use: the chain proves the end to whoever has learned of its block, and proves to no one
that there is none. What is hashed of channel 1 is not what is hashed of channel 12. -/
theorem proofs_bind_when_asked :
    informed.verifyMembership client asked.host.storePrefix (asked.prove (.channel endId)) asked.host.height
        (.channel endId) proposedEnd.encode = .ok () ∧
      (asked.TellsApart (.channel endId)
          (Proof.absenceInput asked.host.height asked.host.storePrefix (.channel endId)) →
        informed.verifyAbsence client asked.host.storePrefix (asked.prove (.channel endId)) asked.host.height
          (.channel endId) ≠ .ok ()) ∧
      (proposedAt ⟨port, .numbered 1⟩).input ≠ (proposedAt ⟨port, .numbered 12⟩).input := by
  obtain ⟨hoccurs, hinput, hbinds⟩ := proofs_bind Sha256.length_hash
  have hport : port.Valid := by decide
  have hpath : (Path.channel endId).Valid := Path.valid_of_end? rfl ⟨hport, ChannelId.valid_numbered 0⟩
  obtain ⟨hverify, -⟩ := hbinds asked (.channel endId) asked_reachable hpath
  obtain ⟨hmember, habsent⟩ := hverify informed client asked.host.height (.channel endId) hpath
  have hknown : informed.checkVerified client asked.host.height = .ok () := by
    simp [informed, Clients.checkVerified, Clients.active, Clients.update]
  refine ⟨?_, fun hapart haccepted => ?_, fun hsame => ?_⟩
  · have hholds := hoccurs _ _ ⟨asked, .channel endId, asked_reachable, rfl, valueAt?_asked⟩
    refine (hmember _ hholds fun _ => ?_).2 ⟨hknown, rfl, rfl, valueAt?_asked⟩
    simp only [Chain.shows, Evidence.input, valueAt?_asked]
  · obtain ⟨-, -, -, hnone⟩ := (habsent hapart).1 haccepted
    rw [valueAt?_asked] at hnone
    cases hnone
  · have hone : EndId.Valid ⟨port, .numbered 1⟩ := ⟨hport, ChannelId.valid_numbered 1⟩
    have htwelve : EndId.Valid ⟨port, .numbered 12⟩ := ⟨hport, ChannelId.valid_numbered 12⟩
    obtain ⟨-, hchannel, -⟩ := hinput _ _ (formed_proposedAt hone) (formed_proposedAt htwelve) rfl hsame
    exact absurd (Path.channel.inj hchannel) (by decide)

end

end ChannelLayer
