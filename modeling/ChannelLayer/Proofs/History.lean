import ChannelLayer.Proofs.Encoding
import ChannelLayer.Proofs.Run

/-!
# The past of a run

What the turns of a run add up to. Ends stay orderly (`Run.orderly`), their phases never go back
(`Run.phase_le`), and within an attempt an end keeps its fields and its upgrade (`Run.kept`). On a run that
climbs, a chain shows one end and one upgrade at each height (`Run.same_of_height`), so that what a chain
has been shown of the other one can be read as one world of the past (`Run.of_mirrors`,
`Run.of_proposal`).
-/

set_option autoImplicit false

namespace ChannelLayer

/-! ## Runs within bounds -/

/-- The deadlines of upgrades that are delivered with an action. -/
def Action.deadlines : Action → List UpgradeTimeout
  | .deliver m => m.deadlines
  | _ => []

namespace Run

section
variable [Digest] (run : Run)

omit [Digest] in
/-- No message carries a deadline of zero, which is written as if it were none. -/
def PlainDeadlines : Prop := ∀ s ∈ run.steps, ∀ t ∈ s.action.deadlines, t.Plain

instance : Decidable run.PlainDeadlines :=
  inferInstanceAs (Decidable (∀ s ∈ run.steps, ∀ t ∈ s.action.deadlines, t.Plain))

/-- Chain `x` does not reach the last block number, at which heights stand still. -/
def Climbs (x : Side) : Prop := ∀ i, (run.host x i).height.block ≠ Height.lastBlock

/-- No chain reaches the last block number, at which heights stand still. -/
def Climbing : Prop := ∀ i x, (run.host x i).height.block ≠ Height.lastBlock

variable {run} in
theorem Climbing.climbs (h : run.Climbing) (x : Side) : run.Climbs x := fun i => h i x

/-- The connection `hop` of chain `x` names `remoteHop` as its other end. -/
def faces (x : Side) (hop remoteHop : ConnectionId) : Prop :=
  ∃ conn, (run.start.chain x).store.connections.get? hop = some conn ∧
    conn.remote.connection = some remoteHop

/-- Fields of chain `x` and fields of the other chain make one channel. -/
structure Agree (x : Side) (f g : UpgradeFields) : Prop where
  order : f.order = g.order
  version : f.version = g.version
  hops : ∃ hop remoteHop, f.hops = [hop] ∧ g.hops = [remoteHop] ∧ run.faces x hop remoteHop

/-- At world `j` the other chain held `d` for `remote`, and it was the other end of `c`. -/
structure Facing (x : Side) (id : EndId) (c : ChannelEnd) (remote : EndId) (j : Nat)
    (d : ChannelEnd) : Prop where
  there : (run.record x.other j remote).channel = some d
  back : d.remote = .ofEnd id
  agree : run.Agree x c.fields d.fields

end

section
variable [Digest] {run : Run} {x : Side} {i j : Nat} {id : EndId}

/-! ## Facing connections -/

omit [Digest] in
theorem faces.unique {hop k k' : ConnectionId} (h : run.faces x hop k) (h' : run.faces x hop k') :
    k = k' := by
  obtain ⟨conn, hconn, hk⟩ := h
  obtain ⟨conn', hconn', hk'⟩ := h'
  obtain rfl := Option.some.inj (hconn.symm.trans hconn')
  exact Option.some.inj (hk.symm.trans hk')

theorem faces.symm (h : run.Honest) {hop remoteHop : ConnectionId} (hf : run.faces x hop remoteHop) :
    run.faces x.other remoteHop hop := by
  obtain ⟨conn, hconn, hremote⟩ := hf
  obtain ⟨k, hk, conn', hconn', hback⟩ := (h.ready x).connected hop conn hconn
  obtain rfl := Option.some.inj (hremote.symm.trans hk)
  exact ⟨conn', hconn', hback⟩

omit [Digest] in
theorem Agree.unique {f g g' : UpgradeFields} (h : run.Agree x f g) (h' : run.Agree x f g') :
    g = g' := by
  obtain ⟨order, version, k, l, hk, hl, hf⟩ := h
  obtain ⟨order', version', k', l', hk', hl', hf'⟩ := h'
  obtain ⟨o, hops, v⟩ := g
  obtain ⟨o', hops', v'⟩ := g'
  simp only at order version hl order' version' hl'
  obtain rfl : k = k' := by simpa using hk.symm.trans hk'
  obtain rfl := hf.unique hf'
  simp [← order, ← order', ← version, ← version', hl, hl']

theorem Agree.symm (h : run.Honest) {f g : UpgradeFields} (hfg : run.Agree x f g) :
    run.Agree x.other g f := by
  obtain ⟨hop, remoteHop, hf, hg, hfaces⟩ := hfg.hops
  exact ⟨hfg.order.symm, hfg.version.symm, remoteHop, hop, hg, hf, hfaces.symm h⟩

/-- Fields that agree with the same ones are the same. -/
theorem Agree.eq_iff (h : run.Honest) {f g f' g' : UpgradeFields} (hfg : run.Agree x f g)
    (hfg' : run.Agree x f' g') : f = f' ↔ g = g' := by
  constructor
  · rintro rfl
    exact hfg.unique hfg'
  · rintro rfl
    exact (hfg.symm h).unique (hfg'.symm h)

/-! ## What never goes back -/

theorem record_zero (h : run.Honest) (x : Side) (id : EndId) : run.record x 0 id = {} :=
  (h.ready x).blank id

theorem orderly (h : run.Honest) (x : Side) (i : Nat) (id : EndId) : (run.record x i id).Orderly := by
  induction i with
  | zero =>
    rw [record_zero h]
    exact ⟨fun _ => ⟨rfl, rfl⟩, fun _ hc => (by cases hc), fun _ hc => (by cases hc),
      fun _ hc => (by cases hc)⟩
  | succ i ih => exact (turn h x i id).orderly ih

theorem height_le (h : run.Honest) (x : Side) (hji : j ≤ i) :
    (run.host x j).height ≤ (run.host x i).height := by
  induction hji with
  | refl => exact Height.le_refl _
  | @step i _ ih =>
    obtain ⟨hheight | hheight, -⟩ := host_succ (standing h x i).applications <;> rw [hheight]
    · exact ih
    · exact Height.le_trans ih (Height.le_next _)

theorem time_le (h : run.Honest) (x : Side) (hji : j ≤ i) :
    (run.host x j).time ≤ (run.host x i).time := by
  induction hji with
  | refl => exact Timestamp.le_refl _
  | @step i _ ih => exact Timestamp.le_trans ih (host_succ (standing h x i).applications).2

/-- A deadline that has passed stays passed. -/
theorem hasElapsed_le (h : run.Honest) (x : Side) (hji : j ≤ i) {t : UpgradeTimeout}
    (helapsed : t.hasElapsed (run.host x j).height (run.host x j).time = true) :
    t.hasElapsed (run.host x i).height (run.host x i).time = true :=
  UpgradeTimeout.hasElapsed_mono (height_le h x hji) (time_le h x hji) helapsed

section
variable (h : run.Honest) (hcount : run.Counting)

include h hcount

theorem phase_le (x : Side) (id : EndId) (hji : j ≤ i) :
    (run.record x j id).phase ≤ (run.record x i id).phase := by
  induction hji with
  | refl => exact Nat.le_refl _
  | @step i _ ih =>
    exact Nat.le_trans ih ((turn h x i id).phase_le (hcount i x id) (hcount (i + 1) x id))

/-- An end that has come less far was there before. -/
theorem lt_of_phase_lt (x : Side) (id : EndId)
    (hphase : (run.record x j id).phase < (run.record x i id).phase) : j < i := by
  refine Nat.lt_of_not_le fun hij => ?_
  have := phase_le h hcount x id hij
  omega

theorem receipt_le (x : Side) (i : Nat) (id : EndId) : ∀ e, (run.record x i id).errorReceipt = some e →
    5 * e.sequence.toNat + 4 ≤ (run.record x i id).phase := by
  induction i with
  | zero =>
    rw [record_zero h]
    intro e he
    cases he
  | succ i ih => exact (turn h x i id).receipt_le (hcount i x id) (hcount (i + 1) x id) ih

/-- Within attempt `n` an end keeps what it has. -/
theorem kept {n : Nat} (hji : j ≤ i) (hlo : 5 * n ≤ (run.record x j id).phase)
    (hhi : (run.record x i id).phase ≤ 5 * n + 3) {c : ChannelEnd}
    (hc : (run.record x j id).channel = some c) :
    ∃ c', Turn.Keeps (run.record x j id) (run.record x i id) n c c' := by
  induction hji with
  | refl => exact ⟨c, hc, rfl, rfl, rfl, fun _ => rfl, fun _ => rfl⟩
  | @step i hji ih =>
    simp only [Nat.succ_eq_add_one] at hhi ⊢
    have hle := phase_le h hcount x id hji
    have hstep := (turn h x i id).phase_le (hcount i x id) (hcount (i + 1) x id)
    obtain ⟨c₁, h₁⟩ := ih (Nat.le_trans hstep hhi)
    obtain ⟨c₂, h₂⟩ := (turn h x i id).within (hcount i x id) (hcount (i + 1) x id)
      (Nat.le_trans hlo hle) hhi h₁.channel
    refine ⟨c₂, h₂.channel, h₂.fields.trans h₁.fields, h₂.remote.trans h₁.remote,
      h₂.sequence.trans h₁.sequence, fun hp => ?_, fun hp => ?_⟩
    · have hp₁ : 5 * n < (run.record x j id).phase ∨ (run.record x i id).phase = 5 * n := by omega
      have hp₂ : 5 * n < (run.record x i id).phase ∨ (run.record x (i + 1) id).phase = 5 * n := by
        omega
      exact (h₂.upgrade hp₂).trans (h₁.upgrade hp₁)
    · exact (h₂.counterparty (Nat.le_trans hp hle)).trans (h₁.counterparty hp)

end

/-! ## One end at each height -/

/-- While a chain stays at one height its ends and upgrades stay as they are. -/
theorem same_of_height (h : run.Honest) {x : Side} (hclimb : run.Climbs x) {j i : Nat}
    (heq : (run.host x j).height = (run.host x i).height) (id : EndId) :
    (run.record x j id).channel = (run.record x i id).channel ∧
      (run.record x j id).upgrade = (run.record x i id).upgrade := by
  -- The later of the two worlds is reached from the earlier without a block between.
  have hforward {j i : Nat} (hji : j ≤ i) (heq : (run.host x j).height = (run.host x i).height) :
      (run.record x j id).channel = (run.record x i id).channel ∧
        (run.record x j id).upgrade = (run.record x i id).upgrade := by
    induction hji with
    | refl => exact ⟨rfl, rfl⟩
    | @step i hji ih =>
      have hprev : (run.host x j).height = (run.host x i).height :=
        Height.le_antisymm (height_le h x hji) (heq ▸ height_le h x (Nat.le_succ i))
      obtain ⟨hchannel, hupgrade⟩ := ih hprev
      rcases store_succ h (standing h x i) with hstore | ⟨-, -, hnext | hsame⟩
      · rw [hchannel, hupgrade]
        simp only [record, hstore, and_self]
      · exact absurd (hnext.symm.trans (heq.symm.trans hprev)) (Height.next_ne (hclimb i))
      · rw [hchannel, hupgrade, (hsame id).1, (hsame id).2]
        exact ⟨rfl, rfl⟩
  rcases Nat.le_total j i with hji | hij
  · exact hforward hji heq
  · obtain ⟨hchannel, hupgrade⟩ := hforward hij heq.symm
    exact ⟨hchannel.symm, hupgrade.symm⟩

/-! ## What was shown -/

omit [Digest] in
theorem PlainDeadlines.of_message (hplain : run.PlainDeadlines) {m : Message}
    (hm : run.message? i = some m) : ∀ t ∈ m.deadlines, t.Plain := by
  unfold message? at hm
  split at hm
  · rename_i y m' hstep
    obtain rfl := Option.some.inj hm
    exact hplain _ (List.mem_of_getElem? hstep)
  · cases hm

/-- All deadlines that are kept are plain. -/
theorem plain (h : run.Honest) (hplain : run.PlainDeadlines) (x : Side) (i : Nat) (id : EndId) :
    ∀ u, (run.record x i id).upgrade = some u → u.timeout.Plain := by
  induction i with
  | zero =>
    rw [record_zero h]
    intro u hu
    cases hu
  | succ i ih =>
    refine (turn h x i id).deadline (fun t ht => ?_) ih
    obtain ⟨m, hm, hmem⟩ := ht
    exact hplain.of_message hm t hmem

/-- An end that was shown was there, but for how a counterparty is written. -/
theorem of_holds {height : Height} {remote : EndId} {d : ChannelEnd}
    (hheld : (run.view x i).holds height remote d) :
    ∃ j, j ≤ i ∧ (run.host x.other j).height = height ∧
      ∃ d', (run.record x.other j remote).channel = some d' ∧ d'.state = d.state ∧
        d'.fields = d.fields ∧ d'.upgradeSequence = d.upgradeSequence ∧
        d'.remote.toShape = d.remote.toShape := by
  obtain ⟨j, hji, hheight, hvalue⟩ := hheld
  obtain ⟨d', hd', hencode⟩ := Option.map_eq_some_iff.1 hvalue
  obtain ⟨hstate, horder, hremote, hhops, hversion, hseq⟩ := ChannelEnd.encode_inj hencode
  refine ⟨j, hji, hheight, d', hd', hstate, ?_, hseq, hremote⟩
  simp [ChannelEnd.fields, horder, hhops, hversion]

/-- A mirror that was shown was the other end. -/
theorem of_mirrors (h : run.Honest) {c : ChannelEnd} {height : Height} {remote : EndId}
    {state : ChannelState} {n : UInt64} (hlength : c.hops.length = 1)
    (hend : (run.view x i).mirrors height id c remote state n) (hstate : state ≠ .init) :
    ∃ j, j ≤ i ∧ (run.host x.other j).height = height ∧
      ∃ d, run.Facing x id c remote j d ∧ d.state = state ∧ d.upgradeSequence = n := by
  obtain ⟨hop, remoteHop, hhop, hfaces, hheld⟩ := hend
  obtain ⟨j, hji, hheight, d, hd, hstate', hfields, hseq, hremote⟩ := of_holds hheld
  have hhops : c.hops = [hop] := by
    obtain ⟨k, hk⟩ := List.length_eq_one_iff.1 hlength
    rw [hk] at hhop ⊢
    exact congrArg (fun k => [k]) (Option.some.inj hhop)
  simp only [ChannelEnd.fields, UpgradeFields.mk.injEq] at hfields
  obtain ⟨horder, hhops', hversion⟩ := hfields
  refine ⟨j, hji, hheight, d, ⟨hd, ?_, horder.symm, hversion.symm, hop, remoteHop, hhops, hhops',
    hfaces⟩, hstate', hseq⟩
  exact Counterparty.eq_ofEnd hremote
    ((orderly h x.other j remote).joined d hd (by rw [hstate']; exact hstate))

/-- A proposal that was shown was kept beside the other end, but for how its deadline is written. -/
theorem of_proposal_written (h : run.Honest) (hclimb : run.Climbing) {c : ChannelEnd} {height : Height}
    {remote : EndId} {state : ChannelState} {n : UInt64} {w : Upgrade}
    (hc : (run.record x i id).channel = some c)
    (hend : (run.view x i).mirrors height id c remote state n) (hstate : state ≠ .init)
    (hupgrade : (run.view x i).holdsUpgrade height remote w) :
    ∃ j, j ≤ i ∧ ∃ d p, run.Facing x id c remote j d ∧ d.state = state ∧ d.upgradeSequence = n ∧
      (run.record x.other j remote).upgrade = some p ∧ p.encode = w.encode := by
  obtain ⟨j, hji, hheight, d, hfacing, hstate', hseq⟩ :=
    of_mirrors h ((orderly h x i id).oneHop c hc) hend hstate
  obtain ⟨j', -, hheight', hvalue⟩ := hupgrade
  obtain ⟨p, hp, hencode⟩ := Option.map_eq_some_iff.1 hvalue
  refine ⟨j, hji, d, p, hfacing, hstate', hseq, ?_, hencode⟩
  rw [(same_of_height h (hclimb.climbs _) (hheight.trans hheight'.symm) remote).2]
  exact hp

/-- A proposal that was shown was kept beside the other end. -/
theorem of_proposal (h : run.Honest) (hplain : run.PlainDeadlines) (hclimb : run.Climbing)
    {c : ChannelEnd} {height : Height} {remote : EndId} {state : ChannelState} {n : UInt64} {w : Upgrade}
    (hc : (run.record x i id).channel = some c)
    (hend : (run.view x i).mirrors height id c remote state n) (hstate : state ≠ .init)
    (hupgrade : (run.view x i).holdsUpgrade height remote w)
    (hdeadline : (run.view x i).deadline w.timeout) :
    ∃ j, j ≤ i ∧ ∃ d, run.Facing x id c remote j d ∧ d.state = state ∧ d.upgradeSequence = n ∧
      (run.record x.other j remote).upgrade = some w := by
  obtain ⟨j, hji, d, p, hfacing, hstate', hseq, hp, hencode⟩ :=
    of_proposal_written h hclimb hc hend hstate hupgrade
  obtain ⟨m, hm, hmem⟩ := hdeadline
  obtain rfl := Upgrade.encode_inj (plain h hplain x.other j remote p hp)
    (hplain.of_message hm _ hmem) hencode
  exact ⟨j, hji, d, hfacing, hstate', hseq, hp⟩

end

end Run

end ChannelLayer
