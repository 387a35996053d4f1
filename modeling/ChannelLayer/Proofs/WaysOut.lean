import ChannelLayer.Proofs.Run

/-!
# The ways out of an attempt

A message that takes effect may end the attempt that an end is in without putting the upgrade in force, or be
a proposal that the end does not go along with. `Message.WayOut` lists when that is so, whatever the order in
which a handler looks into things: the end objects to a proposal or an answer, it is shown that the other end
has given up or is late, its packets are settled too late, or a packet of an ordered end has not been received.

There is one lemma for each way out. Cancelling and timing out an upgrade always give the attempt up
(`UpgradeCancel.givesUp`, `UpgradeExpire.givesUp`); the other messages do so exactly where there is an objection
or the end is overdue or ordered (`UpgradeTry.joins_or_gives_up`, `UpgradeAck.drops_iff`,
`UpgradeConfirm.drops_iff`, `Acknowledge.drops_iff`, `lapses_drops_iff`). No end drops an attempt otherwise
(`wayOut_of_drops`).
-/

set_option autoImplicit false

namespace ChannelLayer

/-! ## Dropping an attempt -/

theorem ChannelRecord.isUpgrading_flushState (r : ChannelRecord) : r.flushState.isUpgrading = true := by
  unfold flushState
  split <;> rfl

/-- From `s` to `s'` the end `id` got out of the attempt that it was in, or into none, and put no upgrade in
force. -/
structure Store.Drops (s s' : Store) (id : EndId) : Prop where
  idle : ∀ c, (s'.record id).channel = some c → c.state.isUpgrading = false
  uncommitted : ∀ info f, Event.upgrade .opened info f ∉ s.news s' id

theorem Store.Drops.not_upgrading {s s' : Store} {id : EndId} {c : ChannelEnd} (h : s.Drops s' id)
    (hc : (s'.record id).channel = some c) : ¬c.state.isUpgrading = true := by
  simp [h.idle c hc]

namespace Store.Writes

variable {s s' : Store} {id : EndId} {r : ChannelRecord} {es : List Event} {c : ChannelEnd}

theorem drops (h : s.Writes s' id r es) (hc : r.channel = some c) (hidle : c.state.isUpgrading = false)
    (hnot : ∀ info f, Event.upgrade .opened info f ∉ es) : s.Drops s' id where
  idle c' hc' := by
    rw [h.self, hc] at hc'
    exact Option.some.inj hc' ▸ hidle
  uncommitted info f hmem := by
    rw [h.news] at hmem
    exact hnot info f (List.mem_filter.1 hmem).1

theorem not_drops (h : s.Writes s' id r es) (hc : r.channel = some c) (hin : c.state.isUpgrading = true) :
    ¬s.Drops s' id :=
  fun hdrops => hdrops.not_upgrading (by rw [h.self, hc]) hin

theorem not_drops_of_commit {info : UpgradeInfo} {f : UpgradeFields} (h : s.Writes s' id r es)
    (hmem : Event.upgrade .opened info f ∈ es) (hid : info.id = id) : ¬s.Drops s' id := by
  intro hdrops
  refine hdrops.uncommitted info f ?_
  rw [h.news, List.mem_filter]
  exact ⟨hmem, by simp [Event.decides?, hid]⟩

end Store.Writes

theorem Ledger.GivesUp.drops {l l' : Ledger} {id : EndId} {r : ChannelRecord} {c : ChannelEnd}
    (h : l.GivesUp l' id r c) : l.store.Drops l'.store id := by
  obtain ⟨e, hw⟩ := h
  exact hw.drops rfl rfl fun _ _ hmem => by simp at hmem

/-- The end `c` is still flushing when the deadline of the other end, which has settled on `w?`, has passed. -/
def View.overdue (v : View) (c : ChannelEnd) (w? : Option Upgrade) : Prop :=
  c.state = .flushing ∧ ∃ w, w? = some w ∧ w.timeout.hasElapsed v.host.height v.host.time = true

namespace Message

/-! ## Objections -/

/-- What the end `c` with the record `r` may object to in the proposal `m`. -/
inductive UpgradeTry.Objection (m : UpgradeTry) (v : View) (app : App) (r : ChannelRecord) (c : ChannelEnd) :
    Prop
  | tie {u : Upgrade} {remote : EndId} (hinit : c.state = .initUpgrade) (hu : r.upgrade = some u)
      (hto : c.remote = .ofEnd remote)
      (htie : upgradePrecedence ⟨c.upgradeSequence, u.fields, m.id⟩
        ⟨m.counterpartySequence, m.counterpartyFields, remote⟩ = .tie) : Objection m v app r c
  | order {u : Upgrade} (hinit : c.state = .initUpgrade) (hu : r.upgrade = some u)
      (horder : u.fields.order ≠ m.fields.order) : Objection m v app r c
  | hops (hhops : ¬v.hopsFace m.fields m.counterpartyFields) : Objection m v app r c
  | elapsed (htime : m.counterpartyTimeout.hasElapsed v.host.height v.host.time = true) :
      Objection m v app r c
  | refused {e : ChannelError} (hreply : app.upgradeTry m.fields = .error e) : Objection m v app r c

/-- What an end that has proposed `u` may object to in the answer `m`. -/
inductive UpgradeAck.Objection (m : UpgradeAck) (v : View) (app : App) (u : Upgrade) : Prop
  | order (horder : u.fields.order ≠ m.counterpartyUpgrade.fields.order) : Objection m v app u
  | hops (hhops : ¬v.hopsFace u.fields m.counterpartyUpgrade.fields) : Objection m v app u
  | elapsed (htime : m.counterpartyUpgrade.timeout.hasElapsed v.host.height v.host.time = true) :
      Objection m v app u
  | refused {e : ChannelError} (hreply : app.upgradeAck = .error e) : Objection m v app u

/-- What an end that has answered with `u` may object to in what the other end has settled on. Its application
is not asked any more. -/
inductive UpgradeConfirm.Objection (m : UpgradeConfirm) (v : View) (u : Upgrade) : Prop
  | order (horder : m.counterpartyUpgrade.fields.order ≠ u.fields.order) : Objection m v u
  | version (hversion : m.counterpartyUpgrade.fields.version ≠ u.fields.version) : Objection m v u
  | elapsed (htime : m.counterpartyUpgrade.timeout.hasElapsed v.host.height v.host.time = true) :
      Objection m v u

section
variable [Digest] {v : View} {host : Host} {s : Store} {app : App} {l' : Ledger} {c : ChannelEnd}

theorem UpgradeTry.objection_iff {m : UpgradeTry} {verdict : Option Precedence}
    (hfit : v.Fits host s (.upgradeTry m)) (hverdict : m.crossing? s c = .ok verdict) :
    m.Objection v app (s.record m.id) c ↔ verdict = some .tie ∨
      m.incompatibility? host s (c.state = .initUpgrade) ≠ .ok none ∨
      ∃ e, app.upgradeTry m.fields = .error e := by
  rw [ne_eq, incompatibility?_eq_none hfit.connectionsEq, ← hfit.hostEq]
  constructor
  · intro hobjection
    cases hobjection with
    | tie hinit hu hto htie =>
      have htied : m.crossing? s c = .ok (some .tie) :=
        crossing?_eq_ok.2 (.inr ⟨hinit, _, hu, _, hto, by rw [htie]⟩)
      exact .inl (Except.ok.inj (hverdict.symm.trans htied))
    | order hinit hu horder =>
      refine .inr (.inl fun ⟨hsame, _⟩ => ?_)
      obtain ⟨u', hu', horder'⟩ := hsame (by simpa using hinit)
      obtain rfl := Option.some.inj (hu.symm.trans hu')
      exact horder horder'
    | hops hhops => exact .inr (.inl fun h => hhops h.2.1)
    | elapsed htime => exact .inr (.inl fun h => by simp [h.2.2] at htime)
    | refused hreply => exact .inr (.inr ⟨_, hreply⟩)
  · rintro (rfl | hcause | ⟨e, hreply⟩)
    · rcases crossing?_eq_ok.1 hverdict with ⟨-, h⟩ | ⟨hinit, u, hu, remote, hto, htie⟩
      · cases h
      · exact .tie hinit hu hto (Option.some.inj htie)
    · refine Classical.byContradiction fun hnot => hcause ⟨fun hinit => ?_,
        Classical.byContradiction fun hhops => hnot (.hops hhops), ?_⟩
      · have hinit : c.state = .initUpgrade := by simpa using hinit
        rcases crossing?_eq_ok.1 hverdict with ⟨hother, -⟩ | ⟨-, u, hu, -⟩
        · exact absurd hinit hother
        · exact ⟨u, hu, Decidable.byContradiction fun horder => hnot (.order hinit hu horder)⟩
      · exact Bool.eq_false_iff.2 fun htime => hnot (.elapsed htime)
    · exact .refused hreply

theorem UpgradeAck.objection_iff {m : UpgradeAck} {u : Upgrade} (hfit : v.Fits host s (.upgradeAck m)) :
    m.Objection v app u ↔ m.incompatibility? host s u ≠ .ok none ∨ ∃ e, app.upgradeAck = .error e := by
  rw [ne_eq, incompatibility?_eq_none hfit.connectionsEq, ← hfit.hostEq]
  constructor
  · intro hobjection
    cases hobjection with
    | order horder => exact .inl fun h => horder h.1
    | hops hhops => exact .inl fun h => hhops h.2.1
    | elapsed htime => exact .inl fun h => by simp [h.2.2] at htime
    | refused hreply => exact .inr ⟨_, hreply⟩
  · rintro (hcause | ⟨e, hreply⟩)
    · exact Classical.byContradiction fun hnot => hcause
        ⟨Decidable.byContradiction fun horder => hnot (.order horder),
          Classical.byContradiction fun hhops => hnot (.hops hhops),
          Bool.eq_false_iff.2 fun htime => hnot (.elapsed htime)⟩
    · exact .refused hreply

omit [Digest] in
theorem UpgradeConfirm.objection_iff {m : UpgradeConfirm} {u : Upgrade} (hhost : v.host = host) :
    m.Objection v u ↔ m.incompatibility? host u ≠ none := by
  rw [ne_eq, incompatibility?_eq_none, ← hhost]
  constructor
  · intro hobjection
    cases hobjection with
    | order horder => exact fun h => horder h.1.1
    | version hversion => exact fun h => hversion h.1.2
    | elapsed htime => exact fun h => by simp [h.2] at htime
  · intro hcause
    exact Classical.byContradiction fun hnot => hcause
      ⟨⟨Decidable.byContradiction fun horder => hnot (.order horder),
        Decidable.byContradiction fun hversion => hnot (.version hversion)⟩,
        Bool.eq_false_iff.2 fun htime => hnot (.elapsed htime)⟩

/-! ## Proposals and answers -/

/-- An end goes along with a proposal that is not behind it unless it has an objection. Then it gives up at the
sequence of the proposal. -/
theorem UpgradeTry.joins_or_gives_up {m : UpgradeTry} (hfit : v.Fits host s (.upgradeTry m))
    (hc : (s.record m.id).channel = some c)
    (hnew : c.state = .initUpgrade ∨ c.upgradeSequence < m.counterpartySequence)
    (hx : m.execute host ⟨s, app⟩ = .ok () l') :
    (¬m.Objection v app (s.record m.id) c ∧
      ∃ c', (l'.store.record m.id).channel = some c' ∧ c'.state = .tryUpgrade) ∨
    (m.Objection v app (s.record m.id) c ∧ Ledger.GivesUp ⟨s, app⟩ l' m.id (s.record m.id)
      { c with upgradeSequence := m.counterpartySequence }) := by
  cases UpgradeTry.outcome hc hx with
  | refused hother hle =>
    rcases hnew with hinit | hlt
    · exact absurd hinit hother
    · exact absurd hle (UInt64.not_le.2 hlt)
  | tied hverdict hx =>
    have hobjection : m.Objection v app (s.record m.id) c := (objection_iff hfit hverdict).2 (.inl rfl)
    -- The sequences of a tie are the same, so that it does not matter at which one the end gives up.
    have hseq : c.upgradeSequence = m.counterpartySequence := by
      rcases crossing?_eq_ok.1 hverdict with ⟨-, h⟩ | ⟨-, u, -, remote, -, htie⟩
      · cases h
      · exact sequence_eq_of_tie (Option.some.inj htie)
    rw [← hseq]
    exact .inr ⟨hobjection, Ledger.givesUp_of_abortUpgrade hx⟩
  | gaveUp hnewer hverdict htie hobjects hx =>
    exact .inr ⟨(objection_iff hfit hverdict).2 (.inr hobjects), Ledger.givesUp_of_abortUpgrade hx⟩
  | answered hnewer hverdict htie hcause hreply hx =>
    obtain ⟨nextSend, -, hw⟩ := accept_writes hx
    refine .inl ⟨fun hobjection => ?_, _, by rw [hw.self], rfl⟩
    rcases (objection_iff hfit hverdict).1 hobjection with htie' | hcause' | ⟨e, hreply'⟩
    · exact htie htie'
    · exact hcause' hcause
    · cases hreply.symm.trans hreply'

/-- An end is not asked to join an attempt behind its own proposal. -/
theorem UpgradeTry.sequence_le {m : UpgradeTry} {c : ChannelEnd} (hv : m.validate host s = .ok ())
    (hc : (s.record m.id).channel = some c)
    (hnew : c.state = .initUpgrade ∨ c.upgradeSequence < m.counterpartySequence) :
    (c.state = .opened ∨ c.state.isUpgrading = true) ∧ c.upgradeSequence ≤ m.counterpartySequence := by
  obtain ⟨-, -, d, hd, hstate, hop, -, conn, -, -, -, -, remote, -, verdict, hverdict, hours, -⟩ :=
    validate_eq_ok.1 hv
  obtain rfl := Option.some.inj (hd.symm.trans hc)
  refine ⟨hstate.imp_right fun hinit => by rw [hinit]; rfl, ?_⟩
  rcases hnew with hinit | hlt
  · rcases crossing?_eq_ok.1 hverdict with ⟨hother, -⟩ | ⟨-, own, -, remote', -, rfl⟩
    · exact absurd hinit hother
    · cases hcmp : upgradePrecedence ⟨d.upgradeSequence, own.fields, m.id⟩
          ⟨m.counterpartySequence, m.counterpartyFields, remote'⟩ with
      | ours => exact absurd (congrArg some hcmp) hours
      | theirs => exact sequence_le_of_theirs hcmp
      | tie => exact UInt64.le_of_eq (sequence_eq_of_tie hcmp)
  · exact UInt64.le_of_lt hlt

/-- An end drops its attempt over the answer to its proposal if it has an objection. -/
theorem UpgradeAck.drops_iff {m : UpgradeAck} {u : Upgrade} (hfit : v.Fits host s (.upgradeAck m))
    (hc : (s.record m.id).channel = some c) (hu : (s.record m.id).upgrade = some u)
    (hx : m.execute host ⟨s, app⟩ = .ok () l') : s.Drops l'.store m.id ↔ m.Objection v app u := by
  rw [objection_iff hfit]
  cases UpgradeAck.outcome hc hu hx with
  | gaveUp hobjects hx => exact iff_of_true (Ledger.givesUp_of_abortUpgrade hx).drops hobjects
  | accepted hcause hreply hx =>
    obtain ⟨nextSend, -, hw⟩ := accept_writes hx
    refine iff_of_false (hw.not_drops rfl (s.record m.id).isUpgrading_flushState) ?_
    rintro (hcause' | ⟨e, hreply'⟩)
    · exact hcause' hcause
    · cases hreply.symm.trans hreply'

omit [Digest] in
/-- An end drops its attempt over what the other end has settled on if it has an objection. -/
theorem UpgradeConfirm.drops_iff {m : UpgradeConfirm} {u : Upgrade} (hhost : v.host = host)
    (hc : (s.record m.id).channel = some c) (hu : (s.record m.id).upgrade = some u)
    (hx : m.execute host ⟨s, app⟩ = .ok () l') : s.Drops l'.store m.id ↔ m.Objection v u := by
  rw [objection_iff hhost]
  cases UpgradeConfirm.outcome hc hu hx with
  | gaveUp hobjects hx => exact iff_of_true (Ledger.givesUp_of_abortUpgrade hx).drops hobjects
  | accepted hcause hx =>
    refine iff_of_false ?_ (not_not_intro hcause)
    rcases UpgradeConfirm.accept_writes hu hx with hw | ⟨-, hw⟩
    · exact hw.not_drops rfl (s.record m.id).isUpgrading_flushState
    · exact hw.not_drops_of_commit (List.mem_singleton.2 rfl) rfl

/-! ## Settled packets -/

omit [Digest] in
/-- An end that has settled a packet drops its attempt if it is overdue. -/
theorem completeFlush_drops_iff {l l₁ : Ledger} {id : EndId} {r : ChannelRecord} {flushing : Prop}
    [Decidable flushing] (hhost : v.host = host) (hw : l.Writes l₁ id r []) (hc : r.channel = some c)
    (hin : c.state.isUpgrading = true) (hflushing : c.state = .flushing → flushing)
    (hx : (if flushing then Exec.completeFlush host id else pure ()) l₁ = .ok () l') :
    l.store.Drops l'.store id ↔ v.overdue c r.counterpartyUpgrade := by
  split at hx
  · rcases hw.completeFlush hc hx with ⟨hother, hw⟩ | ⟨hstate, w, hw', hoverdue | ⟨htime, hwrites⟩⟩
    · exact iff_of_false (hw.not_drops hc hin) fun h => hother h.1
    · obtain ⟨helapsed, hgives⟩ := hoverdue
      exact iff_of_true (Ledger.GivesUp.drops hgives) ⟨hstate, w, hw', by rwa [hhost]⟩
    · have hstays : ¬l.store.Drops l'.store id := by
        rcases hwrites with ⟨-, hw⟩ | ⟨-, hw⟩
        · exact hw.not_drops hc hin
        · exact hw.not_drops rfl rfl
      refine iff_of_false hstays fun ⟨_, w', hw'', helapsed⟩ => ?_
      obtain rfl := Option.some.inj (hw'.symm.trans hw'')
      rw [hhost, htime] at helapsed
      cases helapsed
  · rename_i hidle
    simp only [run_pure_eq_ok, true_and] at hx
    exact iff_of_false ((hx ▸ hw).not_drops hc hin) fun h => hidle (hflushing h.1)

omit [Digest] in
/-- An end drops its attempt over an acknowledgement if it is overdue. -/
theorem Acknowledge.drops_iff {m : Acknowledge} (hhost : v.host = host)
    (hc : (s.record m.packet.source).channel = some c) (hin : c.state.isUpgrading = true)
    (hx : m.execute host ⟨s, app⟩ = .ok () l') :
    s.Drops l'.store m.packet.source ↔ v.overdue c (s.record m.packet.source).counterpartyUpgrade := by
  obtain ⟨l₁, hw, hx⟩ := Acknowledge.followUp hc hx
  exact completeFlush_drops_iff hhost hw hc hin id hx

omit [Digest] in
/-- An end drops its attempt over a packet that was not received if it is overdue, and always if it is ordered. -/
theorem timeOut_drops_iff {p : Packet} (hhost : v.host = host) (hc : (s.record p.source).channel = some c)
    (hin : c.state.isUpgrading = true) (hspecified : c.order ≠ .unspecified)
    (hx : Exec.timeOut host p ⟨s, app⟩ = .ok () l') :
    s.Drops l'.store p.source ↔
      c.order = .ordered ∨ v.overdue c (s.record p.source).counterpartyUpgrade := by
  by_cases hordered : c.order = .ordered
  · have hw := timeOut_writes hc hordered hx
    rw [if_pos hin] at hw
    refine iff_of_true (hw.drops (ChannelRecord.channel_close c) rfl fun _ _ hmem => ?_) (.inl hordered)
    simp at hmem
  · obtain ⟨l₁, hw, hx⟩ := timeOut_followUp hc hordered hx
    rw [or_iff_right hordered]
    exact completeFlush_drops_iff hhost hw hc hin
      (fun hstate => ⟨hstate, ChannelOrder.unordered_of_ne hspecified hordered⟩) hx

omit [Digest] in
/-- A packet is settled by an acknowledgement or given up. -/
theorem acknowledge_or_lapses {m : Message} {id : EndId} {n : Sequence} (hm : m.settles? = some (id, n)) :
    (∃ m', m = .acknowledge m' ∧ m'.packet.source = id) ∨ m.lapses? = some (id, n) := by
  cases m <;> simp only [settles?, reduceCtorEq] at hm
  case acknowledge m => exact .inl ⟨m, rfl, congrArg Prod.fst (Option.some.inj hm)⟩
  case timeout m => exact .inr hm
  case timeoutOnClose m => exact .inr hm

/-- A packet is given up in the same way by both messages. -/
theorem execute_of_lapses {m : Message} {id : EndId} {n : Sequence} (hm : m.lapses? = some (id, n)) :
    ∃ p : Packet, p.source = id ∧ ∀ host, m.execute host = Exec.timeOut host p := by
  cases m <;> simp only [lapses?, reduceCtorEq, Option.some.injEq, Prod.mk.injEq] at hm
  case timeout m => exact ⟨m.packet, hm.1, fun _ => rfl⟩
  case timeoutOnClose m => exact ⟨m.packet, hm.1, fun _ => rfl⟩

/-- A packet that was not received belongs to an end with an ordering. -/
theorem specified_of_lapses {m : Message} {id : EndId} {n : Sequence} (hm : m.lapses? = some (id, n))
    (hv : m.validate host s app = .ok ()) (hc : (s.record id).channel = some c) : c.order ≠ .unspecified := by
  cases m <;> simp only [lapses?, reduceCtorEq, Option.some.injEq, Prod.mk.injEq] at hm
  case timeout m =>
    obtain ⟨rfl, rfl⟩ := hm
    obtain ⟨-, d, hd, -, -, hop, -, conn, -, -, -, time, -, -, hunreceived, -⟩ := Timeout.validate_eq_ok.1 hv
    obtain rfl := Option.some.inj (hc.symm.trans hd)
    exact specified_of_unreceived hunreceived
  case timeoutOnClose m =>
    obtain ⟨rfl, rfl⟩ := hm
    obtain ⟨-, d, hd, -, -, hop, -, conn, -, -, remote, -, remoteHop, -, hspecified, -⟩ :=
      TimeoutOnClose.validate_eq_ok.1 hv
    obtain rfl := Option.some.inj (hc.symm.trans hd)
    exact hspecified

/-- A packet that was not received has its end drop the attempt if it is ordered or overdue. -/
theorem lapses_drops_iff {m : Message} {id : EndId} {n : Sequence} (hm : m.lapses? = some (id, n))
    (hhost : v.host = host) (hc : (s.record id).channel = some c) (hin : c.state.isUpgrading = true)
    (hv : m.validate host s app = .ok ()) (hx : m.execute host ⟨s, app⟩ = .ok () l') :
    s.Drops l'.store id ↔ c.order = .ordered ∨ v.overdue c (s.record id).counterpartyUpgrade := by
  have hspecified := specified_of_lapses hm hv hc
  obtain ⟨p, rfl, hexec⟩ := execute_of_lapses hm
  rw [hexec] at hx
  exact timeOut_drops_iff hhost hc hin hspecified hx

/-- A packet that was not received closes an ordered end. -/
theorem closes_of_lapses {m : Message} {id : EndId} {n : Sequence} (hm : m.lapses? = some (id, n))
    (hc : (s.record id).channel = some c) (hordered : c.order = .ordered)
    (hx : m.execute host ⟨s, app⟩ = .ok () l') :
    (l'.store.record id).channel = some { c with state := .closed } := by
  obtain ⟨p, rfl, hexec⟩ := execute_of_lapses hm
  rw [hexec] at hx
  rw [(timeOut_writes hc hordered hx).self, ChannelRecord.channel_close]

/-- An end stays as it is when it takes a packet in. -/
theorem Receive.writes {m : Receive} (hx : m.execute ⟨s, app⟩ = .ok () l') :
    ∃ r es, Ledger.Writes ⟨s, app⟩ l' m.packet.destination r es ∧
      r.channel = (s.record m.packet.destination).channel := by
  simp [execute, and_assoc] at hx
  obtain ⟨d, -, ⟨-, hx⟩ | ⟨-, rfl⟩⟩ := hx
  · simp [take, and_assoc] at hx
    obtain ⟨_, l, hremember, hop, -, rfl⟩ := hx
    have hremembers : ∃ r, Ledger.Writes ⟨s, app⟩ l m.packet.destination r [] ∧
        r.channel = (s.record m.packet.destination).channel := by
      cases horder : d.order <;> simp [remember, horder, and_assoc] at hremember
      case unspecified =>
        subst hremember
        exact ⟨_, .refl _ _, rfl⟩
      case unordered =>
        subst hremember
        exact ⟨_, (Ledger.Writes.refl _ _).update _, rfl⟩
      case ordered =>
        obtain ⟨next, -, rfl⟩ := hremember
        exact ⟨_, (Ledger.Writes.refl _ _).update _, rfl⟩
    obtain ⟨r, hw, hkept⟩ := hremembers
    exact ⟨_, _, (((((hw.update _).log _).log _).report _).report _).addExtras _, hkept⟩
  · exact ⟨_, _, .refl _ _, rfl⟩

/-! ## The list -/

/-- If the message `m` takes effect, it is a way for the end `id`, which is `c` with the record `r`, out of the
attempt `n`. -/
inductive WayOut (v : View) (app : App) (id : EndId) (r : ChannelRecord) (c : ChannelEnd) :
    Message → UInt64 → Prop
  | declined {m : UpgradeTry} (hid : m.id = id)
      (hnew : c.state = .initUpgrade ∨ c.upgradeSequence < m.counterpartySequence)
      (hobjection : m.Objection v app r c) : WayOut v app id r c (.upgradeTry m) m.counterpartySequence
  | rejected {m : UpgradeAck} {u : Upgrade} (hid : m.id = id) (hu : r.upgrade = some u)
      (hobjection : m.Objection v app u) : WayOut v app id r c (.upgradeAck m) c.upgradeSequence
  | mismatched {m : UpgradeConfirm} {u : Upgrade} (hid : m.id = id) (hu : r.upgrade = some u)
      (hobjection : m.Objection v u) : WayOut v app id r c (.upgradeConfirm m) c.upgradeSequence
  | cancelled {m : UpgradeCancel} (hid : m.id = id) :
      WayOut v app id r c (.upgradeCancel m) c.upgradeSequence
  | expired {m : UpgradeExpire} (hid : m.id = id) :
      WayOut v app id r c (.upgradeExpire m) c.upgradeSequence
  | late {m : Message} {n : Sequence} (hsettles : m.settles? = some (id, n))
      (hoverdue : v.overdue c r.counterpartyUpgrade) : WayOut v app id r c m c.upgradeSequence
  | lapsed {m : Message} {n : Sequence} (hlapses : m.lapses? = some (id, n)) (hordered : c.order = .ordered)
      (hin : c.state.isUpgrading = true) : WayOut v app id r c m c.upgradeSequence

/-- A message that is a way out of an attempt has its end drop it. -/
theorem drops_of_wayOut {m : Message} {id : EndId} {n : UInt64} (hfit : v.Fits host s m)
    (hv : m.validate host s app = .ok ()) (hx : m.execute host ⟨s, app⟩ = .ok () l')
    (hc : (s.record id).channel = some c) (h : m.WayOut v app id (s.record id) c n) :
    s.Drops l'.store id := by
  cases h with
  | declined hid hnew hobjection =>
    subst hid
    rcases UpgradeTry.joins_or_gives_up hfit hc hnew hx with ⟨hnot, -⟩ | ⟨-, hgives⟩
    · exact absurd hobjection hnot
    · exact hgives.drops
  | rejected hid hu hobjection =>
    subst hid
    exact (UpgradeAck.drops_iff hfit hc hu hx).2 hobjection
  | mismatched hid hu hobjection =>
    subst hid
    exact (UpgradeConfirm.drops_iff hfit.hostEq hc hu hx).2 hobjection
  | cancelled hid =>
    subst hid
    exact (UpgradeCancel.givesUp hc hx).drops
  | expired hid =>
    subst hid
    exact (UpgradeExpire.givesUp hc hx).drops
  | late hsettles hoverdue =>
    have hin : c.state.isUpgrading = true := by rw [hoverdue.1]; rfl
    rcases acknowledge_or_lapses hsettles with ⟨m, rfl, rfl⟩ | hlapses
    · exact (Acknowledge.drops_iff hfit.hostEq hc hin hx).2 hoverdue
    · exact (lapses_drops_iff hlapses hfit.hostEq hc hin hv hx).2 (.inr hoverdue)
  | lapsed hlapses hordered hin => exact (lapses_drops_iff hlapses hfit.hostEq hc hin hv hx).2 (.inl hordered)

/-- An end that drops its attempt is the one that takes the turn. -/
theorem eq_of_drops {l : Ledger} {id id' : EndId} (h : l.TakesTurn v id' l')
    (hc : (l.store.record id).channel = some c) (hin : c.state.isUpgrading = true)
    (hdrops : l.store.Drops l'.store id) : id' = id := by
  obtain ⟨r, es, hw, -⟩ := h
  refine Decidable.byContradiction fun hne => hdrops.not_upgrading ?_ hin
  rw [hw.record, if_neg hne, hc]

/-- There is no other way out: an end that drops its attempt does so in one of these. -/
theorem wayOut_of_drops {m : Message} {id : EndId} (happ : app.isSample = true) (hfit : v.Fits host s m)
    (hanew : s.NamesAnew) (hv : m.validate host s app = .ok ())
    (hx : m.execute host ⟨s, app⟩ = .ok () l') (hc : (s.record id).channel = some c)
    (hin : c.state.isUpgrading = true) (hdrops : s.Drops l'.store id) :
    ∃ n, m.WayOut v app id (s.record id) c n := by
  -- A message that is for an end in another state, or not yet there, is not for this one.
  have hother {d : ChannelEnd} {state : ChannelState} (hd : (s.record id).channel = some d)
      (hstate : d.state = state) (hidle : state.isUpgrading = false) :
      ∃ n, m.WayOut v app id (s.record id) c n := by
    obtain rfl := Option.some.inj (hc.symm.trans hd)
    rw [hstate, hidle] at hin
    cases hin
  have hlapses {n : Sequence} (hlapses : m.lapses? = some (id, n)) (hsettles : m.settles? = some (id, n)) :
      ∃ n, m.WayOut v app id (s.record id) c n := by
    rcases (lapses_drops_iff hlapses hfit.hostEq hc hin hv hx).1 hdrops with hordered | hoverdue
    · exact ⟨_, .lapsed hlapses hordered hin⟩
    · exact ⟨_, .late hsettles hoverdue⟩
  cases m with
  | openInit m =>
    obtain rfl := eq_of_drops (OpenInit.turn hfit hv hx) hc hin hdrops
    obtain ⟨-, -, -, -, -, -, hnew, -⟩ := OpenInit.validate_eq_ok.1 hv
    cases hc.symm.trans hnew
  | openTry m =>
    obtain rfl := eq_of_drops (OpenTry.turn hfit hanew hv hx) hc hin hdrops
    obtain ⟨-, -, -, -, -, -, -, hunowned, -⟩ := OpenTry.validate_eq_ok.1 hv
    cases hc.symm.trans (hanew ⟨m.port, s.nextChannelId⟩ rfl hunowned)
  | openAck m =>
    obtain rfl := eq_of_drops (OpenAck.turn hfit hv hx) hc hin hdrops
    obtain ⟨-, d, hd, hstate, -⟩ := OpenAck.validate_eq_ok.1 hv
    exact hother hd hstate rfl
  | openConfirm m =>
    obtain rfl := eq_of_drops (OpenConfirm.turn hfit hv hx) hc hin hdrops
    obtain ⟨-, d, hd, hstate, -⟩ := OpenConfirm.validate_eq_ok.1 hv
    exact hother hd hstate rfl
  | closeInit m =>
    obtain rfl := eq_of_drops (CloseInit.turn (v := v) hv hx) hc hin hdrops
    obtain ⟨-, ⟨d, conn, hclosable⟩, -⟩ := CloseInit.validate_eq_ok.1 hv
    obtain ⟨hd, hstate, -⟩ := Store.closable_eq_ok.1 hclosable
    exact hother hd hstate rfl
  | closeConfirm m =>
    obtain rfl := eq_of_drops (CloseConfirm.turn (v := v) hv hx) hc hin hdrops
    obtain ⟨-, d, conn, hclosable, -⟩ := CloseConfirm.validate_eq_ok.1 hv
    obtain ⟨hd, hstate, -⟩ := Store.closable_eq_ok.1 hclosable
    exact hother hd hstate rfl
  | receive m =>
    obtain rfl := eq_of_drops (Receive.turn hfit hv hx) hc hin hdrops
    obtain ⟨r, es, hw, hkept⟩ := Receive.writes hx
    exact absurd hdrops (hw.not_drops (hkept.trans hc) hin)
  | acknowledge m =>
    obtain rfl := eq_of_drops (Acknowledge.settles hfit hv hx).takesTurn hc hin hdrops
    exact ⟨_, .late rfl ((Acknowledge.drops_iff hfit.hostEq hc hin hx).1 hdrops)⟩
  | timeout m =>
    obtain rfl := eq_of_drops (Timeout.settles hfit hv hx).takesTurn hc hin hdrops
    exact hlapses rfl rfl
  | timeoutOnClose m =>
    obtain rfl := eq_of_drops (TimeoutOnClose.settles hfit hv hx).takesTurn hc hin hdrops
    exact hlapses rfl rfl
  | upgradeInit m =>
    obtain rfl := eq_of_drops (UpgradeInit.turn hfit hv hx) hc hin hdrops
    obtain ⟨-, -, d, hd, hstate, -⟩ := UpgradeInit.validate_eq_ok.1 hv
    exact hother hd hstate rfl
  | upgradeTry m =>
    obtain rfl := eq_of_drops (UpgradeTry.turn happ hfit hv hx) hc hin hdrops
    obtain ⟨-, -, d, hd, hopen | hinit, -⟩ := UpgradeTry.validate_eq_ok.1 hv
    · exact hother hd hopen rfl
    · obtain rfl := Option.some.inj (hc.symm.trans hd)
      rcases UpgradeTry.joins_or_gives_up hfit hc (.inl hinit) hx with ⟨-, c', hc', hjoins⟩ | ⟨hobjection, -⟩
      · exact absurd (by rw [hjoins]; rfl) (hdrops.not_upgrading hc')
      · exact ⟨_, .declined rfl (.inl hinit) hobjection⟩
  | upgradeAck m =>
    obtain rfl := eq_of_drops (UpgradeAck.turn hfit hv hx) hc hin hdrops
    obtain ⟨-, -, -, -, ⟨u, hu⟩, -⟩ := UpgradeAck.validate_eq_ok.1 hv
    exact ⟨_, .rejected rfl hu ((UpgradeAck.drops_iff hfit hc hu hx).1 hdrops)⟩
  | upgradeConfirm m =>
    obtain rfl := eq_of_drops (UpgradeConfirm.turn hfit hv hx) hc hin hdrops
    obtain ⟨-, -, -, -, -, ⟨u, hu⟩, -⟩ := UpgradeConfirm.validate_eq_ok.1 hv
    exact ⟨_, .mismatched rfl hu ((UpgradeConfirm.drops_iff hfit.hostEq hc hu hx).1 hdrops)⟩
  | upgradeOpen m =>
    obtain rfl := eq_of_drops (UpgradeOpen.turn hfit hv hx) hc hin hdrops
    obtain ⟨u, w, -, -, hw⟩ := UpgradeOpen.writes hc hx
    exact absurd hdrops (hw.not_drops_of_commit (List.mem_singleton.2 rfl) rfl)
  | upgradeCancel m =>
    obtain rfl := eq_of_drops (UpgradeCancel.turn hfit hv hx) hc hin hdrops
    exact ⟨_, .cancelled rfl⟩
  | upgradeExpire m =>
    obtain rfl := eq_of_drops (UpgradeExpire.turn hfit hv hx) hc hin hdrops
    exact ⟨_, .expired rfl⟩

end

end Message

end ChannelLayer
