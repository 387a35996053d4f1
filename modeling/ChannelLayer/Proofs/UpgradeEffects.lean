import ChannelLayer.Proofs.Effects
import ChannelLayer.Proofs.Orders

/-!
# The turn that an upgrade message takes

As `ChannelLayer.Proofs.Effects`, for the messages that propose, settle and conclude an upgrade. With
them, `Message.turn` says of every message that it has one end take one turn.
-/

set_option autoImplicit false

namespace ChannelLayer.Message

variable [Digest] {v : View} {host : Host} {s : Store} {app : App} {l' : Ledger}

/-! ## Proposing and answering an upgrade -/

omit [Digest] in
theorem checkProposal_eq_ok {f : UpgradeFields} {c : ChannelEnd} {u : Unit} :
    s.checkProposal f c = .ok u ↔ f ≠ c.fields ∧ f.check = .ok () ∧
      ∃ hop, f.hops.head? = some hop ∧ ∃ conn, s.openConnection hop = .ok conn := by
  simp [Store.checkProposal]

omit [Digest] in
theorem connectionMismatch?_eq_none {f g : UpgradeFields} (hv : v.connections = s.connections) :
    s.connectionMismatch? f g = .ok none ↔ v.hopsFace f g := by
  simp only [Store.connectionMismatch?, View.hopsFace, View.faces, bind_eq_ok, firstHop_eq_ok,
    Store.connection_eq_ok, pure_eq_ok, hv]
  constructor
  · rintro ⟨hop, hhop, conn, hconn, remoteHop, hremote, hface⟩
    exact ⟨hop, remoteHop, hhop, hremote, conn, hconn, by simpa using hface⟩
  · rintro ⟨hop, remoteHop, hhop, hremote, conn, hconn, hface⟩
    exact ⟨hop, hhop, conn, hconn, remoteHop, hremote, by simpa using hface⟩

omit [Digest] in
theorem upgradeElapsed?_eq_none {t : UpgradeTimeout} :
    host.upgradeElapsed? t = none ↔ t.hasElapsed host.height host.time = false := by
  simp [Host.upgradeElapsed?]

theorem UpgradeInit.turn {m : UpgradeInit} (hfit : v.Fits host s (.upgradeInit m))
    (hv : m.validate s app = .ok ())
    (hx : m.execute ⟨s, app⟩ = .ok () l') : Ledger.TakesTurn v m.id ⟨s, app⟩ l' := by
  obtain ⟨-, -, c, hc, hopen, -⟩ := UpgradeInit.validate_eq_ok.1 hv
  simp [execute, and_assoc, hc] at hx
  obtain ⟨extras, version, -, hproposal, rfl⟩ := hx
  obtain ⟨hnew, hcheck, hop, hhop, conn, hconn⟩ := checkProposal_eq_ok.1 hproposal
  obtain ⟨hconn, -⟩ := Store.openConnection_eq_ok.1 hconn
  obtain ⟨horder, hhops, -⟩ := UpgradeFields.check_eq_ok.1 hcheck
  refine ⟨_, _, ((((((Ledger.Writes.refl _ _).update _).update _).log _).report _).addExtras _), ?_⟩
  exact .proposed hc hopen hnew hhops (hfit.deadline _ (List.mem_singleton_self _)) horder
    ⟨_, hfit.delivered, rfl⟩ ⟨hop, conn, hhop, by rwa [hfit.connectionsEq]⟩

/-- What a message about an upgrade proves of the other end. -/
theorem mirrors_of {m : Message} {id remote : EndId} {c expected : ChannelEnd} {hop : ConnectionId}
    {conn : ConnectionEnd} {state : ChannelState} {n : UInt64} {proof : Bytes} {h : Height}
    (hfit : v.Fits host s m) (hhop : c.hops.head? = some hop)
    (hconn : s.connections.get? hop = some conn)
    (hexpected : c.expectedRemote id conn state n = .ok expected)
    (hmem : conn.claimEnd proof h remote expected ∈ m.evidence s)
    (hverified : (conn.claimEnd proof h remote expected).Verified) :
    v.mirrors h id c remote state n := by
  obtain ⟨remoteHop, hremote, rfl, -⟩ := ChannelEnd.expectedRemote_eq_ok.1 hexpected
  exact ⟨hop, remoteHop, hhop, ⟨conn, by rwa [hfit.connectionsEq], hremote⟩,
    hfit.shown _ hmem hverified⟩

omit [Digest] in
/-- What is left of the verdicts once the own proposal is neither ahead nor the same. -/
theorem theirs_of {verdict : Precedence} (hours : verdict ≠ .ours) (htie : verdict ≠ .tie) :
    verdict = .theirs := by
  cases verdict <;> simp_all

omit [Digest] in
/-- What is checked last of a proposal and of an answer. -/
theorem faces_in_time_eq_none {f g : UpgradeFields} {t : UpgradeTimeout}
    (hv : v.connections = s.connections) :
    ((do match ← s.connectionMismatch? f g with
      | some e => return some e
      | none => return host.upgradeElapsed? t) : Except HandlerError (Option UpgradeError)) = .ok none ↔
      v.hopsFace f g ∧ t.hasElapsed host.height host.time = false := by
  rw [← connectionMismatch?_eq_none hv, ← upgradeElapsed?_eq_none, bind_eq_ok]
  constructor
  · rintro ⟨mismatch, hmismatch, h⟩
    cases mismatch with
    | some e => simp at h
    | none => exact ⟨hmismatch, by simpa using h⟩
  · rintro ⟨hmismatch, htime⟩
    exact ⟨none, hmismatch, by simp [htime]⟩

omit [Digest] in
theorem UpgradeTry.incompatibility?_eq_none {m : UpgradeTry} {crossing : Bool}
    (hv : v.connections = s.connections) : m.incompatibility? host s crossing = .ok none ↔
      (crossing = true → ∃ u, (s.record m.id).upgrade = some u ∧ u.fields.order = m.fields.order) ∧
      v.hopsFace m.fields m.counterpartyFields ∧
      m.counterpartyTimeout.hasElapsed host.height host.time = false := by
  rw [← faces_in_time_eq_none hv]
  cases crossing with
  | false =>
    simp only [Bool.false_eq_true, false_implies, true_and]
    exact Iff.rfl
  | true =>
    simp only [incompatibility?, if_true, bind_eq_ok, Store.upgrade_eq_ok, forall_const]
    constructor
    · rintro ⟨u, hu, h⟩
      split at h
      · simp at h
      · exact ⟨⟨u, hu, Decidable.not_not.1 ‹_›⟩, bind_eq_ok.1 h⟩
    · rintro ⟨⟨u, hu, horder⟩, h⟩
      refine ⟨u, hu, ?_⟩
      rw [if_neg (not_not_intro horder)]
      exact bind_eq_ok.2 h

omit [Digest] in
theorem App.upgradeTry_eq_ok {a : App} {f : UpgradeFields} {extras : Extras} {version : Version}
    (ha : a.isSample = true) (h : a.upgradeTry f = .ok (extras, version)) : version = f.version := by
  cases a with
  | dummy d =>
    simp only [App.upgradeTry, bind_eq_ok, pure_eq_ok, Prod.mk.injEq] at h
    obtain ⟨-, -, -, rfl⟩ := h
    rfl
  | accountHost d =>
    simp only [App.upgradeTry, bind_eq_ok, pure_eq_ok, Prod.mk.injEq] at h
    obtain ⟨-, -, -, rfl⟩ := h
    rfl
  | scripted d => simp [App.isSample] at ha

/-- An end that already was at sequence `n` or below gives up at `n`. -/
theorem giveUp_turn {l l' : Ledger} {id : EndId} {c : ChannelEnd} {n : UInt64}
    (hc : (l.store.record id).channel = some c)
    (hstate : (c.state.isUpgrading = true ∨ (l.store.record id).upgrade ≠ none) ∧
        c.upgradeSequence ≤ n ∨ c.state = .opened ∧ c.upgradeSequence < n)
    (hexcuse : c.state = .flushComplete →
      n = c.upgradeSequence ∧ v.Excuses id (l.store.record id) c)
    (hgives : l.GivesUp l' id (l.store.record id) { c with upgradeSequence := n }) :
    Ledger.TakesTurn v id l l' := by
  obtain ⟨e, hw⟩ := hgives
  exact ⟨_, _, hw, .gaveUp hc (.inl rfl) hstate hexcuse⟩

omit [Digest] in
/-- An end that goes along with a proposal notes from where its sending goes on. -/
theorem UpgradeTry.accept_writes {m : UpgradeTry} {c : ChannelEnd} {extras : Extras} {version : Version}
    (hx : m.accept c extras version ⟨s, app⟩ = .ok () l') :
    ∃ nextSend, (s.record m.id).nextSend = some nextSend ∧
      Ledger.Writes ⟨s, app⟩ l' m.id
        { s.record m.id with
          channel := some (answered c)
          upgrade := some ⟨{ m.fields with version }, m.counterpartyTimeout, nextSend⟩ } [] := by
  simp [accept, and_assoc] at hx
  obtain ⟨nextSend, hnext, rfl⟩ := hx
  exact ⟨nextSend, hnext, (((((Ledger.Writes.refl _ _).update _).update _).log _).report _).addExtras _⟩

theorem UpgradeTry.accept_turn {m : UpgradeTry} {c : ChannelEnd} {remote : EndId} {extras : Extras}
    (hc : (s.record m.id).channel = some c) (hto : c.remote = .ofEnd remote)
    (hstate : c.state = .opened ∧ c.upgradeSequence < m.counterpartySequence ∨
      c.state = .initUpgrade ∧ ∃ own, (s.record m.id).upgrade = some own ∧
        upgradePrecedence ⟨c.upgradeSequence, own.fields, m.id⟩
          ⟨m.counterpartySequence, m.counterpartyFields, remote⟩ = .theirs)
    (hend : v.mirrors m.proofHeight m.id c remote .initUpgrade m.counterpartySequence)
    (hupgrade : v.holdsUpgrade m.proofHeight remote
      ⟨m.counterpartyFields, m.counterpartyTimeout, .zero⟩)
    (hhops : m.hops.length = 1) (hface : v.hopsFace m.fields m.counterpartyFields)
    (hdeadline : v.deadline m.counterpartyTimeout)
    (htime : m.counterpartyTimeout.hasElapsed v.host.height v.host.time = false)
    (horder : m.counterpartyFields.order ≠ .unspecified) (hasked : v.upgrading m.id)
    (hx : m.accept { c with upgradeSequence := m.counterpartySequence } extras m.fields.version
      ⟨s, app⟩ = .ok () l') : Ledger.TakesTurn v m.id ⟨s, app⟩ l' := by
  obtain ⟨nextSend, hnext, hw⟩ := accept_writes hx
  refine ⟨_, _, hw, ?_⟩
  exact .answered (c := c) (p := ⟨m.counterpartyFields, m.counterpartyTimeout, .zero⟩) hc hto hstate hend
    hupgrade hhops hface hdeadline htime hnext horder hasked

omit [Digest] in
/-- An end answers from its old fields at a lower sequence, or drops a proposal that goes second. -/
theorem UpgradeTry.standing_of {m : UpgradeTry} {c : ChannelEnd} {remote : EndId}
    {verdict : Option Precedence} (hstate : c.state = .opened ∨ c.state = .initUpgrade)
    (hto : c.remote = .ofEnd remote) (hverdict : m.crossing? s c = .ok verdict)
    (hours : verdict ≠ some .ours) (htie : verdict ≠ some .tie)
    (hnewer : ¬(¬c.state = .initUpgrade ∧ m.counterpartySequence ≤ c.upgradeSequence)) :
    c.state = .opened ∧ c.upgradeSequence < m.counterpartySequence ∨
      c.state = .initUpgrade ∧ ∃ own, (s.record m.id).upgrade = some own ∧
        upgradePrecedence ⟨c.upgradeSequence, own.fields, m.id⟩
          ⟨m.counterpartySequence, m.counterpartyFields, remote⟩ = .theirs := by
  rcases crossing?_eq_ok.1 hverdict with ⟨hinit, -⟩ | ⟨hinit, own, hown, remote', hto', rfl⟩
  · exact .inl ⟨hstate.resolve_right hinit, UInt64.not_le.1 fun h => hnewer ⟨hinit, h⟩⟩
  · obtain rfl : remote' = remote := by
      rw [← ChannelEnd.remote?_eq_some] at hto hto'
      exact Option.some.inj (hto'.symm.trans hto)
    exact .inr ⟨hinit, own, hown, theirs_of (by simpa using hours) (by simpa using htie)⟩

omit [Digest] in
theorem giveUp_of_standing {c : ChannelEnd} {own? : Option Upgrade} {id remote : EndId}
    {f : UpgradeFields} {n : UInt64} {p : Prop}
    (h : c.state = .opened ∧ c.upgradeSequence < n ∨ c.state = .initUpgrade ∧
      ∃ own, own? = some own ∧
        upgradePrecedence ⟨c.upgradeSequence, own.fields, id⟩ ⟨n, f, remote⟩ = .theirs) :
    (c.state.isUpgrading = true ∨ p) ∧ c.upgradeSequence ≤ n ∨
      c.state = .opened ∧ c.upgradeSequence < n := by
  rcases h with h | ⟨hinit, own, -, htheirs⟩
  · exact .inr h
  · exact .inl ⟨.inl (by simp [hinit, ChannelState.isUpgrading]), sequence_le_of_theirs htheirs⟩

/-- What an end that is `c` makes of the proposal `m`: it refuses one that is outdated, gives its attempt up, or
answers where nothing stands in the way. -/
inductive UpgradeTry.Outcome (m : UpgradeTry) (host : Host) (s : Store) (app : App) (c : ChannelEnd)
    (l' : Ledger) : Prop
  | refused (hinit : c.state ≠ .initUpgrade) (hle : m.counterpartySequence ≤ c.upgradeSequence)
      (hx : Exec.writeReceipt m.id c (.outdated c.upgradeSequence m.counterpartySequence) ⟨s, app⟩ =
        .ok () l') : Outcome m host s app c l'
  | tied (hverdict : m.crossing? s c = .ok (some .tie))
      (hx : Exec.abortUpgrade m.id c (.indistinguishable c.upgradeSequence) ⟨s, app⟩ = .ok () l') :
      Outcome m host s app c l'
  | gaveUp {verdict : Option Precedence} {e : UpgradeError}
      (hnewer : ¬(c.state ≠ .initUpgrade ∧ m.counterpartySequence ≤ c.upgradeSequence))
      (hverdict : m.crossing? s c = .ok verdict) (htie : verdict ≠ some .tie)
      (hobjects : m.incompatibility? host s (c.state = .initUpgrade) ≠ .ok none ∨
        ∃ refusal, app.upgradeTry m.fields = .error refusal)
      (hx : Exec.abortUpgrade m.id { c with upgradeSequence := m.counterpartySequence } e ⟨s, app⟩ =
        .ok () l') : Outcome m host s app c l'
  | answered {verdict : Option Precedence} {extras : Extras} {version : Version}
      (hnewer : ¬(c.state ≠ .initUpgrade ∧ m.counterpartySequence ≤ c.upgradeSequence))
      (hverdict : m.crossing? s c = .ok verdict) (htie : verdict ≠ some .tie)
      (hcause : m.incompatibility? host s (c.state = .initUpgrade) = .ok none)
      (hreply : app.upgradeTry m.fields = .ok (extras, version))
      (hx : m.accept { c with upgradeSequence := m.counterpartySequence } extras version ⟨s, app⟩ =
        .ok () l') : Outcome m host s app c l'

omit [Digest] in
theorem UpgradeTry.outcome {m : UpgradeTry} {c : ChannelEnd} (hc : (s.record m.id).channel = some c)
    (hx : m.execute host ⟨s, app⟩ = .ok () l') : m.Outcome host s app c l' := by
  simp only [execute, run_bind_eq_ok, Exec.store_eq_ok, run_lift_eq_ok, Store.channel_eq_ok, hc, liftM,
    MonadLiftT.monadLift, Option.some.injEq, and_assoc, exists_and_left, exists_eq_left',
    Bool.and_eq_true, Bool.not_eq_true', decide_eq_true_eq, decide_eq_false_iff_not] at hx
  split at hx
  · rename_i houtdated
    exact .refused houtdated.1 houtdated.2 hx
  · rename_i hnewer
    simp only [run_bind_eq_ok, Exec.store_eq_ok, run_lift_eq_ok, and_assoc, exists_and_left,
      exists_eq_left'] at hx
    obtain ⟨verdict, hverdict, hx⟩ := hx
    split at hx
    · rename_i htie
      exact .tied (htie ▸ hverdict) hx
    · rename_i htie
      simp only [run_bind_eq_ok, Exec.store_eq_ok, run_lift_eq_ok, and_assoc, exists_and_left,
        exists_eq_left'] at hx
      obtain ⟨cause, hcause, hx⟩ := hx
      cases cause with
      | some e => exact .gaveUp hnewer hverdict htie (.inl (by rw [hcause]; simp)) hx
      | none =>
        simp only [run_bind_eq_ok, Exec.app_eq_ok, and_assoc, exists_and_left, exists_eq_left'] at hx
        cases hreply : app.upgradeTry m.fields with
        | error e =>
          simp only [hreply] at hx
          exact .gaveUp hnewer hverdict htie (.inr ⟨e, hreply⟩) hx
        | ok reply =>
          simp only [hreply] at hx
          exact .answered hnewer hverdict htie hcause hreply hx

theorem UpgradeTry.turn {m : UpgradeTry} (happ : app.isSample = true)
    (hfit : v.Fits host s (.upgradeTry m)) (hv : m.validate host s = .ok ())
    (hx : m.execute host ⟨s, app⟩ = .ok () l') : Ledger.TakesTurn v m.id ⟨s, app⟩ l' := by
  obtain ⟨-, hcheck, c, hc, hstate, hop, hhop, conn, ⟨hconn, -⟩, -, -, -, remote, hto, verdict,
    hverdict, hours, expected, hexpected, -, ⟨-, hend⟩, -, -, hupgrade⟩ := validate_eq_ok.1 hv
  obtain ⟨hhops, hfields⟩ := check_eq_ok.1 hcheck
  obtain ⟨remoteHop, hremoteHop, heq, -⟩ := ChannelEnd.expectedRemote_eq_ok.1 hexpected
  have hjoined := Store.joined?_of hc hhop hconn
  have hremote : c.remote? = some remote := ChannelEnd.remote?_eq_some.2 hto
  have hmirrors : v.mirrors m.proofHeight m.id c remote .initUpgrade m.counterpartySequence :=
    mirrors_of hfit hhop hconn hexpected
      (by simp [evidence, evidence?, hjoined, ChannelEnd.mirror?, hremoteHop, hremote, heq]) hend
  have hshown := hfit.shown _
    (by simp [evidence, evidence?, hjoined, ChannelEnd.mirror?, hremoteHop, hremote])
    hupgrade
  have hstanding {verdict' : Option Precedence} (hverdict' : m.crossing? s c = .ok verdict')
      (htie : verdict' ≠ some .tie)
      (hnewer : ¬(c.state ≠ .initUpgrade ∧ m.counterpartySequence ≤ c.upgradeSequence)) := by
    obtain rfl := Except.ok.inj (hverdict.symm.trans hverdict')
    exact standing_of hstate hto hverdict hours htie hnewer
  cases UpgradeTry.outcome hc hx with
  | refused hinit hle hx =>
    have hopen : c.state = .opened := hstate.resolve_right hinit
    have hw := (Ledger.Writes.refl ⟨s, app⟩ m.id).writeReceipt hx
    rw [hopen] at hw
    exact ⟨_, _, hw, .refused hc hopen⟩
  | tied htie hx =>
    have hinit : c.state = .initUpgrade := by
      rcases crossing?_eq_ok.1 htie with ⟨-, h⟩ | ⟨hinit, -⟩
      · cases h
      · exact hinit
    refine giveUp_turn (c := c) (n := c.upgradeSequence) hc (.inl ⟨.inl ?_, UInt64.le_refl _⟩) ?_
      (Ledger.givesUp_of_abortUpgrade hx)
    · simp [hinit, ChannelState.isUpgrading]
    · simp [hinit]
  | gaveUp hnewer hverdict' htie hobjects hx =>
    refine giveUp_turn hc (giveUp_of_standing (hstanding hverdict' htie hnewer)) (fun hflushed => ?_)
      (Ledger.givesUp_of_abortUpgrade hx)
    simp [hflushed] at hstate
  | answered hnewer hverdict' htie hcause hreply hx =>
    obtain ⟨-, hface, htime⟩ := (incompatibility?_eq_none hfit.connectionsEq).1 hcause
    obtain rfl := App.upgradeTry_eq_ok happ hreply
    refine accept_turn hc hto (hstanding hverdict' htie hnewer) hmirrors hshown hhops hface
      (hfit.deadline _ (List.mem_singleton_self _)) ?_ (UpgradeFields.check_eq_ok.1 hfields).1
      ⟨_, hfit.delivered, rfl⟩ hx
    rwa [hfit.hostEq]

/-! ## Settling an upgrade -/

omit [Digest] in
theorem UpgradeAck.incompatibility?_eq_none {m : UpgradeAck} {u : Upgrade}
    (hv : v.connections = s.connections) : m.incompatibility? host s u = .ok none ↔
      u.fields.order = m.counterpartyUpgrade.fields.order ∧
      v.hopsFace u.fields m.counterpartyUpgrade.fields ∧
      m.counterpartyUpgrade.timeout.hasElapsed host.height host.time = false := by
  rw [← faces_in_time_eq_none hv]
  by_cases horder : u.fields.order = m.counterpartyUpgrade.fields.order
  · rw [and_iff_right horder]
    refine iff_of_eq (congrArg (fun cause : Except HandlerError (Option UpgradeError) => cause = .ok none) ?_)
    exact if_neg (not_not_intro horder)
  · simp [incompatibility?, horder]

/-- What an end that is `c` and has proposed `u` makes of the answer `m`: it gives its attempt up, or takes the
answer over where nothing stands in the way. -/
inductive UpgradeAck.Outcome (m : UpgradeAck) (host : Host) (s : Store) (app : App) (c : ChannelEnd)
    (u : Upgrade) (l' : Ledger) : Prop
  | gaveUp {e : UpgradeError}
      (hobjects : m.incompatibility? host s u ≠ .ok none ∨ ∃ refusal, app.upgradeAck = .error refusal)
      (hx : Exec.abortUpgrade m.id c e ⟨s, app⟩ = .ok () l') : Outcome m host s app c u l'
  | accepted {extras : Extras} (hcause : m.incompatibility? host s u = .ok none)
      (hreply : app.upgradeAck = .ok extras) (hx : m.accept c u extras ⟨s, app⟩ = .ok () l') :
      Outcome m host s app c u l'

omit [Digest] in
theorem UpgradeAck.outcome {m : UpgradeAck} {c : ChannelEnd} {u : Upgrade}
    (hc : (s.record m.id).channel = some c) (hu : (s.record m.id).upgrade = some u)
    (hx : m.execute host ⟨s, app⟩ = .ok () l') : m.Outcome host s app c u l' := by
  simp only [execute, run_bind_eq_ok, Exec.store_eq_ok, run_lift_eq_ok, Store.channel_eq_ok, hc,
    Store.upgrade_eq_ok, hu, liftM, MonadLiftT.monadLift, Option.some.injEq, and_assoc,
    exists_and_left, exists_eq_left'] at hx
  obtain ⟨cause, hcause, hx⟩ := hx
  cases cause with
  | some e => exact .gaveUp (.inl (by rw [hcause]; simp)) hx
  | none =>
    simp only [run_bind_eq_ok, Exec.app_eq_ok, and_assoc, exists_and_left, exists_eq_left'] at hx
    cases hreply : app.upgradeAck with
    | error e =>
      simp only [hreply] at hx
      exact .gaveUp (.inr ⟨e, hreply⟩) hx
    | ok extras =>
      simp only [hreply] at hx
      exact .accepted hcause hreply hx

omit [Digest] in
/-- An end that goes along with an answer stops sending. -/
theorem UpgradeAck.accept_writes {m : UpgradeAck} {c : ChannelEnd} {u : Upgrade} {extras : Extras}
    (hx : m.accept c u extras ⟨s, app⟩ = .ok () l') :
    ∃ nextSend, (s.record m.id).nextSend = some nextSend ∧
      Ledger.Writes ⟨s, app⟩ l' m.id
        { s.record m.id with
          channel := some { c with state := (s.record m.id).flushState }
          upgrade := some (m.settled u nextSend)
          counterpartyUpgrade := some m.counterpartyUpgrade } [] := by
  simp [accept, and_assoc] at hx
  obtain ⟨nextSend, hnext, rfl⟩ := hx
  refine ⟨nextSend, hnext, ?_⟩
  have hstop : (((s.setUpgrade m.id (m.settled u nextSend)).setCounterpartyUpgrade m.id
      m.counterpartyUpgrade).flushState m.id) = (s.record m.id).flushState := by
    simp [Store.flushState, Store.isFlushed, Store.setUpgrade, Store.setCounterpartyUpgrade,
      ChannelRecord.flushState]
  simp only [hstop]
  exact (((((Ledger.Writes.refl _ _).update _).update _).update _).log _).report _ |>.addExtras _

theorem UpgradeAck.turn {m : UpgradeAck} (hfit : v.Fits host s (.upgradeAck m))
    (hv : m.validate host s = .ok ()) (hx : m.execute host ⟨s, app⟩ = .ok () l') :
    Ledger.TakesTurn v m.id ⟨s, app⟩ l' := by
  obtain ⟨-, c, hc, hstate, ⟨u, hu⟩, -, hop, hhop, conn, ⟨hconn, -⟩, remote, hto, expected, hexpected,
    -, ⟨-, hend⟩, -, -, hupgrade⟩ := validate_eq_ok.1 hv
  obtain ⟨remoteHop, hremoteHop, heq, -⟩ := ChannelEnd.expectedRemote_eq_ok.1 hexpected
  have hjoined := Store.joined?_of hc hhop hconn
  have hremote : c.remote? = some remote := ChannelEnd.remote?_eq_some.2 hto
  have hmirrors : v.mirrors m.proofHeight m.id c remote .tryUpgrade c.upgradeSequence :=
    mirrors_of hfit hhop hconn hexpected
      (by simp [evidence, evidence?, hjoined, ChannelEnd.mirror?, hremoteHop, hremote, heq]) hend
  have hshown := hfit.shown _
    (by simp [evidence, evidence?, hjoined, ChannelEnd.mirror?, hremoteHop, hremote]) hupgrade
  cases UpgradeAck.outcome hc hu hx with
  | gaveUp hobjects hx =>
    exact giveUp_turn hc (.inl ⟨.inl (by simp [hstate, ChannelState.isUpgrading]), UInt64.le_refl _⟩)
      (by simp [hstate]) (Ledger.givesUp_of_abortUpgrade hx)
  | accepted hcause hreply hx =>
    obtain ⟨horder, hface, htime⟩ := (incompatibility?_eq_none hfit.connectionsEq).1 hcause
    obtain ⟨nextSend, hnext, hw⟩ := accept_writes hx
    exact ⟨_, _, hw, .acked hc hto hstate hu hmirrors hshown horder hface
      (hfit.deadline _ (List.mem_singleton_self _)) (by rwa [hfit.hostEq]) hnext⟩

omit [Digest] in
/-- A commit replaces the end and its upgrades, so it does not matter that the end stopped sending just
before. -/
theorem commit_stopped (r : ChannelRecord) {c : ChannelEnd} {c' : Option ChannelEnd} {u w : Upgrade}
    {w' : Option Upgrade} {state : ChannelState} :
    ({ r with channel := c', counterpartyUpgrade := w' } : ChannelRecord).commit { c with state } u w =
      r.commit c u w := by
  simp only [ChannelRecord.commit, ChannelRecord.resumeCounting]
  split <;> rfl

omit [Digest] in
/-- An end stops sending, which may be the last step of the attempt, where no packet is in flight either way. -/
theorem UpgradeConfirm.accept_writes {m : UpgradeConfirm} {c : ChannelEnd} {u : Upgrade}
    (hu : (s.record m.id).upgrade = some u) (hx : m.accept c u ⟨s, app⟩ = .ok () l') :
    Ledger.Writes ⟨s, app⟩ l' m.id
        { s.record m.id with
          channel := some { c with state := (s.record m.id).flushState }
          counterpartyUpgrade := some m.counterpartyUpgrade } [] ∨
      ((s.record m.id).flushState = .flushComplete ∧ m.counterpartyState = .flushComplete) ∧
        Ledger.Writes ⟨s, app⟩ l' m.id ((s.record m.id).commit c u m.counterpartyUpgrade)
          [.upgrade .opened (.ofEnd m.id (c.upgraded u.fields)) u.fields] := by
  have hstop : (s.setCounterpartyUpgrade m.id m.counterpartyUpgrade).flushState m.id =
      (s.record m.id).flushState := by
    simp [Store.flushState, Store.isFlushed, Store.setCounterpartyUpgrade, ChannelRecord.flushState]
  simp only [accept, run_bind_eq_ok, Exec.update_eq_ok, Exec.store_eq_ok, Exec.setChannel_eq_ok,
    Exec.log_eq_ok, Exec.report_eq_ok, exists_const, and_assoc, exists_and_left, exists_eq_left',
    hstop] at hx
  have hw := (((((Ledger.Writes.refl ⟨s, app⟩ m.id).update fun r =>
    { r with counterpartyUpgrade := some m.counterpartyUpgrade }).update fun r =>
    { r with channel := some { c with state := (s.record m.id).flushState } }).log
      "success: channel upgrade confirm").report (.upgrade .confirm
        (.ofEnd m.id { c with state := (s.record m.id).flushState }) u.fields))
  split at hx
  · rename_i hlast
    obtain ⟨u', w, hu', hw', hw⟩ := hw.commitUpgrade hx
    obtain rfl : u = u' := Option.some.inj (hu.symm.trans hu')
    obtain rfl : m.counterpartyUpgrade = w := Option.some.inj hw'
    rw [commit_stopped (s.record m.id)] at hw
    exact .inr ⟨hlast, hw⟩
  · simp only [run_pure_eq_ok, true_and] at hx
    exact .inl (hx ▸ hw)

theorem UpgradeConfirm.accept_turn {m : UpgradeConfirm} {c : ChannelEnd} {u : Upgrade}
    {remote : EndId} (hc : (s.record m.id).channel = some c) (hto : c.remote = .ofEnd remote)
    (hstate : c.state = .tryUpgrade) (hu : (s.record m.id).upgrade = some u)
    (htheirs : m.counterpartyState = .flushing ∨ m.counterpartyState = .flushComplete)
    (hend : v.mirrors m.proofHeight m.id c remote m.counterpartyState c.upgradeSequence)
    (hupgrade : v.holdsUpgrade m.proofHeight remote m.counterpartyUpgrade)
    (horder : m.counterpartyUpgrade.fields.order = u.fields.order)
    (hversion : m.counterpartyUpgrade.fields.version = u.fields.version)
    (hdeadline : v.deadline m.counterpartyUpgrade.timeout)
    (htime : m.counterpartyUpgrade.timeout.hasElapsed v.host.height v.host.time = false)
    (hasked : v.committing m.id) (hx : m.accept c u ⟨s, app⟩ = .ok () l') :
    Ledger.TakesTurn v m.id ⟨s, app⟩ l' := by
  rcases UpgradeConfirm.accept_writes hu hx with hw | ⟨⟨hflushed, htheirs⟩, hw⟩
  · exact ⟨_, _, hw, .confirmed hc hto hstate hu htheirs hend hupgrade horder hversion hdeadline
      htime⟩
  · have hempty : (s.record m.id).commitments.isEmpty = true := by
      rw [ChannelRecord.flushState] at hflushed
      split at hflushed
      · assumption
      · cases hflushed
    rw [htheirs] at hend
    exact ⟨_, _, hw,
      .confirmedLast hc hto hstate hu hend hupgrade horder hversion hdeadline htime hempty hasked⟩

omit [Digest] in
theorem UpgradeConfirm.incompatibility?_eq_none {m : UpgradeConfirm} {u : Upgrade} :
    m.incompatibility? host u = none ↔
      (m.counterpartyUpgrade.fields.order = u.fields.order ∧
        m.counterpartyUpgrade.fields.version = u.fields.version) ∧
      m.counterpartyUpgrade.timeout.hasElapsed host.height host.time = false := by
  simp only [incompatibility?]
  split
  · rename_i hmismatch
    simp only [reduceCtorEq, false_iff]
    rintro ⟨⟨horder, hversion⟩, -⟩
    exact hmismatch.elim (· horder) (· hversion)
  · rename_i hmatch
    rw [not_or, Decidable.not_not, Decidable.not_not] at hmatch
    rw [upgradeElapsed?_eq_none, and_iff_right hmatch]

/-- What an end that is `c` and has answered with `u` makes of what the other end has settled on: it gives its
attempt up, or stops sending where nothing stands in the way. -/
inductive UpgradeConfirm.Outcome (m : UpgradeConfirm) (host : Host) (s : Store) (app : App) (c : ChannelEnd)
    (u : Upgrade) (l' : Ledger) : Prop
  | gaveUp {e : UpgradeError} (hobjects : m.incompatibility? host u ≠ none)
      (hx : Exec.abortUpgrade m.id c e ⟨s, app⟩ = .ok () l') : Outcome m host s app c u l'
  | accepted (hcause : m.incompatibility? host u = none) (hx : m.accept c u ⟨s, app⟩ = .ok () l') :
      Outcome m host s app c u l'

omit [Digest] in
theorem UpgradeConfirm.outcome {m : UpgradeConfirm} {c : ChannelEnd} {u : Upgrade}
    (hc : (s.record m.id).channel = some c) (hu : (s.record m.id).upgrade = some u)
    (hx : m.execute host ⟨s, app⟩ = .ok () l') : m.Outcome host s app c u l' := by
  simp only [execute, run_bind_eq_ok, Exec.store_eq_ok, run_lift_eq_ok, Store.channel_eq_ok, hc,
    Store.upgrade_eq_ok, hu, liftM, MonadLiftT.monadLift, Option.some.injEq, and_assoc,
    exists_and_left, exists_eq_left'] at hx
  cases hcause : m.incompatibility? host u with
  | some e =>
    simp only [hcause] at hx
    exact .gaveUp (by rw [hcause]; simp) hx
  | none =>
    simp only [hcause] at hx
    exact .accepted hcause hx

theorem UpgradeConfirm.turn {m : UpgradeConfirm} (hfit : v.Fits host s (.upgradeConfirm m))
    (hv : m.validate host s = .ok ()) (hx : m.execute host ⟨s, app⟩ = .ok () l') :
    Ledger.TakesTurn v m.id ⟨s, app⟩ l' := by
  obtain ⟨-, c, hc, hstate, htheirs, ⟨u, hu⟩, hop, hhop, conn, ⟨hconn, -⟩, remote, hto, expected,
    hexpected, -, ⟨-, hend⟩, -, -, hupgrade⟩ := validate_eq_ok.1 hv
  obtain ⟨remoteHop, hremoteHop, heq, -⟩ := ChannelEnd.expectedRemote_eq_ok.1 hexpected
  have hjoined := Store.joined?_of hc hhop hconn
  have hremote : c.remote? = some remote := ChannelEnd.remote?_eq_some.2 hto
  have hmirrors : v.mirrors m.proofHeight m.id c remote m.counterpartyState c.upgradeSequence :=
    mirrors_of hfit hhop hconn hexpected
      (by simp [evidence, evidence?, hjoined, ChannelEnd.mirror?, hremoteHop, hremote, heq]) hend
  have hshown := hfit.shown _
    (by simp [evidence, evidence?, hjoined, ChannelEnd.mirror?, hremoteHop, hremote]) hupgrade
  cases UpgradeConfirm.outcome hc hu hx with
  | gaveUp hobjects hx =>
    refine giveUp_turn hc (.inl ⟨.inl ?_, UInt64.le_refl _⟩) ?_ (Ledger.givesUp_of_abortUpgrade hx)
    · simp [hstate, ChannelState.isUpgrading]
    · simp [hstate]
  | accepted hcause hx =>
    obtain ⟨⟨horder, hversion⟩, htime⟩ := incompatibility?_eq_none.1 hcause
    exact accept_turn hc hto hstate hu htheirs hmirrors hshown horder hversion
      (hfit.deadline _ (List.mem_singleton_self _)) (by rwa [hfit.hostEq]) ⟨_, hfit.delivered, rfl⟩ hx

/-! ## Concluding an upgrade -/

omit [Digest] in
/-- An end that concludes its attempt runs the fields of its upgrade and tells of it. -/
theorem UpgradeOpen.writes {m : UpgradeOpen} {c : ChannelEnd} (hc : (s.record m.id).channel = some c)
    (hx : m.execute ⟨s, app⟩ = .ok () l') :
    ∃ u w, (s.record m.id).upgrade = some u ∧ (s.record m.id).counterpartyUpgrade = some w ∧
      Ledger.Writes ⟨s, app⟩ l' m.id ((s.record m.id).commit c u w)
        [.upgrade .opened (.ofEnd m.id (c.upgraded u.fields)) u.fields] := by
  simp only [execute, run_bind_eq_ok, Exec.store_eq_ok, run_lift_eq_ok, Store.channel_eq_ok, hc,
    liftM, MonadLiftT.monadLift, Option.some.injEq, and_assoc, exists_and_left,
    exists_eq_left'] at hx
  exact (Ledger.Writes.refl _ _).commitUpgrade hx

theorem UpgradeOpen.turn {m : UpgradeOpen} (hfit : v.Fits host s (.upgradeOpen m))
    (hv : m.validate host s = .ok ()) (hx : m.execute ⟨s, app⟩ = .ok () l') :
    Ledger.TakesTurn v m.id ⟨s, app⟩ l' := by
  obtain ⟨-, c, hc, hstate, u, hu, w, hw, hop, hhop, conn, ⟨hconn, -⟩, -, hdone, remote, hto, -, -,
    hverified⟩ := validate_eq_ok.1 hv
  have hjoined := Store.joined?_of hc hhop hconn
  have hremote : c.remote? = some remote := ChannelEnd.remote?_eq_some.2 hto
  have hshown := hfit.shown _ (by simp [evidence, evidence?, hjoined, hremote]) hverified
  obtain ⟨u', w', hu', hw', hwrites⟩ := UpgradeOpen.writes hc hx
  obtain rfl : u = u' := Option.some.inj (hu.symm.trans hu')
  obtain rfl : w = w' := Option.some.inj (hw.symm.trans hw')
  exact ⟨_, _, hwrites,
    .committed hc hto hstate hu hw hshown (checkCounterparty_eq_ok.1 hdone) ⟨_, hfit.delivered, rfl⟩⟩

omit [Digest] in
theorem UpgradeCancel.caughtUp_eq {m : UpgradeCancel} {c : ChannelEnd}
    (h : c.upgradeSequence ≤ m.receipt.sequence) :
    m.caughtUp c = { c with upgradeSequence := m.receipt.sequence } := by
  unfold caughtUp
  split
  · rfl
  · rename_i hlt
    rw [← UInt64.le_antisymm h (UInt64.not_lt.1 hlt)]

/-- What a cancellation rests on: a receipt of the attempt, or of a later one. -/
theorem UpgradeCancel.shown {m : UpgradeCancel} (hfit : v.Fits host s (.upgradeCancel m))
    (hv : m.validate host s = .ok ()) :
    ∃ c u remote, (s.record m.id).channel = some c ∧ (s.record m.id).upgrade = some u ∧
      c.remote = .ofEnd remote ∧ c.upgradeSequence ≤ m.receipt.sequence ∧
      (c.state = .flushComplete → m.receipt.sequence = c.upgradeSequence) ∧
      v.holdsReceipt m.proofHeight remote m.receipt := by
  obtain ⟨-, c, hc, ⟨u, hu⟩, haccepts, hop, hhop, conn, ⟨hconn, -⟩, remote, hto, -, -, hverified⟩ :=
    validate_eq_ok.1 hv
  obtain ⟨hle, hflushed⟩ := accepts_iff.1 haccepts
  have hjoined := Store.joined?_of hc hhop hconn
  have hremote : c.remote? = some remote := ChannelEnd.remote?_eq_some.2 hto
  exact ⟨c, u, remote, hc, hu, hto, hle, hflushed,
    hfit.shown _ (by simp [evidence, evidence?, hjoined, hremote]) hverified⟩

omit [Digest] in
/-- An end that is shown that the other one has given up does so too, at the sequence of the other end. -/
theorem UpgradeCancel.givesUp {m : UpgradeCancel} {c : ChannelEnd} (hc : (s.record m.id).channel = some c)
    (hx : m.execute ⟨s, app⟩ = .ok () l') :
    Ledger.GivesUp ⟨s, app⟩ l' m.id (s.record m.id) (m.caughtUp c) := by
  simp only [execute, run_bind_eq_ok, Exec.store_eq_ok, run_lift_eq_ok, Store.channel_eq_ok, hc,
    liftM, MonadLiftT.monadLift, Option.some.injEq, Exec.log_eq_ok, Exec.report_eq_ok, exists_const,
    and_assoc, exists_and_left, exists_eq_left'] at hx
  obtain ⟨_, l₁, habort, c', -, rfl⟩ := hx
  exact ⟨_, (((Ledger.Writes.refl ⟨s, app⟩ m.id).abortUpgrade habort).log
    "success: channel upgrade cancel").report (.upgradeCancelled (.ofEnd m.id c'))⟩

theorem UpgradeCancel.turn {m : UpgradeCancel} (hfit : v.Fits host s (.upgradeCancel m))
    (hv : m.validate host s = .ok ()) (hx : m.execute ⟨s, app⟩ = .ok () l') :
    Ledger.TakesTurn v m.id ⟨s, app⟩ l' := by
  obtain ⟨c, u, remote, hc, hu, hto, hle, hflushed, hshown⟩ := UpgradeCancel.shown hfit hv
  have hgives := UpgradeCancel.givesUp hc hx
  rw [caughtUp_eq hle] at hgives
  refine giveUp_turn hc (.inl ⟨.inr (by simp [hu]), hle⟩) (fun hstate => ?_) hgives
  have hseq := hflushed hstate
  refine ⟨hseq, .cancelled hto (?_ : v.holdsReceipt m.proofHeight remote ⟨_, m.receipt.message⟩)⟩
  rw [← hseq]
  exact hshown

omit [Digest] in
/-- An end whose deadline has passed where the other one is not done gives its attempt up. -/
theorem UpgradeExpire.givesUp {m : UpgradeExpire} {c : ChannelEnd} (hc : (s.record m.id).channel = some c)
    (hx : m.execute host ⟨s, app⟩ = .ok () l') : Ledger.GivesUp ⟨s, app⟩ l' m.id (s.record m.id) c := by
  simp only [execute, run_bind_eq_ok, Exec.store_eq_ok, run_lift_eq_ok, Store.channel_eq_ok, hc,
    Store.upgrade_eq_ok, liftM, MonadLiftT.monadLift, Option.some.injEq, Exec.log_eq_ok,
    Exec.report_eq_ok, firstHop_eq_ok, Store.connection_eq_ok, exists_const, and_assoc, exists_and_left,
    exists_eq_left', lift_eq_ok] at hx
  obtain ⟨u, -, hop, -, conn, -, time, -, _, l₁, habort, c', -, rfl⟩ := hx
  exact ⟨_, (((Ledger.Writes.refl ⟨s, app⟩ m.id).abortUpgrade habort).log
    "success: channel upgrade timeout").report (.upgradeTimeout (.ofEnd m.id c'))⟩

theorem UpgradeExpire.turn {m : UpgradeExpire} (hfit : v.Fits host s (.upgradeExpire m))
    (hv : m.validate host s = .ok ()) (hx : m.execute host ⟨s, app⟩ = .ok () l') :
    Ledger.TakesTurn v m.id ⟨s, app⟩ l' := by
  obtain ⟨-, c, hc, -, u, hu, hop, hhop, conn, ⟨hconn, -⟩, -, hundone, -, time, htime, helapsed,
    remote, hto, -, -, hverified⟩ := validate_eq_ok.1 hv
  have hjoined := Store.joined?_of hc hhop hconn
  have hremote : c.remote? = some remote := ChannelEnd.remote?_eq_some.2 hto
  have hshown := hfit.shown _ (by simp [evidence, evidence?, hjoined, hremote]) hverified
  have hgives := UpgradeExpire.givesUp hc hx
  have hupgrading : c.state.isUpgrading = true ∨ (s.record m.id).upgrade ≠ none := by simp [hu]
  refine giveUp_turn (c := c) hc (.inl ⟨hupgrading, UInt64.le_refl _⟩)
    (fun _ => ⟨rfl, .expired hto hu (hfit.clock _ _ _ htime) helapsed hshown fun hdone => ?_⟩) hgives
  rw [← Bool.not_eq_true, counterpartyDone_iff] at hundone
  exact hundone (.inl hdone)

/-! ## Every message -/

theorem turn {m : Message} (happ : app.isSample = true) (hfit : v.Fits host s m)
    (hanew : s.NamesAnew) (hv : m.validate host s app = .ok ())
    (hx : m.execute host ⟨s, app⟩ = .ok () l') : ∃ id, Ledger.TakesTurn v id ⟨s, app⟩ l' := by
  cases m with
  | openInit m => exact ⟨_, OpenInit.turn hfit hv hx⟩
  | openTry m => exact ⟨_, OpenTry.turn hfit hanew hv hx⟩
  | openAck m => exact ⟨_, OpenAck.turn hfit hv hx⟩
  | openConfirm m => exact ⟨_, OpenConfirm.turn hfit hv hx⟩
  | closeInit m => exact ⟨_, CloseInit.turn hv hx⟩
  | closeConfirm m => exact ⟨_, CloseConfirm.turn hv hx⟩
  | receive m => exact ⟨_, Receive.turn hfit hv hx⟩
  | acknowledge m => exact ⟨_, (Acknowledge.settles hfit hv hx).takesTurn⟩
  | timeout m => exact ⟨_, (Timeout.settles hfit hv hx).takesTurn⟩
  | timeoutOnClose m => exact ⟨_, (TimeoutOnClose.settles hfit hv hx).takesTurn⟩
  | upgradeInit m => exact ⟨_, UpgradeInit.turn hfit hv hx⟩
  | upgradeTry m => exact ⟨_, UpgradeTry.turn happ hfit hv hx⟩
  | upgradeAck m => exact ⟨_, UpgradeAck.turn hfit hv hx⟩
  | upgradeConfirm m => exact ⟨_, UpgradeConfirm.turn hfit hv hx⟩
  | upgradeOpen m => exact ⟨_, UpgradeOpen.turn hfit hv hx⟩
  | upgradeCancel m => exact ⟨_, UpgradeCancel.turn hfit hv hx⟩
  | upgradeExpire m => exact ⟨_, UpgradeExpire.turn hfit hv hx⟩

/-- A message that is for a packet in flight settles it. -/
theorem settles {m : Message} {id : EndId} {n : Sequence} (hm : m.settles? = some (id, n))
    (hfit : v.Fits host s m) (hv : m.validate host s app = .ok ())
    (hx : m.execute host ⟨s, app⟩ = .ok () l') : Ledger.Settles v id n ⟨s, app⟩ l' := by
  cases m <;> simp only [settles?, reduceCtorEq, Option.some.injEq, Prod.mk.injEq] at hm
  case acknowledge m =>
    obtain ⟨rfl, rfl⟩ := hm
    exact Acknowledge.settles hfit hv hx
  case timeout m =>
    obtain ⟨rfl, rfl⟩ := hm
    exact Timeout.settles hfit hv hx
  case timeoutOnClose m =>
    obtain ⟨rfl, rfl⟩ := hm
    exact TimeoutOnClose.settles hfit hv hx

/-- The end that a message opens gets the next name of the chain and its next handle. -/
theorem founds {m : Message} (hm : m.opens = true) (hx : m.execute host ⟨s, app⟩ = .ok () l') :
    s.Founds l'.store ⟨m.port, s.nextChannelId⟩ := by
  cases m <;> simp only [opens, Bool.false_eq_true] at hm
  case openInit m => exact OpenInit.founds hx
  case openTry m => exact OpenTry.founds hx

end ChannelLayer.Message
