import ChannelLayer.Proofs.Hops
import ChannelLayer.Proofs.Keeping

/-!
# What is accepted takes effect

Execution reads the store anew, and it asks for more than validation has looked at: the other end's upgrade
where an end goes on flushing, the counter of an end that stops sending, and the connection of an upgrade that
was proposed earlier. Each end keeps these (`ChannelRecord.Equipped`, `Course.equipped`), and with them the
execution of an accepted message goes through, handler by handler (`Message.completes`). So a message can only
fail before it has changed anything, and putting back the store alone undoes a failed one
(`Course.takes_effect_or_leaves_no_trace`). Nor does it fail for want of a hop (`ChannelLayer.Proofs.Hops`).
-/

set_option autoImplicit false

namespace ChannelLayer

/-! ## What an end keeps -/

/-- The upgrade that is kept beside an end is over one of the `connections`. -/
def ChannelRecord.Connected (r : ChannelRecord) (connections : Table ConnectionId ConnectionEnd) : Prop :=
  ∀ u, r.upgrade = some u →
    ∃ hop conn, u.fields.hops.head? = some hop ∧ connections.get? hop = some conn

/-- All that execution may ask for at an end and validation has not looked at. -/
structure ChannelRecord.Equipped (r : ChannelRecord) (connections : Table ConnectionId ConnectionEnd) :
    Prop where
  flushing : ∀ c, r.channel = some c → c.state = .flushing → ∃ w, r.counterpartyUpgrade = some w
  counter : r.IsJoined → ∃ n, r.nextSend = some n
  connected : r.Connected connections

theorem Turn.connected [Digest] {v : View} {id : EndId} {r r' : ChannelRecord} {es : List Event}
    (h : Turn v id r r' es) (hr : r.Connected v.connections) : r'.Connected v.connections := by
  cases h with
  | timedOut =>
    intro u hu
    unfold ChannelRecord.close at hu
    split at hu
    · cases hu
    · exact hr u hu
  | proposed hc hopen hnew hhops hdeadline horder hasked hconnected =>
    intro u hu
    obtain rfl := Option.some.inj hu
    exact hconnected
  | answered hc hto hstate hend hupgrade hhops hface =>
    obtain ⟨hop, -, hhop, -, conn, hconn, -⟩ := hface
    intro u hu
    obtain rfl := Option.some.inj hu
    exact ⟨hop, conn, hhop, hconn⟩
  | @acked c u₀ w nextSend h remote hc hto hstate hold =>
    -- The answer settles the version, not the connection.
    intro u hu
    obtain rfl := Option.some.inj hu
    exact hr u₀ hold
  | confirmedLast => intro u hu; cases hu
  | committed => intro u hu; cases hu
  | gaveUp => intro u hu; cases hu
  | _ => exact hr

variable {host : Host} {s : Store} {app : App} {l : Ledger} {id : EndId} {c : ChannelEnd}

/-! ## Applications -/

namespace App

theorem notes_of_sample (happ : app.isSample = true) (step : Callback) : app.notes step = .ok {} := by
  cases app <;> first | rfl | cases happ

theorem settles_of_sample (happ : app.isSample = true) (step : Callback) : app.settles step = .ok {} := by
  cases app <;> first | rfl | cases happ

theorem openInit_of_check (happ : app.isSample = true) (hcheck : app.checkOpenInit = .ok ())
    (r : OpenRequest) : ∃ extras version, app.openInit r = .ok (extras, version) := by
  cases app with
  | dummy d => exact ⟨_, _, rfl⟩
  | accountHost host => cases hcheck
  | scripted script => cases happ

theorem openTry_of_check (happ : app.isSample = true) {r : OpenRequest}
    (hcheck : app.checkOpenTry r = .ok ()) :
    ∃ app' extras version, app.openTry r = .ok (app', extras, version) := by
  cases app with
  | dummy d => exact ⟨_, _, _, rfl⟩
  | accountHost host =>
    obtain ⟨owner, howner⟩ := discard_eq_ok.1 hcheck
    simp [openTry, AccountHost.openTry, howner]
  | scripted script => cases happ

/-- A sample application answers a proposal in the same way when it is checked and when it is made. -/
theorem upgradeProposal_of_sample (happ : app.isSample = true) (step step' : Callback)
    (f : UpgradeFields) : app.upgradeProposal step f = app.upgradeProposal step' f := by
  cases app <;> first | rfl | cases happ

end App

/-! ## Parts of handlers -/

namespace Exec

theorem writeReceipt_completes (l : Ledger) (id : EndId) (c : ChannelEnd) (e : UpgradeError) :
    ∃ l', writeReceipt id c e l = .ok () l' :=
  ⟨_, rfl⟩

theorem abortUpgrade_completes (l : Ledger) (id : EndId) (c : ChannelEnd) (e : UpgradeError) :
    ∃ l', abortUpgrade id c e l = .ok () l' :=
  ⟨_, rfl⟩

theorem channel_abortUpgrade {e : UpgradeError} {l' : Ledger} {u : Unit}
    (hx : abortUpgrade id c e l = .ok u l') : (l'.store.record id).channel = some c.reopened := by
  rw [((Ledger.Writes.refl l id).abortUpgrade hx).self]
  rfl

theorem addChannel_completes (l : Ledger) (id : EndId) (c : ChannelEnd)
    (hunowned : (l.store.record id).capability = none) : ∃ l', addChannel id c l = .ok () l' := by
  have hfree : ((l.store.addChannel id c).record id).capability = none := by
    show ((l.store.setChannel id c).record id).capability = none
    simp [Store.setChannel, hunowned]
  simp [addChannel, Store.claim, hfree, and_assoc]

theorem closeEnd_completes {hop : ConnectionId} (hc : (l.store.record id).channel = some c)
    (hhop : c.hops.head? = some hop) (line : String) (event : EndInfo → Event) :
    ∃ l', closeEnd id line event l = .ok () l' := by
  simp [closeEnd, hc, hhop, and_assoc]

theorem commitUpgrade_completes {u w : Upgrade} (hu : (l.store.record id).upgrade = some u)
    (hw : (l.store.record id).counterpartyUpgrade = some w) :
    ∃ l', commitUpgrade id c l = .ok () l' := by
  by_cases hresume : c.order = .unordered ∧ u.fields.order = .ordered <;>
    simp [commitUpgrade, hu, hw, hresume, and_assoc]

theorem completeFlush_completes (hc : (l.store.record id).channel = some c)
    (hw : c.state = .flushing → ∃ w, (l.store.record id).counterpartyUpgrade = some w) :
    ∃ l', completeFlush host id l = .ok () l' := by
  by_cases hstate : c.state = .flushing
  · obtain ⟨w, hw⟩ := hw hstate
    cases htime : host.upgradeElapsed? w.timeout with
    | some e =>
      obtain ⟨l', habort⟩ := abortUpgrade_completes l id c e
      simp [completeFlush, hc, hstate, hw, htime, habort, and_assoc]
    | none =>
      by_cases hflushed : l.store.isFlushed id = true <;>
        simp [completeFlush, hc, hstate, hw, htime, hflushed, and_assoc]
  · simp [completeFlush, hc, hstate, and_assoc]

theorem followUp_completes {p : Prop} [Decidable p] (hc : (l.store.record id).channel = some c)
    (hw : c.state = .flushing → ∃ w, (l.store.record id).counterpartyUpgrade = some w) :
    ∃ l', (if p then completeFlush host id else pure ()) l = .ok () l' := by
  split
  · exact completeFlush_completes hc hw
  · exact ⟨l, rfl⟩

/-- A packet that was not received in time is settled, which closes an ordered end and may let an unordered
one finish flushing. -/
theorem timeOut_completes [Digest] {p : Packet} {hop : ConnectionId} (happ : app.isSample = true)
    (hc : (s.record p.source).channel = some c) (hhop : c.hops.head? = some hop)
    (hw : c.state = .flushing → ∃ w, (s.record p.source).counterpartyUpgrade = some w) :
    ∃ l', timeOut host p ⟨s, app⟩ = .ok () l' := by
  have hsettles := App.settles_of_sample happ .timeout
  by_cases horder : c.order = .ordered
  · by_cases hupgrading : c.state.isUpgrading = true
    · simp [timeOut, dropUpgrade, writeReceipt, hc, hsettles, horder, hupgrading, hhop, and_assoc]
    · simp [timeOut, dropUpgrade, hc, hsettles, horder, hupgrading, hhop, and_assoc]
  · simp [timeOut, hc, hsettles, horder, and_assoc]
    exact followUp_completes (c := c) (by simp [Store.settle, hc]) (by simpa [Store.settle] using hw)

end Exec

/-! ## Handlers -/

namespace Message

theorem OpenInit.completes {m : OpenInit} (happ : app.isSample = true) (hv : m.validate s app = .ok ()) :
    ∃ l', m.execute ⟨s, app⟩ = .ok () l' := by
  obtain ⟨-, hlen, horder, hop, hhop, -, -, hunowned, hcheck⟩ := OpenInit.validate_eq_ok.1 hv
  obtain ⟨extras, version, hreply⟩ := App.openInit_of_check happ hcheck (m.request s)
  obtain ⟨l₁, hadd⟩ := Exec.addChannel_completes ⟨s, app⟩ (m.request s).id
    ⟨.init, m.order, (m.request s).remote, m.hops, version, 0⟩ hunowned
  simp [execute, hreply, hhop, horder, hlen, hadd, and_assoc]

theorem OpenAck.completes [Digest] {m : OpenAck} (happ : app.isSample = true)
    (hv : m.validate host s app = .ok ()) : ∃ l', m.execute ⟨s, app⟩ = .ok () l' := by
  obtain ⟨-, c, hc, -, -, -, hop, hhop, -⟩ := OpenAck.validate_eq_ok.1 hv
  simp [execute, App.notes_of_sample happ, hc, hhop, and_assoc]

theorem OpenConfirm.completes [Digest] {m : OpenConfirm} (happ : app.isSample = true)
    (hv : m.validate host s app = .ok ()) : ∃ l', m.execute ⟨s, app⟩ = .ok () l' := by
  obtain ⟨-, c, hc, -, -, -, hop, hhop, -, -, -, remote, hto, -⟩ := OpenConfirm.validate_eq_ok.1 hv
  have hremote : c.remoteEnd = .ok remote := ChannelEnd.remoteEnd_eq_ok.2 hto
  simp [execute, App.notes_of_sample happ, hc, hhop, hremote, and_assoc, -ChannelEnd.remoteEnd_eq_ok]

theorem OpenTry.completes [Digest] {m : OpenTry} (happ : app.isSample = true)
    (hv : m.validate host s app = .ok ()) : ∃ l', m.execute ⟨s, app⟩ = .ok () l' := by
  obtain ⟨-, hlen, horder, hop, hhop, -, -, hunowned, -, hcheck, -⟩ := OpenTry.validate_eq_ok.1 hv
  obtain ⟨app', extras, version, hreply⟩ := App.openTry_of_check happ hcheck
  obtain ⟨l₁, hadd⟩ := Exec.addChannel_completes ⟨s, app'⟩ (m.request s).id
    ⟨.tryOpen, m.order, (m.request s).remote, m.hops, version, 0⟩ hunowned
  simp [execute, hreply, hhop, horder, hlen, hadd, and_assoc]

theorem CloseInit.completes {m : CloseInit} (happ : app.isSample = true)
    (hv : m.validate s app = .ok ()) : ∃ l', m.execute ⟨s, app⟩ = .ok () l' := by
  obtain ⟨-, ⟨c, conn, hclosable⟩, -⟩ := CloseInit.validate_eq_ok.1 hv
  obtain ⟨hc, -, -, -, hop, hhop, -⟩ := Store.closable_eq_ok.1 hclosable
  obtain ⟨l₁, hclose⟩ := Exec.closeEnd_completes (l := ⟨s, app⟩) hc hhop "success: channel close init"
    .closeInit
  simp [execute, App.notes_of_sample happ, hclose, and_assoc]

theorem CloseConfirm.completes [Digest] {m : CloseConfirm} (happ : app.isSample = true)
    (hv : m.validate host s app = .ok ()) : ∃ l', m.execute ⟨s, app⟩ = .ok () l' := by
  obtain ⟨-, c, conn, hclosable, -⟩ := CloseConfirm.validate_eq_ok.1 hv
  obtain ⟨hc, -, -, -, hop, hhop, -⟩ := Store.closable_eq_ok.1 hclosable
  obtain ⟨l₁, hclose⟩ := Exec.closeEnd_completes (l := ⟨s, app⟩) hc hhop
    "success: channel close confirm" .closeConfirm
  simp [execute, App.notes_of_sample happ, hclose, and_assoc]

theorem Receive.completes [Digest] {m : Receive} (hv : m.validate host s = .ok ()) :
    ∃ l', m.execute ⟨s, app⟩ = .ok () l' := by
  obtain ⟨-, c, hc, -, -, -, hop, hhop, -, -, -, -, -, horder⟩ := Receive.validate_eq_ok.1 hv
  rcases Receive.checkOrder_eq_ok.1 horder with hunordered | ⟨hordered, next, hnext, -⟩
  · by_cases hreceived : s.receipt m.packet.destination m.packet.sequence = .received
    · simp [execute, Store.hasReceived, hc, hunordered, hreceived, and_assoc]
    · exact execute_of_unordered hc hunordered hhop hreceived
  · by_cases hpast : m.packet.sequence < next <;>
      simp [execute, take, remember, Store.hasReceived, hc, hordered, hnext, hpast, hhop, and_assoc]

theorem Acknowledge.completes [Digest] {m : Acknowledge} (happ : app.isSample = true)
    (hready : (s.record m.packet.source).Equipped s.connections)
    (hv : m.validate host s app = .ok ()) : ∃ l', m.execute host ⟨s, app⟩ = .ok () l' := by
  obtain ⟨-, c, hc, -, -, hop, hhop, -⟩ := Acknowledge.validate_eq_ok.1 hv
  have hw := hready.flushing c hc
  by_cases horder : c.order = .ordered
  · simp [execute, App.settles_of_sample happ, hc, hhop, horder, and_assoc]
    exact Exec.followUp_completes (c := c) (by simp [Store.settle, Store.setNextAck, hc])
      (by simpa [Store.settle, Store.setNextAck] using hw)
  · simp [execute, App.settles_of_sample happ, hc, hhop, horder, and_assoc]
    exact Exec.followUp_completes (c := c) (by simp [Store.settle, hc])
      (by simpa [Store.settle] using hw)

theorem Timeout.completes [Digest] {m : Timeout} (happ : app.isSample = true)
    (hready : (s.record m.packet.source).Equipped s.connections)
    (hv : m.validate host s app = .ok ()) : ∃ l', m.execute host ⟨s, app⟩ = .ok () l' := by
  obtain ⟨-, c, hc, -, -, hop, hhop, -⟩ := Timeout.validate_eq_ok.1 hv
  exact Exec.timeOut_completes happ hc hhop (hready.flushing c hc)

theorem TimeoutOnClose.completes [Digest] {m : TimeoutOnClose} (happ : app.isSample = true)
    (hready : (s.record m.packet.source).Equipped s.connections)
    (hv : m.validate host s app = .ok ()) : ∃ l', m.execute host ⟨s, app⟩ = .ok () l' := by
  obtain ⟨-, c, hc, -, -, hop, hhop, -⟩ := TimeoutOnClose.validate_eq_ok.1 hv
  exact Exec.timeOut_completes happ hc hhop (hready.flushing c hc)

theorem UpgradeInit.completes {m : UpgradeInit} (happ : app.isSample = true)
    (hv : m.validate s app = .ok ()) : ∃ l', m.execute ⟨s, app⟩ = .ok () l' := by
  obtain ⟨-, -, c, hc, -, -, extras, version, hreply, hproposal⟩ := UpgradeInit.validate_eq_ok.1 hv
  rw [App.upgradeProposal_of_sample happ .checkUpgradeInit .upgradeInit] at hreply
  simp [execute, hc, hreply, hproposal, and_assoc]

/-- Whether two connections are one can be told where the own one is there. -/
theorem connectionMismatch?_completes {f g : UpgradeFields} {hop : ConnectionId} {conn : ConnectionEnd}
    (hhop : f.hops.head? = some hop) (hconn : s.connections.get? hop = some conn)
    (htheirs : g.hops.length = 1) : ∃ mismatch, s.connectionMismatch? f g = .ok mismatch := by
  obtain ⟨remoteHop, hremote⟩ := List.length_eq_one_iff.1 htheirs
  simp [Store.connectionMismatch?, hhop, hconn, hremote]

theorem UpgradeTry.incompatibility?_completes (host : Host) {m : UpgradeTry} {crossing : Bool}
    {own : ConnectionId} {conn : ConnectionEnd}
    (hcrossing : crossing = true → ∃ u, (s.record m.id).upgrade = some u)
    (hown : m.hops.head? = some own) (hconn : s.connections.get? own = some conn)
    (htheirs : m.counterpartyFields.hops.length = 1) :
    ∃ cause, m.incompatibility? host s crossing = .ok cause := by
  have hown : m.fields.hops.head? = some own := hown
  obtain ⟨mismatch, hmismatch⟩ := connectionMismatch?_completes hown hconn htheirs
  cases crossing with
  | false => cases mismatch <;> simp [incompatibility?, hmismatch]
  | true =>
    obtain ⟨u, hu⟩ := hcrossing rfl
    by_cases horder : u.fields.order = m.fields.order <;>
      cases mismatch <;> simp [incompatibility?, hmismatch, hu, horder]

theorem UpgradeTry.accept_completes {m : UpgradeTry} {extras : Extras} {version : Version}
    (hready : (s.record m.id).Equipped s.connections) (hjoined : (s.record m.id).IsJoined) :
    ∃ l', m.accept c extras version ⟨s, app⟩ = .ok () l' := by
  obtain ⟨next, hnext⟩ := hready.counter hjoined
  simp [accept, hnext, and_assoc]

theorem UpgradeTry.completes [Digest] {m : UpgradeTry}
    (hready : (s.record m.id).Equipped s.connections)
    (hv : m.validate host s = .ok ()) : ∃ l', m.execute host ⟨s, app⟩ = .ok () l' := by
  obtain ⟨-, hcheck, c, hc, hstate, -, -, -, -, own, hown, ⟨conn, hconn, -⟩, -, -, verdict, hverdict, -⟩ :=
    UpgradeTry.validate_eq_ok.1 hv
  obtain ⟨-, hfields⟩ := check_eq_ok.1 hcheck
  have hjoined : (s.record m.id).IsJoined := ⟨c, hc, by rcases hstate with h | h <;> rw [h] <;> rfl⟩
  have hcrossing : decide (c.state = .initUpgrade) = true → ∃ u, (s.record m.id).upgrade = some u := by
    intro hinit
    rcases crossing?_eq_ok.1 hverdict with ⟨hnot, -⟩ | ⟨-, u, hu, -⟩
    · exact absurd (of_decide_eq_true hinit) hnot
    · exact ⟨u, hu⟩
  obtain ⟨cause, hcause⟩ := incompatibility?_completes host hcrossing hown hconn
    (UpgradeFields.check_eq_ok.1 hfields).2.1
  simp only [execute, run_bind_eq_ok, Exec.store_eq_ok, run_lift_eq_ok, Store.channel_eq_ok, hc, liftM,
    MonadLiftT.monadLift, Option.some.injEq, and_assoc, exists_and_left, exists_eq_left']
  split
  · exact Exec.writeReceipt_completes _ _ _ _
  · simp only [run_bind_eq_ok, Exec.store_eq_ok, run_lift_eq_ok, hverdict, and_assoc, exists_and_left,
      exists_eq_left', Except.ok.injEq]
    split
    · exact Exec.abortUpgrade_completes _ _ _ _
    · simp only [run_bind_eq_ok, Exec.store_eq_ok, run_lift_eq_ok, hcause, and_assoc, exists_and_left,
        exists_eq_left', Except.ok.injEq]
      cases cause with
      | some e => exact Exec.abortUpgrade_completes _ _ _ _
      | none =>
        simp only [run_bind_eq_ok, Exec.app_eq_ok, and_assoc, exists_and_left, exists_eq_left']
        cases app.upgradeTry m.fields with
        | error e => exact Exec.abortUpgrade_completes _ _ _ _
        | ok reply => exact accept_completes hready hjoined

theorem UpgradeAck.incompatibility?_completes (host : Host) {m : UpgradeAck} {u : Upgrade}
    (hu : (s.record m.id).upgrade = some u) (hready : (s.record m.id).Equipped s.connections)
    (hfields : m.counterpartyUpgrade.fields.check = .ok ()) :
    ∃ cause, m.incompatibility? host s u = .ok cause := by
  obtain ⟨hop, conn, hhop, hconn⟩ := hready.connected u hu
  obtain ⟨mismatch, hmismatch⟩ :=
    connectionMismatch?_completes hhop hconn (UpgradeFields.check_eq_ok.1 hfields).2.1
  by_cases horder : u.fields.order = m.counterpartyUpgrade.fields.order <;>
    cases mismatch <;> simp [incompatibility?, hmismatch, horder]

theorem UpgradeAck.completes [Digest] {m : UpgradeAck}
    (hready : (s.record m.id).Equipped s.connections)
    (hv : m.validate host s = .ok ()) : ∃ l', m.execute host ⟨s, app⟩ = .ok () l' := by
  obtain ⟨-, c, hc, hstate, ⟨u, hu⟩, hfields, -⟩ := UpgradeAck.validate_eq_ok.1 hv
  obtain ⟨next, hnext⟩ := hready.counter ⟨c, hc, by rw [hstate]; rfl⟩
  obtain ⟨cause, hcause⟩ := incompatibility?_completes host hu hready hfields
  simp only [execute, run_bind_eq_ok, Exec.store_eq_ok, run_lift_eq_ok, Store.channel_eq_ok, hc,
    Store.upgrade_eq_ok, hu, hcause, liftM, MonadLiftT.monadLift, Option.some.injEq, Except.ok.injEq,
    and_assoc, exists_and_left, exists_eq_left']
  cases cause with
  | some e => exact Exec.abortUpgrade_completes _ _ _ _
  | none =>
    simp only [run_bind_eq_ok, Exec.app_eq_ok, and_assoc, exists_and_left, exists_eq_left']
    cases app.upgradeAck with
    | error e => exact Exec.abortUpgrade_completes _ _ _ _
    | ok extras => simp [accept, hnext, and_assoc]

theorem UpgradeConfirm.accept_completes {m : UpgradeConfirm} {u : Upgrade}
    (hu : (s.record m.id).upgrade = some u) (app : App) (c : ChannelEnd) :
    ∃ l', m.accept c u ⟨s, app⟩ = .ok () l' := by
  simp only [accept, run_bind_eq_ok, Exec.update_eq_ok, Exec.store_eq_ok, Exec.setChannel_eq_ok,
    Exec.log_eq_ok, Exec.report_eq_ok, exists_const, and_assoc, exists_and_left, exists_eq_left']
  split
  · refine Exec.commitUpgrade_completes (u := u) (w := m.counterpartyUpgrade) ?_ ?_
    · simp [Store.setChannel, Store.setCounterpartyUpgrade, hu]
    · simp [Store.setChannel, Store.setCounterpartyUpgrade]
  · exact ⟨_, rfl⟩

theorem UpgradeConfirm.completes [Digest] {m : UpgradeConfirm} (hv : m.validate host s = .ok ()) :
    ∃ l', m.execute host ⟨s, app⟩ = .ok () l' := by
  obtain ⟨-, c, hc, -, -, ⟨u, hu⟩, -⟩ := UpgradeConfirm.validate_eq_ok.1 hv
  cases hcause : m.incompatibility? host u with
  | some e =>
    obtain ⟨l', habort⟩ := Exec.abortUpgrade_completes ⟨s, app⟩ m.id c e
    simp [execute, hc, hu, hcause, habort, and_assoc]
  | none =>
    obtain ⟨l', haccept⟩ := accept_completes hu app c
    simp [execute, hc, hu, hcause, haccept, and_assoc]

theorem UpgradeOpen.completes [Digest] {m : UpgradeOpen} (hv : m.validate host s = .ok ()) :
    ∃ l', m.execute ⟨s, app⟩ = .ok () l' := by
  obtain ⟨-, c, hc, -, u, hu, w, hw, -⟩ := UpgradeOpen.validate_eq_ok.1 hv
  obtain ⟨l', hcommit⟩ := Exec.commitUpgrade_completes (l := ⟨s, app⟩) (c := c) hu hw
  simp [execute, hc, hcommit, and_assoc]

theorem UpgradeCancel.completes [Digest] {m : UpgradeCancel} (hv : m.validate host s = .ok ()) :
    ∃ l', m.execute ⟨s, app⟩ = .ok () l' := by
  obtain ⟨-, c, hc, -⟩ := UpgradeCancel.validate_eq_ok.1 hv
  obtain ⟨l₁, habort⟩ := Exec.abortUpgrade_completes ⟨s, app⟩ m.id (m.caughtUp c)
    (.cancelled m.receipt.sequence)
  simp [execute, hc, habort, Exec.channel_abortUpgrade habort, and_assoc]

theorem UpgradeExpire.completes [Digest] {m : UpgradeExpire} (hv : m.validate host s = .ok ()) :
    ∃ l', m.execute host ⟨s, app⟩ = .ok () l' := by
  obtain ⟨-, c, hc, -, u, hu, hop, hhop, conn, ⟨hconn, -⟩, -, -, -, time, htime, -⟩ :=
    UpgradeExpire.validate_eq_ok.1 hv
  obtain ⟨l₁, habort⟩ := Exec.abortUpgrade_completes ⟨s, app⟩ m.id c
    (.timeoutElapsed u.timeout m.proofHeight time)
  simp [execute, hc, hu, hhop, hconn, htime, habort, Exec.channel_abortUpgrade habort, and_assoc,
    -Clients.consensusTime_eq_ok]

/-- On a store whose ends are equipped, what is accepted takes effect. -/
theorem completes [Digest] {m : Message} (happ : app.isSample = true)
    (hready : ∀ id, (s.record id).Equipped s.connections) (hv : m.validate host s app = .ok ()) :
    ∃ l', m.execute host ⟨s, app⟩ = .ok () l' := by
  cases m with
  | openInit m => exact OpenInit.completes happ hv
  | openTry m => exact OpenTry.completes happ hv
  | openAck m => exact OpenAck.completes happ hv
  | openConfirm m => exact OpenConfirm.completes happ hv
  | closeInit m => exact CloseInit.completes happ hv
  | closeConfirm m => exact CloseConfirm.completes happ hv
  | receive m => exact Receive.completes hv
  | acknowledge m => exact Acknowledge.completes happ (hready _) hv
  | timeout m => exact Timeout.completes happ (hready _) hv
  | timeoutOnClose m => exact TimeoutOnClose.completes happ (hready _) hv
  | upgradeInit m => exact UpgradeInit.completes happ hv
  | upgradeTry m => exact UpgradeTry.completes (hready _) hv
  | upgradeAck m => exact UpgradeAck.completes (hready _) hv
  | upgradeConfirm m => exact UpgradeConfirm.completes hv
  | upgradeOpen m => exact UpgradeOpen.completes hv
  | upgradeCancel m => exact UpgradeCancel.completes hv
  | upgradeExpire m => exact UpgradeExpire.completes hv

end Message

/-! ## Every message at any time -/

namespace Course

section
variable [Digest] {course : Course}

/-- No deed touches the connections. -/
theorem connections_eq (h : course.Regular) (i : Nat) :
    (course.chain i).store.connections = course.start.store.connections := by
  induction i with
  | zero => rfl
  | succ i ih =>
    rcases store_succ (standing h i) with hstore | ⟨id, r, es, hw, -⟩ | ⟨handle, id, hdeed⟩
    · rw [hstore, ih]
    · rw [hw.connections, ih]
    · rw [chain_succ hdeed, Chain.undergo]
      rcases (course.chain i).store_release handle id with hsame | hreleased
      · rw [hsame, ih]
      · rw [hreleased, ← ih]
        rfl

theorem connected (h : course.Regular) (i : Nat) (id : EndId) :
    (course.record i id).Connected course.start.store.connections := by
  refine record_induction (P := fun r => r.Connected course.start.store.connections) h i id ?_ ?_
    fun r hr => hr
  · intro u hu
    cases hu
  · intro j hj r' es hturn hr
    rw [← connections_eq h j] at hr ⊢
    exact hturn.connected hr

theorem equipped (h : course.Regular) (i : Nat) (id : EndId) :
    (course.record i id).Equipped (course.chain i).store.connections where
  flushing c hc hflushing := by
    have hattempt := (orderly h i id).attempting c hc
    simp only [ChannelRecord.Attempting, hflushing] at hattempt
    obtain ⟨u, w, -, hw, -⟩ := hattempt
    exact ⟨w, hw⟩
  counter hjoined := by
    obtain ⟨n, hn, -⟩ := (sending h i id).counter hjoined
    exact ⟨n, hn⟩
  connected := by
    rw [connections_eq h i]
    exact connected h i id

/-- No message is checked for a hop that is not there. -/
theorem findsHop (h : course.Regular) (i : Nat) (m : Message) : FindsHop ((course.chain i).validate m) := by
  have hhops (id : EndId) (c : ChannelEnd) (hc : ((course.chain i).store.record id).channel = some c) :
      c.hops ≠ [] := ne_nil_of_length ((orderly h i id).oneHop c hc)
  simp [Chain.validate, Message.findsHop hhops]

/-- At any time a message that is accepted takes effect. So it fails in being checked or not at all, which is
never for want of a hop, and where it fails nothing has changed: neither the store nor the host nor any
application. -/
theorem takes_effect_or_leaves_no_trace (h : course.Regular) (i : Nat) (m : Message) :
    ((course.chain i).validate m = .ok () → ∃ c, Chain.execute m (course.chain i) = .ok () c) ∧
      ∀ e c, Chain.deliver m (course.chain i) = .error e c →
        (course.chain i).validate m = .error e ∧ e ≠ .noHop ∧ c = course.chain i := by
  have hexecutes (hv : (course.chain i).validate m = .ok ()) :
      ∃ c, Chain.execute m (course.chain i) = .ok () c := by
    simp only [Chain.validate, bind_eq_ok] at hv
    obtain ⟨⟨id, app⟩, hfind, hv⟩ := hv
    replace hfind : (course.chain i).router.find m.port = .ok (id, app) := by simpa using hfind
    obtain ⟨l', hx⟩ := Message.completes ((standing h i).applications.find hfind) (equipped h i) hv
    simp only [Chain.execute, hfind, hx]
    exact ⟨_, rfl⟩
  refine ⟨hexecutes, fun e c hdeliver => ?_⟩
  unfold Chain.deliver at hdeliver
  rw [Chain.dispatch_eq] at hdeliver
  cases hv : (course.chain i).validate m with
  | ok u =>
    obtain ⟨c', hx⟩ := hexecutes hv
    simp [hv, hx] at hdeliver
  | error e' =>
    simp only [hv] at hdeliver
    cases hdeliver
    have hfinds := findsHop h i m
    rw [hv] at hfinds
    exact ⟨rfl, findsHop_error.1 hfinds, rfl⟩

end

/-! ## An answer that comes twice -/

section
attribute [local instance] Digest.plain

open Sample (endId channel second upgradeTimeout proofOfEnd proofOfUpgrade signer)

/-- The answer that chain `a` flushes on. -/
def answer : Message :=
  .upgradeAck ⟨endId, ⟨second, upgradeTimeout, .one⟩, proofOfEnd 8 (channel .tryUpgrade .unordered 1),
    proofOfUpgrade 8 ⟨second, upgradeTimeout, .one⟩, ⟨0, 8⟩, signer⟩

theorem answer_facts : (flushing.chain 6).validate answer = .ok () ∧
    (flushing.chain 7).takes answer = false := by
  decide +kernel

/-- The answer takes effect, and it fails without a trace when it comes again. -/
theorem answer_takes_effect_once : (∃ c, Chain.execute answer (flushing.chain 6) = .ok () c) ∧
    ∃ e, Chain.deliver answer (flushing.chain 7) = .error e (flushing.chain 7) := by
  have hregular : flushing.Regular := Sample.regular_of_numbering flushing_facts.1
  obtain ⟨hvalid, hrefused⟩ := answer_facts
  refine ⟨(takes_effect_or_leaves_no_trace hregular 6 answer).1 hvalid, ?_⟩
  cases hdeliver : Chain.deliver answer (flushing.chain 7) with
  | ok u c => simp [Chain.takes, hdeliver] at hrefused
  | error e c =>
    obtain ⟨-, -, hsame⟩ := (takes_effect_or_leaves_no_trace hregular 7 answer).2 e c hdeliver
    exact ⟨e, by rw [hsame]⟩

end

end Course

end ChannelLayer
