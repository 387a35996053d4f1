import ChannelLayer.Proofs.Likeness
import ChannelLayer.Proofs.Trial

/-!
# Channels do not interfere

`Exec.Alike id x y`: run on two stores that agree on the end `id`, the two executions succeed alike or fail for
the same reason, the stores agree again, and on each side the end `id` is all that was changed. The relation is
carried through every handler (`Message.execute_alike`). So a message for an end leaves all other ends alone, and
its effect on its own end does not depend on them: messages for different ends can be dispatched in either order
(`Chain.dispatch_separate`).
-/

set_option autoImplicit false

namespace ChannelLayer

/-! ## Stores that go the same way -/

namespace Store

/-- From `s` to `t` nothing changed but the end `id`, and `es` and `lines` were emitted. -/
structure Touches (s t : Store) (id : EndId) (es : List Event) (lines : List String) : Prop where
  others : ∀ j, id ≠ j → t.record j = s.record j
  connections : t.connections = s.connections
  channelCounter : t.channelCounter = s.channelCounter
  capabilityCounter : t.capabilityCounter = s.capabilityCounter
  events : t.events = s.events ++ es
  logs : t.logs = s.logs ++ lines

/-- From `s` to `t` and from `s'` to `t'` the same was done with the end `id`. -/
structure Parallel (id : EndId) (s s' t t' : Store) : Prop where
  agrees : t.Agrees t' id
  touches : ∃ es lines, s.Touches t id es lines ∧ s'.Touches t' id es lines

variable {id : EndId} {s s' t t' u u' : Store} {es fs : List Event} {lines lines' : List String}

theorem Touches.trans (h : s.Touches t id es lines) (h' : t.Touches u id fs lines') :
    s.Touches u id (es ++ fs) (lines ++ lines') where
  others j hj := (h'.others j hj).trans (h.others j hj)
  connections := h'.connections.trans h.connections
  channelCounter := h'.channelCounter.trans h.channelCounter
  capabilityCounter := h'.capabilityCounter.trans h.capabilityCounter
  events := by rw [h'.events, h.events, List.append_assoc]
  logs := by rw [h'.logs, h.logs, List.append_assoc]

theorem touches_emit (s : Store) (id : EndId) (es : List Event) (lines : List String) :
    s.Touches { s with events := s.events ++ es, logs := s.logs ++ lines } id es lines :=
  ⟨fun _ _ => rfl, rfl, rfl, rfl, rfl, rfl⟩

theorem touches_refl (s : Store) (id : EndId) : s.Touches s id [] [] :=
  ⟨fun _ _ => rfl, rfl, rfl, rfl, (List.append_nil _).symm, (List.append_nil _).symm⟩

theorem touches_update (s : Store) (id : EndId) (f : ChannelRecord → ChannelRecord) :
    s.Touches (s.update id f) id [] [] :=
  ⟨fun _ hj => record_update_of_ne s f hj, rfl, rfl, rfl, (List.append_nil _).symm,
    (List.append_nil _).symm⟩

namespace Parallel

theorem refl (h : s.Agrees s' id) : Parallel id s s' s s' :=
  ⟨h, [], [], touches_refl s id, touches_refl s' id⟩

theorem trans (h : Parallel id s s' t t') (h' : Parallel id t t' u u') : Parallel id s s' u u' := by
  obtain ⟨es, lines, hs, hs'⟩ := h.touches
  obtain ⟨fs, lines', ht, ht'⟩ := h'.touches
  exact ⟨h'.agrees, _, _, hs.trans ht, hs'.trans ht'⟩

theorem emit (h : s.Agrees s' id) (es : List Event) (lines : List String) :
    Parallel id s s' { s with events := s.events ++ es, logs := s.logs ++ lines }
      { s' with events := s'.events ++ es, logs := s'.logs ++ lines } :=
  ⟨⟨h.record, h.connections⟩, es, lines, touches_emit s id es lines, touches_emit s' id es lines⟩

theorem update (h : s.Agrees s' id) {f : ChannelRecord → ChannelRecord}
    (hf : ∀ r r', r.Same r' → (f r).Same (f r')) : Parallel id s s' (s.update id f) (s'.update id f) := by
  refine ⟨⟨?_, h.connections⟩, [], [], touches_update s id f, touches_update s' id f⟩
  rw [record_update_self, record_update_self]
  exact hf _ _ h.record

end Parallel

end Store

/-! ## Executions that go the same way -/

namespace Exec

variable {α β : Type} {id : EndId}

/-- Both executions succeed with the same result or fail for the same reason, and have done the same with the
end `id`; the application is as it was. -/
inductive Ends (id : EndId) (s s' : Store) (app : App) :
    EStateM.Result HandlerError Ledger α → EStateM.Result HandlerError Ledger α → Prop
  | ok (a : α) {t t' : Store} (h : Store.Parallel id s s' t t') :
      Ends id s s' app (.ok a ⟨t, app⟩) (.ok a ⟨t', app⟩)
  | error (e : HandlerError) {t t' : Store} (h : Store.Parallel id s s' t t') :
      Ends id s s' app (.error e ⟨t, app⟩) (.error e ⟨t', app⟩)

def Alike (id : EndId) (x y : Exec α) : Prop :=
  ∀ s s' app, s.Agrees s' id → Ends id s s' app (x ⟨s, app⟩) (y ⟨s', app⟩)

theorem Ends.after {s s' t t' : Store} {app : App} {rx ry : EStateM.Result HandlerError Ledger α}
    (h : Ends id t t' app rx ry) (hbefore : Store.Parallel id s s' t t') : Ends id s s' app rx ry := by
  cases h with
  | ok a h => exact .ok a (hbefore.trans h)
  | error e h => exact .error e (hbefore.trans h)

namespace Alike

theorem bind {x y : Exec α} {f g : α → Exec β} (hx : Alike id x y) (hf : ∀ a, Alike id (f a) (g a)) :
    Alike id (x >>= f) (y >>= g) := by
  intro s s' app hs
  have hmid := hx s s' app hs
  show Ends id s s' app (EStateM.bind x f ⟨s, app⟩) (EStateM.bind y g ⟨s', app⟩)
  unfold EStateM.bind
  generalize x ⟨s, app⟩ = rx at hmid
  generalize y ⟨s', app⟩ = ry at hmid
  cases hmid with
  | ok a h => exact (hf a _ _ app h.agrees).after h
  | error e h => exact .error e h

theorem pure {a : α} : Alike id (Pure.pure a) (Pure.pure a) := fun _ _ _ hs => .ok a (.refl hs)

/-- What is done with the two stores. -/
theorem bindStore {f g : Store → Exec α} (hf : ∀ s s', s.Agrees s' id → Alike id (f s) (g s')) :
    Alike id (Exec.store >>= f) (Exec.store >>= g) :=
  fun s s' app hs => hf s s' hs s s' app hs

/-- What is done with the application, which is the same on both sides. -/
theorem bindApp {f g : App → Exec α} (hf : ∀ a, Alike id (f a) (g a)) :
    Alike id (Exec.app >>= f) (Exec.app >>= g) :=
  fun s s' app hs => hf app s s' app hs

/-- What is done with the result of a check that both sides pass or fail alike. -/
theorem bindLift {x y : Except HandlerError α} {f g : α → Exec β} (hxy : x = y)
    (hf : ∀ a, Alike id (f a) (g a)) :
    Alike id ((MonadLift.monadLift x : Exec α) >>= f) ((MonadLift.monadLift y : Exec α) >>= g) := by
  subst hxy
  cases x with
  | error e => exact fun s s' app hs => .error e (.refl hs)
  | ok a => exact hf a

theorem update {f : ChannelRecord → ChannelRecord} (hf : ∀ r r', r.Same r' → (f r).Same (f r')) :
    Alike id (Exec.update fun s => s.update id f) (Exec.update fun s => s.update id f) :=
  fun _ _ _ hs => .ok () (.update hs hf)

theorem setChannel {c : ChannelEnd} : Alike id (Exec.setChannel id c) (Exec.setChannel id c) :=
  update fun _ _ h => { h with channel := rfl }

theorem log {line : String} : Alike id (Exec.log line) (Exec.log line) :=
  fun s s' app hs => .ok () <| by
    have h := Store.Parallel.emit hs [] [line]
    rw [List.append_nil, List.append_nil] at h
    exact h

theorem report {e : Event} : Alike id (Exec.report e) (Exec.report e) :=
  fun s s' app hs => .ok () <| by
    have h := Store.Parallel.emit hs [.channelMessage, e] []
    rw [List.append_nil, List.append_nil, List.append_cons, List.append_cons s'.events] at h
    exact h

theorem addExtras {extras : Extras} : Alike id (Exec.addExtras extras) (Exec.addExtras extras) :=
  fun _ _ _ hs => .ok () (.emit hs _ _)

theorem ite {p : Prop} [Decidable p] {x y x' y' : Exec α} (hx : Alike id x x') (hy : Alike id y y') :
    Alike id (if p then x else y) (if p then x' else y') := by
  split
  · exact hx
  · exact hy

end Alike

variable {c : ChannelEnd} {e : UpgradeError} {host host' : Host}

theorem clearUpgrade_alike : Alike id (update (·.clearUpgrade id)) (update (·.clearUpgrade id)) :=
  .update fun _ _ h => { h with upgrade := rfl, counterpartyUpgrade := rfl }

theorem setErrorReceipt_alike {receipt : ErrorReceipt} :
    Alike id (update (·.setErrorReceipt id receipt)) (update (·.setErrorReceipt id receipt)) :=
  .update fun _ _ h => { h with errorReceipt := rfl }

theorem setUpgrade_alike {u : Upgrade} :
    Alike id (update (·.setUpgrade id u)) (update (·.setUpgrade id u)) :=
  .update fun _ _ h => { h with upgrade := rfl }

theorem setCounterpartyUpgrade_alike {u : Upgrade} :
    Alike id (update (·.setCounterpartyUpgrade id u)) (update (·.setCounterpartyUpgrade id u)) :=
  .update fun _ _ h => { h with counterpartyUpgrade := rfl }

theorem startCounting_alike : Alike id (update (·.startCounting id)) (update (·.startCounting id)) :=
  .update fun _ _ h => { h with nextSend := rfl, nextReceive := rfl, nextAck := rfl }

theorem settle_alike {p : Packet} : Alike p.source (update (·.settle p)) (update (·.settle p)) :=
  .update fun _ _ h => { h with commitments := h.commitments.erase p.sequence }

theorem setNextAck_alike {n : Sequence} :
    Alike id (update (·.setNextAck id n)) (update (·.setNextAck id n)) :=
  .update fun _ _ h => { h with nextAck := rfl }

theorem writeReceipt_alike : Alike id (writeReceipt id c e) (writeReceipt id c e) :=
  .bind setErrorReceipt_alike fun _ => .bind .log fun _ => .report

theorem abortUpgrade_alike : Alike id (abortUpgrade id c e) (abortUpgrade id c e) :=
  .bind .setChannel fun _ => .bind clearUpgrade_alike fun _ => .bind setErrorReceipt_alike fun _ =>
    .bind .log fun _ => .bind .report fun _ => .bindApp fun _ => .addExtras

theorem commitUpgrade_alike : Alike id (commitUpgrade id c) (commitUpgrade id c) := by
  refine .bindStore fun _ _ hs => .bindLift hs.upgrade fun u => .bindStore fun _ _ hs =>
    .bindLift hs.counterpartyUpgrade fun w => ?_
  have hrest : Alike id
      (do setChannel id (c.upgraded u.fields)
          update (·.clearUpgrade id)
          log "success: channel upgrade open"
          report (.upgrade .opened (.ofEnd id (c.upgraded u.fields)) u.fields)
          addExtras ((← app).upgradeOpen id u.fields.version))
      (do setChannel id (c.upgraded u.fields)
          update (·.clearUpgrade id)
          log "success: channel upgrade open"
          report (.upgrade .opened (.ofEnd id (c.upgraded u.fields)) u.fields)
          addExtras ((← app).upgradeOpen id u.fields.version)) :=
    .bind .setChannel fun _ => .bind clearUpgrade_alike fun _ => .bind .log fun _ =>
      .bind .report fun _ => .bindApp fun _ => .addExtras
  exact .ite (.bind (.update fun _ _ h => { h with nextReceive := rfl, nextAck := rfl }) fun _ => hrest)
    hrest

theorem completeFlush_alike (hh : host.Agrees host') :
    Alike id (completeFlush host id) (completeFlush host' id) := by
  refine .bindStore fun _ _ hs => .bindLift hs.channel fun c => .ite .pure ?_
  refine .bindStore fun _ _ hs => .bindLift hs.counterpartyUpgrade fun w => ?_
  simp only [hh.upgradeElapsed?]
  split
  · exact abortUpgrade_alike
  · refine .bindStore fun _ _ hs => ?_
    simp only [hs.isFlushed]
    exact .ite (.bind .setChannel fun _ => .log) .pure

theorem closeEnd_alike {line : String} {event : EndInfo → Event} :
    Alike id (closeEnd id line event) (closeEnd id line event) :=
  .bindStore fun _ _ hs => .bindLift hs.channel fun _ => .bind .setChannel fun _ => .bind .log fun _ =>
    .bindLift rfl fun _ => .report

theorem dropUpgrade_alike : Alike id (dropUpgrade id c) (dropUpgrade id c) :=
  .ite (.bind writeReceipt_alike fun _ => clearUpgrade_alike) .pure

theorem timeOut_alike {p : Packet} (hh : host.Agrees host') :
    Alike p.source (timeOut host p) (timeOut host' p) := by
  refine .bindStore fun _ _ hs => .bindLift hs.channel fun c => .bindApp fun _ =>
    .bindLift rfl fun extras => .bind settle_alike fun _ => ?_
  have hend {host host' : Host} (hh : host.Agrees host') : Alike p.source
      (do addExtras extras
          if c.state = .flushing ∧ c.order = .unordered then completeFlush host p.source)
      (do addExtras extras
          if c.state = .flushing ∧ c.order = .unordered then completeFlush host' p.source) :=
    .bind .addExtras fun _ => .ite (completeFlush_alike hh) .pure
  have hreported {host host' : Host} (hh : host.Agrees host') : Alike p.source
      (do log "success: packet timeout"
          report (.timeoutPacket p c.order)
          if c.order = .ordered then
            report (.channelClosed ⟨p.source, c.remote, ← firstHop c.hops⟩ c.order)
          addExtras extras
          if c.state = .flushing ∧ c.order = .unordered then completeFlush host p.source)
      (do log "success: packet timeout"
          report (.timeoutPacket p c.order)
          if c.order = .ordered then
            report (.channelClosed ⟨p.source, c.remote, ← firstHop c.hops⟩ c.order)
          addExtras extras
          if c.state = .flushing ∧ c.order = .unordered then completeFlush host' p.source) :=
    .bind .log fun _ => .bind .report fun _ =>
      .ite (.bindLift rfl fun _ => .bind .report fun _ => hend hh) (hend hh)
  exact .ite (.bind dropUpgrade_alike fun _ => .bind .setChannel fun _ => hreported hh) (hreported hh)

end Exec

namespace Message

open Exec

variable {host host' : Host}

theorem OpenAck.execute_alike {m : OpenAck} : Alike m.id m.execute m.execute :=
  .bindApp fun _ => .bindLift rfl fun _ => .bindStore fun _ _ hs => .bindLift hs.channel fun _ =>
    .bind .setChannel fun _ => .bind startCounting_alike fun _ => .bind .log fun _ =>
    .bindLift rfl fun _ => .bind .report fun _ => .addExtras

theorem OpenConfirm.execute_alike {m : OpenConfirm} : Alike m.id m.execute m.execute :=
  .bindApp fun _ => .bindLift rfl fun _ => .bindStore fun _ _ hs => .bindLift hs.channel fun _ =>
    .bind .setChannel fun _ => .bind startCounting_alike fun _ => .bind .log fun _ =>
    .bindLift rfl fun _ => .bindLift rfl fun _ => .bind .report fun _ => .addExtras

theorem CloseInit.execute_alike {m : CloseInit} : Alike m.id m.execute m.execute :=
  .bindApp fun _ => .bindLift rfl fun _ => .bind closeEnd_alike fun _ => .addExtras

theorem CloseConfirm.execute_alike {m : CloseConfirm} : Alike m.id m.execute m.execute :=
  .bindApp fun _ => .bindLift rfl fun _ => .bind closeEnd_alike fun _ => .addExtras

theorem Receive.remember_alike [Digest] {m : Receive} {order : ChannelOrder} :
    Alike m.packet.destination (m.remember order) (m.remember order) := by
  unfold remember
  cases order with
  | unordered => exact .update fun _ _ h => { h with receipts := h.receipts.insert _ _ }
  | ordered =>
    exact .bindStore fun _ _ hs => .bindLift hs.nextReceive fun _ =>
      .update fun _ _ h => { h with nextReceive := rfl }
  | unspecified => exact .pure

theorem Receive.execute_alike [Digest] {m : Receive} :
    Alike m.packet.destination m.execute m.execute :=
  .bindStore fun _ _ hs => .bindLift hs.channel fun _ => .bindStore fun _ _ hs =>
    .bindLift (hs.hasReceived _ _) fun _ => .ite .pure (.bindApp fun _ => .bind remember_alike fun _ =>
      .bind (.update fun _ _ h => { h with acks := h.acks.insert _ _ }) fun _ => .bind .log fun _ =>
      .bind .log fun _ => .bindLift rfl fun _ => .bind .report fun _ => .bind .report fun _ => .addExtras)

theorem Acknowledge.execute_alike {m : Acknowledge} (hh : host.Agrees host') :
    Alike m.packet.source (m.execute host) (m.execute host') := by
  refine .bindStore fun _ _ hs => .bindLift hs.channel fun c => .bindLift rfl fun hop =>
    .bindApp fun _ => .bindLift rfl fun extras => .bind settle_alike fun _ => ?_
  have hend {host host' : Host} (hh : host.Agrees host') : Alike m.packet.source
      (do log "success: packet acknowledgement"
          report (.acknowledgePacket m.packet c.order hop)
          addExtras extras
          if c.state = .flushing then completeFlush host m.packet.source)
      (do log "success: packet acknowledgement"
          report (.acknowledgePacket m.packet c.order hop)
          addExtras extras
          if c.state = .flushing then completeFlush host' m.packet.source) :=
    .bind .log fun _ => .bind .report fun _ => .bind .addExtras fun _ =>
      .ite (completeFlush_alike hh) .pure
  exact .ite (.bind setNextAck_alike fun _ => hend hh) (hend hh)

theorem UpgradeInit.execute_alike {m : UpgradeInit} : Alike m.id m.execute m.execute :=
  .bindStore fun _ _ hs => .bindLift hs.channel fun _ => .bindApp fun _ => .bindLift rfl fun _ =>
    .bindStore fun _ _ hs => .bindLift (hs.checkProposal _ _) fun _ => .bind .setChannel fun _ =>
    .bind setUpgrade_alike fun _ => .bind .log fun _ => .bind .report fun _ => .addExtras

theorem UpgradeTry.accept_alike {m : UpgradeTry} {c : ChannelEnd} {extras : Extras} {version : Version} :
    Alike m.id (m.accept c extras version) (m.accept c extras version) :=
  .bindStore fun _ _ hs => .bindLift hs.nextSend fun _ => .bind .setChannel fun _ =>
    .bind setUpgrade_alike fun _ => .bind .log fun _ => .bind .report fun _ => .addExtras

theorem UpgradeTry.incompatibility?_congr {m : UpgradeTry} {s s' : Store} (hh : host.Agrees host')
    (hs : s.Agrees s' m.id) (crossing : Bool) :
    m.incompatibility? host s crossing = m.incompatibility? host' s' crossing := by
  unfold UpgradeTry.incompatibility?
  simp only [hs.upgrade, hs.connectionMismatch?, hh.upgradeElapsed?]

theorem UpgradeTry.execute_alike {m : UpgradeTry} (hh : host.Agrees host') :
    Alike m.id (m.execute host) (m.execute host') := by
  refine .bindStore fun _ _ hs => .bindLift hs.channel fun c => .ite writeReceipt_alike ?_
  refine .bindStore fun _ _ hs => .bindLift (crossing?_congr hs c) fun _ => .ite abortUpgrade_alike ?_
  refine .bindStore fun _ _ hs => .bindLift (incompatibility?_congr hh hs _) fun cause => ?_
  cases cause with
  | some e => exact abortUpgrade_alike
  | none =>
    refine .bindApp fun a => ?_
    split
    · exact abortUpgrade_alike
    · exact accept_alike

theorem UpgradeAck.accept_alike {m : UpgradeAck} {c : ChannelEnd} {u : Upgrade} {extras : Extras} :
    Alike m.id (m.accept c u extras) (m.accept c u extras) := by
  refine .bindStore fun _ _ hs => .bindLift hs.nextSend fun _ => .bind setUpgrade_alike fun _ =>
    .bind setCounterpartyUpgrade_alike fun _ => .bindStore fun _ _ hs => ?_
  rw [hs.flushState]
  exact .bind .setChannel fun _ => .bind .log fun _ => .bind .report fun _ => .addExtras

theorem UpgradeAck.incompatibility?_congr {m : UpgradeAck} {s s' : Store} (hh : host.Agrees host')
    (hs : s.Agrees s' m.id) (u : Upgrade) : m.incompatibility? host s u = m.incompatibility? host' s' u := by
  unfold UpgradeAck.incompatibility?
  simp only [hs.connectionMismatch?, hh.upgradeElapsed?]

theorem UpgradeAck.execute_alike {m : UpgradeAck} (hh : host.Agrees host') :
    Alike m.id (m.execute host) (m.execute host') := by
  refine .bindStore fun _ _ hs => .bindLift hs.channel fun c => .bindStore fun _ _ hs =>
    .bindLift hs.upgrade fun u => ?_
  refine .bindStore fun _ _ hs => .bindLift (incompatibility?_congr hh hs u) fun cause => ?_
  cases cause with
  | some e => exact abortUpgrade_alike
  | none =>
    refine .bindApp fun a => ?_
    split
    · exact abortUpgrade_alike
    · exact accept_alike

theorem UpgradeConfirm.accept_alike {m : UpgradeConfirm} {c : ChannelEnd} {u : Upgrade} :
    Alike m.id (m.accept c u) (m.accept c u) := by
  refine .bind setCounterpartyUpgrade_alike fun _ => .bindStore fun _ _ hs => ?_
  rw [hs.flushState]
  exact .bind .setChannel fun _ => .bind .log fun _ => .bind .report fun _ =>
    .ite commitUpgrade_alike .pure

theorem UpgradeConfirm.execute_alike {m : UpgradeConfirm} (hh : host.Agrees host') :
    Alike m.id (m.execute host) (m.execute host') := by
  refine .bindStore fun _ _ hs => .bindLift hs.channel fun c => .bindStore fun _ _ hs =>
    .bindLift hs.upgrade fun u => ?_
  have hcause : m.incompatibility? host u = m.incompatibility? host' u := by
    unfold UpgradeConfirm.incompatibility?
    rw [hh.upgradeElapsed?]
  rw [hcause]
  split
  · exact abortUpgrade_alike
  · exact accept_alike

theorem UpgradeOpen.execute_alike {m : UpgradeOpen} : Alike m.id m.execute m.execute :=
  .bindStore fun _ _ hs => .bindLift hs.channel fun _ => commitUpgrade_alike

theorem UpgradeCancel.execute_alike {m : UpgradeCancel} : Alike m.id m.execute m.execute :=
  .bindStore fun _ _ hs => .bindLift hs.channel fun _ => .bind abortUpgrade_alike fun _ =>
    .bindStore fun _ _ hs => .bindLift hs.channel fun _ => .bind .log fun _ => .report

theorem UpgradeExpire.execute_alike {m : UpgradeExpire} (hh : host.Agrees host') :
    Alike m.id (m.execute host) (m.execute host') := by
  refine .bindStore fun _ _ hs => .bindLift hs.channel fun _ => .bindStore fun _ _ hs =>
    .bindLift hs.upgrade fun _ => .bindStore fun _ _ hs => .bindLift rfl fun hop =>
    .bindLift (hs.connection hop) fun conn => ?_
  rw [hh.clients.consensusTime]
  exact .bindLift rfl fun _ => .bind abortUpgrade_alike fun _ => .bindStore fun _ _ hs =>
    .bindLift hs.channel fun _ => .bind .log fun _ => .report

/-- A message does the same with its end wherever the end, the connections, the light clients and the clock are
alike, and changes no other end. -/
theorem execute_alike [Digest] {m : Message} {id : EndId} (hm : m.addressee? = some id)
    (hh : host.Agrees host') : Alike id (m.execute host) (m.execute host') := by
  cases m with
  | openInit m => cases hm
  | openTry m => cases hm
  | openAck m => obtain rfl := Option.some.inj hm; exact OpenAck.execute_alike
  | openConfirm m => obtain rfl := Option.some.inj hm; exact OpenConfirm.execute_alike
  | closeInit m => obtain rfl := Option.some.inj hm; exact CloseInit.execute_alike
  | closeConfirm m => obtain rfl := Option.some.inj hm; exact CloseConfirm.execute_alike
  | receive m => obtain rfl := Option.some.inj hm; exact Receive.execute_alike
  | acknowledge m => obtain rfl := Option.some.inj hm; exact Acknowledge.execute_alike hh
  | timeout m => obtain rfl := Option.some.inj hm; exact timeOut_alike hh
  | timeoutOnClose m => obtain rfl := Option.some.inj hm; exact timeOut_alike hh
  | upgradeInit m => obtain rfl := Option.some.inj hm; exact UpgradeInit.execute_alike
  | upgradeTry m => obtain rfl := Option.some.inj hm; exact UpgradeTry.execute_alike hh
  | upgradeAck m => obtain rfl := Option.some.inj hm; exact UpgradeAck.execute_alike hh
  | upgradeConfirm m => obtain rfl := Option.some.inj hm; exact UpgradeConfirm.execute_alike hh
  | upgradeOpen m => obtain rfl := Option.some.inj hm; exact UpgradeOpen.execute_alike
  | upgradeCancel m => obtain rfl := Option.some.inj hm; exact UpgradeCancel.execute_alike
  | upgradeExpire m => obtain rfl := Option.some.inj hm; exact UpgradeExpire.execute_alike hh

end Message

/-! ## Chains -/

namespace Chain

/-- How a step of a chain ends. -/
def verdict {α : Type} (step : ChainStep α) (c : Chain) : Except HandlerError α :=
  match step c with
  | .ok a _ => .ok a
  | .error e _ => .error e

/-- Two chains that messages for the end `id` cannot tell apart. -/
structure Agrees (c c' : Chain) (id : EndId) : Prop where
  host : c.host.Agrees c'.host
  store : c.store.Agrees c'.store id
  app : (c.router.find id.port).map Prod.snd = (c'.router.find id.port).map Prod.snd

/-- The two chains are the same but for the order of what they have emitted. -/
structure Alike (c c' : Chain) : Prop where
  host : c.host = c'.host
  router : c.router = c'.router
  records : ∀ id, (c.store.record id).Same (c'.store.record id)
  connections : c.store.connections = c'.store.connections
  channelCounter : c.store.channelCounter = c'.store.channelCounter
  capabilityCounter : c.store.capabilityCounter = c'.store.capabilityCounter
  events : c.store.events.Perm c'.store.events
  logs : c.store.logs.Perm c'.store.logs

variable {c c' : Chain} {id id' : EndId}

theorem Agrees.refl (c : Chain) (id : EndId) : c.Agrees c id := ⟨.refl _, .refl _ _, rfl⟩

/-- Both ports have the same application or none for the same reason. -/
theorem Agrees.find (h : c.Agrees c' id) :
    (∃ e, c.router.find id.port = .error e ∧ c'.router.find id.port = .error e) ∨
      ∃ i i' app, c.router.find id.port = .ok (i, app) ∧ c'.router.find id.port = .ok (i', app) := by
  have happ := h.app
  cases hfind : c.router.find id.port with
  | error e =>
    cases hfind' : c'.router.find id.port with
    | error e' =>
      rw [hfind, hfind'] at happ
      cases happ
      exact .inl ⟨e, rfl, rfl⟩
    | ok x' =>
      rw [hfind, hfind'] at happ
      cases happ
  | ok x =>
    cases hfind' : c'.router.find id.port with
    | error e' =>
      rw [hfind, hfind'] at happ
      cases happ
    | ok x' =>
      rw [hfind, hfind'] at happ
      have hsame : x.2 = x'.2 := Except.ok.inj happ
      exact .inr ⟨x.1, x'.1, x.2, rfl, by rw [hsame]⟩

/-- An application that stays as it is leaves the router as it is. -/
theorem afterRun_of_find {i : ModuleId} {app : App} {port : PortId} {t : Store}
    (hfind : c.router.find port = .ok (i, app)) : c.afterRun i ⟨t, app⟩ = { c with store := t } := by
  simp only [afterRun, Router.setModule, Table.insert_of_get? (Router.find_eq_ok.1 hfind).2]

section
variable [Digest] {m m' : Message}

/-- The end that a message is for, the connections, the clients, the clock and the application on its port decide
how its dispatch ends and what becomes of the end; nothing else changes. -/
theorem dispatch_parallel (hm : m.addressee? = some id) (h : c.Agrees c' id) :
    c.verdict (dispatch m) = c'.verdict (dispatch m) ∧
      ∃ t t', c.after (dispatch m) = { c with store := t } ∧
        c'.after (dispatch m) = { c' with store := t' } ∧ Store.Parallel id c.store c'.store t t' := by
  have hport := Message.port_of_addressee hm
  have hrefl : Store.Parallel id c.store c'.store c.store c'.store := .refl h.store
  unfold verdict after
  rw [dispatch_eq, dispatch_eq]
  rcases h.find with ⟨e, hfind, hfind'⟩ | ⟨i, i', app, hfind, hfind'⟩
  · have hv : c.validate m = .error (.route e) := by simp only [validate, hport, hfind]; rfl
    have hv' : c'.validate m = .error (.route e) := by simp only [validate, hport, hfind']; rfl
    rw [hv, hv']
    exact ⟨rfl, _, _, rfl, rfl, hrefl⟩
  · have hv : c.validate m = m.validate c.host c.store app := by simp only [validate, hport, hfind]; rfl
    have hv' : c'.validate m = m.validate c'.host c'.store app := by
      simp only [validate, hport, hfind']
      rfl
    rw [hv, hv', Message.validate_congr hm h.store h.host]
    cases m.validate c'.host c'.store app with
    | error e => exact ⟨rfl, _, _, rfl, rfl, hrefl⟩
    | ok u =>
      have hx := Message.execute_alike hm h.host c.store c'.store app h.store
      simp only [execute, hport, hfind, hfind']
      generalize m.execute c.host ⟨c.store, app⟩ = r at hx
      generalize m.execute c'.host ⟨c'.store, app⟩ = r' at hx
      cases hx with
      | ok a hp => exact ⟨rfl, _, _, afterRun_of_find hfind, afterRun_of_find hfind', hp⟩
      | error e hp => exact ⟨rfl, _, _, afterRun_of_find hfind, afterRun_of_find hfind', hp⟩

omit [Digest] in
/-- What is done with another end cannot be told apart from nothing. -/
theorem Agrees.of_touches {t : Store} {es : List Event} {lines : List String} (hne : id ≠ id')
    (h : c.store.Touches t id' es lines) : c.Agrees { c with store := t } id where
  host := .refl _
  store := ⟨.of_eq (h.others id hne.symm).symm, fun k => by rw [h.connections]⟩
  app := rfl

omit [Digest] in
/-- What is done with two ends in either order comes to the same, but for the order of what is emitted. -/
theorem Alike.of_parallel {t t' u u' : Store} (hne : id ≠ id') (hq : Store.Parallel id c.store t' t u)
    (hq' : Store.Parallel id' c.store t t' u') :
    Alike { c with store := u' } { c with store := u } := by
  obtain ⟨es, lines, h, h'⟩ := hq.touches
  obtain ⟨fs, lines', k, k'⟩ := hq'.touches
  refine ⟨rfl, rfl, fun j => ?_, ?_, ?_, ?_, ?_, ?_⟩
  · show (u'.record j).Same (u.record j)
    by_cases hj : id = j
    · subst hj
      rw [k'.others _ hne.symm]
      exact hq.agrees.record
    · rw [h'.others j hj]
      by_cases hj' : id' = j
      · subst hj'
        exact hq'.agrees.record.symm
      · rw [k'.others j hj', h.others j hj, k.others j hj']
        exact .refl _
  · exact (k'.connections.trans h.connections).trans (h'.connections.trans k.connections).symm
  · exact (k'.channelCounter.trans h.channelCounter).trans
      (h'.channelCounter.trans k.channelCounter).symm
  · exact (k'.capabilityCounter.trans h.capabilityCounter).trans
      (h'.capabilityCounter.trans k.capabilityCounter).symm
  · show u'.events.Perm u.events
    rw [k'.events, h.events, h'.events, k.events, List.append_assoc, List.append_assoc]
    exact List.perm_append_comm.append_left _
  · show u'.logs.Perm u.logs
    rw [k'.logs, h.logs, h'.logs, k.logs, List.append_assoc, List.append_assoc]
    exact List.perm_append_comm.append_left _

/-- Messages for different ends do not hear of each other, and their order matters only to the order of what is
emitted. -/
theorem dispatch_comm (hm : m.addressee? = some id) (hm' : m'.addressee? = some id') (hne : id ≠ id') :
    (c.after (dispatch m')).verdict (dispatch m) = c.verdict (dispatch m) ∧
      (c.after (dispatch m)).verdict (dispatch m') = c.verdict (dispatch m') ∧
      ((c.after (dispatch m)).after (dispatch m')).Alike ((c.after (dispatch m')).after (dispatch m)) := by
  -- Each message is run on the chain alone, and after the other one.
  obtain ⟨-, t, _, ht, -, hp⟩ := dispatch_parallel hm (.refl c id)
  obtain ⟨-, t', _, ht', -, hp'⟩ := dispatch_parallel hm' (.refl c id')
  obtain ⟨_, _, hto, -⟩ := hp.touches
  obtain ⟨_, _, hto', -⟩ := hp'.touches
  rw [ht, ht']
  obtain ⟨hverdict, u, u', hu, hu', hq⟩ := dispatch_parallel hm (Agrees.of_touches (c := c) hne hto')
  obtain ⟨hverdict', w, w', hw, hw', hq'⟩ :=
    dispatch_parallel hm' (Agrees.of_touches (c := c) hne.symm hto)
  obtain rfl : t = u := congrArg Chain.store (ht.symm.trans hu)
  obtain rfl : t' = w := congrArg Chain.store (ht'.symm.trans hw)
  have halike : Alike { c with store := w' } { c with store := u' } := .of_parallel hne hq hq'
  rw [hu', hw']
  exact ⟨hverdict.symm, hverdict'.symm, halike⟩

/-- A message for an end is handled by the application on the port of the end, leaves every other end as it was,
depends on no other end, and commutes with messages for other ends. -/
theorem dispatch_separate (hm : m.addressee? = some id) :
    m.port = id.port ∧
    (∀ (c : Chain) (j : EndId), id ≠ j → (c.after (dispatch m)).store.record j = c.store.record j) ∧
    (∀ c c' : Chain, c.Agrees c' id → c.verdict (dispatch m) = c'.verdict (dispatch m) ∧
      (c.after (dispatch m)).Agrees (c'.after (dispatch m)) id) ∧
    ∀ (c : Chain) (m' : Message) (id' : EndId), m'.addressee? = some id' → id ≠ id' →
      (c.after (dispatch m')).verdict (dispatch m) = c.verdict (dispatch m) ∧
      (c.after (dispatch m)).verdict (dispatch m') = c.verdict (dispatch m') ∧
      ((c.after (dispatch m)).after (dispatch m')).Alike
        ((c.after (dispatch m')).after (dispatch m)) := by
  refine ⟨Message.port_of_addressee hm, fun c j hj => ?_, fun c c' h => ?_, fun c m' id' hm' hne =>
    dispatch_comm hm hm' hne⟩
  · obtain ⟨-, t, _, ht, -, hp⟩ := dispatch_parallel hm (.refl c id)
    obtain ⟨es, lines, htouches, -⟩ := hp.touches
    rw [ht]
    exact htouches.others j hj
  · obtain ⟨hverdict, t, t', ht, ht', hp⟩ := dispatch_parallel hm h
    rw [ht, ht']
    exact ⟨hverdict, h.host, hp.agrees, h.app⟩

end

/-! ## Two channels of one application -/

section
attribute [local instance] Digest.plain

open Sample (endId channel)

/-- A second end, on the same port. -/
def otherEnd : EndId := ⟨Sample.port, .numbered 1⟩

def oneChannel : Chain :=
  let c := (Sample.joined 5).a
  { c with store := c.store.setOwnedChannel endId (channel .opened .ordered 0) }

def twoChannels : Chain :=
  { oneChannel with store := oneChannel.store.setOwnedChannel otherEnd (channel .opened .unordered 0) }

def closing (id : EndId) : Message := .closeInit ⟨id, Sample.signer⟩

theorem twoChannels_facts : oneChannel.verdict (dispatch (closing endId)) = .ok () ∧
    oneChannel.store.record endId = twoChannels.store.record endId := by
  decide +kernel

theorem oneChannel_agrees : oneChannel.Agrees twoChannels endId :=
  ⟨.refl _, ⟨.of_eq twoChannels_facts.2, .refl _⟩, rfl⟩

/-- Either channel can be closed first, and the first one as well without the second. -/
theorem separate_when_closing : (closing endId).addressee? = some endId ∧
    twoChannels.verdict (dispatch (closing endId)) = .ok () ∧
    (twoChannels.after (dispatch (closing endId))).store.record otherEnd =
      twoChannels.store.record otherEnd ∧
    ((twoChannels.after (dispatch (closing endId))).after (dispatch (closing otherEnd))).Alike
      ((twoChannels.after (dispatch (closing otherEnd))).after (dispatch (closing endId))) := by
  have hne : endId ≠ otherEnd := by decide
  have haddressee : (closing endId).addressee? = some endId := rfl
  obtain ⟨-, hothers, hagrees, hcomm⟩ := dispatch_separate haddressee
  obtain ⟨hverdict, -⟩ := hagrees oneChannel twoChannels oneChannel_agrees
  exact ⟨haddressee, hverdict.symm.trans twoChannels_facts.1, hothers twoChannels otherEnd hne,
    (hcomm twoChannels (closing otherEnd) otherEnd rfl hne).2.2⟩

end

end Chain

end ChannelLayer
