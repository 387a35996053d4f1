import ChannelLayer.Proofs.Writes

/-!
# Applications stay what they are

Executing a message leaves a sample application one, whether it succeeds or fails half way
(`Message.execute_keepsSample`). Only the answer to a new channel changes an application at all.
-/

set_option autoImplicit false

namespace ChannelLayer

namespace Exec

variable {α β : Type}

/-- The ledger that a step leaves behind, also where it fails. -/
def after (x : Exec α) (l : Ledger) : Ledger :=
  match x l with
  | .ok _ l' => l'
  | .error _ l' => l'

def KeepsSample (x : Exec α) : Prop :=
  ∀ l, l.app.isSample = true → (x.after l).app.isSample = true

namespace KeepsSample

theorem bind {x : Exec α} {f : α → Exec β} (hx : x.KeepsSample) (hf : ∀ a, (f a).KeepsSample) :
    (x >>= f).KeepsSample := by
  intro l hl
  have hmid := hx l hl
  show (Exec.after (EStateM.bind x f) l).app.isSample = true
  unfold Exec.after EStateM.bind
  unfold Exec.after at hmid
  cases h : x l with
  | ok a l₁ =>
    rw [h] at hmid
    exact hf a l₁ hmid
  | error e l₁ =>
    rw [h] at hmid
    exact hmid

theorem pure {a : α} : (Pure.pure a : Exec α).KeepsSample := fun _ hl => hl

theorem lift {x : Except HandlerError α} : (MonadLift.monadLift x : Exec α).KeepsSample := by
  intro l hl
  cases x <;> exact hl

/-- What is done with the result of a check. -/
theorem bindLift {x : Except HandlerError α} {f : α → Exec β}
    (hf : ∀ a, x = .ok a → (f a).KeepsSample) :
    ((MonadLift.monadLift x : Exec α) >>= f).KeepsSample := by
  cases x with
  | error e => exact fun _ hl => hl
  | ok a => exact hf a rfl

theorem store : Exec.store.KeepsSample := fun _ hl => hl

theorem update {f : Store → Store} : (Exec.update f).KeepsSample := fun _ hl => hl

/-- What is done with the application it finds. -/
theorem bindApp {f : App → Exec α} (hf : ∀ a, a.isSample = true → (f a).KeepsSample) :
    (Exec.app >>= f).KeepsSample :=
  fun l hl => hf l.app hl l hl

theorem setApp {a : App} (ha : a.isSample = true) : (Exec.setApp a).KeepsSample := fun _ _ => ha

theorem ite {p : Prop} [Decidable p] {x y : Exec α} (hx : x.KeepsSample) (hy : y.KeepsSample) :
    (if p then x else y).KeepsSample := by
  split
  · exact hx
  · exact hy

end KeepsSample

variable {id : EndId} {c : ChannelEnd} {e : UpgradeError}

theorem writeReceipt_keepsSample : (writeReceipt id c e).KeepsSample :=
  .bind .update fun _ => .bind .update fun _ => .update

theorem abortUpgrade_keepsSample : (abortUpgrade id c e).KeepsSample :=
  .bind .update fun _ => .bind .update fun _ => .bind .update fun _ => .bind .update fun _ =>
    .bind .update fun _ => .bindApp fun _ _ => .update

theorem commitUpgrade_keepsSample : (commitUpgrade id c).KeepsSample := by
  refine .bind .store fun _ => .bind .lift fun u => .bind .store fun _ => .bind .lift fun w => ?_
  have hrest : ∀ u : Upgrade, ((do
      setChannel id (c.upgraded u.fields)
      update (·.clearUpgrade id)
      log "success: channel upgrade open"
      report (.upgrade .opened (.ofEnd id (c.upgraded u.fields)) u.fields)
      addExtras ((← app).upgradeOpen id u.fields.version)) : Exec Unit).KeepsSample := fun _ =>
    .bind .update fun _ => .bind .update fun _ => .bind .update fun _ => .bind .update fun _ =>
      .bindApp fun _ _ => .update
  exact .ite (.bind .update fun _ => hrest u) (hrest u)

theorem completeFlush_keepsSample {host : Host} : (completeFlush host id).KeepsSample := by
  refine .bind .store fun _ => .bind .lift fun c => .ite .pure ?_
  refine .bind .store fun _ => .bind .lift fun w => ?_
  split
  · exact abortUpgrade_keepsSample
  · exact .bind .store fun _ => .ite (.bind .update fun _ => .update) .pure

theorem addChannel_keepsSample : (addChannel id c).KeepsSample :=
  .bind .update fun _ => .bind .store fun _ => .bind .lift fun _ => .update

theorem closeEnd_keepsSample {line : String} {event : EndInfo → Event} :
    (closeEnd id line event).KeepsSample :=
  .bind .store fun _ => .bind .lift fun _ => .bind .update fun _ => .bind .update fun _ =>
    .bind .lift fun _ => .update

theorem dropUpgrade_keepsSample : (dropUpgrade id c).KeepsSample :=
  .ite (.bind writeReceipt_keepsSample fun _ => .update) .pure

theorem timeOut_keepsSample {host : Host} {p : Packet} : (timeOut host p).KeepsSample := by
  refine .bind .store fun _ => .bind .lift fun c => .bindApp fun _ _ => .bind .lift fun extras =>
    .bind .update fun _ => ?_
  have hend : ((do
      addExtras extras
      if c.state = .flushing ∧ c.order = .unordered then completeFlush host p.source) :
      Exec Unit).KeepsSample :=
    .bind .update fun _ => .ite completeFlush_keepsSample .pure
  have hclosed : ((do
      log "success: packet timeout"
      report (.timeoutPacket p c.order)
      if c.order = .ordered then
        report (.channelClosed ⟨p.source, c.remote, ← firstHop c.hops⟩ c.order)
      addExtras extras
      if c.state = .flushing ∧ c.order = .unordered then completeFlush host p.source) :
      Exec Unit).KeepsSample :=
    .bind .update fun _ => .bind .update fun _ =>
      .ite (.bind .lift fun _ => .bind .update fun _ => hend) hend
  exact .ite (.bind dropUpgrade_keepsSample fun _ => .bind .update fun _ => hclosed) hclosed

end Exec

namespace Message

open Exec

theorem OpenInit.execute_keepsSample {m : OpenInit} : m.execute.KeepsSample :=
  .bind .store fun _ => .bindApp fun _ _ => .bind .lift fun _ => .bind .lift fun _ =>
    .bind .lift fun _ => .bind addChannel_keepsSample fun _ => .bind .update fun _ =>
    .bind .update fun _ => .update

theorem App.isSample_of_openTry {a a' : App} {r : OpenRequest} {extras : Extras} {version : Version}
    (h : a.openTry r = .ok (a', extras, version)) (ha : a.isSample = true) : a'.isSample = true := by
  cases a with
  | dummy d =>
    simp only [App.openTry, Except.ok.injEq, Prod.mk.injEq] at h
    exact h.1 ▸ ha
  | accountHost d =>
    simp only [App.openTry, bind_eq_ok, pure_eq_ok, Prod.exists, Prod.mk.injEq] at h
    obtain ⟨_, _, -, rfl, -⟩ := h
    rfl
  | scripted d => simp [App.isSample] at ha

theorem OpenTry.execute_keepsSample {m : OpenTry} : m.execute.KeepsSample := by
  refine .bind .store fun s => .bindApp fun a ha => .bindLift fun ⟨a', extras, version⟩ hreply => ?_
  replace hreply : a.openTry (m.request s) = .ok (a', extras, version) := by simpa using hreply
  exact .bind (.setApp (App.isSample_of_openTry hreply ha)) fun _ => .bind .lift fun _ =>
    .bind .lift fun _ => .bind addChannel_keepsSample fun _ => .bind .update fun _ =>
    .bind .update fun _ => .update

theorem OpenAck.execute_keepsSample {m : OpenAck} : m.execute.KeepsSample :=
  .bindApp fun _ _ => .bind .lift fun _ => .bind .store fun _ => .bind .lift fun _ =>
    .bind .update fun _ => .bind .update fun _ => .bind .update fun _ => .bind .lift fun _ =>
    .bind .update fun _ => .update

theorem OpenConfirm.execute_keepsSample {m : OpenConfirm} : m.execute.KeepsSample :=
  .bindApp fun _ _ => .bind .lift fun _ => .bind .store fun _ => .bind .lift fun _ =>
    .bind .update fun _ => .bind .update fun _ => .bind .update fun _ => .bind .lift fun _ =>
    .bind .lift fun _ => .bind .update fun _ => .update

theorem CloseInit.execute_keepsSample {m : CloseInit} : m.execute.KeepsSample :=
  .bindApp fun _ _ => .bind .lift fun _ => .bind closeEnd_keepsSample fun _ => .update

theorem CloseConfirm.execute_keepsSample {m : CloseConfirm} : m.execute.KeepsSample :=
  .bindApp fun _ _ => .bind .lift fun _ => .bind closeEnd_keepsSample fun _ => .update

theorem Receive.remember_keepsSample [Digest] {m : Receive} {order : ChannelOrder} :
    (m.remember order).KeepsSample := by
  unfold remember
  cases order with
  | unordered => exact .update
  | ordered => exact .bind .store fun _ => .bind .lift fun _ => .update
  | unspecified => exact .pure

theorem Receive.execute_keepsSample [Digest] {m : Receive} : m.execute.KeepsSample :=
  .bind .store fun _ => .bind .lift fun _ => .bind .store fun _ => .bind .lift fun _ =>
    .ite .pure (.bindApp fun _ _ => .bind remember_keepsSample fun _ => .bind .update fun _ =>
      .bind .update fun _ => .bind .update fun _ => .bind .lift fun _ => .bind .update fun _ =>
      .bind .update fun _ => .update)

theorem Acknowledge.execute_keepsSample {m : Acknowledge} {host : Host} :
    (m.execute host).KeepsSample := by
  refine .bind .store fun _ => .bind .lift fun c => .bind .lift fun hop => .bindApp fun _ _ =>
    .bind .lift fun extras => .bind .update fun _ => ?_
  have hend : ((do
      log "success: packet acknowledgement"
      report (.acknowledgePacket m.packet c.order hop)
      addExtras extras
      if c.state = .flushing then completeFlush host m.packet.source) : Exec Unit).KeepsSample :=
    .bind .update fun _ => .bind .update fun _ => .bind .update fun _ =>
      .ite completeFlush_keepsSample .pure
  exact .ite (.bind .update fun _ => hend) hend

theorem UpgradeInit.execute_keepsSample {m : UpgradeInit} : m.execute.KeepsSample :=
  .bind .store fun _ => .bind .lift fun _ => .bindApp fun _ _ => .bind .lift fun _ =>
    .bind .store fun _ => .bind .lift fun _ => .bind .update fun _ => .bind .update fun _ =>
    .bind .update fun _ => .bind .update fun _ => .update

theorem UpgradeTry.execute_keepsSample {m : UpgradeTry} {host : Host} :
    (m.execute host).KeepsSample := by
  refine .bind .store fun _ => .bind .lift fun c => .ite writeReceipt_keepsSample ?_
  refine .bind .store fun _ => .bind .lift fun _ => .ite abortUpgrade_keepsSample ?_
  refine .bind .store fun _ => .bind .lift fun cause => ?_
  cases cause with
  | some e => exact abortUpgrade_keepsSample
  | none =>
    refine .bindApp fun a _ => ?_
    split
    · exact abortUpgrade_keepsSample
    · exact .bind .store fun _ => .bind .lift fun _ => .bind .update fun _ => .bind .update fun _ =>
        .bind .update fun _ => .bind .update fun _ => .update

theorem UpgradeAck.execute_keepsSample {m : UpgradeAck} {host : Host} :
    (m.execute host).KeepsSample := by
  refine .bind .store fun _ => .bind .lift fun c => .bind .store fun _ => .bind .lift fun u => ?_
  refine .bind .store fun _ => .bind .lift fun cause => ?_
  cases cause with
  | some e => exact abortUpgrade_keepsSample
  | none =>
    refine .bindApp fun a _ => ?_
    split
    · exact abortUpgrade_keepsSample
    · exact .bind .store fun _ => .bind .lift fun _ => .bind .update fun _ => .bind .update fun _ =>
        .bind .store fun _ => .bind .update fun _ => .bind .update fun _ => .bind .update fun _ =>
        .update

theorem UpgradeConfirm.execute_keepsSample {m : UpgradeConfirm} {host : Host} :
    (m.execute host).KeepsSample := by
  refine .bind .store fun _ => .bind .lift fun c => .bind .store fun _ => .bind .lift fun u => ?_
  split
  · exact abortUpgrade_keepsSample
  · exact .bind .update fun _ => .bind .store fun _ => .bind .update fun _ => .bind .update fun _ =>
      .bind .update fun _ => .ite commitUpgrade_keepsSample .pure

theorem UpgradeOpen.execute_keepsSample {m : UpgradeOpen} : m.execute.KeepsSample :=
  .bind .store fun _ => .bind .lift fun _ => commitUpgrade_keepsSample

theorem UpgradeCancel.execute_keepsSample {m : UpgradeCancel} : m.execute.KeepsSample :=
  .bind .store fun _ => .bind .lift fun _ => .bind abortUpgrade_keepsSample fun _ =>
    .bind .store fun _ => .bind .lift fun _ => .bind .update fun _ => .update

theorem UpgradeExpire.execute_keepsSample {m : UpgradeExpire} {host : Host} :
    (m.execute host).KeepsSample :=
  .bind .store fun _ => .bind .lift fun _ => .bind .store fun _ => .bind .lift fun _ =>
    .bind .store fun _ => .bind .lift fun _ => .bind .lift fun _ => .bind .lift fun _ =>
    .bind abortUpgrade_keepsSample fun _ => .bind .store fun _ => .bind .lift fun _ =>
    .bind .update fun _ => .update

theorem execute_keepsSample [Digest] {m : Message} {host : Host} : (m.execute host).KeepsSample := by
  cases m with
  | openInit m => exact OpenInit.execute_keepsSample
  | openTry m => exact OpenTry.execute_keepsSample
  | openAck m => exact OpenAck.execute_keepsSample
  | openConfirm m => exact OpenConfirm.execute_keepsSample
  | closeInit m => exact CloseInit.execute_keepsSample
  | closeConfirm m => exact CloseConfirm.execute_keepsSample
  | receive m => exact Receive.execute_keepsSample
  | acknowledge m => exact Acknowledge.execute_keepsSample
  | timeout m => exact timeOut_keepsSample
  | timeoutOnClose m => exact timeOut_keepsSample
  | upgradeInit m => exact UpgradeInit.execute_keepsSample
  | upgradeTry m => exact UpgradeTry.execute_keepsSample
  | upgradeAck m => exact UpgradeAck.execute_keepsSample
  | upgradeConfirm m => exact UpgradeConfirm.execute_keepsSample
  | upgradeOpen m => exact UpgradeOpen.execute_keepsSample
  | upgradeCancel m => exact UpgradeCancel.execute_keepsSample
  | upgradeExpire m => exact UpgradeExpire.execute_keepsSample

end Message

end ChannelLayer
