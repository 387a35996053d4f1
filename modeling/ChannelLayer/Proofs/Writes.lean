import ChannelLayer.Proofs.Checks
import ChannelLayer.Proofs.Turn

/-!
# What a step writes

`Store.Writes s s' id r es`: from `s` to `s'` the end `id` got the record `r`, every other end kept its
own, and `es` are the decisive events among those that were emitted. A handler runs one small step after
another, and each lemma below carries the relation over one of them, so that the writes of a handler are
read off its text.
-/

set_option autoImplicit false

namespace ChannelLayer

/-- The decisive ones among some events. -/
def Event.decisive (es : List Event) : List Event := es.filter fun e => e.decides?.isSome

@[simp] theorem Event.decisive_append (es fs : List Event) :
    decisive (es ++ fs) = decisive es ++ decisive fs := List.filter_append ..

@[simp] theorem Event.decisive_application (es : List ModuleEvent) :
    decisive (es.map Event.application) = [] := by
  simp [decisive, decides?]

/-- One of the applications that a chain is set up with, not one written for a test. -/
def App.isSample : App → Bool
  | .dummy _ | .accountHost _ => true
  | .scripted _ => false

namespace Store

/-- From `s` to `s'` the end `id` was given the record `r`, with the decisive events `es`. -/
structure Writes (s s' : Store) (id : EndId) (r : ChannelRecord) (es : List Event) : Prop where
  record : ∀ j, s'.record j = if id = j then r else s.record j
  connections : s'.connections = s.connections
  reports : ∃ all, s'.events = s.events ++ all ∧ Event.decisive all = es
  counter : s'.channelCounter = s.channelCounter ∨ s'.channelCounter = s.channelCounter + 1

namespace Writes

variable {s s' : Store} {id : EndId} {r : ChannelRecord} {es : List Event}

theorem self (h : s.Writes s' id r es) : s'.record id = r := by simp [h.record]

theorem refl (s : Store) (id : EndId) : s.Writes s id (s.record id) [] where
  record j := by split <;> simp_all
  connections := rfl
  reports := ⟨[], by simp, rfl⟩
  counter := .inl rfl

theorem update (h : s.Writes s' id r es) (f : ChannelRecord → ChannelRecord) :
    s.Writes (s'.update id f) id (f r) es where
  record j := by
    by_cases hj : id = j
    · subst hj; simp [h.record]
    · simp [hj, h.record]
  connections := h.connections
  reports := h.reports
  counter := h.counter

theorem log (h : s.Writes s' id r es) (line : String) : s.Writes (s'.log line) id r es :=
  ⟨h.record, h.connections, h.reports, h.counter⟩

theorem report (h : s.Writes s' id r es) (e : Event) :
    s.Writes (s'.report e) id r (es ++ Event.decisive [e]) where
  record := h.record
  connections := h.connections
  reports := by
    obtain ⟨all, hall, hes⟩ := h.reports
    refine ⟨all ++ [.channelMessage, e], by simp [Store.report, emit, hall], ?_⟩
    rw [Event.decisive_append, hes]
    rfl
  counter := h.counter

theorem addExtras (h : s.Writes s' id r es) (extras : Extras) :
    s.Writes (s'.addExtras extras) id r es where
  record := h.record
  connections := h.connections
  reports := by
    obtain ⟨all, hall, hes⟩ := h.reports
    exact ⟨all ++ extras.events.map .application, by simp [Store.addExtras, hall], by simp [hes]⟩
  counter := h.counter

end Writes

end Store

/-- As `Store.Writes`, by a step that leaves a sample application one. -/
structure Ledger.Writes (l l' : Ledger) (id : EndId) (r : ChannelRecord) (es : List Event) : Prop
    extends l.store.Writes l'.store id r es where
  sample : l.app.isSample = true → l'.app.isSample = true

namespace Ledger.Writes

variable {l l' l'' : Ledger} {id : EndId} {r : ChannelRecord} {es : List Event} {u : Unit}

theorem refl (l : Ledger) (id : EndId) : l.Writes l id (l.store.record id) [] :=
  ⟨.refl l.store id, fun h => h⟩

theorem update (h : l.Writes l' id r es) (f : ChannelRecord → ChannelRecord) :
    l.Writes { l' with store := l'.store.update id f } id (f r) es :=
  ⟨h.toWrites.update f, h.sample⟩

theorem log (h : l.Writes l' id r es) (line : String) :
    l.Writes { l' with store := l'.store.log line } id r es :=
  ⟨h.toWrites.log line, h.sample⟩

theorem report (h : l.Writes l' id r es) (e : Event) :
    l.Writes { l' with store := l'.store.report e } id r (es ++ Event.decisive [e]) :=
  ⟨h.toWrites.report e, h.sample⟩

theorem addExtras (h : l.Writes l' id r es) (extras : Extras) :
    l.Writes { l' with store := l'.store.addExtras extras } id r es :=
  ⟨h.toWrites.addExtras extras, h.sample⟩

/-! ## How an attempt ends -/

theorem writeReceipt (h : l.Writes l' id r es) {c : ChannelEnd} {e : UpgradeError}
    (hx : Exec.writeReceipt id c e l' = .ok u l'') :
    l.Writes l'' id { r with errorReceipt := some (c.receiptFor e) }
      (es ++ [.upgradeError (.ofEnd id c) c.state (c.receiptFor e)]) := by
  simp only [Exec.writeReceipt, run_bind_eq_ok, Exec.update_eq_ok, Exec.log_eq_ok, Exec.report_eq_ok,
    exists_const, exists_eq_left'] at hx
  subst hx
  exact ((h.update _).log _).report _

theorem abortUpgrade (h : l.Writes l' id r es) {c : ChannelEnd} {e : UpgradeError}
    (hx : Exec.abortUpgrade id c e l' = .ok u l'') :
    l.Writes l'' id (r.giveUp c e)
      (es ++ [.upgradeError (.ofEnd id c.reopened) .opened (c.receiptFor e)]) := by
  simp only [Exec.abortUpgrade, run_bind_eq_ok, Exec.setChannel_eq_ok, Exec.update_eq_ok,
    Exec.log_eq_ok, Exec.report_eq_ok, Exec.app_eq_ok, Exec.addExtras_eq_ok, exists_const,
    exists_eq_left', and_assoc] at hx
  obtain ⟨_, _, rfl, rfl, rfl⟩ := hx
  exact (((((h.update _).update _).update _).log _).report _).addExtras _

theorem commitUpgrade (h : l.Writes l' id r es) {c : ChannelEnd}
    (hx : Exec.commitUpgrade id c l' = .ok u l'') :
    ∃ u w, r.upgrade = some u ∧ r.counterpartyUpgrade = some w ∧
      l.Writes l'' id (r.commit c u w)
        (es ++ [.upgrade .opened (.ofEnd id (c.upgraded u.fields)) u.fields]) := by
  simp only [Exec.commitUpgrade, run_bind_eq_ok, Exec.store_eq_ok, run_lift_eq_ok,
    Store.upgrade_eq_ok, Store.counterpartyUpgrade_eq_ok, MonadLiftT.monadLift, liftM,
    and_assoc, exists_and_left, exists_eq_left', h.self] at hx
  obtain ⟨u, hu, w, hw, hx⟩ := hx
  refine ⟨u, w, hu, hw, ?_⟩
  split at hx
  · rename_i hresume
    simp only [run_bind_eq_ok, Exec.setChannel_eq_ok, Exec.update_eq_ok, Exec.log_eq_ok,
      Exec.report_eq_ok, Exec.app_eq_ok, Exec.addExtras_eq_ok, exists_const, exists_eq_left',
      and_assoc] at hx
    obtain ⟨_, _, rfl, rfl, rfl⟩ := hx
    simp only [ChannelRecord.commit, ChannelRecord.resumeCounting, if_pos hresume]
    exact (((((h.update _).update _).update _).log _).report _).addExtras _
  · rename_i hresume
    simp only [run_bind_eq_ok, Exec.setChannel_eq_ok, Exec.update_eq_ok, Exec.log_eq_ok,
      Exec.report_eq_ok, Exec.app_eq_ok, Exec.addExtras_eq_ok, exists_const, exists_eq_left',
      and_assoc] at hx
    obtain ⟨_, _, rfl, rfl, rfl⟩ := hx
    simp only [ChannelRecord.commit, ChannelRecord.resumeCounting, if_neg hresume]
    exact ((((h.update _).update _).log _).report _).addExtras _

/-- A settled packet lets a flushing end give up, once the deadline of the other end has passed, and until then
go on flushing or finish. -/
theorem completeFlush (h : l.Writes l' id r es) {host : Host} {c : ChannelEnd}
    (hc : r.channel = some c) (hx : Exec.completeFlush host id l' = .ok u l'') :
    (c.state ≠ .flushing ∧ l.Writes l'' id r es) ∨
    (c.state = .flushing ∧ ∃ w, r.counterpartyUpgrade = some w ∧
      ((w.timeout.hasElapsed host.height host.time = true ∧ ∃ e, l.Writes l'' id (r.giveUp c e)
          (es ++ [.upgradeError (.ofEnd id c.reopened) .opened (c.receiptFor e)])) ∨
        (w.timeout.hasElapsed host.height host.time = false ∧
          (r.commitments.isEmpty = false ∧ l.Writes l'' id r es ∨
            r.commitments.isEmpty = true ∧ l.Writes l'' id (r.setState c .flushComplete) es)))) := by
  simp only [Exec.completeFlush, run_bind_eq_ok, Exec.store_eq_ok, run_lift_eq_ok,
    Store.channel_eq_ok, MonadLiftT.monadLift, liftM, and_assoc, exists_and_left, exists_eq_left',
    h.self, hc, Option.some.injEq] at hx
  split at hx
  · rename_i hstate
    simp only [run_pure_eq_ok, true_and] at hx
    exact .inl ⟨hstate, hx ▸ h⟩
  · rename_i hstate
    simp only [run_bind_eq_ok, Exec.store_eq_ok, run_lift_eq_ok, Store.counterpartyUpgrade_eq_ok,
      and_assoc, exists_and_left, exists_eq_left', h.self] at hx
    obtain ⟨w, hw, hx⟩ := hx
    refine .inr ⟨Decidable.not_not.1 hstate, w, hw, ?_⟩
    cases htime : host.upgradeElapsed? w.timeout with
    | some e =>
      simp only [htime] at hx
      exact .inl ⟨by simpa [Host.upgradeElapsed?] using congrArg Option.isSome htime, _, h.abortUpgrade hx⟩
    | none =>
      refine .inr ⟨by simpa [Host.upgradeElapsed?] using htime, ?_⟩
      simp only [htime, run_bind_eq_ok, Exec.store_eq_ok, and_assoc, exists_and_left,
        exists_eq_left'] at hx
      split at hx
      · rename_i hempty
        simp only [run_bind_eq_ok, Exec.setChannel_eq_ok, Exec.log_eq_ok, exists_const,
          exists_eq_left'] at hx
        subst hx
        exact .inr ⟨by simpa [Store.isFlushed, h.self] using hempty, (h.update _).log _⟩
      · rename_i hrest
        simp only [run_pure_eq_ok, true_and] at hx
        exact .inl ⟨by simpa [Store.isFlushed, h.self] using hrest, hx ▸ h⟩

end Ledger.Writes

/-- From `l` to `l'` the end `id`, which is `c` with the record `r`, gives its attempt up and tells of it. -/
def Ledger.GivesUp (l l' : Ledger) (id : EndId) (r : ChannelRecord) (c : ChannelEnd) : Prop :=
  ∃ e, l.Writes l' id (r.giveUp c e)
    [.upgradeError (.ofEnd id c.reopened) .opened (c.receiptFor e)]

theorem Ledger.givesUp_of_abortUpgrade {l l' : Ledger} {id : EndId} {c : ChannelEnd} {e : UpgradeError}
    (hx : Exec.abortUpgrade id c e l = .ok () l') : l.GivesUp l' id (l.store.record id) c :=
  ⟨e, (Writes.refl l id).abortUpgrade hx⟩

end ChannelLayer
