import ChannelLayer.Proofs.Completion
import ChannelLayer.Proofs.Intake
import ChannelLayer.Proofs.LifeCycle
import ChannelLayer.Proofs.Separation

/-!
# Who owns an account

The account host keeps a channel for each connection and port of the other chain, and the version of the channel
names the owner. Only an answer to a proposed channel binds one (`Course.hosts_succ`), a new one, and of the same
owner as the one that it replaces (`Course.newly_bound`). An upgrade is not held to that: it may put a version of
another owner in force, and nothing else can (`Course.version_succ`).
-/

set_option autoImplicit false

namespace ChannelLayer

namespace Chain

/-- The application on `port`, and on no other one, is the account host `host`, by the name `name`. -/
structure Hosts (c : Chain) (port : PortId) (name : ModuleId) (host : AccountHost) : Prop where
  routed : ∀ p, c.router.ports.get? p = some name ↔ p = port
  module : c.router.modules.get? name = some (.accountHost host)

namespace Hosts

variable {c c' : Chain} {port : PortId} {name : ModuleId} {host : AccountHost}

theorem congr (h : c.Hosts port name host) (hrouter : c'.router = c.router) : c'.Hosts port name host :=
  ⟨by rw [hrouter]; exact h.routed, by rw [hrouter]; exact h.module⟩

theorem find (h : c.Hosts port name host) : c.router.find port = .ok (name, .accountHost host) :=
  Router.find_eq_ok.2 ⟨(h.routed port).2 rfl, h.module⟩

/-- What another application does is nothing to the account host. -/
theorem afterRun_of_ne (h : c.Hosts port name host) {i : ModuleId} (hi : i ≠ name) (l : Ledger) :
    (c.afterRun i l).Hosts port name host where
  routed := h.routed
  module := by
    show (c.router.modules.insert i l.app).get? name = _
    rw [Table.get?_insert_of_ne _ _ hi]
    exact h.module

theorem afterRun_self (h : c.Hosts port name host) {l : Ledger} {host' : AccountHost}
    (hl : l.app = .accountHost host') : (c.afterRun name l).Hosts port name host' where
  routed := h.routed
  module := by
    show (c.router.modules.insert name l.app).get? name = _
    rw [Table.get?_insert_self, hl]

/-- The application on another port goes by another name. -/
theorem ne_of_find (h : c.Hosts port name host) {p : PortId} (hp : p ≠ port) {i : ModuleId} {app : App}
    (hfind : c.router.find p = .ok (i, app)) : i ≠ name := by
  rintro rfl
  exact hp ((h.routed p).1 (Router.find_eq_ok.1 hfind).1)

end Hosts

end Chain

/-! ## What a message does to the account host -/

theorem Exec.app_addChannel {id : EndId} {c : ChannelEnd} {l l' : Ledger} {u : Unit}
    (hx : Exec.addChannel id c l = .ok u l') : l'.app = l.app := by
  simp only [Exec.addChannel, Store.claim, run_bind_eq_ok, Exec.update_eq_ok, Exec.store_eq_ok,
    run_lift_eq_ok, bind_eq_ok, Store.checkUnclaimed_eq_ok, liftM, MonadLiftT.monadLift, lift_eq_ok,
    pure_eq_ok, and_assoc, exists_and_left, exists_const, exists_eq_left'] at hx
  obtain ⟨-, rfl⟩ := hx
  rfl

theorem App.openTry_of_accountHost {host : AccountHost} {r : OpenRequest} {app : App} {extras : Extras}
    {version : Version} (h : (App.accountHost host).openTry r = .ok (app, extras, version)) :
    app = .accountHost (host.bindChannel r) ∧ version = r.version := by
  simp [App.openTry, AccountHost.openTry] at h
  obtain ⟨owner, -, happ, -, hversion⟩ := h
  exact ⟨happ.symm, hversion.symm⟩

/-- The account host binds the channel that it answers, and the new end has the version that was proposed. -/
theorem Message.OpenTry.of_accountHost {m : Message.OpenTry} {s : Store} {host : AccountHost} {l' : Ledger}
    (hx : m.execute ⟨s, .accountHost host⟩ = .ok () l') :
    l'.app = .accountHost (host.bindChannel (m.request s)) ∧
      (l'.store.record ⟨m.port, s.nextChannelId⟩).channel =
        some ⟨.tryOpen, m.order, .ofEnd m.counterparty, m.hops, m.counterpartyVersion, 0⟩ := by
  simp [Message.OpenTry.execute, and_assoc] at hx
  obtain ⟨app, extras, version, hopen, hop, -, -, -, _, l₁, hadd, rfl⟩ := hx
  obtain ⟨rfl, rfl⟩ := App.openTry_of_accountHost hopen
  obtain ⟨hw, -⟩ := Ledger.Writes.addChannel hadd
  have hself : l₁.store.record ⟨m.port, s.nextChannelId⟩ = _ := hw.self
  refine ⟨Exec.app_addChannel hadd, ?_⟩
  rw [Store.record_addExtras, Store.record_report, Store.record_log, hself]
  rfl

namespace Chain.Hosts

section
variable [Digest] {c : Chain} {port : PortId} {name : ModuleId} {host : AccountHost} {m : Message}

/-- A message for another port does not reach the account host. -/
theorem dispatch_of_ne (h : c.Hosts port name host) (hport : m.port ≠ port) :
    (c.after (dispatch m)).Hosts port name host := by
  unfold after
  rw [dispatch_eq]
  cases c.validate m with
  | error e => exact h
  | ok u =>
    unfold execute
    cases hfind : c.router.find m.port with
    | error e => exact h
    | ok x =>
      obtain ⟨i, app⟩ := x
      have hi := h.ne_of_find hport hfind
      simp only []
      cases m.execute c.host ⟨c.store, app⟩ with
      | error e l => exact h.afterRun_of_ne hi l
      | ok u l => exact h.afterRun_of_ne hi l

theorem validate_eq (h : c.Hosts port name host) (hport : m.port = port) :
    c.validate m = m.validate c.host c.store (.accountHost host) := by
  simp only [validate, hport, h.find]
  rfl

/-- The account host opens no channels by itself. -/
theorem not_openInit (h : c.Hosts port name host) {m : Message.OpenInit} (hport : m.port = port) :
    c.validate (.openInit m) ≠ .ok () := by
  rw [h.validate_eq (m := .openInit m) hport]
  intro hv
  obtain ⟨-, -, -, hop, -, -, -, -, hcheck⟩ := Message.OpenInit.validate_eq_ok.1 hv
  cases hcheck

/-- Only an answer to a proposed channel is noted by the account host, and with success. -/
theorem deliver (h : c.Hosts port name host) (m : Message) :
    (c.after (deliver m)).Hosts port name host ∨
      ∃ m' : Message.OpenTry, m = .openTry m' ∧ m'.port = port ∧ c.takes m = true ∧
        (c.after (deliver m)).Hosts port name (host.bindChannel (m'.request c.store)) := by
  have hrouter : (c.after (Chain.deliver m)).router = (c.after (dispatch m)).router := by
    unfold after Chain.deliver
    cases dispatch m c <;> rfl
  by_cases hport : m.port = port
  · cases hm : m.addressee? with
    | some id =>
      obtain ⟨-, t, -, ht, -⟩ := dispatch_parallel hm (.refl c id)
      exact .inl (h.congr (by rw [hrouter, ht]))
    | none =>
      cases hv : c.validate m with
      | error e =>
        refine .inl (h.congr ?_)
        rw [hrouter]
        unfold after
        rw [dispatch_eq, hv]
      | ok u =>
        cases m with
        | openInit m => exact absurd hv (h.not_openInit hport)
        | openTry m =>
          rw [h.validate_eq hport] at hv
          have hsample : (App.accountHost host).isSample = true := rfl
          obtain ⟨l', hx⟩ := Message.OpenTry.completes hsample hv
          obtain ⟨htakes, hafter⟩ := takes_of_executes (m := .openTry m) (hport ▸ h.find) hv hx
          refine .inr ⟨m, rfl, hport, htakes, ?_⟩
          rw [hafter]
          exact (h.afterRun_self (Message.OpenTry.of_accountHost hx).1).congr rfl
        | _ => cases hm
  · exact .inl ((h.dispatch_of_ne hport).congr hrouter)

end

end Chain.Hosts

/-! ## What an answer to a proposed channel does -/

/-- Where the account host answers a proposed channel, the version of the channel names an owner, and a channel
that is bound already is closed and has the same owner. -/
theorem Message.OpenTry.of_validate [Digest] {m : Message.OpenTry} {host : Host} {s : Store} {a : AccountHost}
    (hv : m.validate host s (.accountHost a) = .ok ()) :
    ∃ hop owner, m.hops = [hop] ∧ AccountHost.ownerOf m.counterpartyVersion = .ok owner ∧
      ∀ active, a.bound.get? (hop, m.counterparty.port) = some active →
        ∃ c, (s.record ⟨m.port, active⟩).channel = some c ∧ c.state = .closed ∧
          AccountHost.ownerOf c.version = .ok owner := by
  obtain ⟨-, hlen, -, hop, hhop, -, -, -, hreopen, hcheck, -⟩ := Message.OpenTry.validate_eq_ok.1 hv
  obtain ⟨hop', hhops⟩ := List.length_eq_one_iff.1 hlen
  obtain rfl : hop' = hop := by simpa [hhops] using hhop
  obtain ⟨owner, hcheck⟩ : ∃ owner, AccountHost.checkOpenTry (m.request s) = .ok owner :=
    discard_eq_ok.1 hcheck
  have howner : AccountHost.ownerOf m.counterpartyVersion = .ok owner := by
    simp only [AccountHost.checkOpenTry, bind_eq_ok] at hcheck
    obtain ⟨-, -, -, -, howner⟩ := hcheck
    exact howner
  refine ⟨hop', owner, hhops, howner, fun active hactive => ?_⟩
  have hbound : (App.accountHost a).activeChannel hop' m.counterparty.port = some active := hactive
  simp [Message.OpenTry.checkReopen, hhops, firstHop, hbound, App.checkReopen, AccountHost.checkReopen,
    howner] at hreopen
  obtain ⟨c, hc, hclosed, -, howned⟩ := hreopen
  exact ⟨c, hc, hclosed, howned⟩

namespace Course

section
variable [Digest] {course : Course} {port : PortId} {name : ModuleId} {host : AccountHost} {i : Nat}

/-- The account host changes only where it answers a proposed channel. -/
theorem hosts_succ (h : (course.chain i).Hosts port name host) :
    (course.chain (i + 1)).Hosts port name host ∨
      ∃ m : Message.OpenTry, course.Succeeds i (.openTry m) ∧ m.port = port ∧
        (course.chain (i + 1)).Hosts port name (host.bindChannel (m.request (course.chain i).store)) := by
  cases hdeed : course.deeds[i]? with
  | none => exact .inl (by rwa [chain_over hdeed])
  | some deed =>
    rw [chain_succ hdeed]
    cases deed with
    | deliver m =>
      rcases h.deliver m with hsame | ⟨m', rfl, hport, htakes, hnext⟩
      · exact .inl hsame
      · exact .inr ⟨m', ⟨hdeed, htakes⟩, hport, hnext⟩
    | send handle p => exact .inl (h.congr ((course.chain i).after_send handle p).2.1)
    | release handle id => exact .inl (h.congr ((course.chain i).router_release handle id))
    | advanceBlock => exact .inl (h.congr rfl)
    | advanceTime duration => exact .inl (h.congr rfl)
    | learn client height time => exact .inl (h.congr rfl)

theorem exists_hosts (h : course.start.Hosts port name host) (i : Nat) :
    ∃ host', (course.chain i).Hosts port name host' := by
  induction i with
  | zero => exact ⟨host, h⟩
  | succ i ih =>
    obtain ⟨host', hhost⟩ := ih
    rcases hosts_succ hhost with hsame | ⟨m, -, -, hnext⟩
    · exact ⟨host', hsame⟩
    · exact ⟨_, hnext⟩

end

end Course

/-- The end is there and does not wait for an answer, so that only an upgrade can change its version. -/
def ChannelRecord.Engaged (r : ChannelRecord) : Prop := ∃ c, r.channel = some c ∧ c.state ≠ .init

namespace Course

section
variable [Digest] (course : Course) (port : PortId) (name : ModuleId) (pair : ConnectionId × PortId)

/-- In deed `i` the end `id` puts the fields `f` in force. -/
def Commits (i : Nat) (id : EndId) (f : UpgradeFields) : Prop :=
  ∃ info, Event.upgrade .opened info f ∈ course.happens i id

/-- At world `i` the account host on `port` has the end `id` bound to the connection and the port `pair`. -/
def BoundAt (i : Nat) (id : EndId) : Prop :=
  id.port = port ∧ ∃ host, (course.chain i).router.modules.get? name = some (.accountHost host) ∧
    host.bound.get? pair = some id.channel

/-- At some time the account host has the end `id` bound to `pair`. -/
def Bound (id : EndId) : Prop := ∃ i, course.BoundAt port name pair i id

/-- All versions that are ever in force on an end that is ever bound to `pair` name one owner. -/
def OneOwner : Prop :=
  ∃ owner, ∀ id, course.Bound port name pair id → ∀ i c, (course.record i id).channel = some c →
    AccountHost.ownerOf c.version = .ok owner

/-- No upgrade of an end that is ever bound to `pair` hands the account to another owner. -/
def UpgradesWithinAccount : Prop :=
  ∀ id, course.Bound port name pair id → ∀ i c f, (course.record i id).channel = some c →
    course.Commits i id f → AccountHost.ownerOf f.version = AccountHost.ownerOf c.version

/-- Up to world `i` all that was ever bound to `pair` is of `owner`. -/
def OwnedBy (i : Nat) (owner : String) : Prop :=
  ∀ j, j ≤ i → ∀ id, course.BoundAt port name pair j id → ∀ k, k ≤ i → ∀ c,
    (course.record k id).channel = some c → AccountHost.ownerOf c.version = .ok owner

end

section
variable [Digest] {course : Course} {port : PortId} {name : ModuleId} {pair : ConnectionId × PortId}
  {host : AccountHost} {i k : Nat} {id : EndId} {c c' : ChannelEnd} {f : UpgradeFields}

/-! ## Versions -/

theorem engaged_succ (h : course.Regular) (hr : (course.record i id).Engaged) :
    (course.record (i + 1) id).Engaged := by
  obtain ⟨c, hc, hstate⟩ := hr
  obtain ⟨c', hc', hpasses⟩ := passes h hc
  refine ⟨c', hc', fun hinit => ?_⟩
  rcases hpasses.state with hsame | hnext
  · exact hstate (hsame.symm.trans hinit)
  · rw [hinit] at hnext
    revert hnext
    cases c.state <;> decide

theorem engaged_of_le (h : course.Regular) (hik : i ≤ k) (hr : (course.record i id).Engaged) :
    (course.record k id).Engaged := by
  induction hik with
  | refl => exact hr
  | step _ ih => exact engaged_succ h ih

/-- A commit puts the version of the upgrade in force. -/
theorem Commits.version (h : course.Standing i) (hcommit : course.Commits i id f) :
    (∃ u, (course.record i id).upgrade = some u) ∧
      ∃ c', (course.record (i + 1) id).channel = some c' ∧ c'.version = f.version := by
  obtain ⟨info, hinfo⟩ := hcommit
  rcases turn_or_released h id with hturn | ⟨-, hnone⟩
  · obtain ⟨c, u, w, -, hu, rfl, -, -, hrecord⟩ := hturn.of_commit hinfo
    exact ⟨⟨u, hu⟩, _, by rw [hrecord, ChannelRecord.channel_commit], rfl⟩
  · rw [hnone] at hinfo
    cases hinfo

/-- Nothing but a commit changes the version of an end that does not wait for an answer. -/
theorem version_succ (h : course.Regular) (hc : (course.record i id).channel = some c)
    (hstate : c.state ≠ .init) (hc' : (course.record (i + 1) id).channel = some c') :
    c'.version = c.version ∨ ∃ f, course.Commits i id f ∧ c'.version = f.version := by
  obtain ⟨d, hd, hpasses⟩ := passes h hc
  obtain rfl := Option.some.inj (hd.symm.trans hc')
  cases hpasses.revised with
  | kept hremote hfields => exact .inl (congrArg UpgradeFields.version hfields)
  | told hm hid hinit => exact absurd hinit hstate
  | @committed m u hm hid hu hend hevent =>
    subst hend
    exact .inr ⟨u.fields, ⟨_, hevent⟩, rfl⟩

/-! ## What is bound -/

theorem boundAt_iff (hhost : (course.chain i).Hosts port name host) :
    course.BoundAt port name pair i id ↔ id.port = port ∧ host.bound.get? pair = some id.channel := by
  simp only [BoundAt, hhost.module, Option.some.injEq, App.accountHost.injEq, exists_eq_left']

theorem BoundAt.unique {id' : EndId} (h : course.BoundAt port name pair i id)
    (h' : course.BoundAt port name pair i id') : id = id' := by
  obtain ⟨hport, host, hmodule, hget⟩ := h
  obtain ⟨hport', host', hmodule', hget'⟩ := h'
  obtain rfl := App.accountHost.inj (Option.some.inj (hmodule.symm.trans hmodule'))
  obtain ⟨p, channel⟩ := id
  obtain ⟨p', channel'⟩ := id'
  obtain rfl : channel = channel' := Option.some.inj (hget.symm.trans hget')
  obtain rfl : p = p' := hport.trans hport'.symm
  rfl

/-- The binding of a pair is replaced at most. -/
theorem exists_boundAt_succ (hhost : (course.chain i).Hosts port name host)
    (h : course.BoundAt port name pair i id) : ∃ id', course.BoundAt port name pair (i + 1) id' := by
  obtain ⟨hport, hget⟩ := (boundAt_iff hhost).1 h
  rcases hosts_succ hhost with hsame | ⟨m, -, -, hnext⟩
  · exact ⟨id, (boundAt_iff hsame).2 ⟨hport, hget⟩⟩
  · obtain ⟨channel, hchannel⟩ :
        ∃ channel, (host.bindChannel (m.request (course.chain i).store)).bound.get? pair = some channel := by
      unfold AccountHost.bindChannel
      split
      · rw [Table.get?_insert]
        split
        · exact ⟨_, rfl⟩
        · exact ⟨_, hget⟩
      · exact ⟨_, hget⟩
    exact ⟨⟨port, channel⟩, (boundAt_iff hnext).2 ⟨rfl, hchannel⟩⟩

/-- An answer to a proposed channel makes an end with the version that was proposed, and the account host binds
it to its connection. -/
theorem answered (hhost : (course.chain i).Hosts port name host) {m : Message.OpenTry}
    (hsucceeds : course.Succeeds i (.openTry m)) (hport : m.port = port) :
    (course.chain (i + 1)).Hosts port name (host.bindChannel (m.request (course.chain i).store)) ∧
    ∃ hop owner, m.hops = [hop] ∧ AccountHost.ownerOf m.counterpartyVersion = .ok owner ∧
      (course.record (i + 1) ⟨port, (course.chain i).store.nextChannelId⟩).channel =
        some ⟨.tryOpen, m.order, .ofEnd m.counterparty, m.hops, m.counterpartyVersion, 0⟩ ∧
      ∀ active, host.bound.get? (hop, m.counterparty.port) = some active →
        ∃ c, (course.record i ⟨port, active⟩).channel = some c ∧ c.state = .closed ∧
          AccountHost.ownerOf c.version = .ok owner := by
  subst hport
  obtain ⟨hdeed, htakes⟩ := hsucceeds
  obtain ⟨j, app, l', hfind, hv, hx, hafter⟩ := Chain.after_of_takes htakes
  obtain ⟨rfl, rfl⟩ : name = j ∧ .accountHost host = app := by simpa using hhost.find.symm.trans hfind
  obtain ⟨hop, owner, hhops, howner, hreopen⟩ := Message.OpenTry.of_validate hv
  obtain ⟨happ, hend⟩ := Message.OpenTry.of_accountHost hx
  rw [record, chain_succ hdeed, Chain.undergo, hafter]
  exact ⟨(hhost.afterRun_self happ).congr rfl, hop, owner, hhops, howner, hend, hreopen⟩

/-- An end that is newly bound is a new one, and of the owner of the end that was bound before. -/
theorem newly_bound (h : course.Regular) (hhost : (course.chain i).Hosts port name host)
    (hnow : course.BoundAt port name pair (i + 1) id) (hbefore : ¬course.BoundAt port name pair i id) :
    (course.record (i + 1) id).Engaged ∧ ∃ owner,
      (∀ k, k ≤ i + 1 → ∀ c, (course.record k id).channel = some c →
        AccountHost.ownerOf c.version = .ok owner) ∧
      ∀ id₀, course.BoundAt port name pair i id₀ → ∃ c₀, (course.record i id₀).channel = some c₀ ∧
        AccountHost.ownerOf c₀.version = .ok owner := by
  rw [boundAt_iff hhost] at hbefore
  rcases hosts_succ hhost with hsame | ⟨m, hsucceeds, hport, hnext⟩
  · exact absurd ((boundAt_iff hsame).1 hnow) hbefore
  obtain ⟨hid, hget⟩ := (boundAt_iff hnext).1 hnow
  obtain ⟨-, hop, owner, hhops, howner, hend, hreopen⟩ := answered hhost hsucceeds hport
  -- The binding that was replaced is the one of the pair.
  have hbound : (hop, m.counterparty.port) = pair ∧ (course.chain i).store.nextChannelId = id.channel := by
    have hrequest : (m.request (course.chain i).store).hops = [hop] := hhops
    simp only [AccountHost.bindChannel, hrequest, Table.get?_insert] at hget
    split at hget
    · rename_i hpair
      exact ⟨hpair, Option.some.inj hget⟩
    · exact absurd ⟨hid, hget⟩ hbefore
  obtain ⟨rfl, hchannel⟩ := hbound
  obtain rfl : (⟨port, (course.chain i).store.nextChannelId⟩ : EndId) = id := by
    rw [hchannel, ← hid]
  refine ⟨⟨_, hend, by simp⟩, owner, fun k hk c hc => ?_, fun id₀ hid₀ => ?_⟩
  · rcases Nat.le_succ_iff.1 hk with hk | rfl
    · rw [unborn h hk] at hc
      cases hc
    · rw [hend] at hc
      cases hc
      exact howner
  · obtain ⟨p, channel⟩ := id₀
    obtain ⟨rfl, hget₀⟩ := (boundAt_iff hhost).1 hid₀
    obtain ⟨c₀, hc₀, -, howner₀⟩ := hreopen channel hget₀
    exact ⟨c₀, hc₀, howner₀⟩

theorem not_boundAt_zero (hhost : course.start.Hosts port name {}) (id : EndId) :
    ¬course.BoundAt port name pair 0 id := by
  intro hbound
  have hempty : ({} : AccountHost).bound.get? pair = some id.channel :=
    ((boundAt_iff (i := 0) hhost).1 hbound).2
  cases hempty

theorem exists_boundAt_of_le (hhost : course.start.Hosts port name {}) (hik : i ≤ k)
    (h : course.BoundAt port name pair i id) : ∃ id', course.BoundAt port name pair k id' := by
  induction hik with
  | refl => exact ⟨id, h⟩
  | @step k _ ih =>
    obtain ⟨id', hbound⟩ := ih
    obtain ⟨host', hhost'⟩ := exists_hosts hhost k
    exact exists_boundAt_succ hhost' hbound

section
variable (h : course.Regular) (hhost : course.start.Hosts port name {})

include h hhost

/-- What is bound at some time is an end from then on. -/
theorem BoundAt.engaged (hbound : course.BoundAt port name pair i id) (hik : i ≤ k) :
    (course.record k id).Engaged := by
  refine engaged_of_le h hik ?_
  induction i with
  | zero => exact absurd hbound (not_boundAt_zero hhost id)
  | succ i ih =>
    obtain ⟨host', hhost'⟩ := exists_hosts hhost i
    by_cases hbefore : course.BoundAt port name pair i id
    · exact engaged_succ h (ih hbefore (Nat.le_of_succ_le hik))
    · exact (newly_bound h hhost' hbound hbefore).1

/-- An account that has an owner keeps it, whatever a deed does. -/
theorem ownedBy_succ (hwithin : course.UpgradesWithinAccount port name pair) {owner : String}
    (howned : course.OwnedBy port name pair i owner) {id₀ : EndId}
    (hid₀ : course.BoundAt port name pair i id₀) : course.OwnedBy port name pair (i + 1) owner := by
  intro j hj id hbound k hk c hc
  by_cases hold : ∃ j, j ≤ i ∧ course.BoundAt port name pair j id
  · obtain ⟨j, hj, hbound⟩ := hold
    rcases Nat.le_succ_iff.1 hk with hk | rfl
    · exact howned j hj id hbound k hk c hc
    · obtain ⟨c₀, hc₀, hstate⟩ := hbound.engaged h hhost hj
      have howner := howned j hj id hbound i (Nat.le_refl i) c₀ hc₀
      rcases version_succ h hc₀ hstate hc with hsame | ⟨f, hcommit, hversion⟩
      · rw [hsame]
        exact howner
      · rw [hversion, hwithin id ⟨j, hbound⟩ i c₀ f hc₀ hcommit]
        exact howner
  · obtain rfl : j = i + 1 := (Nat.le_succ_iff.1 hj).resolve_left fun hj => hold ⟨j, hj, hbound⟩
    obtain ⟨host', hhost'⟩ := exists_hosts hhost i
    obtain ⟨-, owner', hversions, hbefore⟩ :=
      newly_bound h hhost' hbound fun hbound => hold ⟨i, Nat.le_refl i, hbound⟩
    obtain ⟨c₀, hc₀, howner'⟩ := hbefore id₀ hid₀
    have howner := howned i (Nat.le_refl i) id₀ hid₀ i (Nat.le_refl i) c₀ hc₀
    obtain rfl : owner' = owner := Except.ok.inj (howner'.symm.trans howner)
    exact hversions k hk c hc

/-- The first end that is bound decides the owner. -/
theorem exists_ownedBy (hwithin : course.UpgradesWithinAccount port name pair) (i : Nat) :
    ∃ owner, course.OwnedBy port name pair i owner := by
  induction i with
  | zero =>
    refine ⟨"", fun j hj id hbound => ?_⟩
    obtain rfl := Nat.le_zero.1 hj
    exact absurd hbound (not_boundAt_zero hhost id)
  | succ i ih =>
    by_cases hbefore : ∃ id₀, course.BoundAt port name pair i id₀
    · obtain ⟨owner, howned⟩ := ih
      obtain ⟨id₀, hid₀⟩ := hbefore
      exact ⟨owner, ownedBy_succ h hhost hwithin howned hid₀⟩
    have hlast {j : Nat} (hj : j ≤ i + 1) {id : EndId} (hbound : course.BoundAt port name pair j id) :
        j = i + 1 :=
      (Nat.le_succ_iff.1 hj).resolve_left fun hj => hbefore (exists_boundAt_of_le hhost hj hbound)
    by_cases hnow : ∃ id, course.BoundAt port name pair (i + 1) id
    · obtain ⟨id, hid⟩ := hnow
      obtain ⟨host', hhost'⟩ := exists_hosts hhost i
      obtain ⟨-, owner, hversions, -⟩ := newly_bound h hhost' hid fun hbound => hbefore ⟨id, hbound⟩
      refine ⟨owner, fun j hj id' hbound => ?_⟩
      obtain rfl := hlast hj hbound
      obtain rfl := hid.unique hbound
      exact hversions
    · refine ⟨"", fun j hj id hbound => ?_⟩
      obtain rfl := hlast hj hbound
      exact absurd ⟨id, hbound⟩ hnow

/-- The versions on the ends of an account name one owner exactly if no upgrade of them hands the account over. -/
theorem one_owner_iff :
    course.OneOwner port name pair ↔ course.UpgradesWithinAccount port name pair := by
  constructor
  · rintro ⟨owner, hone⟩ id hbound i c f hc hcommit
    obtain ⟨-, c', hc', hversion⟩ := hcommit.version (standing h i)
    rw [hone id hbound i c hc, ← hversion, hone id hbound (i + 1) c' hc']
  · intro hwithin
    by_cases hbound : ∃ id, course.Bound port name pair id
    · obtain ⟨id₀, i₀, hid₀⟩ := hbound
      obtain ⟨owner, howned⟩ := exists_ownedBy h hhost hwithin i₀
      obtain ⟨c₀, hc₀, -⟩ := hid₀.engaged h hhost (Nat.le_refl i₀)
      have howner := howned i₀ (Nat.le_refl i₀) id₀ hid₀ i₀ (Nat.le_refl i₀) c₀ hc₀
      refine ⟨owner, fun id ⟨j, hid⟩ i c hc => ?_⟩
      -- What is owned up to a world that is late enough for all three has one owner.
      obtain ⟨owner', howned'⟩ := exists_ownedBy h hhost hwithin (i₀ + i + j)
      have howner' := howned' i₀ (by omega) id₀ hid₀ i₀ (by omega) c₀ hc₀
      obtain rfl : owner = owner' := Except.ok.inj (howner.symm.trans howner')
      exact howned' j (by omega) id hid i (by omega) c hc
    · exact ⟨"", fun id hid => absurd ⟨id, hid⟩ hbound⟩

end

end

/-! ## Two accounts -/

section
attribute [local instance] Digest.plain

open Sample (connectionId endId signer proofOfEnd proofOfUpgrade)

def accountName : ModuleId := ⟨"icahost"⟩

def accountPort : PortId := ⟨"icahost"⟩

/-- The channel `n` of the account host. -/
def accountEnd (n : UInt64) : EndId := ⟨accountPort, .numbered n⟩

/-- The account of the owner on the other end of the connection who uses the port of the dummy application. -/
def account : ConnectionId × PortId := (connectionId, Sample.port)

/-- A new chain that hosts accounts. -/
def hosting : Chain :=
  let c := (Sample.joined 5).a
  { c with router := c.router.add accountPort accountName (.accountHost {}) }

/-- The end of the other chain, for the owner. -/
def controllerEnd (state : ChannelState) (owner : String) (n : UInt64) : ChannelEnd :=
  ⟨state, .ordered, .ofEnd (accountEnd 0), [connectionId], AccountHost.versionOf owner, n⟩

/-- The channel `n` of the other chain is answered. -/
def answers (n : UInt64) (owner : String) : Deed :=
  let remote : EndId := ⟨Sample.port, .numbered n⟩
  let proposed : ChannelEnd := { controllerEnd .init owner 0 with remote := ⟨accountPort, none⟩ }
  .deliver (.openTry ⟨accountPort, [connectionId], remote, AccountHost.versionOf owner, .ordered,
    Sample.proofAt 5 (.channel remote) proposed.encode, ⟨0, 5⟩, signer⟩)

def confirms (owner : String) : Deed :=
  .deliver (.openConfirm ⟨accountEnd 0, proofOfEnd 5 (controllerEnd .opened owner 0), ⟨0, 5⟩, signer⟩)

/-- Alice opens a channel to her account, closes it and opens another one. -/
def reopening : Course :=
  ⟨hosting, [answers 0 "alice", confirms "alice",
    .deliver (.closeConfirm ⟨accountEnd 0, 0, proofOfEnd 5 (controllerEnd .closed "alice" 0), ⟨0, 5⟩, signer⟩),
    .release ⟨1⟩ (accountEnd 0), answers 1 "alice"]⟩

/-- Alice opens a channel to her account, and it is upgraded to one of Mallory's. -/
def usurping : Course :=
  let f : UpgradeFields := Sample.upgradeFields .ordered (AccountHost.versionOf "mallory")
  let proposal : Upgrade := ⟨f, Sample.upgradeTimeout, .zero⟩
  let plan : Upgrade := ⟨f, Sample.upgradeTimeout, .one⟩
  ⟨hosting, [answers 0 "alice", confirms "alice",
    .deliver (.upgradeTry ⟨accountEnd 0, [connectionId], f, Sample.upgradeTimeout, 1,
      proofOfEnd 5 (controllerEnd .initUpgrade "alice" 1), proofOfUpgrade 5 proposal, ⟨0, 5⟩, signer⟩),
    .deliver (.upgradeConfirm ⟨accountEnd 0, .flushComplete, plan,
      proofOfEnd 5 (controllerEnd .flushComplete "alice" 1), proofOfUpgrade 5 plan, ⟨0, 5⟩, signer⟩)]⟩

theorem hosts_accounts : hosting.Hosts accountPort accountName {} := by
  refine ⟨fun p => ?_, by decide⟩
  have hports : hosting.router.ports.get? p =
      if accountPort = p then some accountName else if Sample.port = p then some ⟨"dummy"⟩ else none := by
    show ((({} : Table PortId ModuleId).insert Sample.port ⟨"dummy"⟩).insert accountPort accountName).get? p = _
    simp
  rw [hports]
  split
  · rename_i hp
    simp [hp]
  · rename_i hp
    have hne : p ≠ accountPort := fun h => hp h.symm
    split <;> simp [hne, accountName]

theorem allSample_hosting : hosting.router.AllSample :=
  (Sample.allSample_chainAt 5).setModule rfl

theorem blank_hosting (id : EndId) : hosting.store.record id = {} :=
  (Relay.join_ready (a := Sample.chainAt 5) (b := Sample.chainAt 5) rfl rfl ⟨rfl, rfl⟩
    ⟨Sample.allSample_chainAt _, Sample.allSample_chainAt _⟩ .a).blank id

theorem reopening_facts : (∀ i, i < reopening.deeds.length →
      (reopening.chain i).store.channelCounter ≠ lastChannel) ∧
    (∀ i, i ≤ reopening.deeds.length → ∀ e ∈ (reopening.chain i).store.records.entries,
      ((reopening.chain i).store.record e.1).upgrade = none) ∧
    (reopening.chain 1).router.modules.get? accountName =
      some (.accountHost ⟨⟨[(account, .numbered 0)]⟩⟩) ∧
    (reopening.chain 5).router.modules.get? accountName =
      some (.accountHost ⟨⟨[(account, .numbered 1)]⟩⟩) := by
  decide +kernel

theorem usurping_facts : (∀ i, i < usurping.deeds.length →
      (usurping.chain i).store.channelCounter ≠ lastChannel) ∧
    (usurping.chain 1).router.modules.get? accountName =
      some (.accountHost ⟨⟨[(account, .numbered 0)]⟩⟩) ∧
    ((usurping.record 2 (accountEnd 0)).channel.map (·.version)) = some (AccountHost.versionOf "alice") ∧
    ((usurping.record 4 (accountEnd 0)).channel.map (·.version)) = some (AccountHost.versionOf "mallory") := by
  decide +kernel

theorem regular_reopening : reopening.Regular :=
  ⟨blank_hosting, allSample_hosting, reopening_facts.1⟩

/-- Alice's channels are never upgraded. -/
theorem not_commits_reopening {i : Nat} {id : EndId} {f : UpgradeFields} : ¬reopening.Commits i id f := by
  intro hcommit
  obtain ⟨⟨u, hu⟩, -⟩ := hcommit.version (standing regular_reopening i)
  have hnone : (reopening.record i id).upgrade = none := by
    refine reopening.forall_chain (P := fun c => ∀ id, (c.store.record id).upgrade = none) |>.2 (fun i hi => ?_) i id
    exact (Store.forall_record (P := fun r => r.upgrade = none) _ rfl).2 (reopening_facts.2.1 i hi)
  rw [hnone] at hu
  cases hu

/-- Both channels that Alice has opened are hers. -/
theorem one_owner_when_reopened :
    reopening.Bound accountPort accountName account (accountEnd 0) ∧
      reopening.Bound accountPort accountName account (accountEnd 1) ∧
      reopening.OneOwner accountPort accountName account := by
  obtain ⟨-, -, hfirst, hsecond⟩ := reopening_facts
  refine ⟨⟨1, rfl, _, hfirst, rfl⟩, ⟨5, rfl, _, hsecond, rfl⟩,
    (one_owner_iff regular_reopening hosts_accounts).2 ?_⟩
  intro id _ i c f _ hcommit
  exact absurd hcommit not_commits_reopening

/-- The upgrade hands Alice's account to Mallory. -/
theorem two_owners_when_usurped : usurping.Regular ∧ usurping.start.Hosts accountPort accountName {} ∧
    ¬usurping.OneOwner accountPort accountName account := by
  obtain ⟨hnumbering, hbound, hbefore, hafter⟩ := usurping_facts
  refine ⟨⟨blank_hosting, allSample_hosting, hnumbering⟩, hosts_accounts, ?_⟩
  rintro ⟨owner, hone⟩
  have howner {i : Nat} {name : String}
      (hversion : (usurping.record i (accountEnd 0)).channel.map (·.version) =
        some (AccountHost.versionOf name)) : AccountHost.ownerOf (AccountHost.versionOf name) = .ok owner := by
    obtain ⟨c, hc, hversion⟩ := Option.map_eq_some_iff.1 hversion
    rw [← hversion]
    exact hone _ ⟨1, rfl, _, hbound, rfl⟩ i c hc
  have halice : AccountHost.ownerOf (AccountHost.versionOf "alice") = .ok "alice" := by decide
  have hmallory : AccountHost.ownerOf (AccountHost.versionOf "mallory") = .ok "mallory" := by decide
  rw [howner hbefore] at halice
  rw [howner hafter, halice] at hmallory
  exact absurd hmallory (by decide)

end

end Course

end ChannelLayer
