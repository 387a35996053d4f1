import ChannelLayer.Proofs.Abandonment
import ChannelLayer.Proofs.Ownership

/-!
# One live channel to an account

The account host remembers the channel of each connection and port of the other chain, by the connection that it
was opened over, and answers a new one once the channel that it remembers is closed. An end that stays on that
connection is remembered as long as it is live (`Course.boundAt_of_liveOn`). An upgrade moves an end to another
connection and the account host does not look there, so that another end may be live on it, or one is let in later.
Nothing else puts two live ends on one connection and port (`Course.one_live_iff`).
-/

set_option autoImplicit false

namespace ChannelLayer

theorem Store.record_setConnection (s : Store) (id : ConnectionId) (c : ConnectionEnd) :
    (s.setConnection id c).record = s.record := rfl

namespace Course

section
variable [Digest] (course : Course) (port : PortId) (i : Nat)

/-- At world `i` the end `id` of the port is not closed, and `pair` is the connection that it is on and the port
that it is joined to. -/
def LiveOn (pair : ConnectionId × PortId) (id : EndId) : Prop :=
  id.port = port ∧ ∃ c, (course.record i id).channel = some c ∧ c.state ≠ .closed ∧
    c.hops.head? = some pair.1 ∧ c.remote.port = pair.2

/-- No two ends of the port are ever live on one connection and joined to one port. -/
def OneLive : Prop :=
  ∀ i pair id id', course.LiveOn port i pair id → course.LiveOn port i pair id' → id = id'

/-- In deed `i` an upgrade moves the end `id` of the port from another connection to that of `pair`. -/
def Moves (pair : ConnectionId × PortId) (id : EndId) : Prop :=
  id.port = port ∧ ∃ c f, (course.record i id).channel = some c ∧ course.Commits i id f ∧
    f.hops.head? = some pair.1 ∧ c.hops.head? ≠ some pair.1 ∧ c.remote.port = pair.2

/-- Before world `i` an upgrade has moved the end `id`. -/
def Moved (id : EndId) : Prop := ∃ k pair, k < i ∧ course.Moves port k pair id

/-- An end moves only to where no other one is live, and no channel is answered where one is live that has
moved. -/
structure MovesApart : Prop where
  alone : ∀ i pair id, course.Moves port i pair id → ∀ id', ¬course.LiveOn port i pair id'
  awaited : ∀ i m hop, course.Succeeds i (.openTry m) → m.port = port → m.hops = [hop] →
    ∀ id, course.LiveOn port i (hop, m.counterparty.port) id → ¬course.Moved port i id

end

section
variable [Digest] {course : Course} {port : PortId} {name : ModuleId} {pair : ConnectionId × PortId}
  {host : AccountHost} {i : Nat} {id id' : EndId} {c : ChannelEnd} {f : UpgradeFields}

/-! ## How an end comes to be live somewhere -/

theorem LiveOn.born (hlive : course.LiveOn port i pair id) : (course.record i id).channel ≠ none := by
  obtain ⟨-, c, hc, -⟩ := hlive
  rw [hc]
  exact Option.some_ne_none c

theorem not_liveOn_zero (h : course.Regular) : ¬course.LiveOn port 0 pair id := by
  intro hlive
  exact hlive.born (by rw [record_zero h])

theorem LiveOn.congr {k : Nat} (hlive : course.LiveOn port i pair id)
    (hsame : course.record k id = course.record i id) : course.LiveOn port k pair id := by
  obtain ⟨hport, c, hc, hrest⟩ := hlive
  exact ⟨hport, c, by rw [hsame, hc], hrest⟩

/-- An end that is live was live in the same place before, or it has moved there, or it is new. -/
theorem LiveOn.before (h : course.Regular) (hlive : course.LiveOn port (i + 1) pair id) :
    course.LiveOn port i pair id ∨ course.Moves port i pair id ∨ (course.record i id).channel = none := by
  obtain ⟨hport, c', hc', hstate', hhop', hremote'⟩ := hlive
  cases hc : (course.record i id).channel with
  | none => exact .inr (.inr rfl)
  | some c =>
    obtain ⟨d, hd, hpasses⟩ := passes h hc
    obtain rfl := Option.some.inj (hd.symm.trans hc')
    have hstate : c.state ≠ .closed := fun hclosed => hstate' (by rw [hpasses.final hclosed, hclosed])
    have hstays (hhops : d.hops = c.hops) (hremote : d.remote.port = c.remote.port) :
        course.LiveOn port i pair id := ⟨hport, c, hc, hstate, hhops ▸ hhop', hremote ▸ hremote'⟩
    cases hpasses.revised with
    | kept hremote hfields =>
      exact .inl (hstays (congrArg UpgradeFields.hops hfields) (congrArg Counterparty.port hremote))
    | told hm hid hinit hend =>
      subst hend
      exact .inl (hstays rfl rfl)
    | @committed m u hm hid hu hend hevent =>
      subst hend
      by_cases hhop : c.hops.head? = some pair.1
      · exact .inl ⟨hport, c, hc, hstate, hhop, hremote'⟩
      · exact .inr (.inl ⟨hport, c, u.fields, hc, ⟨_, hevent⟩, hhop', hhop, hremote'⟩)

/-- An end that has moved is live on its new connection. -/
theorem Moves.liveOn (h : course.Standing i) (hmoves : course.Moves port i pair id) :
    course.LiveOn port (i + 1) pair id := by
  obtain ⟨hport, c, f, hc, ⟨info, hinfo⟩, hhop, -, hremote⟩ := hmoves
  rcases turn_or_released h id with hturn | ⟨-, hnone⟩
  · obtain ⟨c₀, u, w, hc₀, -, rfl, -, -, hrecord⟩ := hturn.of_commit hinfo
    obtain rfl := Option.some.inj (hc₀.symm.trans hc)
    have hopen : (c₀.upgraded u.fields).state ≠ .closed := by simp [ChannelEnd.upgraded]
    exact ⟨hport, c₀.upgraded u.fields, by rw [hrecord, ChannelRecord.channel_commit], hopen, hhop, hremote⟩
  · rw [hnone] at hinfo
    cases hinfo

theorem Moves.changed (h : course.Standing i) (hmoves : course.Moves port i pair id) :
    (course.record (i + 1) id).channel ≠ (course.record i id).channel := by
  obtain ⟨-, c', hc', -, hhop', -⟩ := hmoves.liveOn h
  obtain ⟨-, c, -, hc, -, -, hhop, -⟩ := hmoves
  rw [hc, hc']
  intro hsame
  rw [Option.some.inj hsame] at hhop'
  exact hhop hhop'

/-- A new end of the account host answers a proposed channel. -/
theorem answers_of_new (h : course.Standing i) (hhost : (course.chain i).Hosts port name host)
    (hnone : (course.record i id).channel = none) (hlive : course.LiveOn port (i + 1) pair id) :
    ∃ m hop, course.Succeeds i (.openTry m) ∧ m.port = port ∧ m.hops = [hop] ∧
      pair = (hop, m.counterparty.port) ∧ id = ⟨port, (course.chain i).store.nextChannelId⟩ := by
  obtain ⟨m, hsucceeds, hopens, hid, -⟩ := founded_of_new h hnone hlive.born
  have hport : m.port = port := by
    rw [← hlive.1, hid]
  cases m with
  | openInit m =>
    obtain ⟨j, app, l', hfind, hv, -⟩ := Chain.after_of_takes hsucceeds.2
    refine absurd ?_ (hhost.not_openInit (m := m) hport)
    simp only [Chain.validate, hfind, bind_eq_ok]
    exact ⟨(j, app), rfl, hv⟩
  | openTry m =>
    obtain ⟨-, hop, owner, hhops, -, hend, -⟩ := answered hhost hsucceeds hport
    obtain ⟨-, c, hc, -, hhop, hremote⟩ := hlive
    obtain rfl : id = ⟨port, (course.chain i).store.nextChannelId⟩ := by rw [hid, hport]
    obtain rfl := Option.some.inj (hend.symm.trans hc)
    refine ⟨m, hop, hsucceeds, hport, hhops, ?_, rfl⟩
    rw [hhops] at hhop
    exact Prod.ext (Option.some.inj hhop).symm hremote.symm
  | _ => cases hopens

/-! ## What the account host remembers -/

section
variable (h : course.Regular) (hhost : course.start.Hosts port name {})

include h hhost

/-- The account host remembers every live end that has not moved. -/
theorem boundAt_of_liveOn (hlive : course.LiveOn port i pair id) (hunmoved : ¬course.Moved port i id) :
    course.BoundAt port name pair i id := by
  induction i with
  | zero => exact absurd hlive (not_liveOn_zero h)
  | succ i ih =>
    obtain ⟨host, hhost⟩ := exists_hosts hhost i
    rcases hlive.before h with hbefore | hmoves | hnone
    · have hbound := ih hbefore fun ⟨k, pair', hk, hmoves⟩ => hunmoved ⟨k, pair', Nat.lt_succ_of_lt hk, hmoves⟩
      obtain ⟨hport, hget⟩ := (boundAt_iff hhost).1 hbound
      rcases hosts_succ hhost with hsame | ⟨m, hsucceeds, hm, hnext⟩
      · exact (boundAt_iff hsame).2 ⟨hport, hget⟩
      · refine (boundAt_iff hnext).2 ⟨hport, ?_⟩
        obtain ⟨-, hop, owner, hhops, -, -, hreopen⟩ := answered hhost hsucceeds hm
        have hrequest : (m.request (course.chain i).store).hops = [hop] := hhops
        simp only [AccountHost.bindChannel, hrequest, Table.get?_insert]
        split
        · -- The pair is bound anew only if the end is closed.
          rename_i hpair
          obtain ⟨c, hc, hclosed, -⟩ := hreopen id.channel (hpair ▸ hget)
          obtain ⟨-, c', hc', hopen, -⟩ := hbefore
          obtain ⟨p, channel⟩ := id
          obtain rfl : p = port := hport
          obtain rfl := Option.some.inj (hc.symm.trans hc')
          exact absurd hclosed hopen
        · exact hget
    · exact absurd ⟨i, pair, Nat.lt_succ_self i, hmoves⟩ hunmoved
    · obtain ⟨m, hop, hsucceeds, hport, hhops, rfl, rfl⟩ := answers_of_new (standing h i) hhost hnone hlive
      refine (boundAt_iff (answered hhost hsucceeds hport).1).2 ⟨rfl, ?_⟩
      have hrequest : (m.request (course.chain i).store).hops = [hop] := hhops
      simp only [AccountHost.bindChannel, hrequest]
      exact Table.get?_insert_self ..

/-- Where a channel is answered, no end is live that has not moved. -/
theorem not_liveOn_of_answers {m : Message.OpenTry} {hop : ConnectionId} (hsucceeds : course.Succeeds i (.openTry m))
    (hport : m.port = port) (hhops : m.hops = [hop]) (hunmoved : ¬course.Moved port i id) :
    ¬course.LiveOn port i (hop, m.counterparty.port) id := by
  intro hlive
  obtain ⟨host, hhost'⟩ := exists_hosts hhost i
  obtain ⟨hid, hget⟩ := (boundAt_iff hhost').1 (boundAt_of_liveOn h hhost hlive hunmoved)
  obtain ⟨-, hop', owner, hhops', -, -, hreopen⟩ := answered hhost' hsucceeds hport
  obtain rfl : hop = hop' := List.head_eq_of_cons_eq (hhops.symm.trans hhops')
  obtain ⟨c, hc, hclosed, -⟩ := hreopen id.channel hget
  obtain ⟨-, c', hc', hopen, -⟩ := hlive
  obtain ⟨p, channel⟩ := id
  obtain rfl : p = port := hid
  obtain rfl := Option.some.inj (hc.symm.trans hc')
  exact hopen hclosed

/-! ## One live end -/

/-- An end that newly lives somewhere is alone there, if ends move apart. -/
theorem alone_of_newly (hapart : course.MovesApart port) (hlive : course.LiveOn port (i + 1) pair id)
    (hnew : ¬course.LiveOn port i pair id) (hlive' : course.LiveOn port (i + 1) pair id') : id = id' := by
  obtain ⟨host, hhost'⟩ := exists_hosts hhost i
  have hstanding := standing h i
  -- The deed is about the new end, so that any other one was there before.
  have hchanged : (course.record (i + 1) id).channel ≠ (course.record i id).channel := by
    rcases hlive.before h with hbefore | hmoves | hnone
    · exact absurd hbefore hnew
    · exact hmoves.changed hstanding
    · rw [hnone]
      exact hlive.born
  refine Decidable.byContradiction fun hne => ?_
  have hbefore' : course.LiveOn port i pair id' :=
    hlive'.congr ((others_kept (takesTurn_of_changed hstanding hchanged)).1 id' (Ne.symm hne)).symm
  rcases hlive.before h with hbefore | hmoves | hnone
  · exact hnew hbefore
  · exact hapart.alone i pair id hmoves id' hbefore'
  · obtain ⟨m, hop, hsucceeds, hport, hhops, rfl, -⟩ := answers_of_new hstanding hhost' hnone hlive
    exact not_liveOn_of_answers h hhost hsucceeds hport hhops (hapart.awaited i m hop hsucceeds hport hhops id' hbefore')
      hbefore'

theorem oneLive_of_movesApart (hapart : course.MovesApart port) : course.OneLive port := by
  intro i pair id id' hlive hlive'
  induction i with
  | zero => exact absurd hlive (not_liveOn_zero h)
  | succ i ih =>
    by_cases hbefore : course.LiveOn port i pair id
    · by_cases hbefore' : course.LiveOn port i pair id'
      · exact ih hbefore hbefore'
      · exact (alone_of_newly h hhost hapart hlive' hbefore' hlive).symm
    · exact alone_of_newly h hhost hapart hlive hbefore hlive'

/-- On a chain that hosts accounts no two ends are ever live on one connection and joined to one port exactly if
upgrades move them apart. -/
theorem one_live_iff : course.OneLive port ↔ course.MovesApart port := by
  refine ⟨fun hone => ⟨?_, ?_⟩, oneLive_of_movesApart h hhost⟩
  · intro i pair id hmoves id' hlive'
    have hstanding := standing h i
    have hne : id' ≠ id := by
      rintro rfl
      obtain ⟨-, c, -, hc, -, -, hhop, -⟩ := hmoves
      obtain ⟨-, c', hc', -, hhop', -⟩ := hlive'
      obtain rfl := Option.some.inj (hc.symm.trans hc')
      exact hhop hhop'
    have hkept := (others_kept (takesTurn_of_changed hstanding (hmoves.changed hstanding))).1 id' hne
    exact hne (hone (i + 1) pair id' id (hlive'.congr hkept) (hmoves.liveOn hstanding))
  · intro i m hop hsucceeds hport hhops id hlive _
    obtain ⟨host, hhost'⟩ := exists_hosts hhost i
    obtain ⟨-, hop', owner, hhops', -, hend, -⟩ := answered hhost' hsucceeds hport
    have hunborn := unborn h (Nat.le_refl i) port
    have hne : id ≠ ⟨port, (course.chain i).store.nextChannelId⟩ := fun hid => hlive.born (by rw [hid, hunborn])
    have hchanged : (course.record (i + 1) ⟨port, (course.chain i).store.nextChannelId⟩).channel ≠
        (course.record i ⟨port, (course.chain i).store.nextChannelId⟩).channel := by
      rw [hend, hunborn]
      exact Option.some_ne_none _
    have hkept := (others_kept (takesTurn_of_changed (standing h i) hchanged)).1 id hne
    refine hne (hone (i + 1) (hop, m.counterparty.port) id _ (hlive.congr hkept) ?_)
    exact ⟨rfl, _, hend, by simp, by rw [hhops]; rfl, rfl⟩

end

end

/-! ## Two channels on one connection -/

section
attribute [local instance] Digest.plain

open Sample (connectionId endId client signer proofAt proofOfEnd proofOfUpgrade storePrefix)

/-- The second connection of the two chains. -/
def secondConnection : ConnectionId := .numbered 1

/-- A new chain that hosts accounts and has two connections. -/
def hostingTwoConnections : Chain :=
  let second : ConnectionEnd := ⟨.opened, client, ⟨client, some secondConnection, storePrefix⟩⟩
  { hosting with store := hosting.store.setConnection secondConnection second }

theorem blank_hostingTwoConnections (id : EndId) : hostingTwoConnections.store.record id = {} := by
  rw [hostingTwoConnections, Store.record_setConnection]
  exact blank_hosting id

/-- Alice's channel is moved to the second connection, and she opens another one there. -/
def crowding : Course :=
  let f : UpgradeFields := ⟨.ordered, [secondConnection], AccountHost.versionOf "alice"⟩
  let proposal : Upgrade := ⟨f, Sample.upgradeTimeout, .zero⟩
  let plan : Upgrade := ⟨f, Sample.upgradeTimeout, .one⟩
  let remote : EndId := ⟨Sample.port, .numbered 1⟩
  let proposed : ChannelEnd :=
    ⟨.init, .ordered, ⟨accountPort, none⟩, [secondConnection], AccountHost.versionOf "alice", 0⟩
  ⟨hostingTwoConnections, [answers 0 "alice", confirms "alice",
    .deliver (.upgradeTry ⟨accountEnd 0, [secondConnection], f, Sample.upgradeTimeout, 1,
      proofOfEnd 5 (controllerEnd .initUpgrade "alice" 1), proofOfUpgrade 5 proposal, ⟨0, 5⟩, signer⟩),
    .deliver (.upgradeConfirm ⟨accountEnd 0, .flushComplete, plan,
      proofOfEnd 5 (controllerEnd .flushComplete "alice" 1), proofOfUpgrade 5 plan, ⟨0, 5⟩, signer⟩),
    .deliver (.openTry ⟨accountPort, [secondConnection], remote, AccountHost.versionOf "alice", .ordered,
      proofAt 5 (.channel remote) proposed.encode, ⟨0, 5⟩, signer⟩)]⟩

theorem crowding_facts : (∀ i, i < crowding.deeds.length →
      (crowding.chain i).store.channelCounter ≠ lastChannel) ∧
    (crowding.record 5 (accountEnd 0)).channel = some
      ⟨.opened, .ordered, .ofEnd endId, [secondConnection], AccountHost.versionOf "alice", 1⟩ ∧
    (crowding.record 5 (accountEnd 1)).channel = some
      ⟨.tryOpen, .ordered, .ofEnd ⟨Sample.port, .numbered 1⟩, [secondConnection],
        AccountHost.versionOf "alice", 0⟩ := by
  decide +kernel

theorem reopened_facts :
    (reopening.record 2 (accountEnd 0)).channel = some
      ⟨.opened, .ordered, .ofEnd endId, [connectionId], AccountHost.versionOf "alice", 0⟩ ∧
    (reopening.record 5 (accountEnd 1)).channel = some
      ⟨.tryOpen, .ordered, .ofEnd ⟨Sample.port, .numbered 1⟩, [connectionId], AccountHost.versionOf "alice", 0⟩ := by
  decide +kernel

/-- The channel that Alice opens in place of her closed one is live alone. -/
theorem one_live_when_reopened : reopening.LiveOn accountPort 2 account (accountEnd 0) ∧
    reopening.LiveOn accountPort 5 account (accountEnd 1) ∧ reopening.OneLive accountPort := by
  obtain ⟨hfirst, hsecond⟩ := reopened_facts
  refine ⟨⟨rfl, _, hfirst, by decide, rfl, rfl⟩, ⟨rfl, _, hsecond, by decide, rfl, rfl⟩,
    (one_live_iff regular_reopening hosts_accounts).2 ⟨?_, ?_⟩⟩
  · intro i pair id hmoves
    obtain ⟨-, c, f, -, hcommit, -⟩ := hmoves
    exact absurd hcommit not_commits_reopening
  · intro i m hop _ _ _ id _ hmoved
    obtain ⟨k, pair, -, -, c, f, -, hcommit, -⟩ := hmoved
    exact absurd hcommit not_commits_reopening

/-- Both of Alice's channels are live on the second connection. -/
theorem two_live_when_moved : crowding.Regular ∧ crowding.start.Hosts accountPort accountName {} ∧
    ¬crowding.OneLive accountPort := by
  obtain ⟨hnumbering, hmoved, hanswered⟩ := crowding_facts
  refine ⟨⟨blank_hostingTwoConnections, allSample_hosting, hnumbering⟩, hosts_accounts.congr rfl, fun hone => ?_⟩
  have hsame := hone 5 (secondConnection, Sample.port) (accountEnd 0) (accountEnd 1)
    ⟨rfl, _, hmoved, by decide, rfl, rfl⟩ ⟨rfl, _, hanswered, by decide, rfl, rfl⟩
  exact absurd hsame (by decide)

end

end Course

end ChannelLayer
