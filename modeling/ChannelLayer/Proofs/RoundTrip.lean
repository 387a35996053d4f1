import ChannelLayer.Proofs.Checks
import ChannelLayer.Proofs.Reading

/-!
# Encoding and decoding

A value that its constructors admit is decoded from its wire form, and what was decoded from any bytes at all is
such a value (`round_trips`). A wire form has more than one reading only in what it leaves out: a counterparty
without a channel is written with an empty name, which no channel has, and a deadline that is none with a zero,
which no deadline is.
-/

set_option autoImplicit false

namespace ChannelLayer

open Protobuf

/-! ## Values that can be made -/

def ConnectionId.Valid (id : ConnectionId) : Prop := Identifier.checkConnection id.text = .ok ()

def PortId.Valid (id : PortId) : Prop := Identifier.checkPort id.text = .ok ()

def ChannelId.Valid (id : ChannelId) : Prop := Identifier.checkChannel id.text = .ok ()

instance (id : ConnectionId) : Decidable id.Valid := inferInstanceAs (Decidable (_ = _))

instance (id : PortId) : Decidable id.Valid := inferInstanceAs (Decidable (_ = _))

instance (id : ChannelId) : Decidable id.Valid := inferInstanceAs (Decidable (_ = _))

def Height.Valid (h : Height) : Prop := h.block ≠ 0

structure Counterparty.Valid (c : Counterparty) : Prop where
  port : c.port.Valid
  channel : ∀ id, c.channel = some id → id.Valid

structure ChannelEnd.Valid (c : ChannelEnd) : Prop where
  remote : c.remote.Valid
  hops : ∀ hop ∈ c.hops, hop.Valid
  check : c.check = .ok ()

def UpgradeFields.Valid (f : UpgradeFields) : Prop := ∀ hop ∈ f.hops, hop.Valid

/-- A bound is set, and none of them is at zero. -/
structure UpgradeTimeout.Valid (t : UpgradeTimeout) : Prop where
  isSet : t.isSet = true
  height : ∀ h, t.height = .at h → h.Valid
  time : t.time ≠ .at ⟨0⟩

structure Upgrade.Valid (u : Upgrade) : Prop where
  fields : u.fields.Valid
  timeout : u.timeout.Valid

/-! ## Identifiers -/

/-- A text that passes the check of its kind of identifier is the identifier. -/
theorem Identifier.ofText_eq_ok {ε α : Type} {check : String → Except ε Unit} {mk : String → α}
    {text : α → String} (htext : ∀ s, text (mk s) = s) (hmk : ∀ id, mk (text id) = id) {s : String} {id : α} :
    (do check s; return mk s) = .ok id ↔ check (text id) = .ok () ∧ text id = s := by
  simp only [bind_eq_ok, pure_eq_ok]
  constructor
  · rintro ⟨_, hcheck, rfl⟩
    rw [htext]
    exact ⟨hcheck, rfl⟩
  · rintro ⟨hcheck, rfl⟩
    exact ⟨(), hcheck, hmk id⟩

theorem PortId.ofText_eq_ok {s : String} {id : PortId} : ofText s = .ok id ↔ id.Valid ∧ id.text = s :=
  Identifier.ofText_eq_ok (fun _ => rfl) fun _ => rfl

theorem ChannelId.ofText_eq_ok {s : String} {id : ChannelId} :
    ofText s = .ok id ↔ id.Valid ∧ id.text = s :=
  Identifier.ofText_eq_ok (fun _ => rfl) fun _ => rfl

theorem ConnectionId.ofText_eq_ok {s : String} {id : ConnectionId} :
    ofText s = .ok id ↔ id.Valid ∧ id.text = s :=
  Identifier.ofText_eq_ok (fun _ => rfl) fun _ => rfl

theorem ConnectionId.mapM_ofText_eq_ok {ss : List String} {ids : List ConnectionId} :
    ss.mapM ofText = .ok ids ↔ (∀ id ∈ ids, id.Valid) ∧ ids.map text = ss := by
  induction ss generalizing ids with
  | nil =>
    cases ids with
    | nil => simp
    | cons id ids => simp
  | cons s ss ih =>
    simp only [List.mapM_cons, bind_eq_ok, pure_eq_ok, ofText_eq_ok, ih]
    constructor
    · rintro ⟨id, ⟨hid, rfl⟩, ids, ⟨hids, rfl⟩, rfl⟩
      exact ⟨List.forall_mem_cons.2 ⟨hid, hids⟩, rfl⟩
    · rintro ⟨hvalid, hmap⟩
      cases ids with
      | nil => cases hmap
      | cons id ids =>
        obtain ⟨hid, hids⟩ := List.forall_mem_cons.1 hvalid
        obtain ⟨rfl, rfl⟩ := List.cons.inj hmap
        exact ⟨id, ⟨hid, rfl⟩, ids, ⟨hids, rfl⟩, rfl⟩

/-- A channel has a name. -/
theorem ChannelId.Valid.ne_empty {id : ChannelId} (h : id.Valid) : id.text.isEmpty = false := by
  rw [Bool.eq_false_iff, ne_eq, String.isEmpty_iff]
  intro hempty
  rw [Valid, hempty] at h
  exact absurd h (by decide)

/-! ## Shapes -/

namespace Protobuf

theorem HeightShape.reads (s : HeightShape) : ∃ fs, Reads s.write fs ∧ ofFields fs = some s := by
  refine ⟨_, (reads_writeNumber (by decide) _).append (reads_writeNumber (by decide) _), ?_⟩
  rw [ofFields, numberField_eq (n := s.revision), numberField_eq (n := s.block)]
  · rfl
  · simp
  · simp

theorem CounterpartyShape.reads {s : CounterpartyShape} (h : s.write.Fits) :
    ∃ fs, Reads s.write fs ∧ ofFields fs = some s := by
  refine ⟨_, (reads_writeText (by decide) h.left).append (reads_writeText (by decide) h.right), ?_⟩
  rw [ofFields, textField_eq (s := s.port), textField_eq (s := s.channel)]
  · rfl
  · simp
  · simp

theorem ReceiptShape.reads {s : ReceiptShape} (h : s.write.Fits) :
    ∃ fs, Reads s.write fs ∧ ofFields fs = some s := by
  refine ⟨_, (reads_writeNumber (by decide) _).append (reads_writeText (by decide) h.right), ?_⟩
  rw [ofFields, numberField_eq (n := s.sequence), textField_eq (s := s.message)]
  · rfl
  · simp
  · simp

/-- The number that stands for a code is read back as the code. -/
def Coded (code : Int) : Prop := signedLow (UInt64.ofNat code.toNat) = code

theorem coded_state (s : ChannelState) : Coded s.code := by
  cases s <;> rfl

theorem coded_order (o : ChannelOrder) : Coded o.code := by
  cases o <;> rfl

theorem FieldsShape.reads {s : FieldsShape} (h : s.write.Fits) (horder : Coded s.order) :
    ∃ fs, Reads s.write fs ∧ ofFields fs = some s := by
  refine ⟨_, ((reads_writeNumber (by decide) _).append (reads_writeTexts (by decide) h.left.right)).append
    (reads_writeText (by decide) h.right), ?_⟩
  rw [ofFields, numberField_eq (n := UInt64.ofNat s.order.toNat), textsField_eq (l := s.hops),
    textField_eq (s := s.version)]
  · show some { s with order := signedLow (UInt64.ofNat s.order.toNat) } = some s
    rw [horder]
  · simp
  · simp
  · simp

theorem TimeoutShape.reads {height : HeightShape} {time : UInt64}
    (h : (write ⟨some height, time⟩).Fits) :
    ∃ fs, Reads (write ⟨some height, time⟩) fs ∧ ∀ room, ofFields room fs = some ⟨some height, time⟩ := by
  obtain ⟨gs, hreads, hheight⟩ := height.reads
  have hfits : height.write.Fits := Bytes.Fits.right (Bytes.Fits.left h)
  refine ⟨_, (reads_writeBytes (by decide) hfits).append (reads_writeNumber (by decide) time),
    fun room => ?_⟩
  rw [ofFields, messageField_eq hreads, numberField_eq (n := time)]
  · simp [hheight]
  · simp
  · simp

theorem ChannelShape.reads {s : ChannelShape} {c : CounterpartyShape} (hc : s.counterparty = some c)
    (h : s.write.Fits) (hstate : Coded s.state) (horder : Coded s.order) :
    ∃ fs, Reads s.write fs ∧ ∀ room, ofFields room fs = some s := by
  have hmessage : (writeBytes 3 c.write).Fits := by
    have hpart := h.left.left.left.right
    rw [hc] at hpart
    exact hpart
  obtain ⟨gs, hreads, hcounterparty⟩ := CounterpartyShape.reads hmessage.right
  have hthird : Reads (writeMessage 3 (s.counterparty.map CounterpartyShape.write)) [⟨3, .bytes c.write⟩] := by
    rw [hc]
    exact reads_writeBytes (by decide) hmessage.right
  refine ⟨_, (((((reads_writeNumber (by decide) _).append (reads_writeNumber (by decide) _)).append
    hthird).append (reads_writeTexts (by decide) h.left.left.right)).append
    (reads_writeText (by decide) h.left.right)).append (reads_writeNumber (by decide) _), fun room => ?_⟩
  rw [ofFields, numberField_eq (n := UInt64.ofNat s.state.toNat),
    numberField_eq (n := UInt64.ofNat s.order.toNat), messageField_eq hreads,
    textsField_eq (l := s.hops), textField_eq (s := s.version), numberField_eq (n := s.upgradeSequence)]
  · obtain ⟨state, order, counterparty, hops, version, upgradeSequence⟩ := s
    obtain rfl : counterparty = some c := hc
    simp [hcounterparty]
    exact ⟨hstate, horder⟩
  · simp
  · simp
  · simp
  · simp
  · simp
  · simp

theorem UpgradeShape.reads {f : FieldsShape} {height : HeightShape} {time nextSend : UInt64}
    (h : (write ⟨some f, some ⟨some height, time⟩, nextSend⟩).Fits) (horder : Coded f.order) :
    ∃ fs, Reads (write ⟨some f, some ⟨some height, time⟩, nextSend⟩) fs ∧
      ∀ room, ofFields room fs = some ⟨some f, some ⟨some height, time⟩, nextSend⟩ := by
  have hfields : f.write.Fits := Bytes.Fits.right (Bytes.Fits.left (Bytes.Fits.left h))
  have htimeout : (TimeoutShape.write ⟨some height, time⟩).Fits :=
    Bytes.Fits.right (Bytes.Fits.right (Bytes.Fits.left h))
  obtain ⟨gs, hreads, hf⟩ := FieldsShape.reads hfields horder
  obtain ⟨gs', hreads', ht⟩ := TimeoutShape.reads htimeout
  refine ⟨_, ((reads_writeBytes (by decide) hfields).append (reads_writeBytes (by decide) htimeout)).append
    (reads_writeNumber (by decide) nextSend), fun room => ?_⟩
  rw [ofFields, messageField_eq hreads, messageField_eq hreads',
    numberField_eq (n := nextSend)]
  · simp [hf, ht]
  · simp
  · simp
  · simp

/-! ## Decoding -/

section
variable {σ α ε : Type} {shape : List Field → Option σ} {value : σ → Except ε α} {bs : Bytes} {v : α}

theorem decodeWith_of_reads {fs : List Field} {s : σ} (hreads : Reads bs fs) (hshape : shape fs = some s)
    (hvalue : value s = .ok v) : decodeWith shape value bs = .ok v := by
  rw [decodeWith, hreads.readFields]
  simp [hshape, hvalue]

theorem value_of_decodeWith (h : decodeWith shape value bs = .ok v) : ∃ s, value s = .ok v := by
  unfold decodeWith at h
  split at h
  · cases h
  · rename_i s _
    refine ⟨s, ?_⟩
    split at h
    · rename_i v' hv
      rw [hv]
      cases h
      rfl
    · cases h

end

end Protobuf

/-! ## From shapes to values -/

theorem Height.ofShape_eq_ok {s : HeightShape} {h : Height} : ofShape s = .ok h ↔ h.Valid ∧ h.toShape = s := by
  obtain ⟨revision, block⟩ := h
  obtain ⟨revision', block'⟩ := s
  simp only [ofShape, mk?, ite_error_eq_ok, Except.ok.injEq, Height.mk.injEq, Valid, toShape,
    HeightShape.mk.injEq]
  constructor
  · rintro ⟨hblock, rfl, rfl⟩
    exact ⟨hblock, rfl, rfl⟩
  · rintro ⟨hblock, rfl, rfl⟩
    exact ⟨hblock, rfl, rfl⟩

theorem Counterparty.ofShape_eq_ok {s : CounterpartyShape} {c : Counterparty} :
    ofShape s = .ok c ↔ c.Valid ∧ c.toShape = s := by
  obtain ⟨port, channel⟩ := c
  obtain ⟨port', channel'⟩ := s
  unfold ofShape
  split
  · rename_i hempty
    obtain rfl := String.isEmpty_iff.1 hempty
    simp only [bind_eq_ok, pure_eq_ok, mapError_eq_ok, PortId.ofText_eq_ok, Counterparty.mk.injEq, toShape,
      CounterpartyShape.mk.injEq]
    constructor
    · rintro ⟨_, rfl, port, ⟨hport, rfl⟩, rfl, rfl⟩
      exact ⟨⟨hport, by simp⟩, rfl, rfl⟩
    · rintro ⟨hvalid, rfl, hchannel⟩
      cases channel with
      | none => exact ⟨none, rfl, port, ⟨hvalid.port, rfl⟩, rfl, rfl⟩
      | some id => exact absurd (String.isEmpty_iff.2 hchannel) (by simp [(hvalid.channel id rfl).ne_empty])
  · rename_i hempty
    simp only [bind_eq_ok, pure_eq_ok, mapError_eq_ok, map_eq_ok, PortId.ofText_eq_ok, ChannelId.ofText_eq_ok,
      Counterparty.mk.injEq, toShape, CounterpartyShape.mk.injEq]
    constructor
    · rintro ⟨_, ⟨id, ⟨hid, rfl⟩, rfl⟩, port, ⟨hport, rfl⟩, rfl, rfl⟩
      exact ⟨⟨hport, by simpa using hid⟩, rfl, rfl⟩
    · rintro ⟨hvalid, rfl, hchannel⟩
      cases channel with
      | none => exact absurd (String.isEmpty_iff.2 hchannel.symm) hempty
      | some id => exact ⟨_, ⟨id, ⟨hvalid.channel id rfl, hchannel⟩, rfl⟩, port, ⟨hvalid.port, rfl⟩, rfl, rfl⟩

theorem ChannelState.ofCode_eq_ok {code : Int} {s : ChannelState} : ofCode code = .ok s ↔ s.code = code := by
  constructor
  · intro h
    unfold ofCode at h
    split at h <;> cases h <;> rfl
  · rintro rfl
    exact ofCode_code s

theorem ChannelOrder.ofCode_eq_ok {code : Int} {o : ChannelOrder} : ofCode code = .ok o ↔ o.code = code := by
  constructor
  · intro h
    unfold ofCode at h
    split at h <;> cases h <;> rfl
  · rintro rfl
    exact ofCode_code o

theorem UpgradeFields.ofShape_eq_ok {s : FieldsShape} {f : UpgradeFields} :
    ofShape s = .ok f ↔ f.Valid ∧ f.toShape = s := by
  obtain ⟨order, hops, ⟨version⟩⟩ := f
  obtain ⟨order', hops', version'⟩ := s
  simp only [ofShape, bind_eq_ok, pure_eq_ok, mapError_eq_ok, ChannelOrder.ofCode_eq_ok,
    ConnectionId.mapM_ofText_eq_ok, UpgradeFields.mk.injEq, Version.mk.injEq, toShape, FieldsShape.mk.injEq,
    Valid]
  constructor
  · rintro ⟨order, rfl, hops, ⟨hvalid, rfl⟩, rfl, rfl, rfl⟩
    exact ⟨hvalid, rfl, rfl, rfl⟩
  · rintro ⟨hvalid, rfl, rfl, rfl⟩
    exact ⟨order, rfl, hops, ⟨hvalid, rfl⟩, rfl, rfl, rfl⟩

theorem ChannelEnd.ofShape_eq_ok {s : ChannelShape} {c : ChannelEnd} :
    ofShape s = .ok c ↔ c.Valid ∧ c.toShape = s := by
  obtain ⟨state', order', counterparty, hops', version', upgradeSequence'⟩ := s
  cases counterparty with
  | none => simp [ofShape, toShape]
  | some counterparty =>
    simp only [ofShape, checked, bind_eq_ok, pure_eq_ok, mapError_eq_ok, ChannelState.ofCode_eq_ok,
      ChannelOrder.ofCode_eq_ok, Counterparty.ofShape_eq_ok, ConnectionId.mapM_ofText_eq_ok, toShape,
      ChannelShape.mk.injEq, Option.some.injEq]
    constructor
    · rintro ⟨state, rfl, order, rfl, remote, ⟨hremote, rfl⟩, hops, ⟨hhops, rfl⟩, ⟨⟩, hcheck, rfl⟩
      exact ⟨⟨hremote, hhops, hcheck⟩, rfl, rfl, rfl, rfl, rfl, rfl⟩
    · rintro ⟨hvalid, rfl, rfl, rfl, rfl, rfl, rfl⟩
      exact ⟨c.state, rfl, c.order, rfl, c.remote, ⟨hvalid.remote, rfl⟩, c.hops, ⟨hvalid.hops, rfl⟩, (),
        hvalid.check, rfl⟩

theorem TimeoutHeight.ofShape_toShape {t : TimeoutHeight} (ht : ∀ h, t = .at h → h.Valid) :
    ofShape t.toHeight.toShape = .ok t := by
  cases t with
  | never => rfl
  | «at» h =>
    have hvalid := ht h rfl
    have hne : h ≠ ⟨0, 0⟩ := by
      rintro rfl
      exact hvalid rfl
    have hmk : Height.mk? h.revision h.block = .ok h := if_neg hvalid
    show ofHeight h = _
    rw [ofHeight, if_neg hne, hmk]
    rfl

theorem TimeoutHeight.valid_of_ofShape {s : HeightShape} {t : TimeoutHeight} (ht : ofShape s = .ok t)
    (h : Height) (hh : t = .at h) : h.Valid := by
  subst hh
  unfold ofShape ofHeight at ht
  split at ht
  · cases ht
  · obtain ⟨h', hmk, heq⟩ := map_eq_ok.1 ht
    cases heq
    exact (Height.ofShape_eq_ok (s := s).1 hmk).1

theorem TimeoutTimestamp.ofNanos_toNanos {t : TimeoutTimestamp} (ht : t ≠ .at ⟨0⟩) : ofNanos t.toNanos = t := by
  cases t with
  | never => rfl
  | «at» time =>
    refine if_neg fun hzero => ht ?_
    exact congrArg (TimeoutTimestamp.at ⟨·⟩) hzero

theorem TimeoutTimestamp.ofNanos_ne (nanos : UInt64) : ofNanos nanos ≠ .at ⟨0⟩ := by
  unfold ofNanos
  split
  · simp
  · simpa using ‹¬nanos = 0›

theorem UpgradeTimeout.ofBounds_eq_ok {height : TimeoutHeight} {time : TimeoutTimestamp} {t : UpgradeTimeout} :
    ofBounds height time = .ok t ↔ t = ⟨height, time⟩ ∧ t.isSet = true := by
  have hset : (!height.isSet && !time.isSet) = true ↔ ¬isSet ⟨height, time⟩ = true := by
    cases hheight : height.isSet <;> simp [isSet, hheight]
  simp only [ofBounds, ite_error_eq_ok, Except.ok.injEq, hset, Classical.not_not]
  constructor
  · rintro ⟨hset, rfl⟩
    exact ⟨rfl, hset⟩
  · rintro ⟨rfl, hset⟩
    exact ⟨hset, rfl⟩

theorem UpgradeTimeout.ofShape_toShape {t : UpgradeTimeout} (h : t.Valid) : ofShape t.toShape = .ok t := by
  simp only [ofShape, toShape, bind_eq_ok, mapError_eq_ok, ofBounds_eq_ok]
  exact ⟨t.height, TimeoutHeight.ofShape_toShape h.height,
    by rw [TimeoutTimestamp.ofNanos_toNanos h.time], h.isSet⟩

theorem UpgradeTimeout.valid_of_ofShape {s : TimeoutShape} {t : UpgradeTimeout} (h : ofShape s = .ok t) :
    t.Valid := by
  obtain ⟨height, time⟩ := s
  cases height with
  | none =>
    obtain ⟨rfl, hset⟩ := ofBounds_eq_ok.1 h
    exact ⟨hset, fun _ hh => (nomatch hh), TimeoutTimestamp.ofNanos_ne time⟩
  | some height =>
    simp only [ofShape, bind_eq_ok, mapError_eq_ok, ofBounds_eq_ok] at h
    obtain ⟨height, hheight, rfl, hset⟩ := h
    exact ⟨hset, TimeoutHeight.valid_of_ofShape hheight, TimeoutTimestamp.ofNanos_ne time⟩

theorem Upgrade.ofShape_toShape {u : Upgrade} (h : u.Valid) : ofShape u.toShape = .ok u := by
  simp only [ofShape, toShape, bind_eq_ok, pure_eq_ok, UpgradeFields.ofShape_eq_ok]
  exact ⟨u.fields, ⟨h.fields, rfl⟩, u.timeout, UpgradeTimeout.ofShape_toShape h.timeout, rfl⟩

theorem Upgrade.valid_of_ofShape {s : UpgradeShape} {u : Upgrade} (h : ofShape s = .ok u) : u.Valid := by
  obtain ⟨fields, timeout, nextSend⟩ := s
  cases fields with
  | none => simp [ofShape] at h
  | some fields =>
    cases timeout with
    | none => simp [ofShape] at h
    | some timeout =>
      simp only [ofShape, bind_eq_ok, pure_eq_ok, UpgradeFields.ofShape_eq_ok] at h
      obtain ⟨f, ⟨hf, -⟩, t, ht, rfl⟩ := h
      exact ⟨hf, UpgradeTimeout.valid_of_ofShape ht⟩

/-! ## Round trips -/

/-- Values that are `Valid` are told by their wire forms, and nothing else is read from any bytes. -/
structure RoundTrips {α ε : Type} (Valid : α → Prop) (encode : α → Bytes)
    (decode : Bytes → Except (DecodeError ε) α) : Prop where
  decode_encode : ∀ v, Valid v → (encode v).Fits → decode (encode v) = .ok v
  injective : ∀ v w, Valid v → Valid w → encode v = encode w → v = w
  admits : ∀ bs v, decode bs = .ok v → Valid v
  stable : ∀ bs v, decode bs = .ok v → (encode v).Fits → decode (encode v) = .ok v

section
variable {α ε : Type} {Valid : α → Prop} {encode : α → Bytes} {decode : Bytes → Except (DecodeError ε) α}

/-- What is read from any bytes is a value that its constructors admit, so it is read again from its wire form. -/
theorem RoundTrips.of (hback : ∀ v, Valid v → (encode v).Fits → decode (encode v) = .ok v)
    (hinj : ∀ v w, Valid v → Valid w → encode v = encode w → v = w)
    (hadmits : ∀ bs v, decode bs = .ok v → Valid v) : RoundTrips Valid encode decode :=
  ⟨hback, hinj, hadmits, fun bs v h => hback v (hadmits bs v h)⟩

end

theorem Height.roundTrips : RoundTrips Valid encode decode := by
  refine .of (fun h hvalid _ => ?_) (fun h h' _ _ he => encode_inj he) (fun bs h hdecode => ?_)
  · obtain ⟨fs, hreads, hshape⟩ := h.toShape.reads
    exact decodeWith_of_reads hreads hshape (ofShape_eq_ok.2 ⟨hvalid, rfl⟩)
  · obtain ⟨s, hs⟩ := value_of_decodeWith hdecode
    exact (ofShape_eq_ok.1 hs).1

theorem Counterparty.eq_of_toShape {c d : Counterparty} (hc : c.Valid) (hd : d.Valid)
    (h : c.toShape = d.toShape) : c = d := by
  have hok := (ofShape_eq_ok (c := c)).2 ⟨hc, rfl⟩
  rw [h, ofShape_eq_ok.2 ⟨hd, rfl⟩] at hok
  exact (Except.ok.inj hok).symm

theorem Counterparty.roundTrips : RoundTrips Valid encode decode := by
  refine .of (fun c hvalid hfits => ?_) (fun c d hc hd he => eq_of_toShape hc hd (encode_inj he))
    (fun bs c hdecode => ?_)
  · obtain ⟨fs, hreads, hshape⟩ := CounterpartyShape.reads hfits
    exact decodeWith_of_reads hreads hshape (ofShape_eq_ok.2 ⟨hvalid, rfl⟩)
  · obtain ⟨s, hs⟩ := value_of_decodeWith hdecode
    exact (ofShape_eq_ok.1 hs).1

theorem ChannelEnd.roundTrips : RoundTrips Valid encode decode := by
  refine .of (fun c hvalid hfits => ?_) (fun c d hc hd he => ?_) (fun bs c hdecode => ?_)
  · obtain ⟨fs, hreads, hshape⟩ := ChannelShape.reads rfl hfits (coded_state c.state) (coded_order c.order)
    exact decodeWith_of_reads hreads (hshape nestingLimit) (ofShape_eq_ok.2 ⟨hvalid, rfl⟩)
  · obtain ⟨hstate, horder, hremote, hhops, hversion, hseq⟩ := encode_inj he
    have hremote := Counterparty.eq_of_toShape hc.remote hd.remote hremote
    exact (ChannelEnd.mk.injEq ..).symm ▸ ⟨hstate, horder, hremote, hhops, hversion, hseq⟩
  · obtain ⟨s, hs⟩ := value_of_decodeWith hdecode
    exact (ofShape_eq_ok.1 hs).1

theorem UpgradeFields.roundTrips : RoundTrips Valid encode decode := by
  refine .of (fun f hvalid hfits => ?_) (fun f g _ _ he => encode_inj he) (fun bs f hdecode => ?_)
  · obtain ⟨fs, hreads, hshape⟩ := FieldsShape.reads hfits (coded_order f.order)
    exact decodeWith_of_reads hreads hshape (ofShape_eq_ok.2 ⟨hvalid, rfl⟩)
  · obtain ⟨s, hs⟩ := value_of_decodeWith hdecode
    exact (ofShape_eq_ok.1 hs).1

theorem UpgradeTimeout.Valid.plain {t : UpgradeTimeout} (h : t.Valid) : t.Plain :=
  ⟨fun hzero => h.height _ hzero rfl, h.time⟩

theorem UpgradeTimeout.roundTrips : RoundTrips Valid encode decode := by
  refine .of (fun t hvalid hfits => ?_) (fun t t' ht ht' he => encode_inj ht.plain ht'.plain he)
    (fun bs t hdecode => ?_)
  · obtain ⟨fs, hreads, hshape⟩ := TimeoutShape.reads hfits
    exact decodeWith_of_reads hreads (hshape nestingLimit) (ofShape_toShape hvalid)
  · obtain ⟨s, hs⟩ := value_of_decodeWith hdecode
    exact valid_of_ofShape hs

theorem Upgrade.roundTrips : RoundTrips Valid encode decode := by
  refine .of (fun u hvalid hfits => ?_)
    (fun u w hu hw he => encode_inj hu.timeout.plain hw.timeout.plain he) (fun bs u hdecode => ?_)
  · obtain ⟨fs, hreads, hshape⟩ := UpgradeShape.reads hfits (coded_order u.fields.order)
    exact decodeWith_of_reads hreads (hshape nestingLimit) (ofShape_toShape hvalid)
  · obtain ⟨s, hs⟩ := value_of_decodeWith hdecode
    exact valid_of_ofShape hs

theorem ErrorReceipt.roundTrips : RoundTrips (fun _ => True) encode decode := by
  refine .of (fun r _ hfits => ?_) (fun r r' _ _ he => encode_inj he) (fun _ _ _ => trivial)
  obtain ⟨fs, hreads, hshape⟩ := ReceiptShape.reads hfits
  exact decodeWith_of_reads hreads hshape rfl

/-- Everything that chains commit to is told by its wire form, and any bytes that are read as such a value
are read as one that its constructors admit. -/
theorem round_trips :
    RoundTrips Height.Valid Height.encode Height.decode ∧
    RoundTrips Counterparty.Valid Counterparty.encode Counterparty.decode ∧
    RoundTrips ChannelEnd.Valid ChannelEnd.encode ChannelEnd.decode ∧
    RoundTrips UpgradeFields.Valid UpgradeFields.encode UpgradeFields.decode ∧
    RoundTrips UpgradeTimeout.Valid UpgradeTimeout.encode UpgradeTimeout.decode ∧
    RoundTrips Upgrade.Valid Upgrade.encode Upgrade.decode ∧
    RoundTrips (fun _ => True) ErrorReceipt.encode ErrorReceipt.decode :=
  ⟨Height.roundTrips, Counterparty.roundTrips, ChannelEnd.roundTrips, UpgradeFields.roundTrips,
    UpgradeTimeout.roundTrips, Upgrade.roundTrips, ErrorReceipt.roundTrips⟩

/-- An end whose counterparty has no channel yet is told from all others, and so is an upgrade over no
connection and with no height to finish by; a height written twice over, and the wrong way round, is read as
the last one. -/
theorem round_trips_of_absent_parts :
    let c : ChannelEnd := ⟨.init, .ordered, ⟨⟨"icahost"⟩, none⟩, [⟨"connection-0"⟩], ⟨""⟩, 0⟩
    let u : Upgrade := ⟨⟨.unspecified, [], ⟨"v2"⟩⟩, ⟨.never, .at ⟨7⟩⟩, ⟨3⟩⟩
    let bs : Bytes := [16, 5, 8, 1, 16, 9, 40, 7]
    (c.Valid ∧ ChannelEnd.decode c.encode = .ok c) ∧ (u.Valid ∧ Upgrade.decode u.encode = .ok u) ∧
      Height.decode bs = .ok ⟨1, 9⟩ ∧ Height.decode (Height.encode ⟨1, 9⟩) = .ok ⟨1, 9⟩ := by
  obtain ⟨hheight, -, hend, -, -, hupgrade, -⟩ := round_trips
  have hc : ChannelEnd.Valid ⟨.init, .ordered, ⟨⟨"icahost"⟩, none⟩, [⟨"connection-0"⟩], ⟨""⟩, 0⟩ :=
    ⟨⟨by decide, by simp⟩, by decide, by decide⟩
  have hu : Upgrade.Valid ⟨⟨.unspecified, [], ⟨"v2"⟩⟩, ⟨.never, .at ⟨7⟩⟩, ⟨3⟩⟩ :=
    ⟨by simp [UpgradeFields.Valid], by decide, by simp, by decide⟩
  have hbs : Height.decode [16, 5, 8, 1, 16, 9, 40, 7] = .ok ⟨1, 9⟩ := by decide +kernel
  exact ⟨⟨hc, hend.decode_encode _ hc (by decide +kernel)⟩,
    ⟨hu, hupgrade.decode_encode _ hu (by decide +kernel)⟩,
    hbs, hheight.stable _ _ hbs (by decide +kernel)⟩

end ChannelLayer
