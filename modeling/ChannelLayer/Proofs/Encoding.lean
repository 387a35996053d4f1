import ChannelLayer.Protobuf.Codec

/-!
# No two values are committed to alike

A chain commits to ends, upgrades and error receipts in their wire form, so what a proof says of the bytes
is said of the value only if the bytes tell the value. The fields of a message are written in the order of
their numbers, and each begins with its number, so a field that is left out cannot be taken for another
one (`Above`). What is lost is what the wire form has no place for: a counterparty without a channel is
written like one whose name is empty, and a deadline at zero like none. Counters are written in eight
bytes, which tell them (`Bytes.ofUInt64_injective`).

* `ChannelEnd.encode_inj`, `Upgrade.encode_inj`, `ErrorReceipt.encode_inj`.
-/

set_option autoImplicit false

namespace ChannelLayer

/-! ## Eight bytes -/

namespace Bytes

theorem toNat_shiftRight_toUInt8 (n : UInt64) {k : UInt64} (hk : k < 64) :
    (n >>> k).toUInt8.toNat = (n.toNat >>> k.toNat) % 256 := by
  have hk' : k.toNat < 64 := UInt64.lt_iff_toNat_lt.1 hk
  rw [UInt64.toNat_toUInt8, UInt64.toNat_shiftRight, Nat.mod_eq_of_lt hk']

theorem ofUInt64_injective : Function.Injective ofUInt64 := by
  intro m n h
  simp only [ofUInt64, List.map_cons, List.map_nil, List.cons.injEq, and_true] at h
  obtain ⟨h56, h48, h40, h32, h24, h16, h8, h0⟩ := h
  have hbyte {k : UInt64} (hk : k < 64) (h : (m >>> k).toUInt8 = (n >>> k).toUInt8) :
      (m.toNat >>> k.toNat) % 256 = (n.toNat >>> k.toNat) % 256 := by
    rw [← toNat_shiftRight_toUInt8 m hk, ← toNat_shiftRight_toUInt8 n hk, h]
  have h56 := hbyte (by decide) h56
  have h48 := hbyte (by decide) h48
  have h40 := hbyte (by decide) h40
  have h32 := hbyte (by decide) h32
  have h24 := hbyte (by decide) h24
  have h16 := hbyte (by decide) h16
  have h8 := hbyte (by decide) h8
  have h0 := congrArg UInt8.toNat h0
  rw [UInt64.toNat_toUInt8, UInt64.toNat_toUInt8] at h0
  have hm := m.toNat_lt
  have hn := n.toNat_lt
  -- The eight bytes are the digits of the number to base 256.
  simp only [UInt64.reduceToNat] at h56 h48 h40 h32 h24 h16 h8 h0
  apply UInt64.toNat_inj.1
  omega

end Bytes

theorem Sequence.toBytes_injective : Function.Injective toBytes := by
  intro m n h
  exact congrArg mk (Bytes.ofUInt64_injective h)

/-! ## Names -/

theorem decimal_injective : Function.Injective decimal := by
  intro m n h
  have hdigits : Nat.toDigits 10 m.toNat = Nat.toDigits 10 n.toNat := String.ofList_injective h
  have hnumber := congrArg (fun digits => Nat.ofDigitChars 10 digits 0) hdigits
  simp only [Nat.ofDigitChars_toDigits (by decide : 1 < 10) (by decide : 10 ≤ 10)] at hnumber
  exact UInt64.toNat_inj.1 hnumber

/-- No two numbers make the same name of a channel. -/
theorem ChannelId.numbered_injective : Function.Injective ChannelId.numbered := by
  intro m n h
  have htext : Identifier.numbered "channel" m = Identifier.numbered "channel" n :=
    congrArg ChannelId.text h
  unfold Identifier.numbered at htext
  exact decimal_injective ((String.append_right_inj _).1 htext)

namespace Protobuf

/-! ## Numbers -/

theorem writeVarint_of_lt {n : Nat} (h : n < 128) : writeVarint n = [UInt8.ofNat n] := by
  rw [writeVarint, if_pos h]

theorem writeVarint_of_not_lt {n : Nat} (h : ¬n < 128) :
    writeVarint n = UInt8.ofNat (n % 128 + 128) :: writeVarint (n / 128) := by
  rw [writeVarint, if_neg h]

/-- A varint ends at its first byte without the top bit. -/
theorem writeVarint_append_inj {m n : Nat} {r r' : Bytes}
    (h : writeVarint m ++ r = writeVarint n ++ r') : m = n ∧ r = r' := by
  induction m using writeVarint.induct generalizing n with
  | case1 m hm =>
    by_cases hn : n < 128
    · simp only [writeVarint_of_lt hm, writeVarint_of_lt hn, List.cons_append, List.nil_append,
        List.cons.injEq, ← UInt8.toNat_inj, UInt8.toNat_ofNat'] at h
      exact ⟨by omega, h.2⟩
    · simp only [writeVarint_of_lt hm, writeVarint_of_not_lt hn, List.cons_append, List.nil_append,
        List.cons.injEq, ← UInt8.toNat_inj, UInt8.toNat_ofNat'] at h
      omega
  | case2 m hm ih =>
    by_cases hn : n < 128
    · simp only [writeVarint_of_not_lt hm, writeVarint_of_lt hn, List.cons_append, List.nil_append,
        List.cons.injEq, ← UInt8.toNat_inj, UInt8.toNat_ofNat'] at h
      omega
    · simp only [writeVarint_of_not_lt hm, writeVarint_of_not_lt hn, List.cons_append,
        List.cons.injEq, ← UInt8.toNat_inj, UInt8.toNat_ofNat'] at h
      obtain ⟨hdiv, hr⟩ := ih h.2
      exact ⟨by omega, hr⟩

theorem writeBytes_append_inj {k : Nat} {bs bs' r r' : Bytes}
    (h : writeBytes k bs ++ r = writeBytes k bs' ++ r') : bs = bs' ∧ r = r' := by
  simp only [writeBytes, List.append_assoc, List.append_cancel_left_eq] at h
  obtain ⟨hlen, h⟩ := writeVarint_append_inj h
  exact List.append_inj h hlen

/-! ## Fields -/

/-- The bytes begin, if at all, with a field of a number above `k`. -/
def Above (k : Nat) (bs : Bytes) : Prop := ∀ b, bs.head? = some b → 8 * k + 8 ≤ b.toNat

theorem above_nil (k : Nat) : Above k [] := fun _ h => by cases h

theorem Above.mono {j k : Nat} {bs : Bytes} (h : Above k bs) (hjk : j ≤ k) : Above j bs :=
  fun b hb => by have := h b hb; omega

theorem head?_writeKey {k code : Nat} (hk : k < 15) (hcode : code < 8) (bs : Bytes) :
    (writeKey k code ++ bs).head? = some (UInt8.ofNat (8 * k + code)) := by
  rw [writeKey, writeVarint_of_lt (by omega)]
  rfl

theorem above_writeKey {j k code : Nat} (hk : k < 15) (hcode : code < 8) (hjk : j < k) (bs : Bytes) :
    Above j (writeKey k code ++ bs) := by
  intro b hb
  rw [head?_writeKey hk hcode] at hb
  obtain rfl := Option.some.inj hb
  rw [UInt8.toNat_ofNat']
  omega

/-- A field that is left out is not mistaken for the one that is not. -/
theorem Above.ne_writeKey {k code : Nat} {r : Bytes} (hr : Above k r) (hk : k < 15) (hcode : code < 8)
    (bs : Bytes) : r ≠ writeKey k code ++ bs := by
  rintro rfl
  have := hr _ (head?_writeKey hk hcode bs)
  rw [UInt8.toNat_ofNat'] at this
  omega

section
variable {j k : Nat} {r r' : Bytes} (hk : k < 15)

include hk

theorem Above.number (hr : Above k r) (hjk : j < k) (n : UInt64) : Above j (writeNumber k n ++ r) := by
  unfold writeNumber
  split
  · exact hr.mono (Nat.le_of_lt hjk)
  · rw [List.append_assoc]
    exact above_writeKey hk (by decide) hjk _

theorem Above.text (hr : Above k r) (hjk : j < k) (s : String) : Above j (writeText k s ++ r) := by
  unfold writeText
  split
  · exact hr.mono (Nat.le_of_lt hjk)
  · rw [writeBytes, List.append_assoc, List.append_assoc]
    exact above_writeKey hk (by decide) hjk _

theorem Above.texts (hr : Above k r) (hjk : j < k) (ss : List String) :
    Above j (writeTexts k ss ++ r) := by
  cases ss with
  | nil => exact hr.mono (Nat.le_of_lt hjk)
  | cons s ss =>
    simp only [writeTexts, List.flatMap_cons, writeBytes, List.append_assoc]
    exact above_writeKey hk (by decide) hjk _

theorem above_writeBytes (hjk : j < k) (bs : Bytes) : Above j (writeBytes k bs ++ r) := by
  rw [writeBytes, List.append_assoc, List.append_assoc]
  exact above_writeKey hk (by decide) hjk _

theorem writeNumber_append_inj (hr : Above k r) (hr' : Above k r') {m n : UInt64}
    (h : writeNumber k m ++ r = writeNumber k n ++ r') : m = n ∧ r = r' := by
  unfold writeNumber at h
  split at h <;> split at h
  · simp_all
  · rw [List.append_assoc] at h
    exact absurd h (hr.ne_writeKey hk (by decide) _)
  · rw [List.append_assoc] at h
    exact absurd h.symm (hr'.ne_writeKey hk (by decide) _)
  · simp only [List.append_assoc, List.append_cancel_left_eq] at h
    obtain ⟨hn, hrest⟩ := writeVarint_append_inj h
    exact ⟨UInt64.toNat_inj.1 hn, hrest⟩

theorem writeText_append_inj (hr : Above k r) (hr' : Above k r') {s t : String}
    (h : writeText k s ++ r = writeText k t ++ r') : s = t ∧ r = r' := by
  unfold writeText at h
  split at h <;> split at h
  · rename_i hs ht
    rw [String.isEmpty_iff] at hs ht
    simp_all
  · rw [writeBytes, List.append_assoc, List.append_assoc] at h
    exact absurd h (hr.ne_writeKey hk (by decide) _)
  · rw [writeBytes, List.append_assoc, List.append_assoc] at h
    exact absurd h.symm (hr'.ne_writeKey hk (by decide) _)
  · obtain ⟨hs, hrest⟩ := writeBytes_append_inj h
    exact ⟨Bytes.ofText_injective hs, hrest⟩

theorem writeTexts_append_inj (hr : Above k r) (hr' : Above k r') {ss ts : List String}
    (h : writeTexts k ss ++ r = writeTexts k ts ++ r') : ss = ts ∧ r = r' := by
  induction ss generalizing ts with
  | nil =>
    cases ts with
    | nil => exact ⟨rfl, h⟩
    | cons t ts =>
      simp only [writeTexts, List.flatMap_nil, List.nil_append, List.flatMap_cons, writeBytes,
        List.append_assoc] at h
      exact absurd h (hr.ne_writeKey hk (by decide) _)
  | cons s ss ih =>
    cases ts with
    | nil =>
      simp only [writeTexts, List.flatMap_nil, List.nil_append, List.flatMap_cons, writeBytes,
        List.append_assoc] at h
      exact absurd h.symm (hr'.ne_writeKey hk (by decide) _)
    | cons t ts =>
      simp only [writeTexts, List.flatMap_cons, List.append_assoc] at h
      obtain ⟨hs, hrest⟩ := writeBytes_append_inj h
      obtain ⟨hss, hr⟩ := ih hrest
      exact ⟨by rw [Bytes.ofText_injective hs, hss], hr⟩

end

end Protobuf

open Protobuf

/-! ## Values -/

theorem ChannelState.code_lt (s : ChannelState) : s.code < 9 := by cases s <;> decide

theorem ChannelOrder.code_lt (o : ChannelOrder) : o.code < 3 := by cases o <;> decide

theorem ChannelState.code_inj {s t : ChannelState}
    (h : UInt64.ofNat (s.code : Int).toNat = UInt64.ofNat (t.code : Int).toNat) : s = t := by
  have hs := s.code_lt
  have ht := t.code_lt
  have hcode : s.code = t.code := by
    simp only [Int.toNat_natCast, ← UInt64.toNat_inj, UInt64.toNat_ofNat'] at h
    omega
  have hok := congrArg (fun n : Nat => ChannelState.ofCode n) hcode
  simpa using hok

theorem ChannelOrder.code_inj {o p : ChannelOrder}
    (h : UInt64.ofNat (o.code : Int).toNat = UInt64.ofNat (p.code : Int).toNat) : o = p := by
  have ho := o.code_lt
  have hp := p.code_lt
  have hcode : o.code = p.code := by
    simp only [Int.toNat_natCast, ← UInt64.toNat_inj, UInt64.toNat_ofNat'] at h
    omega
  have hok := congrArg (fun n : Nat => ChannelOrder.ofCode n) hcode
  simpa using hok

theorem map_text_inj {hops hops' : List ConnectionId}
    (h : hops.map ConnectionId.text = hops'.map ConnectionId.text) : hops = hops' :=
  (List.map_inj_right fun ⟨_⟩ ⟨_⟩ h => congrArg ConnectionId.mk h).1 h

theorem Counterparty.encode_inj {c d : Counterparty} (h : c.encode = d.encode) :
    c.toShape = d.toShape := by
  have h : writeText 1 c.toShape.port ++ (writeText 2 c.toShape.channel ++ []) =
      writeText 1 d.toShape.port ++ (writeText 2 d.toShape.channel ++ []) := by
    simpa only [encode, CounterpartyShape.write, List.append_nil] using h
  have habove (s : String) : Above 1 (writeText 2 s ++ []) :=
    .text (by decide) (above_nil 2) (by decide) s
  obtain ⟨hport, h⟩ := writeText_append_inj (by decide) (habove _) (habove _) h
  obtain ⟨hchannel, -⟩ := writeText_append_inj (by decide) (above_nil 2) (above_nil 2) h
  exact (CounterpartyShape.mk.injEq ..).symm ▸ ⟨hport, hchannel⟩

/-- Counterparties that name a channel are written apart. -/
theorem Counterparty.eq_ofEnd {c : Counterparty} {id : EndId} (h : c.toShape = (ofEnd id).toShape)
    (hc : c.channel ≠ none) : c = ofEnd id := by
  obtain ⟨⟨port⟩, channel⟩ := c
  obtain ⟨⟨port'⟩, ⟨channel'⟩⟩ := id
  cases channel with
  | none => exact absurd rfl hc
  | some channel =>
    obtain ⟨channel⟩ := channel
    simpa [toShape, ofEnd] using h

theorem ChannelEnd.encode_eq (c : ChannelEnd) :
    c.encode = writeNumber 1 (UInt64.ofNat (c.state.code : Int).toNat) ++
      (writeNumber 2 (UInt64.ofNat (c.order.code : Int).toNat) ++ (writeBytes 3 c.remote.toShape.write ++
        (writeTexts 4 (c.hops.map ConnectionId.text) ++ (writeText 5 c.version.text ++
          (writeNumber 6 c.upgradeSequence ++ []))))) := by
  simp only [encode, toShape, ChannelShape.write, writeCode, Option.map_some, writeMessage, List.append_assoc,
    List.append_nil]

/-- The wire form of an end tells everything but whether its counterparty has no channel or a nameless
one. -/
theorem ChannelEnd.encode_inj {c d : ChannelEnd} (h : c.encode = d.encode) :
    c.state = d.state ∧ c.order = d.order ∧ c.remote.toShape = d.remote.toShape ∧ c.hops = d.hops ∧
      c.version = d.version ∧ c.upgradeSequence = d.upgradeSequence := by
  have h6 (c : ChannelEnd) : Above 5 (writeNumber 6 c.upgradeSequence ++ []) :=
    .number (by decide) (above_nil 6) (by decide) _
  have h5 (c : ChannelEnd) := Above.text (by decide) (h6 c) (show 4 < 5 by decide) c.version.text
  have h4 (c : ChannelEnd) :=
    Above.texts (by decide) (h5 c) (show 3 < 4 by decide) (c.hops.map ConnectionId.text)
  have h3 (c : ChannelEnd) : Above 2 (writeBytes 3 c.remote.toShape.write ++ _) :=
    above_writeBytes (r := writeTexts 4 (c.hops.map ConnectionId.text) ++ (writeText 5 c.version.text ++
      (writeNumber 6 c.upgradeSequence ++ []))) (by decide) (by decide) _
  have h2 (c : ChannelEnd) := Above.number (by decide) (h3 c) (show 1 < 2 by decide)
    (UInt64.ofNat (c.order.code : Int).toNat)
  rw [encode_eq, encode_eq] at h
  obtain ⟨hstate, h⟩ := writeNumber_append_inj (by decide) (h2 c) (h2 d) h
  obtain ⟨horder, h⟩ := writeNumber_append_inj (by decide) (h3 c) (h3 d) h
  obtain ⟨hremote, h⟩ := writeBytes_append_inj h
  obtain ⟨hhops, h⟩ := writeTexts_append_inj (by decide) (h5 c) (h5 d) h
  obtain ⟨hversion, h⟩ := writeText_append_inj (by decide) (h6 c) (h6 d) h
  obtain ⟨hseq, -⟩ := writeNumber_append_inj (by decide) (above_nil 6) (above_nil 6) h
  exact ⟨ChannelState.code_inj hstate, ChannelOrder.code_inj horder, Counterparty.encode_inj hremote,
    map_text_inj hhops, congrArg Version.mk hversion, hseq⟩

theorem UpgradeFields.encode_inj {f g : UpgradeFields} (h : f.encode = g.encode) : f = g := by
  have h3 (f : UpgradeFields) : Above 2 (writeText 3 f.version.text ++ []) :=
    .text (by decide) (above_nil 3) (by decide) _
  have h2 (f : UpgradeFields) :=
    Above.texts (by decide) (h3 f) (show 1 < 2 by decide) (f.hops.map ConnectionId.text)
  have hwrite (f : UpgradeFields) : f.encode = writeNumber 1 (UInt64.ofNat (f.order.code : Int).toNat) ++
      (writeTexts 2 (f.hops.map ConnectionId.text) ++ (writeText 3 f.version.text ++ [])) := by
    simp only [encode, toShape, FieldsShape.write, writeCode, List.append_assoc, List.append_nil]
  rw [hwrite, hwrite] at h
  obtain ⟨horder, h⟩ := writeNumber_append_inj (by decide) (h2 f) (h2 g) h
  obtain ⟨hhops, h⟩ := writeTexts_append_inj (by decide) (h3 f) (h3 g) h
  obtain ⟨hversion, -⟩ := writeText_append_inj (by decide) (above_nil 3) (above_nil 3) h
  exact (UpgradeFields.mk.injEq ..).symm ▸
    ⟨ChannelOrder.code_inj horder, map_text_inj hhops, congrArg Version.mk hversion⟩

theorem Height.encode_inj {h h' : Height} (he : h.encode = h'.encode) : h = h' := by
  have h2 (h : Height) : Above 1 (writeNumber 2 h.block ++ []) :=
    .number (by decide) (above_nil 2) (by decide) _
  have hwrite (h : Height) :
      h.encode = writeNumber 1 h.revision ++ (writeNumber 2 h.block ++ []) := by
    simp only [encode, toShape, HeightShape.write, List.append_nil]
  rw [hwrite, hwrite] at he
  obtain ⟨hrevision, he⟩ := writeNumber_append_inj (by decide) (h2 h) (h2 h') he
  obtain ⟨hblock, -⟩ := writeNumber_append_inj (by decide) (above_nil 2) (above_nil 2) he
  exact (Height.mk.injEq ..).symm ▸ ⟨hrevision, hblock⟩

theorem TimeoutHeight.toHeight_inj {t t' : TimeoutHeight} (ht : t ≠ .at ⟨0, 0⟩) (ht' : t' ≠ .at ⟨0, 0⟩)
    (h : t.toHeight = t'.toHeight) : t = t' := by
  cases t <;> cases t' <;> simp_all [toHeight]

theorem TimeoutTimestamp.toNanos_inj {t t' : TimeoutTimestamp} (ht : t ≠ .at ⟨0⟩) (ht' : t' ≠ .at ⟨0⟩)
    (h : t.toNanos = t'.toNanos) : t = t' := by
  cases t with
  | never =>
    cases t' with
    | never => rfl
    | «at» time => exact absurd (congrArg (TimeoutTimestamp.at ⟨·⟩) h.symm) ht'
  | «at» time =>
    cases t' with
    | never => exact absurd (congrArg (TimeoutTimestamp.at ⟨·⟩) h) ht
    | «at» time' => exact congrArg (TimeoutTimestamp.at ⟨·⟩) h

/-- A deadline that says so where it is none. -/
def UpgradeTimeout.Plain (t : UpgradeTimeout) : Prop := t.height ≠ .at ⟨0, 0⟩ ∧ t.time ≠ .at ⟨0⟩

instance (t : UpgradeTimeout) : Decidable t.Plain := inferInstanceAs (Decidable (_ ∧ _))

theorem UpgradeTimeout.encode_inj {t t' : UpgradeTimeout} (ht : t.Plain) (ht' : t'.Plain)
    (h : t.encode = t'.encode) : t = t' := by
  have hwrite (t : UpgradeTimeout) :
      t.encode = writeBytes 1 t.height.toHeight.encode ++ (writeNumber 2 t.time.toNanos ++ []) := by
    simp only [encode, toShape, TimeoutShape.write, Option.map_some, writeMessage, List.append_nil]
    rfl
  rw [hwrite, hwrite] at h
  obtain ⟨hheight, h⟩ := writeBytes_append_inj h
  obtain ⟨htime, -⟩ := writeNumber_append_inj (by decide) (above_nil 2) (above_nil 2) h
  have hheight := Height.encode_inj hheight
  obtain ⟨height, time⟩ := t
  obtain ⟨height', time'⟩ := t'
  obtain rfl := TimeoutHeight.toHeight_inj ht.1 ht'.1 hheight
  obtain rfl := TimeoutTimestamp.toNanos_inj ht.2 ht'.2 htime
  rfl

theorem Upgrade.encode_eq (u : Upgrade) : u.encode = writeBytes 1 u.fields.encode ++
    (writeBytes 2 u.timeout.encode ++ (writeNumber 3 u.nextSend.number ++ [])) := by
  simp only [encode, toShape, UpgradeShape.write, Option.map_some, writeMessage, List.append_assoc,
    List.append_nil]
  rfl

/-- The wire form of an upgrade tells its fields. -/
theorem Upgrade.fields_eq_of_encode {u w : Upgrade} (h : u.encode = w.encode) : u.fields = w.fields := by
  rw [encode_eq, encode_eq] at h
  exact UpgradeFields.encode_inj (writeBytes_append_inj h).1

/-- The wire form of an upgrade tells it, as long as no deadline is zero. -/
theorem Upgrade.encode_inj {u w : Upgrade} (hu : u.timeout.Plain) (hw : w.timeout.Plain)
    (h : u.encode = w.encode) : u = w := by
  rw [encode_eq, encode_eq] at h
  obtain ⟨hfields, h⟩ := writeBytes_append_inj h
  obtain ⟨htimeout, h⟩ := writeBytes_append_inj h
  obtain ⟨hnext, -⟩ := writeNumber_append_inj (by decide) (above_nil 3) (above_nil 3) h
  exact (Upgrade.mk.injEq ..).symm ▸ ⟨UpgradeFields.encode_inj hfields,
    UpgradeTimeout.encode_inj hu hw htimeout, congrArg Sequence.mk hnext⟩

theorem ErrorReceipt.encode_eq (a : ErrorReceipt) :
    a.encode = writeNumber 1 a.sequence ++ (writeText 2 a.message ++ []) := by
  simp only [encode, toShape, ReceiptShape.write, List.append_nil]

theorem ErrorReceipt.encode_inj {a b : ErrorReceipt} (h : a.encode = b.encode) : a = b := by
  have h2 (a : ErrorReceipt) : Above 1 (writeText 2 a.message ++ []) :=
    .text (by decide) (above_nil 2) (by decide) _
  rw [encode_eq, encode_eq] at h
  obtain ⟨hsequence, h⟩ := writeNumber_append_inj (by decide) (h2 a) (h2 b) h
  obtain ⟨hmessage, -⟩ := writeText_append_inj (by decide) (above_nil 2) (above_nil 2) h
  exact (ErrorReceipt.mk.injEq ..).symm ▸ ⟨hsequence, hmessage⟩

end ChannelLayer
