import ChannelLayer.Path
import ChannelLayer.Proofs.Spelling

/-!
# No two paths are written alike

A path begins with a word that tells what lies under it, and no such word begins with another one
(`Kind.root_append_inj`). What follows are names and numbers with a slash between them, and no name has a slash in
it: a name ends where the first byte comes that names are not made of (`append_inj_of_stops`). So a path can be read
back from its text (`written_apart`), and also from its text with other bytes behind it, if it is known where it ends
(`toBytes_append_inj`).
-/

set_option autoImplicit false

namespace ChannelLayer

/-! ## Where a name ends -/

namespace Bytes

theorem ofText_append (s t : String) : ofText (s ++ t) = ofText s ++ ofText t := by
  simp only [ofText, String.toUTF8, String.toByteArray_append, ByteArray.data_append, Array.toList_append]

end Bytes

namespace Identifier

/-- The byte encodes a character of which identifiers are made. -/
def isAllowedByte (b : UInt8) : Bool := isAllowed (Char.ofNat b.toNat)

theorem isAllowedByte_of_isAllowed {c : Char} (h : isAllowed c = true) :
    isAllowedByte c.val.toUInt8 = true := by
  have hval : c.val.toNat ≤ 127 := Char.utf8Size_eq_one_iff.1 (utf8Size_of_isAllowed h)
  have hbyte : c.val.toUInt8.toNat = c.toNat := by
    rw [UInt32.toNat_toUInt8]
    exact Nat.mod_eq_of_lt (Nat.lt_of_le_of_lt hval (by decide))
  rw [isAllowedByte, hbyte, Char.ofNat_toNat, h]

/-- What is made of allowed characters is written in allowed bytes. -/
theorem isAllowedByte_of_mem {s : String} (h : s.toList.all isAllowed = true) :
    ∀ b ∈ Bytes.ofText s, isAllowedByte b = true := by
  intro b hb
  have hencode : Bytes.ofText s = s.toList.flatMap String.utf8EncodeChar := by
    rw [Bytes.ofText, String.toUTF8, ← String.utf8Encode_toList]
    simp [List.utf8Encode]
  rw [hencode, List.mem_flatMap] at hb
  obtain ⟨c, hc, hb⟩ := hb
  have hallowed := List.all_eq_true.1 h c hc
  rw [String.utf8EncodeChar_eq_singleton (utf8Size_of_isAllowed hallowed), List.mem_singleton] at hb
  rw [hb]
  exact isAllowedByte_of_isAllowed hallowed

/-- The bytes do not go on with a character of which identifiers are made. -/
def Stops (bs : Bytes) : Prop := ∀ b, bs.head? = some b → isAllowedByte b = false

theorem stops_nil : Stops [] := fun _ h => by cases h

theorem stops_channels : Stops (.ofText "/channels/") := fun b hb => by
  cases hb
  decide

theorem stops_sequences : Stops (.ofText "/sequences/") := fun b hb => by
  cases hb
  decide

theorem stops_append {v : Bytes} (w : Bytes) (h : Stops v) (hv : v ≠ []) : Stops (v ++ w) := by
  obtain ⟨b, v, rfl⟩ := List.exists_cons_of_ne_nil hv
  exact h

/-- Where what follows is not allowed in a name, the name ends. -/
theorem append_inj_of_stops {s t : String} {v w : Bytes} (hs : s.toList.all isAllowed = true)
    (ht : t.toList.all isAllowed = true) (hv : Stops v) (hw : Stops w)
    (h : Bytes.ofText s ++ v = Bytes.ofText t ++ w) : s = t ∧ v = w := by
  have hcut {s : String} {v : Bytes} (hs : s.toList.all isAllowed = true) (hv : Stops v) :
      (Bytes.ofText s ++ v).takeWhile isAllowedByte = Bytes.ofText s := by
    rw [List.takeWhile_append_of_pos (isAllowedByte_of_mem hs)]
    cases v with
    | nil => rw [List.takeWhile_nil, List.append_nil]
    | cons b v => rw [List.takeWhile_cons_of_neg (by simp [hv b rfl]), List.append_nil]
  have hname : Bytes.ofText s = Bytes.ofText t := by rw [← hcut hs hv, h, hcut ht hw]
  rw [hname, List.append_cancel_left_eq] at h
  exact ⟨Bytes.ofText_injective hname, h⟩

end Identifier

open Identifier

theorem PortId.Valid.allowed {id : PortId} (h : id.Valid) : id.text.toList.all isAllowed = true :=
  let ⟨(), hcharacters, _⟩ := bind_eq_ok.1 h
  checkCharacters_eq_ok.1 hcharacters

theorem ChannelId.Valid.allowed {id : ChannelId} (h : id.Valid) : id.text.toList.all isAllowed = true :=
  let ⟨(), hcharacters, _⟩ := bind_eq_ok.1 h
  checkCharacters_eq_ok.1 hcharacters

theorem Sequence.allowed (n : Sequence) : n.text.toList.all isAllowed = true := by
  rw [text, decimal, Nat.repr, String.toList_ofList, List.all_eq_true]
  exact fun c hc => isAllowed_of_isDigit (Nat.isDigit_of_mem_toDigits (by decide) (by decide) hc)

theorem Sequence.text_injective : Function.Injective text := by
  intro m n h
  exact congrArg mk (decimal_injective h)

structure EndId.Valid (id : EndId) : Prop where
  port : id.port.Valid
  channel : id.channel.Valid

/-! ## What a path tells -/

namespace Path

/-- What lies under a path. -/
inductive Kind where
  | nextChannel
  | channel
  | nextSend
  | nextReceive
  | nextAck
  | commitment
  | ack
  | receipt
  | upgrade
  | counterpartyUpgrade
  | upgradeError
  | capability
  deriving DecidableEq

namespace Kind

/-- The text that a path of this kind begins with. -/
def root : Kind → String
  | nextChannel => "nextChannelSequence"
  | channel => "channelEnds/"
  | nextSend => "nextSequenceSend/"
  | nextReceive => "nextSequenceRecv/"
  | nextAck => "nextSequenceAck/"
  | commitment => "commitments/"
  | ack => "acks/"
  | receipt => "receipts/"
  | upgrade => "channelUpgrades/upgrades/"
  | counterpartyUpgrade => "channelUpgrades/counterpartyUpgrade/"
  | upgradeError => "channelUpgrades/upgradeError/"
  | capability => "capabilities/"

/-- What lies there is kept for each packet. -/
def isNumbered : Kind → Bool
  | commitment | ack | receipt => true
  | _ => false

theorem eq_of_root_isPrefixOf {k l : Kind} (h : (Bytes.ofText k.root).isPrefixOf (Bytes.ofText l.root) = true) :
    k = l := by
  cases k <;> cases l <;> first | rfl | exact absurd h (by decide)

/-- The kinds are told apart by how their paths begin. -/
theorem root_append_inj {k l : Kind} {v w : Bytes}
    (h : Bytes.ofText k.root ++ v = Bytes.ofText l.root ++ w) : k = l ∧ v = w := by
  have hk : Bytes.ofText k.root <+: Bytes.ofText k.root ++ v := List.prefix_append ..
  have hl : Bytes.ofText l.root <+: Bytes.ofText k.root ++ v := h ▸ List.prefix_append ..
  have hkind : k = l := by
    rcases List.prefix_or_prefix_of_prefix hk hl with hbegins | hbegins
    · exact eq_of_root_isPrefixOf (List.isPrefixOf_iff_prefix.2 hbegins)
    · exact (eq_of_root_isPrefixOf (List.isPrefixOf_iff_prefix.2 hbegins)).symm
  subst hkind
  exact ⟨rfl, List.append_cancel_left h⟩

/-- The bytes of a path of this kind up to the name of the channel. -/
def stem (k : Kind) (id : EndId) : Bytes := .ofText (k.root ++ endText id)

theorem stem_append_inj {k l : Kind} {id jd : EndId} {v w : Bytes} (hid : id.Valid) (hjd : jd.Valid)
    (hv : Stops v) (hw : Stops w) (h : k.stem id ++ v = l.stem jd ++ w) : k = l ∧ id = jd ∧ v = w := by
  simp only [stem, endText, Bytes.ofText_append, List.append_assoc] at h
  obtain ⟨hkind, h⟩ := root_append_inj h
  obtain ⟨hport, h⟩ := append_inj_of_stops hid.port.allowed hjd.port.allowed
    (stops_append _ stops_channels (by decide)) (stops_append _ stops_channels (by decide))
    (List.append_cancel_left h)
  obtain ⟨hchannel, h⟩ := append_inj_of_stops hid.channel.allowed hjd.channel.allowed hv hw
    (List.append_cancel_left h)
  have hend : id = jd := by
    obtain ⟨⟨port⟩, ⟨channel⟩⟩ := id
    obtain ⟨⟨port'⟩, ⟨channel'⟩⟩ := jd
    exact (EndId.mk.injEq ..).symm ▸ ⟨congrArg PortId.mk hport, congrArg ChannelId.mk hchannel⟩
  exact ⟨hkind, hend, h⟩

end Kind

def kind : Path → Kind
  | .nextChannel => .nextChannel
  | .channel _ => .channel
  | .nextSend _ => .nextSend
  | .nextReceive _ => .nextReceive
  | .nextAck _ => .nextAck
  | .commitment _ _ => .commitment
  | .ack _ _ => .ack
  | .receipt _ _ => .receipt
  | .upgrade _ => .upgrade
  | .counterpartyUpgrade _ => .counterpartyUpgrade
  | .upgradeError _ => .upgradeError
  | .capability _ => .capability

/-- The channel end that the path names. -/
def end? : Path → Option EndId
  | .nextChannel => none
  | .channel id | .nextSend id | .nextReceive id | .nextAck id | .commitment id _ | .ack id _ | .receipt id _
  | .upgrade id | .counterpartyUpgrade id | .upgradeError id | .capability id => some id

def sequence? : Path → Option Sequence
  | .commitment _ n | .ack _ n | .receipt _ n => some n
  | _ => none

/-- The path is about a channel end with accepted names, or about none. -/
def Valid (p : Path) : Prop := ∀ id, p.end? = some id → id.Valid

theorem valid_of_end? {p : Path} {id : EndId} (hp : p.end? = some id) (hid : id.Valid) : p.Valid := by
  intro jd hjd
  obtain rfl := Option.some.inj (hp.symm.trans hjd)
  exact hid

theorem eq_of_parts {p q : Path} (hkind : p.kind = q.kind) (hend : p.end? = q.end?)
    (hsequence : p.sequence? = q.sequence?) : p = q := by
  cases p <;> cases q <;> cases hkind <;> simp_all [end?, sequence?]

theorem isSome_sequence? (p : Path) : p.sequence?.isSome = p.kind.isNumbered := by cases p <;> rfl

theorem eq_nextChannel {p : Path} : p.end? = none ↔ p = .nextChannel := by cases p <;> simp [end?]

/-- The text of a path behind the name of the channel. -/
def tail (p : Path) : String :=
  match p.sequence? with
  | none => ""
  | some n => "/sequences/" ++ n.text

theorem append_packetText (s : String) (id : EndId) (n : Sequence) :
    s ++ packetText id n = s ++ endText id ++ ("/sequences/" ++ n.text) := by
  rw [packetText, String.append_assoc, String.append_assoc]

theorem text_of_end? {p : Path} {id : EndId} (h : p.end? = some id) :
    p.text = p.kind.root ++ endText id ++ p.tail := by
  cases p <;> cases h <;> first | exact String.append_empty.symm | exact append_packetText ..

theorem toBytes_of_end? {p : Path} {id : EndId} (h : p.end? = some id) :
    p.toBytes = p.kind.stem id ++ .ofText p.tail := by
  rw [toBytes, text_of_end? h, Bytes.ofText_append, Kind.stem]

theorem stops_tail {p : Path} {v : Bytes} (hv : Stops v) : Stops (.ofText p.tail ++ v) := by
  unfold tail
  split
  · exact hv
  · rw [Bytes.ofText_append, List.append_assoc]
    exact stops_append _ stops_sequences (by decide)

theorem tail_append_inj {p q : Path} {v w : Bytes} (hkind : p.kind = q.kind) (hv : Stops v) (hw : Stops w)
    (h : Bytes.ofText p.tail ++ v = Bytes.ofText q.tail ++ w) : p.sequence? = q.sequence? ∧ v = w := by
  have hsome : p.sequence?.isSome = q.sequence?.isSome := by
    rw [isSome_sequence?, isSome_sequence?, hkind]
  unfold tail at h
  cases hm : p.sequence? with
  | none =>
    cases hn : q.sequence? with
    | none => exact ⟨rfl, by simpa [hm, hn] using h⟩
    | some n => simp [hm, hn] at hsome
  | some m =>
    cases hn : q.sequence? with
    | none => simp [hm, hn] at hsome
    | some n =>
      simp only [hm, hn, Bytes.ofText_append, List.append_assoc] at h
      obtain ⟨hnumber, h⟩ := append_inj_of_stops m.allowed n.allowed hv hw (List.append_cancel_left h)
      exact ⟨congrArg some (Sequence.text_injective hnumber), h⟩

theorem exists_toBytes_root (p : Path) : ∃ rest, p.toBytes = .ofText p.kind.root ++ rest := by
  cases hp : p.end? with
  | none => exact ⟨[], by rw [eq_nextChannel.1 hp, List.append_nil]; rfl⟩
  | some id => exact ⟨_, by rw [toBytes_of_end? hp, Kind.stem, Bytes.ofText_append, List.append_assoc]⟩

theorem kind_eq_of_root {p : Path} {k : Kind} {v w : Bytes} (h : p.toBytes ++ v = .ofText k.root ++ w) :
    p.kind = k := by
  obtain ⟨rest, hrest⟩ := exists_toBytes_root p
  rw [hrest, List.append_assoc] at h
  exact (Kind.root_append_inj h).1

theorem kind_eq_of_append {p q : Path} {v w : Bytes} (h : p.toBytes ++ v = q.toBytes ++ w) : p.kind = q.kind := by
  obtain ⟨rest, hrest⟩ := exists_toBytes_root q
  rw [hrest, List.append_assoc] at h
  exact kind_eq_of_root h

/-- A path can be read back from its bytes, with others behind them that cannot belong to it. -/
theorem toBytes_append_inj_of_stops {p q : Path} {v w : Bytes} (hp : p.Valid) (hq : q.Valid) (hv : Stops v)
    (hw : Stops w) (h : p.toBytes ++ v = q.toBytes ++ w) : p = q ∧ v = w := by
  have hkind := kind_eq_of_append h
  cases hid : p.end? with
  | none =>
    obtain rfl := eq_nextChannel.1 hid
    obtain rfl : .nextChannel = q := by cases q <;> cases hkind; rfl
    exact ⟨rfl, List.append_cancel_left h⟩
  | some id =>
    cases hjd : q.end? with
    | none =>
      obtain rfl := eq_nextChannel.1 hjd
      cases p <;> cases hkind
      cases hid
    | some jd =>
      rw [toBytes_of_end? hid, toBytes_of_end? hjd, List.append_assoc, List.append_assoc] at h
      obtain ⟨-, rfl, htail⟩ := Kind.stem_append_inj (hp id hid) (hq jd hjd) (stops_tail hv) (stops_tail hw) h
      obtain ⟨hsequence, hrest⟩ := tail_append_inj hkind hv hw htail
      exact ⟨eq_of_parts hkind (hid.trans hjd.symm) hsequence, hrest⟩

theorem toBytes_inj {p q : Path} (hp : p.Valid) (hq : q.Valid) (h : p.toBytes = q.toBytes) : p = q :=
  (toBytes_append_inj_of_stops hp hq stops_nil stops_nil (congrArg (· ++ []) h)).1

/-- A path can be read back from its bytes with others behind them, if it is known for paths of one kind how many
these are or that they cannot belong to the path. -/
theorem toBytes_append_inj {p q : Path} {v w : Bytes} (hp : p.Valid) (hq : q.Valid)
    (hends : p.kind = q.kind → v.length = w.length ∨ Stops v ∧ Stops w)
    (h : p.toBytes ++ v = q.toBytes ++ w) : p = q ∧ v = w := by
  rcases hends (kind_eq_of_append h) with hlength | ⟨hv, hw⟩
  · obtain ⟨hpath, hrest⟩ := List.append_inj' h hlength
    exact ⟨toBytes_inj hp hq hpath, hrest⟩
  · exact toBytes_append_inj_of_stops hp hq hv hw h

/-- The group of the commitments of a channel end holds them and nothing else. -/
theorem commitmentsText_prefix_iff {id : EndId} {p : Path} (hid : id.Valid) (hp : p.Valid) :
    (∃ rest, p.text = commitmentsText id ++ "/" ++ rest) ↔ ∃ n, p = .commitment id n := by
  have hslash : "/sequences/" = "/sequences" ++ "/" := rfl
  have hgroup (rest : String) :
      commitmentsText id ++ "/" ++ rest = Kind.commitment.root ++ endText id ++ ("/sequences/" ++ rest) := by
    rw [commitmentsText, hslash, String.append_assoc, String.append_assoc, String.append_assoc]
    rfl
  constructor
  · rintro ⟨rest, h⟩
    have hbytes : p.toBytes ++ [] = Kind.commitment.stem id ++ .ofText ("/sequences/" ++ rest) := by
      rw [toBytes, h, hgroup, Bytes.ofText_append, List.append_nil, Kind.stem]
    have hkind : p.kind = .commitment := by
      rw [Kind.stem, Bytes.ofText_append, List.append_assoc] at hbytes
      exact kind_eq_of_root hbytes
    cases p <;> cases hkind
    rename_i jd n
    rw [toBytes_of_end? rfl, List.append_assoc] at hbytes
    have hstops : Stops (.ofText ("/sequences/" ++ rest)) := by
      rw [Bytes.ofText_append]
      exact stops_append _ stops_sequences (by decide)
    obtain ⟨-, rfl, -⟩ := Kind.stem_append_inj (hp jd rfl) hid (stops_tail stops_nil) hstops hbytes
    exact ⟨n, rfl⟩
  · rintro ⟨n, rfl⟩
    exact ⟨n.text, (append_packetText ..).trans (hgroup n.text).symm⟩

/-- No two paths are written alike, neither as texts nor as bytes, and what is written under the group of the
commitments of a channel end is a commitment of this end. -/
theorem written_apart :
    (∀ p q : Path, p.Valid → q.Valid → (p.text = q.text → p = q) ∧ (p.toBytes = q.toBytes → p = q)) ∧
    ∀ (id : EndId) (p : Path), id.Valid → p.Valid →
      ((∃ rest, p.text = commitmentsText id ++ "/" ++ rest) ↔ ∃ n, p = .commitment id n) := by
  refine ⟨fun p q hp hq => ⟨fun h => toBytes_inj hp hq (congrArg Bytes.ofText h), toBytes_inj hp hq⟩, ?_⟩
  exact fun id p hid hp => commitmentsText_prefix_iff hid hp

/-- Two channels of one port, where the name of the first is the beginning of the name of the second. -/
theorem written_apart_of_twelve :
    let one : EndId := ⟨⟨"transfer"⟩, .numbered 1⟩
    let twelve : EndId := ⟨⟨"transfer"⟩, .numbered 12⟩
    one.Valid ∧ twelve.Valid ∧ (commitment one ⟨23⟩).text ≠ (ack one ⟨23⟩).text ∧
      (commitment one ⟨23⟩).toBytes ≠ (commitment twelve ⟨3⟩).toBytes ∧
      ¬∃ rest, (commitment twelve ⟨3⟩).text = commitmentsText one ++ "/" ++ rest := by
  intro one twelve
  have hone : one.Valid := ⟨by decide, ChannelId.valid_numbered 1⟩
  have htwelve : twelve.Valid := ⟨by decide, ChannelId.valid_numbered 12⟩
  have hcommitment : (commitment one ⟨23⟩).Valid := valid_of_end? rfl hone
  have hack : (ack one ⟨23⟩).Valid := valid_of_end? rfl hone
  have hother : (commitment twelve ⟨3⟩).Valid := valid_of_end? rfl htwelve
  have hne : commitment one ⟨23⟩ ≠ commitment twelve ⟨3⟩ := by decide
  refine ⟨hone, htwelve, fun h => ?_, fun h => ?_, fun h => ?_⟩
  · cases (written_apart.1 _ _ hcommitment hack).1 h
  · exact hne ((written_apart.1 _ _ hcommitment hother).2 h)
  · obtain ⟨n, hn⟩ := (written_apart.2 one _ hone hother).1 h
    exact absurd (commitment.inj hn).1 (by decide)

end Path

end ChannelLayer
