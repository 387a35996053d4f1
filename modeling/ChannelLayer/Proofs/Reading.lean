import ChannelLayer.Proofs.Encoding

/-!
# Reading back what was written

`Protobuf.Reads bs fs`: read in front of anything else, the bytes `bs` are the fields `fs`. Each way of writing a
field is read back as that field, or as none where it was left out, and what was written one after the other is
read back one after the other (`Reads.append`), so that a whole message is. A length has to fit 64 bits to be
written.
-/

set_option autoImplicit false

namespace ChannelLayer

namespace Bytes

/-- The length of the bytes is a 64-bit number, as that of everything in memory is. -/
def Fits (bs : Bytes) : Prop := bs.length < UInt64.size

instance (bs : Bytes) : Decidable bs.Fits := inferInstanceAs (Decidable (_ < _))

theorem Fits.left {as bs : Bytes} (h : (as ++ bs).Fits) : as.Fits := by
  unfold Fits at *
  rw [List.length_append] at h
  omega

theorem Fits.right {as bs : Bytes} (h : (as ++ bs).Fits) : bs.Fits := by
  unfold Fits at *
  rw [List.length_append] at h
  omega

theorem text?_ofText (s : String) : text? (ofText s) = some s := by
  unfold text? String.fromUTF8?
  exact dif_pos s.isValidUTF8

end Bytes

namespace Protobuf

/-! ## Numbers -/

/-- The numbers below it are read from `room` bytes and a last one, which holds a single bit. -/
def varintBound : Nat → Nat
  | 0 => 2
  | room + 1 => 128 * varintBound room

theorem readVarintWithin_writeVarint {n room : Nat} (h : n < varintBound room) (rest : Bytes) :
    readVarintWithin (room + 1) (writeVarint n ++ rest) = some (n, rest) := by
  induction room generalizing n with
  | zero =>
    have hone : n < 2 := h
    have hbyte : (UInt8.ofNat n).toNat = n := by rw [UInt8.toNat_ofNat']; omega
    rw [writeVarint_of_lt (by omega), List.singleton_append, readVarintWithin,
      if_pos (by rw [UInt8.lt_iff_toNat_lt, hbyte]; exact Nat.lt_trans hone (by decide)),
      if_neg (by rw [UInt8.le_iff_toNat_le, hbyte]; simp; omega), hbyte]
  | succ room ih =>
    by_cases hn : n < 128
    · have hbyte : (UInt8.ofNat n).toNat = n := by rw [UInt8.toNat_ofNat']; omega
      rw [writeVarint_of_lt hn, List.singleton_append, readVarintWithin,
        if_pos (by rw [UInt8.lt_iff_toNat_lt, hbyte]; exact hn), if_neg (by simp), hbyte]
    · have hbyte : (UInt8.ofNat (n % 128 + 128)).toNat = n % 128 + 128 := by
        rw [UInt8.toNat_ofNat']
        omega
      have hdiv : n / 128 < varintBound room := by
        rw [varintBound] at h
        omega
      rw [writeVarint_of_not_lt hn, List.cons_append, readVarintWithin,
        if_neg (by rw [UInt8.lt_iff_toNat_lt, hbyte]; simp), ih hdiv, hbyte]
      simp only [Option.map_some, Option.some.injEq, Prod.mk.injEq, and_true]
      omega

theorem readVarint_writeVarint {n : Nat} (h : n < UInt64.size) (rest : Bytes) :
    readVarint (writeVarint n ++ rest) = some (n, rest) :=
  readVarintWithin_writeVarint h rest

theorem readBytes_write {bs : Bytes} (h : bs.Fits) (rest : Bytes) :
    readBytes (writeVarint bs.length ++ bs ++ rest) = some (bs, rest) := by
  rw [List.append_assoc, readBytes, readVarint_writeVarint h]
  simp [takeBytes]

/-- Field numbers of one byte, which all of ours are. -/
theorem readKey_writeKey {number code : Nat} {kind : WireKind} (hnumber : 1 ≤ number ∧ number < 16)
    (hkind : WireKind.ofCode? code = some kind) (hcode : code < 8) (rest : Bytes) :
    readKey (writeKey number code ++ rest) = some (number, kind, rest) := by
  have hsmall : 8 * number + code < UInt32.size := by simp only [UInt32.size]; omega
  have hmod : (8 * number + code) % 8 = code := by omega
  have hdiv : (8 * number + code) / 8 = number := by omega
  rw [readKey, writeKey, readVarint_writeVarint (Nat.lt_trans hsmall (by decide))]
  simp only [hmod, hdiv, hkind, Option.map_some]
  exact if_pos ⟨hsmall, by omega⟩

/-! ## Fields -/

/-- The fields that a number is written as. -/
def numberFields (k : Nat) (n : UInt64) : List Field := if n = 0 then [] else [⟨k, .varint n⟩]

/-- The fields that a text is written as. -/
def textFields (k : Nat) (s : String) : List Field :=
  if s.isEmpty then [] else [⟨k, .bytes (.ofText s)⟩]

/-- The fields that some texts are written as. -/
def textsFields (k : Nat) (ss : List String) : List Field := ss.map fun s => ⟨k, .bytes (.ofText s)⟩

/-- In front of any other fields, the bytes `bs` are the fields `fs`. -/
def Reads (bs : Bytes) (fs : List Field) : Prop :=
  ∀ room rest, readFields room (bs ++ rest) = (readFields room rest).map (fs ++ ·)

theorem readFields_cons {room number : Nat} {kind : WireKind} {value : WireValue} {bs rest rest' : Bytes}
    (hkey : readKey bs = some (number, kind, rest))
    (hvalue : readValue room number kind rest = some (value, rest')) :
    readFields room bs = (readFields room rest').map (⟨number, value⟩ :: ·) := by
  cases bs with
  | nil => simp [readKey, readVarint, readVarintWithin] at hkey
  | cons b bs =>
    rw [readFields]
    split
    · rename_i hnone
      rw [hkey] at hnone
      cases hnone
    · rename_i number' kind' rest₁ hkey'
      obtain ⟨rfl, rfl, rfl⟩ : number = number' ∧ kind = kind' ∧ rest = rest₁ := by
        simpa using hkey.symm.trans hkey'
      split
      · rename_i hnone
        rw [hvalue] at hnone
        cases hnone
      · rename_i value' rest₂ hvalue'
        obtain ⟨rfl, rfl⟩ : value = value' ∧ rest' = rest₂ := by simpa using hvalue.symm.trans hvalue'
        rfl

theorem Reads.nil : Reads [] [] := by
  intro room rest
  simp

theorem Reads.append {as bs : Bytes} {fs gs : List Field} (h : Reads as fs) (h' : Reads bs gs) :
    Reads (as ++ bs) (fs ++ gs) := by
  intro room rest
  rw [List.append_assoc, h, h', Option.map_map]
  simp [Function.comp_def]

theorem Reads.readFields {bs : Bytes} {fs : List Field} (h : Reads bs fs) (room : Nat) :
    readFields room bs = some fs := by
  have hall := h room []
  rw [List.append_nil] at hall
  rw [hall, Protobuf.readFields, Option.map_some, List.append_nil]

section
variable {number : Nat} (hnumber : 1 ≤ number ∧ number < 16)

include hnumber

theorem reads_writeBytes {bs : Bytes} (h : bs.Fits) :
    Reads (writeBytes number bs) [⟨number, .bytes bs⟩] := by
  intro room rest
  have hkey := readKey_writeKey hnumber (rfl : WireKind.ofCode? 2 = some .bytes) (by decide)
    (writeVarint bs.length ++ bs ++ rest)
  have hvalue : readValue room number .bytes (writeVarint bs.length ++ bs ++ rest) =
      some (.bytes bs, rest) := by
    rw [readValue, readBytes_write h, Option.map_some]
  have hbytes : writeBytes number bs ++ rest =
      writeKey number 2 ++ (writeVarint bs.length ++ bs ++ rest) := by
    simp only [writeBytes, List.append_assoc]
  rw [hbytes, readFields_cons hkey hvalue]
  rfl

theorem reads_writeNumber (n : UInt64) :
    Reads (writeNumber number n) (numberFields number n) := by
  unfold writeNumber numberFields
  split
  · exact .nil
  · intro room rest
    have hkey := readKey_writeKey hnumber (rfl : WireKind.ofCode? 0 = some .varint) (by decide)
      (writeVarint n.toNat ++ rest)
    have hvalue : readValue room number .varint (writeVarint n.toNat ++ rest) =
        some (.varint n, rest) := by
      rw [readValue, readVarint_writeVarint n.toNat_lt, Option.map_some, UInt64.ofNat_toNat]
    rw [List.append_assoc, readFields_cons hkey hvalue]
    rfl

theorem reads_writeText {s : String} (h : (writeText number s).Fits) :
    Reads (writeText number s) (textFields number s) := by
  unfold writeText textFields at *
  split at h
  · rename_i hs
    rw [if_pos hs, if_pos hs]
    exact .nil
  · rename_i hs
    rw [if_neg hs, if_neg hs]
    exact reads_writeBytes hnumber h.right

theorem reads_writeTexts {ss : List String} (h : (writeTexts number ss).Fits) :
    Reads (writeTexts number ss) (textsFields number ss) := by
  induction ss with
  | nil => exact .nil
  | cons s ss ih =>
    rw [writeTexts, List.flatMap_cons] at h ⊢
    exact (reads_writeBytes hnumber h.left.right).append (ih h.right)

end

/-! ## Values of fields -/

@[simp] theorem valuesOf_append (k : Nat) (fs gs : List Field) :
    valuesOf k (fs ++ gs) = valuesOf k fs ++ valuesOf k gs := by
  simp [valuesOf]

/-- Fields of other numbers do not count. -/
theorem valuesOf_of_ne {j k : Nat} (hjk : j ≠ k) {fs : List Field} (h : ∀ f ∈ fs, f.number = j) :
    valuesOf k fs = [] := by
  rw [valuesOf, List.filter_eq_nil_iff.2, List.map_nil]
  intro f hf
  rw [h f hf]
  simpa using hjk

section
variable {j k : Nat} {fs : List Field}

@[simp] theorem valuesOf_cons_of_ne (hjk : j ≠ k) (value : WireValue) :
    valuesOf k (⟨j, value⟩ :: fs) = valuesOf k fs := by
  simp [valuesOf, hjk]

@[simp] theorem valuesOf_cons_self (value : WireValue) :
    valuesOf k (⟨k, value⟩ :: fs) = value :: valuesOf k fs := by
  simp [valuesOf]

@[simp] theorem valuesOf_nil : valuesOf k [] = [] := rfl

@[simp] theorem valuesOf_numberFields_of_ne (hjk : j ≠ k) (n : UInt64) :
    valuesOf k (numberFields j n) = [] := by
  refine valuesOf_of_ne hjk fun f hf => ?_
  unfold numberFields at hf
  split at hf <;> simp_all

@[simp] theorem valuesOf_textFields_of_ne (hjk : j ≠ k) (s : String) : valuesOf k (textFields j s) = [] := by
  refine valuesOf_of_ne hjk fun f hf => ?_
  unfold textFields at hf
  split at hf <;> simp_all

@[simp] theorem valuesOf_textsFields_of_ne (hjk : j ≠ k) (ss : List String) :
    valuesOf k (textsFields j ss) = [] := by
  refine valuesOf_of_ne hjk fun f hf => ?_
  obtain ⟨s, -, rfl⟩ := List.mem_map.1 hf
  rfl

theorem numberField_eq {n : UInt64} (h : valuesOf k fs = valuesOf k (numberFields k n)) :
    numberField k fs = some n := by
  rw [numberField, h, numberFields]
  by_cases hn : n = 0 <;> simp [hn, valuesOf, WireValue.number?]

theorem textField_eq {s : String} (h : valuesOf k fs = valuesOf k (textFields k s)) :
    textField k fs = some s := by
  rw [textField, h, textFields]
  by_cases hs : s.isEmpty = true
  · rw [if_pos hs, String.isEmpty_iff.1 hs]
    rfl
  · rw [if_neg hs]
    simp [valuesOf, WireValue.text?, Bytes.text?_ofText]

theorem textsField_eq {l : List String} (h : valuesOf k fs = valuesOf k (textsFields k l)) :
    textsField k fs = some l := by
  have hvalues : valuesOf k fs = l.map fun s => .bytes (.ofText s) := by
    rw [h, valuesOf, textsFields, List.filter_eq_self.2 (by simp), List.map_map]
    rfl
  rw [textsField, hvalues, List.mapM_map]
  clear h hvalues
  induction l with
  | nil => rfl
  | cons s l ih => simp [WireValue.text?, Bytes.text?_ofText, List.mapM_cons, ih]

theorem messageField_eq {room : Nat} {bs : Bytes} {gs : List Field} (hreads : Reads bs gs)
    (h : valuesOf k fs = valuesOf k [⟨k, .bytes bs⟩]) : messageField room k fs = some (some gs) := by
  have hvalues : valuesOf k fs = [.bytes bs] := by
    rw [h]
    simp [valuesOf]
  simp [messageField, hvalues, WireValue.fields?, hreads.readFields]

end

end Protobuf

end ChannelLayer
