import ChannelLayer.Protobuf.Varint

/-!
# Fields on the wire

A message is a run of fields, each a number with a value of one of five kinds. A group is a run of fields
between a start and an end marker of the same number; no message here has one, so its content is only
skipped. Messages and groups may nest up to a limit.
-/

set_option autoImplicit false

namespace ChannelLayer.Protobuf

inductive WireKind where
  | varint
  | fixed64
  | bytes
  | groupStart
  | groupEnd
  | fixed32
  deriving DecidableEq

def WireKind.ofCode? : Nat → Option WireKind
  | 0 => some .varint
  | 1 => some .fixed64
  | 2 => some .bytes
  | 3 => some .groupStart
  | 4 => some .groupEnd
  | 5 => some .fixed32
  | _ => none

inductive WireValue where
  | varint (n : UInt64)
  | bytes (bs : Bytes)
  | fixed
  | group
  deriving DecidableEq

structure Field where
  number : Nat
  value : WireValue
  deriving DecidableEq

/-- How deep messages and groups may nest. -/
def nestingLimit : Nat := 100

/-! ## Reading -/

/-- The number and kind of the next field. Field numbers start at one and fit 29 bits. -/
def readKey (bs : Bytes) : Option (Nat × WireKind × Bytes) :=
  match readVarint bs with
  | none => none
  | some (key, rest) =>
    if key < UInt32.size ∧ 8 ≤ key then (WireKind.ofCode? (key % 8)).map fun kind => (key / 8, kind, rest)
    else none

def takeBytes (n : Nat) (bs : Bytes) : Option (Bytes × Bytes) :=
  if n ≤ bs.length then some (bs.take n, bs.drop n) else none

/-- Bytes with their number in front. -/
def readBytes (bs : Bytes) : Option (Bytes × Bytes) :=
  match readVarint bs with
  | none => none
  | some (n, rest) => takeBytes n rest

/-- What follows a value of a kind that is no group. -/
def skipScalar (kind : WireKind) (bs : Bytes) : Option Bytes :=
  match kind with
  | .varint => (readVarint bs).map Prod.snd
  | .fixed64 => (takeBytes 8 bs).map Prod.snd
  | .fixed32 => (takeBytes 4 bs).map Prod.snd
  | .bytes => (readBytes bs).map Prod.snd
  | .groupStart | .groupEnd => none

theorem length_of_readKey {bs rest : Bytes} {number : Nat} {kind : WireKind}
    (h : readKey bs = some (number, kind, rest)) : rest.length < bs.length := by
  rw [readKey] at h
  split at h
  · cases h
  · next hv =>
    split at h
    · obtain ⟨k, -, he⟩ := Option.map_eq_some_iff.1 h
      simp only [Prod.mk.injEq] at he
      obtain ⟨-, -, rfl⟩ := he
      exact length_of_readVarint hv
    · cases h

theorem length_of_takeBytes {n : Nat} {bs front rest : Bytes}
    (h : takeBytes n bs = some (front, rest)) : rest.length ≤ bs.length := by
  rw [takeBytes] at h
  split at h
  · simp only [Option.some.injEq, Prod.mk.injEq] at h
    obtain ⟨-, rfl⟩ := h
    simp
  · cases h

theorem length_of_readBytes {bs front rest : Bytes} (h : readBytes bs = some (front, rest)) :
    rest.length ≤ bs.length := by
  rw [readBytes] at h
  split at h
  · cases h
  · next hv => exact Nat.le_trans (length_of_takeBytes h) (Nat.le_of_lt (length_of_readVarint hv))

theorem length_of_skipScalar {kind : WireKind} {bs rest : Bytes}
    (h : skipScalar kind bs = some rest) : rest.length ≤ bs.length := by
  cases kind <;> simp only [skipScalar, Option.map_eq_some_iff, reduceCtorEq] at h
  · obtain ⟨⟨n, r⟩, hr, rfl⟩ := h; exact Nat.le_of_lt (length_of_readVarint hr)
  · obtain ⟨⟨n, r⟩, hr, rfl⟩ := h; exact length_of_takeBytes hr
  · obtain ⟨⟨n, r⟩, hr, rfl⟩ := h; exact length_of_readBytes hr
  · obtain ⟨⟨n, r⟩, hr, rfl⟩ := h; exact length_of_takeBytes hr

/-- What follows the end of the groups in `opened`, the innermost first. A field inside them needs more
`room` for nesting than there are open groups. -/
def skipGroups (room : Nat) (opened : List Nat) (bs : Bytes) : Option Bytes :=
  match opened with
  | [] => some bs
  | number :: outer =>
    match h : readKey bs with
    | none => none
    | some (inner, kind, rest) =>
      have := length_of_readKey h
      match kind with
      | .groupEnd => if inner = number then skipGroups room outer rest else none
      | .groupStart =>
        if outer.length + 1 < room then skipGroups room (inner :: number :: outer) rest else none
      | kind =>
        if outer.length + 1 < room then
          match h' : skipScalar kind rest with
          | none => none
          | some rest' =>
            have := length_of_skipScalar h'
            skipGroups room (number :: outer) rest'
        else none
termination_by bs.length

theorem length_of_skipGroups {room : Nat} {opened : List Nat} {bs rest : Bytes}
    (h : skipGroups room opened bs = some rest) : rest.length ≤ bs.length := by
  fun_induction skipGroups room opened bs with
  | case1 => cases h; exact Nat.le_refl _
  | case3 _ _ _ _ _ _ hlt ih => exact Nat.le_trans (ih h) (Nat.le_of_lt hlt)
  | case5 _ _ _ _ _ _ _ _ hlt ih => exact Nat.le_trans (ih h) (Nat.le_of_lt hlt)
  | case8 _ _ _ _ _ _ _ _ _ _ _ _ hle _ hlt ih =>
    exact Nat.le_trans (ih h) (Nat.le_trans hle (Nat.le_of_lt hlt))
  | _ => cases h

/-- The value of a field of the given number and kind, and what follows it. -/
def readValue (room number : Nat) (kind : WireKind) (bs : Bytes) : Option (WireValue × Bytes) :=
  match kind with
  | .varint => (readVarint bs).map fun r => (.varint (UInt64.ofNat r.1), r.2)
  | .bytes => (readBytes bs).map fun r => (.bytes r.1, r.2)
  | .fixed64 => (takeBytes 8 bs).map fun r => (.fixed, r.2)
  | .fixed32 => (takeBytes 4 bs).map fun r => (.fixed, r.2)
  | .groupStart => (skipGroups room [number] bs).map fun rest => (.group, rest)
  | .groupEnd => none

theorem length_of_readValue {room number : Nat} {kind : WireKind} {bs rest : Bytes}
    {value : WireValue} (h : readValue room number kind bs = some (value, rest)) :
    rest.length ≤ bs.length := by
  cases kind <;> simp only [readValue, Option.map_eq_some_iff, reduceCtorEq, Prod.mk.injEq] at h
  · obtain ⟨⟨n, r⟩, hr, -, rfl⟩ := h; exact Nat.le_of_lt (length_of_readVarint hr)
  · obtain ⟨⟨n, r⟩, hr, -, rfl⟩ := h; exact length_of_takeBytes hr
  · obtain ⟨⟨n, r⟩, hr, -, rfl⟩ := h; exact length_of_readBytes hr
  · obtain ⟨r, hr, -, rfl⟩ := h; exact length_of_skipGroups hr
  · obtain ⟨⟨n, r⟩, hr, -, rfl⟩ := h; exact length_of_takeBytes hr

/-- The fields of a message inside which `room` more levels may nest. -/
def readFields (room : Nat) (bs : Bytes) : Option (List Field) :=
  match bs with
  | [] => some []
  | b :: bs =>
    match h : readKey (b :: bs) with
    | none => none
    | some (number, kind, rest) =>
      have := length_of_readKey h
      match h' : readValue room number kind rest with
      | none => none
      | some (value, rest') =>
        have := length_of_readValue h'
        (readFields room rest').map (⟨number, value⟩ :: ·)
termination_by bs.length
decreasing_by simp only [List.length_cons] at *; omega

/-! ## Field values

A field that occurs more than once takes its last value if it is a number or a text, all of them if it
is repeated, and the fields of all of them if it is a message. -/

def valuesOf (number : Nat) (fields : List Field) : List WireValue :=
  (fields.filter (·.number = number)).map Field.value

def WireValue.number? : WireValue → Option UInt64
  | .varint n => some n
  | _ => none

def WireValue.text? : WireValue → Option String
  | .bytes bs => bs.text?
  | _ => none

def WireValue.fields? (room : Nat) : WireValue → Option (List Field)
  | .bytes bs => readFields room bs
  | _ => none

def numberField (number : Nat) (fields : List Field) : Option UInt64 := do
  return ((← (valuesOf number fields).mapM WireValue.number?).getLast?).getD 0

def textField (number : Nat) (fields : List Field) : Option String := do
  return ((← (valuesOf number fields).mapM WireValue.text?).getLast?).getD ""

def textsField (number : Nat) (fields : List Field) : Option (List String) :=
  (valuesOf number fields).mapM WireValue.text?

/-- The fields of an embedded message, or `none` inside if it does not occur. -/
def messageField (room number : Nat) (fields : List Field) : Option (Option (List Field)) := do
  match valuesOf number fields with
  | [] => return none
  | values => return some (← values.mapM (WireValue.fields? room)).flatten

/-! ## Writing

Numbers and texts that have their default, zero or empty, are left out. -/

def writeKey (number : Nat) (code : Nat) : Bytes := writeVarint (8 * number + code)

def writeBytes (number : Nat) (bs : Bytes) : Bytes :=
  writeKey number 2 ++ writeVarint bs.length ++ bs

def writeNumber (number : Nat) (n : UInt64) : Bytes :=
  if n = 0 then [] else writeKey number 0 ++ writeVarint n.toNat

def writeText (number : Nat) (s : String) : Bytes :=
  if s.isEmpty then [] else writeBytes number (.ofText s)

def writeTexts (number : Nat) (ss : List String) : Bytes :=
  ss.flatMap fun s => writeBytes number (.ofText s)

end ChannelLayer.Protobuf
