import ChannelLayer.Text.Calendar

/-!
# Timestamps

Points in time, counted in nanoseconds since 1970. Chains report them as block times, and packets and
upgrades carry them as deadlines.
-/

set_option autoImplicit false

namespace ChannelLayer

structure Timestamp where
  nanos : UInt64
  deriving DecidableEq

inductive TimestampError where
  | number (e : NumberError)
  | dateOutOfRange
  | overflow
  deriving DecidableEq

namespace TimestampError

def message : TimestampError → String
  | .number e => "parsing u64 integer from string error: `" ++ e.message ++ "`"
  | .dateOutOfRange => "date out of range"
  | .overflow => "timestamp overflow when modifying with duration"

/-- The messages of the errors behind this one, nearest first. -/
def causes : TimestampError → List String
  | .number e => [e.message]
  | .dateOutOfRange | .overflow => []

end TimestampError

namespace Timestamp

instance : LT Timestamp := ⟨fun a b => a.nanos < b.nanos⟩
instance : LE Timestamp := ⟨fun a b => a.nanos ≤ b.nanos⟩
instance (a b : Timestamp) : Decidable (a < b) := inferInstanceAs (Decidable (a.nanos < b.nanos))
instance (a b : Timestamp) : Decidable (a ≤ b) := inferInstanceAs (Decidable (a.nanos ≤ b.nanos))

/-- The timestamp `nanos` nanoseconds after 1970, if it is still representable. -/
def ofNat? (nanos : Nat) : Option Timestamp :=
  if nanos < UInt64.size then some ⟨UInt64.ofNat nanos⟩ else none

/-- Whole seconds and a fraction below one second. -/
def ofUnix (seconds : UInt64) (nanos : UInt32) : Except TimestampError Timestamp :=
  if nanos.toNat > 999999999 then .error .dateOutOfRange
  else
    match ofNat? (seconds.toNat * 1000000000 + nanos.toNat) with
    | some t => .ok t
    | none => .error .overflow

def ofText (s : String) : Except TimestampError Timestamp :=
  match Number.ofText s with
  | .ok n => .ok ⟨n⟩
  | .error e => .error (.number e)

/-- The moment `duration` nanoseconds later. -/
def add (t : Timestamp) (duration : Nat) : Except TimestampError Timestamp :=
  match ofNat? (t.nanos.toNat + duration) with
  | some t => .ok t
  | none => .error .overflow

/-- As `add`, but stopping at the last representable moment. -/
def advance (t : Timestamp) (duration : UInt64) : Timestamp :=
  match ofNat? (t.nanos.toNat + duration.toNat) with
  | some t => t
  | none => ⟨UInt64.ofNat (UInt64.size - 1)⟩

/-- The nanoseconds from `earlier` to `t`, unless `earlier` is the later one. -/
def since? (t earlier : Timestamp) : Option Nat :=
  if earlier ≤ t then some (t.nanos.toNat - earlier.nanos.toNat) else none

def text (t : Timestamp) : String := "Timestamp(" ++ Calendar.text t.nanos.toNat ++ ")"

end Timestamp

end ChannelLayer
