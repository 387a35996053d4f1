import ChannelLayer.Text.Number

/-!
# Heights

A height is a revision, which a chain bumps when it restarts its numbering, and a block number within
it. Heights order by revision first. Block number zero is not a height a chain can be at, though a
message can still name it.
-/

set_option autoImplicit false

namespace ChannelLayer

structure Height where
  revision : UInt64
  block : UInt64
  deriving DecidableEq

inductive HeightError where
  | zero
  | notPositive
  | unreadable (text : String)
  deriving DecidableEq

def HeightError.message : HeightError → String
  | .zero => "invalid height; cannot be zero or negative"
  | .notPositive => "height cannot end up zero or negative"
  | .unreadable text => "invalid height string `" ++ text ++ "`"

namespace Height

instance : LT Height :=
  ⟨fun a b => a.revision < b.revision ∨ a.revision = b.revision ∧ a.block < b.block⟩
instance : LE Height :=
  ⟨fun a b => a.revision < b.revision ∨ a.revision = b.revision ∧ a.block ≤ b.block⟩
instance (a b : Height) : Decidable (a < b) :=
  inferInstanceAs (Decidable (a.revision < b.revision ∨ a.revision = b.revision ∧ a.block < b.block))
instance (a b : Height) : Decidable (a ≤ b) :=
  inferInstanceAs (Decidable (a.revision < b.revision ∨ a.revision = b.revision ∧ a.block ≤ b.block))

/-- The height at the given revision and block, which must not be block zero. -/
def mk? (revision block : UInt64) : Except HeightError Height :=
  if block = 0 then .error .zero else .ok ⟨revision, block⟩

/-- The first height of a revision. -/
def first (revision : UInt64) : Height := ⟨revision, 1⟩

/-- `delta` blocks later, stopping at the last block number. -/
def add (h : Height) (delta : UInt64) : Height :=
  { h with block := if h.block.toNat + delta.toNat < UInt64.size then h.block + delta
                    else UInt64.ofNat (UInt64.size - 1) }

def next (h : Height) : Height := h.add 1

/-- `delta` blocks earlier. -/
def sub (h : Height) (delta : UInt64) : Except HeightError Height :=
  if h.block ≤ delta then .error .notPositive else .ok { h with block := h.block - delta }

def text (h : Height) : String := decimal h.revision ++ "-" ++ decimal h.block

/-- The labelled form used when a packet is shown field by field. -/
def labelled (h : Height) : String :=
  "Height \x7b revision: " ++ decimal h.revision ++ ", height: " ++ decimal h.block ++ " \x7d"

/-- Reads `revision-block`; the first dash separates the two. -/
def ofText (s : String) : Except HeightError Height :=
  match s.toList.span (· != '-') with
  | (revision, _ :: block) =>
    match Number.read revision, Number.read block with
    | .ok r, .ok b => mk? r b
    | _, _ => .error (.unreadable s)
  | (_, []) => .error (.unreadable s)

end Height

end ChannelLayer
