import ChannelLayer.Bytes

/-!
# JSON values

Messages, events and what chains store have a JSON form for tools that watch or drive a chain. Numbers
are integers; an absent member counts as null. A type says how it is written with `ToJson` and how it
is read with `OfJson`.
-/

set_option autoImplicit false

namespace ChannelLayer

inductive Json where
  | null
  | bool (b : Bool)
  | number (n : Int)
  | string (s : String)
  | array (items : List Json)
  | object (members : List (String × Json))
  deriving Inhabited

class ToJson (α : Type) where
  toJson : α → Json

class OfJson (α : Type) where
  ofJson? : Json → Option α

export ToJson (toJson)

export OfJson (ofJson?)

namespace Json

def member : Json → String → Json
  | .object members, key => (members.lookup key).getD .null
  | _, _ => .null

/-- Reads the member named `key`. -/
def get? {α : Type} [OfJson α] (j : Json) (key : String) : Option α := ofJson? (j.member key)

/-- Reads the member named `key`, which counts as `default` where it is absent. -/
def getOr? {α : Type} [OfJson α] (j : Json) (key : String) (default : α) : Option α :=
  match j.member key with
  | .null => some default
  | value => ofJson? value

/-- Puts a member in place of those with its name. -/
def setMember : Json → String → Json → Json
  | .object members, key, value => .object ((key, value) :: members.filter fun m => m.1 != key)
  | j, _, _ => j

/-- The name and the value of the only member. -/
def variant? : Json → Option (String × Json)
  | .object [m] => some m
  | _ => none

/-- Reads one of the values in `all` by its name. -/
def ofName? {α : Type} (all : List α) (name : α → String) : Json → Option α
  | .string s => all.find? fun a => name a = s
  | _ => none

end Json

/-! ## Basic forms -/

instance : ToJson Json := ⟨id⟩

instance : OfJson Json := ⟨some⟩

instance : ToJson Unit := ⟨fun _ => .null⟩

instance : ToJson Bool := ⟨.bool⟩

instance : OfJson Bool where
  ofJson?
    | .bool b => some b
    | _ => none

instance : ToJson Int := ⟨.number⟩

instance : OfJson Int where
  ofJson?
    | .number n => some n
    | _ => none

instance : ToJson Nat := ⟨fun n => .number n⟩

instance : OfJson Nat where
  ofJson?
    | .number (.ofNat n) => some n
    | _ => none

instance : ToJson UInt8 := ⟨fun n => toJson n.toNat⟩

instance : OfJson UInt8 where
  ofJson? j := do
    let n : Nat ← ofJson? j
    if n < UInt8.size then some (UInt8.ofNat n) else none

instance : ToJson UInt64 := ⟨fun n => toJson n.toNat⟩

instance : OfJson UInt64 where
  ofJson? j := do
    let n : Nat ← ofJson? j
    if n < UInt64.size then some (UInt64.ofNat n) else none

instance : ToJson String := ⟨.string⟩

instance : OfJson String where
  ofJson?
    | .string s => some s
    | _ => none

instance {α : Type} [ToJson α] : ToJson (Option α) where
  toJson
    | some a => toJson a
    | none => .null

instance {α : Type} [OfJson α] : OfJson (Option α) where
  ofJson?
    | .null => some none
    | j => some <$> ofJson? j

instance {α : Type} [ToJson α] : ToJson (List α) := ⟨fun l => .array (l.map toJson)⟩

instance {α : Type} [OfJson α] : OfJson (List α) where
  ofJson?
    | .array items => items.mapM ofJson?
    | _ => none

instance {α β : Type} [ToJson α] [ToJson β] : ToJson (α × β) :=
  ⟨fun p => .array [toJson p.1, toJson p.2]⟩

instance {α β : Type} [OfJson α] [OfJson β] : OfJson (α × β) where
  ofJson?
    | .array [a, b] => return (← ofJson? a, ← ofJson? b)
    | _ => none

end ChannelLayer
