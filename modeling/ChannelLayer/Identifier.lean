import ChannelLayer.Text.Blank
import ChannelLayer.Text.Number

/-!
# Identifiers

Clients, connections, ports and channels are named by texts made of ASCII letters, digits and a few
signs, within a window of lengths for each kind. Connections and channels are named after a counter of
their chain: `connection-3`, `channel-0`. Names arrive in messages unchecked, so the types hold any
text and the `ofText` functions hold the rules.
-/

set_option autoImplicit false

namespace ChannelLayer

inductive IdentifierError where
  | length (id : String) (min max : Nat)
  | character (id : String)
  | notNumbered (id name : String)
  | sequence (value : String) (cause : NumberError)
  deriving DecidableEq

def IdentifierError.message : IdentifierError → String
  | .length id min max =>
    "id `" ++ id ++ "` has invalid length; must be between [`" ++ Nat.repr min ++ "`,`"
      ++ Nat.repr max ++ "`]"
  | .character id =>
    "id `" ++ id ++ "` can only contain alphanumeric characters or `.`, `_`, `+`, `-`, `#`, `[`, `]`, `<`, `>`"
  | .notNumbered id name => "id `" ++ id ++ "` is not of the form `" ++ name ++ "-<counter>`"
  | .sequence value cause =>
    "failed to parse `" ++ value ++ "` as a sequence: `" ++ cause.message ++ "`"

namespace Identifier

def isAllowed (c : Char) : Bool :=
  c.isAlphanum || ['.', '_', '+', '-', '#', '[', ']', '<', '>'].contains c

def checkCharacters (id : String) : Except IdentifierError Unit :=
  if id.toList.all isAllowed then .ok () else .error (.character id)

/-- Lengths are counted in bytes, and the empty text is never long enough. -/
def checkLength (id : String) (min max : Nat) : Except IdentifierError Unit :=
  let atLeast := Nat.max min 1
  if atLeast ≤ id.utf8ByteSize ∧ id.utf8ByteSize ≤ max then .ok () else .error (.length id atLeast max)

/-- What follows `name-` in `id`. -/
def counterText? (name id : String) : Option (List Char) :=
  (name.toList ++ ['-']).isPrefixOf? id.toList

/-- The counter that `id` carries behind `name-`. -/
def counter? (name id : String) : Option UInt64 := do
  (Number.read (← counterText? name id)).toOption

def hasLeadingZero : List Char → Bool
  | '0' :: _ :: _ => true
  | _ => false

/-- `id` is `name-n`, where `n` reads as a 64-bit number and is not a zero followed by more. -/
def checkNumbered (id name : String) : Except IdentifierError Unit :=
  match counterText? name id with
  | none => .error (.notNumbered id name)
  | some digits =>
    if hasLeadingZero digits then .error (.notNumbered id name)
    else
      match Number.read digits with
      | .ok _ => .ok ()
      | .error _ => .error (.notNumbered id name)

def numbered (name : String) (n : UInt64) : String := name ++ "-" ++ decimal n

def checkClient (id : String) : Except IdentifierError Unit := do
  checkCharacters id
  checkLength id 9 64

def checkConnection (id : String) : Except IdentifierError Unit := do
  checkCharacters id
  checkLength id 10 64
  checkNumbered id "connection"

def checkPort (id : String) : Except IdentifierError Unit := do
  checkCharacters id
  checkLength id 2 128

def checkChannel (id : String) : Except IdentifierError Unit := do
  checkCharacters id
  checkLength id 8 64
  checkNumbered id "channel"

end Identifier

structure ClientId where
  text : String
  deriving DecidableEq

structure ConnectionId where
  text : String
  deriving DecidableEq

structure PortId where
  text : String
  deriving DecidableEq

structure ChannelId where
  text : String
  deriving DecidableEq

def ClientId.ofText (s : String) : Except IdentifierError ClientId := do
  Identifier.checkClient s
  return ⟨s⟩

/-- The `n`th client of a kind, such as `07-mock-0`. -/
def ClientId.numbered (kind : String) (n : UInt64) : Except IdentifierError ClientId :=
  ClientId.ofText (Identifier.numbered kind n)

def ConnectionId.ofText (s : String) : Except IdentifierError ConnectionId := do
  Identifier.checkConnection s
  return ⟨s⟩

def ConnectionId.numbered (n : UInt64) : ConnectionId := ⟨Identifier.numbered "connection" n⟩

def PortId.ofText (s : String) : Except IdentifierError PortId := do
  Identifier.checkPort s
  return ⟨s⟩

def ChannelId.ofText (s : String) : Except IdentifierError ChannelId := do
  Identifier.checkChannel s
  return ⟨s⟩

def ChannelId.numbered (n : UInt64) : ChannelId := ⟨Identifier.numbered "channel" n⟩

/-- The counter a channel was named after, if its name has that form. -/
def ChannelId.counter? (c : ChannelId) : Option UInt64 := Identifier.counter? "channel" c.text

/-- One channel end of a chain: the port it is bound to and its channel identifier. -/
structure EndId where
  port : PortId
  channel : ChannelId
  deriving DecidableEq

/-- The version text two applications agree on for a channel. -/
structure Version where
  text : String
  deriving DecidableEq

/-- The account that signed a message. -/
structure Signer where
  text : String
  deriving DecidableEq

/-- Nothing but white space. -/
def Signer.isEmpty (s : Signer) : Bool := isBlankText s.text

/-- A handle that the owner of a channel end has to show to send from it. -/
structure Capability where
  index : UInt64
  deriving DecidableEq

def Capability.text (c : Capability) : String := "capability#" ++ decimal c.index

end ChannelLayer
