import ChannelLayer.Acknowledgement
import ChannelLayer.Text.JsonString

/-!
# Reading an acknowledgement status

A status is a JSON object with exactly one member, named `result` or `error`, whose value is a string.
-/

set_option autoImplicit false

namespace ChannelLayer.AckStatus

def ofKey? (key value : List Char) : Option AckStatus :=
  if key = "result".toList then some (.success (String.ofList value))
  else if key = "error".toList then some (.failure (String.ofList value))
  else none

/-- Reads a whole text. -/
def read? (cs : List Char) : Option AckStatus := do
  let cs ← Json.expect '\x7b' cs
  let (key, cs) ← Json.readStringToken cs
  let cs ← Json.expect ':' cs
  let (value, cs) ← Json.readStringToken cs
  let cs ← Json.expect '\x7d' cs
  if (Json.skipSpace cs).isEmpty then ofKey? key value else none

def ofJson? (s : String) : Option AckStatus := read? s.toList

end ChannelLayer.AckStatus
