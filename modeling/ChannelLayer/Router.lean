import ChannelLayer.App
import ChannelLayer.Error

/-!
# Routing

Every port is bound to an application by name. Two ports may name the same application, and a port may
name one that is not there.
-/

set_option autoImplicit false

namespace ChannelLayer

structure ModuleId where
  text : String
  deriving DecidableEq

structure Router where
  modules : Table ModuleId App := {}
  ports : Table PortId ModuleId := {}
  deriving DecidableEq

namespace Router

/-- The application that owns a port, with its name. -/
def find (r : Router) (port : PortId) : Except RouteError (ModuleId × App) :=
  match r.ports.get? port with
  | none => .error (.unknownPort port)
  | some id =>
    match r.modules.get? id with
    | none => .error .noModule
    | some app => .ok (id, app)

def bindPort (r : Router) (port : PortId) (id : ModuleId) : Router :=
  { r with ports := r.ports.insert port id }

def setModule (r : Router) (id : ModuleId) (app : App) : Router :=
  { r with modules := r.modules.insert id app }

/-- The router with one more application, which takes over the name and the port. -/
def add (r : Router) (port : PortId) (id : ModuleId) (app : App) : Router :=
  (r.bindPort port id).setModule id app

end Router

end ChannelLayer
