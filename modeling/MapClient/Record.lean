/-!
# Records

The map holds servers and dimensions. A record is submitted to the endpoint of
its kind as a list of named values, which are sent as they are: nothing is
checked or changed here.
-/

set_option autoImplicit false

namespace MapClient

inductive Collection where
  | servers
  | dimensions
  deriving DecidableEq, Repr

def Collection.path : Collection → String
  | .servers => "/api/servers"
  | .dimensions => "/api/dims"

inductive Record where
  | server (name ip : String)
  | dimension (name label owner : String)
  deriving DecidableEq, Repr

namespace Record

def collection : Record → Collection
  | .server .. => .servers
  | .dimension .. => .dimensions

def path (r : Record) : String := r.collection.path

def fields : Record → List (String × String)
  | .server name ip => [("name", name), ("ip", ip)]
  | .dimension name label owner => [("name", name), ("alias", label), ("server", owner)]

end Record

end MapClient
