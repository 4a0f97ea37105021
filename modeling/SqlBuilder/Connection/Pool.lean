import SqlBuilder.Connection.Settings

/-!
# Opening connections and pools

Which connection texts can be read, where a server answers and which pools can be built is known to the libraries for
clients and pools. They are not part of this one and stand here as a parameter.

* `Connector` : what connecting uses of these libraries.
* `openConnection` : a single connection.
* `Pool.build` : a pool of connections, which are opened later.
-/

namespace SqlBuilder

set_option autoImplicit false

structure PoolSettings where
  maxSize : Nat := ConnectSettings.defaultPoolSize
  /-- How long a caller waits for a connection. -/
  waitLimit : Option Duration := none
  /-- Whether something measures time for the pool. -/
  timed : Bool := false
deriving DecidableEq

/-- What connecting uses of the libraries for clients and pools. -/
structure Connector where
  /-- Why a connection text cannot be read. -/
  unread? : String → Option ServerFault
  /-- Why no connection is opened with a connection text that can be read. -/
  unopened? : String → Option ServerFault
  /-- Why no pool is built with some settings. -/
  unbuilt? : PoolSettings → Option PoolFault

variable (connector : Connector)

/-- Opens a connection. A text that cannot be read is a fault of connecting too. -/
def openConnection (settings : ConnectSettings) : Except StatementError Unit :=
  match (connector.unread? settings.url).or (connector.unopened? settings.url) with
  | some fault => .error (.connection fault)
  | none => .ok ()

structure Pool where
  maxSize : Nat
deriving DecidableEq

namespace Pool

/-- Sets up a pool. The connection text is checked first. -/
def build (url : String) (settings : PoolSettings) : Except StatementError Pool :=
  match connector.unread? url with
  | some fault => .error (.connection fault)
  | none =>
    match connector.unbuilt? settings with
    | some fault => .error (.pool fault)
    | none => .ok ⟨settings.maxSize⟩

/-- Sets up a pool with the size in the settings. -/
def ofSettings (settings : ConnectSettings) : Except StatementError Pool :=
  build connector settings.url { maxSize := settings.poolSize }

end Pool

end SqlBuilder
