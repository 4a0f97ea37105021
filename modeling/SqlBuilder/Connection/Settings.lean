import SqlBuilder.Decimal.Bounded
import SqlBuilder.Error
import SqlBuilder.Text.Blank

/-!
# Connection settings

Where the database is and how large a pool of connections may grow, read from the environment. The
connection text is kept as it is, but must not be blank; the size may have blank characters around it.
-/

namespace SqlBuilder

set_option autoImplicit false

structure ConnectSettings where
  url : String
  poolSize : Nat
deriving DecidableEq

namespace ConnectSettings

/-- The size of a pool that was not given one. -/
def defaultPoolSize : Nat := 16

def greatestPoolSize : Nat := 18446744073709551615

def ofUrl (url : String) : ConnectSettings := ⟨url, defaultPoolSize⟩

def readPoolSize (text : String) : Option Nat :=
  (Decimal.readBounded greatestPoolSize (Text.trim text)).filter (· ≠ 0)

/-- The connection text, unless it is missing or blank. -/
def usableUrl (url : Option String) : Option String := url.filter fun text => !Text.allBlank text

/-- The settings in the values of the two environment variables. The connection text is checked first. -/
def ofVariables (url poolSize : Option String) : Except SettingsFault ConnectSettings :=
  match usableUrl url with
  | none => .error .missingUrl
  | some address =>
    match poolSize with
    | none => .ok (ofUrl address)
    | some text =>
      match readPoolSize text with
      | none => .error .poolSize
      | some size => .ok ⟨address, size⟩

/-- The settings in an environment. -/
def ofEnvironment (lookup : String → Option String) : Except StatementError ConnectSettings :=
  (ofVariables (lookup urlVariable) (lookup poolSizeVariable)).mapError .settings

end ConnectSettings

end SqlBuilder
