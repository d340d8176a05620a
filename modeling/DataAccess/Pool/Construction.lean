import DataAccess.Pool.Address
import DataAccess.Pool.Settings
import DataAccess.Session.Event

-- Pools made of settings or of an address. Making a pool opens no connection.
namespace DataAccess

structure Pool where
  parameters : List Pool.Parameter
  size : UInt64
  wait : Duration
  deriving DecidableEq, Repr

namespace Pool
open Text

def Settings.parameters (s : Settings) : List Parameter :=
  [⟨"host",utf8 s.host⟩,⟨"port",utf8 (toString s.port.toNat)⟩,⟨"user",utf8 s.user⟩,
    ⟨"dbname",utf8 s.database⟩,⟨"application_name",utf8 s.name⟩]
    ++ s.password.toList.map fun password => ⟨"password",utf8 password⟩

def ofSettings (s : Settings) : Except Error (Pool × Event) := do
  s.validate
  return (⟨s.parameters,s.size,s.wait⟩,.poolCreated s.name s.host s.database s.size.toNat)

def ofAddress (address : String) : Except Error Pool :=
  match readAddress? address with
  | some parameters => .ok ⟨parameters,standardSize,standardWait⟩
  | none => .error (.configuration .unreadableAddress)

end Pool

end DataAccess
