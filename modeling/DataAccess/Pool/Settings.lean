import DataAccess.Error
import DataAccess.Number.Integer
import DataAccess.Text.Blank
import DataAccess.Text.Quoted

-- The settings of a connection pool, and where they come from: named variables, or the data of a
-- document. Host, user and database have to be given; all else has a standard.
namespace DataAccess.Pool

structure Settings where
  host : String
  port : UInt16
  user : String
  password : Option String
  database : String
  size : UInt64
  wait : Duration
  name : String
  deriving DecidableEq, Repr

def standardSize : UInt64 := 10

def standardWait : Duration := .ofSeconds 30

namespace Settings

def standard (host user database : String) : Settings :=
  ⟨host,5432,user,none,database,standardSize,standardWait,"lazyorm"⟩

def blankSetting? (named : List (String × String)) : Option String :=
  (named.find? fun (_,text) => Text.isAllBlank text).map Prod.fst

def fault? (s : Settings) : Option Misconfiguration :=
  match blankSetting? [("host",s.host),("user",s.user),("database",s.database)] with
  | some name => some (.emptySetting name)
  | none =>
    if s.port = 0 then some .zeroPort else if s.size = 0 then some .zeroPoolSize else none

def validate (s : Settings) : Except Error Unit :=
  match s.fault? with
  | some fault => .error (.configuration fault)
  | none => .ok ()

def required (lookup : String → Option String) (key : String) : Except Error String :=
  match lookup key with
  | some raw => .ok raw
  | none => .error (.configuration (.unsetVariable key))

-- The whole number below a bound in a variable, blanks around it left out, or else what stands
-- for it while the variable is not set.
def numberBelow (bound : Nat) (lookup : String → Option String) (key : String)
    (otherwise : Nat) : Except Error Nat :=
  match lookup key with
  | none => .ok otherwise
  | some raw =>
    match Number.readBelow? bound (Text.trim raw.toList) with
    | some n => .ok n
    | none => .error (.configuration (.invalidVariable key raw))

def ofVariables (lookup : String → Option String) : Except Error Settings := do
  let host ← required lookup "LAZYORM_DB_HOST"
  let user ← required lookup "LAZYORM_DB_USER"
  let database ← required lookup "LAZYORM_DB_NAME"
  let d := standard host user database
  let port ← numberBelow UInt16.size lookup "LAZYORM_DB_PORT" d.port.toNat
  let size ← numberBelow UInt64.size lookup "LAZYORM_DB_POOL_SIZE" d.size.toNat
  let seconds ← numberBelow UInt64.size lookup "LAZYORM_DB_ACQUIRE_TIMEOUT_SECS" d.wait.seconds
  let s : Settings := { d with
    port := UInt16.ofNat port
    password := lookup "LAZYORM_DB_PASSWORD"
    size := UInt64.ofNat size
    wait := .ofSeconds seconds
    name := (lookup "LAZYORM_DB_POOL_NAME").getD d.name }
  s.validate
  return s

inductive Datum where
  | nothing
  | number (n : Nat)
  | text (s : String)
  | other
  deriving DecidableEq, Repr

def Datum.text? : Datum → Option String
  | text s => some s
  | _ => none

def Datum.optionalText? : Datum → Option (Option String)
  | nothing => some none
  | text s => some (some s)
  | _ => none

def Datum.below? (bound : Nat) : Datum → Option Nat
  | number n => if n < bound then some n else none
  | _ => none

def entryOr (entries : List (String × Datum)) (key : String) (otherwise : α)
    (read : Datum → Option α) : Option α :=
  match entries.lookup key with
  | some datum => read datum
  | none => some otherwise

def ofEntries? (entries : List (String × Datum)) : Option Settings := do
  let host ← (← entries.lookup "host").text?
  let user ← (← entries.lookup "user").text?
  let database ← (← entries.lookup "database").text?
  let d := standard host user database
  let port ← entryOr entries "port" d.port.toNat (Datum.below? UInt16.size)
  let password ← entryOr entries "password" none Datum.optionalText?
  let size ← entryOr entries "pool_size" d.size.toNat (Datum.below? UInt64.size)
  let seconds ← entryOr entries "acquire_timeout" d.wait.seconds (Datum.below? UInt64.size)
  let name ← entryOr entries "pool_name" d.name Datum.text?
  return ⟨host,UInt16.ofNat port,user,password,database,UInt64.ofNat size,
    .ofSeconds seconds,name⟩

def keys : List String :=
  ["host","port","user","password","database","pool_size","acquire_timeout","pool_name"]

-- Settings out of a list of values, of which the last may be left out.
def ofList? (values : List Datum) : Option Settings :=
  if keys.length < values.length then none else ofEntries? (keys.zip values)

-- The settings as text. Of a password it only tells that there is one.
def describe (s : Settings) : String :=
  let password := if s.password.isSome then "Some(" ++ Text.quoted "***" ++ ")" else "None"
  let parts := [("host",Text.quoted s.host),("port",toString s.port.toNat),
    ("user",Text.quoted s.user),("password",password),("database",Text.quoted s.database),
    ("pool_size",toString s.size.toNat),("acquire_timeout",s.wait.text),
    ("pool_name",Text.quoted s.name)]
  "PoolConfig \x7b " ++ String.intercalate ", " (parts.map fun (key,text) => key ++ ": " ++ text)
    ++ " \x7d"

end Settings

end DataAccess.Pool
