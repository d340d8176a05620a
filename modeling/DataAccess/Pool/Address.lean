import DataAccess.Number.Integer
import DataAccess.Text.Blank
import DataAccess.Text.Utf8

-- Addresses of databases. An address is a list of parameters, `key=value` between blanks, or a URL;
-- either way it gives parameters by name, and a parameter that is not known, or has a value that it
-- cannot have, makes the whole address unreadable.
namespace DataAccess.Pool
open Text

structure Parameter where
  key : String
  value : Bytes
  deriving DecidableEq, Repr

def commaParts (value : String) : List (List Char) := value.toList.splitOn ','

def isHexDigit (c : Char) : Bool :=
  c.isDigit || ('a' ≤ c && c ≤ 'f') || ('A' ≤ c && c ≤ 'F')

def isOctet (s : List Char) : Bool :=
  s.length ≤ 3 && (s.head? != some '0' || s.length == 1)
    && ((Number.digits? s).map fun n => decide (n < 256)).getD false

def isIpv4 (s : List Char) : Bool :=
  let parts := s.splitOn '.'
  parts.length == 4 && parts.all isOctet

def isHextet (s : List Char) : Bool := !s.isEmpty && s.length ≤ 4 && s.all isHexDigit

-- How many groups of sixteen bits a text between colons has; its last may be an IPv4 address,
-- which stands for two, if `tail` says so.
def groupCount? (tail : Bool) (s : List Char) : Option Nat :=
  if s.isEmpty then some 0
  else
    let groups := s.splitOn ':'
    match groups.reverse with
    | last :: before =>
      if !before.all isHextet then none
      else if isHextet last then some groups.length
      else if tail && isIpv4 last then some (groups.length + 1)
      else none
    | [] => none

def doubleColon? : List Char → Option (List Char × List Char)
  | ':' :: ':' :: rest => some ([],rest)
  | c :: rest => (doubleColon? rest).map fun (before,after) => (c :: before,after)
  | [] => none

-- Eight groups of sixteen bits, or fewer around two colons that stand for the rest.
def isIpv6 (s : List Char) : Bool :=
  match doubleColon? s with
  | none => groupCount? true s == some 8
  | some (before,after) =>
    match groupCount? false before,groupCount? true after with
    | some m,some n => m + n < 8
    | _,_ => false

def admits (key value : String) : Bool :=
  match key with
  | "user" | "password" | "dbname" | "options" | "application_name" | "host" => true
  | "sslmode" | "channel_binding" => ["disable","prefer","require"].contains value
  | "sslnegotiation" => ["postgres","direct"].contains value
  | "hostaddr" => (commaParts value).all fun part => isIpv4 part || isIpv6 part
  | "port" =>
    (commaParts value).all fun part => part.isEmpty || (Number.readBelow? UInt16.size part).isSome
  | "connect_timeout" | "tcp_user_timeout" | "keepalives_idle" | "keepalives_interval" =>
    (Number.readInt64? value.toList).isSome
  | "keepalives" => (Number.readBelow? UInt64.size value.toList).isSome
  | "keepalives_retries" => (Number.readBelow? UInt32.size value.toList).isSome
  | "target_session_attrs" => ["any","read-write","read-only"].contains value
  | "load_balance_hosts" => ["disable","random"].contains value
  | _ => false

def parameter? (key value : String) : Option Parameter :=
  if admits key value then some ⟨key,utf8 value⟩ else none

def plainValue : List Char → List Char × List Char
  | [] => ([],[])
  | '\\' :: c :: rest => let (value,after) := plainValue rest; (c :: value,after)
  | c :: rest =>
    if isBlank c then ([],c :: rest)
    else if c = '\\' then ([],[])
    else let (value,after) := plainValue rest; (c :: value,after)

def enclosedValue? : List Char → Option (List Char × List Char)
  | [] => none
  | '\\' :: c :: rest => (enclosedValue? rest).map fun (value,after) => (c :: value,after)
  | c :: rest =>
    if c = '\'' then some ([],rest)
    else (enclosedValue? rest).map fun (value,after) => (c :: value,after)

def value? : List Char → Option (List Char × List Char)
  | '\'' :: rest => enclosedValue? rest
  | s => if (plainValue s).1.isEmpty then none else some (plainValue s)

def inKey (c : Char) : Bool := !isBlank c && c != '='

-- Each parameter takes one character at least. Where no key follows, the list ends.
def parametersFrom? : Nat → List Char → Option (List Parameter)
  | 0,_ => some []
  | fuel + 1,s =>
    let (key,rest) := (trimStart s).span inKey
    if key.isEmpty then some []
    else
      match trimStart rest with
      | '=' :: rest => do
        let (value,rest) ← value? (trimStart rest)
        let first ← parameter? (String.ofList key) (String.ofList value)
        return first :: (← parametersFrom? fuel rest)
      | _ => none

def cut? (stops : Char → Bool) (s : List Char) : Option (List Char × List Char) :=
  let (before,rest) := s.span fun c => !stops c
  if rest.isEmpty then none else some (before,rest)

def cut (stops : Char → Bool) (s : List Char) : List Char × List Char :=
  s.span fun c => !stops c

def hexByte? (b : UInt8) : Option UInt8 :=
  if 0x30 ≤ b && b ≤ 0x39 then some (b - 0x30)
  else if 0x41 ≤ b && b ≤ 0x46 then some (b - 0x37)
  else if 0x61 ≤ b && b ≤ 0x66 then some (b - 0x57)
  else none

def percentDecoded : Bytes → Bytes
  | a :: b :: c :: rest =>
    match a == 0x25,hexByte? b,hexByte? c with
    | true,some high,some low => (16 * high + low) :: percentDecoded rest
    | _,_,_ => a :: percentDecoded (b :: c :: rest)
  | bytes => bytes

def decodedBytes (s : List Char) : Bytes := percentDecoded (utf8 (String.ofList s))

def decodedText? (s : List Char) : Option String := ofUtf8? (decodedBytes s)

def hostParameter? (s : List Char) : Option Parameter :=
  let bytes := decodedBytes s
  if bytes.head? = some 0x2F ∨ (ofUtf8? bytes).isSome then some ⟨"host",bytes⟩ else none

def textParameter? (key : String) (s : List Char) : Option Parameter := do
  parameter? key (← decodedText? s)

def credentials? (s : List Char) : Option (List Parameter × List Char) :=
  match cut? (· == '@') s with
  | none => some ([],s)
  | some (credentials,rest) => do
    let (user,password) := cut (· == ':') credentials
    let user ← textParameter? "user" user
    let password := if password.isEmpty then [] else [⟨"password",decodedBytes password.tail⟩]
    return (user :: password,rest.tail)

def hostAndPort? (s : List Char) : Option (List Char × List Char) :=
  match s with
  | '[' :: rest =>
    match cut? (· == ']') rest with
    | some (host,[_]) => some (host,"5432".toList)
    | some (host,_ :: ':' :: port) => some (host,port)
    | _ => none
  | _ =>
    match cut (· == ':') s with
    | (host,_ :: port) => some (host,port)
    | (host,[]) => some (host,"5432".toList)

def hostParameters? (s : List Char) : Option (List Parameter) := do
  let (host,port) ← hostAndPort? s
  return [← hostParameter? host,← textParameter? "port" port]

def hosts? (s : List Char) : Option (List Parameter × List Char) :=
  let (hosts,rest) := cut (fun c => c == '/' || c == '?') s
  if hosts.isEmpty then some ([],rest)
  else ((hosts.splitOn ',').mapM hostParameters?).map fun each => (each.flatten,rest)

def database? : List Char → Option (List Parameter × List Char)
  | '/' :: rest =>
    let (name,rest) := cut (· == '?') rest
    if name.isEmpty then some ([],rest)
    else (textParameter? "dbname" name).map fun p => ([p],rest)
  | s => some ([],s)

-- The parameters of a URL after its question mark. Each takes one character at least.
def queryFrom? : Nat → List Char → Option (List Parameter)
  | 0,_ => some []
  | fuel + 1,s =>
    if s.isEmpty then some []
    else do
      let (key,rest) ← cut? (· == '=') s
      let key ← decodedText? key
      let (value,rest) := cut (· == '&') rest.tail
      let first ← if key = "host" then hostParameter? value else textParameter? key value
      return first :: (← queryFrom? fuel rest.tail)

def query? : List Char → Option (List Parameter)
  | '?' :: rest => queryFrom? rest.length rest
  | _ => some []

def url? (s : List Char) : Option (List Parameter) := do
  let (credentials,s) ← credentials? s
  let (hosts,s) ← hosts? s
  let (database,s) ← database? s
  return credentials ++ hosts ++ database ++ (← query? s)

def afterScheme? (s : List Char) : Option (List Char) :=
  ["postgres://".toList,"postgresql://".toList].findSome? fun scheme =>
    if scheme.isPrefixOf s then some (s.drop scheme.length) else none

def readAddress? (s : String) : Option (List Parameter) :=
  match afterScheme? s.toList with
  | some rest => url? rest
  | none => parametersFrom? (s.length + 1) s.toList

end DataAccess.Pool
