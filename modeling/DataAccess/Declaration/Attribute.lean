import DataAccess.Declaration.Token

-- Attributes of declarations: a path with settings in brackets, each a key that is given a string.
-- Only attributes with the path `orm` are read; a setting that comes later replaces an earlier one.
namespace DataAccess.Declaration

inductive DeclarationFault where
  | notAStruct
  | unnamedFields
  | noFields
  | unreadable
  | valueMissing
  | notAString
  | stringMissing
  | commaMissing
  | settingMissing
  | keyMissing
  | literalKey
  | partMissing
  | notAPart
  | unknownKey (known : List String)
  | unsupportedType
  deriving DecidableEq, Repr

namespace DeclarationFault

def ticked (s : String) : String := "\x60" ++ s ++ "\x60"

def message : DeclarationFault → String
  | notAStruct => "Record can only be derived for structs"
  | unnamedFields => "Record can only be derived for structs with named fields"
  | noFields => "Record needs at least one field"
  | unreadable => "cannot parse string into token stream"
  | valueMissing => "expected " ++ ticked "="
  | notAString => "expected string literal"
  | stringMissing => "unexpected end of input, expected string literal"
  | commaMissing => "expected " ++ ticked ","
  | settingMissing => "unexpected end of input, expected nested attribute"
  | keyMissing => "unexpected token in nested attribute, expected ident"
  | literalKey => "unexpected literal in nested attribute, expected ident"
  | partMissing => "unexpected end of input, expected ident"
  | notAPart => "expected ident"
  | unknownKey known => "expected " ++ String.intercalate " or " (known.map ticked)
  | unsupportedType =>
    "unsupported Record field type; use bool, i16, i32, i64, f32, f64, String, " ++
      "NaiveDate, NaiveDateTime or an Option of one of them"

end DeclarationFault

structure Attribute where
  path : String
  items : List (String × Option String)
  deriving DecidableEq, Repr

def Attribute.source (a : Attribute) : String :=
  String.intercalate ", " <| a.items.map fun (key,value) =>
    match value with
    | some source => key ++ " = " ++ source
    | none => key

abbrev Settings := List (String × String)

def Settings.get? (settings : Settings) (key : String) : Option String :=
  (settings.reverse.lookup key)

def furtherParts : List Token → Except DeclarationFault (List String × List Token)
  | [.mark ':' true,.mark ':' _] => .error .partMissing
  | .mark ':' true :: .mark ':' _ :: .word part :: rest =>
    match furtherParts rest with
    | .error fault => .error fault
    | .ok (parts,rest) => .ok (part :: parts,rest)
  | .mark ':' true :: .mark ':' _ :: _ => .error .notAPart
  | rest => .ok ([],rest)

def pathParts : List Token → Except DeclarationFault (List String × List Token)
  | .word part :: rest =>
    match furtherParts rest with
    | .error fault => .error fault
    | .ok (parts,rest) => .ok (part :: parts,rest)
  | [] => .error .settingMissing
  | .literal :: _ | .string _ :: _ | .number :: _ | .mark '-' _ :: .number :: _ =>
    .error .literalKey
  | _ => .error .keyMissing

def settingKey (known : List String) (tokens : List Token) :
    Except DeclarationFault (String × List Token) :=
  let (rooted,tokens) := match tokens with
    | .mark ':' true :: .mark ':' _ :: rest => (true,rest)
    | _ => (false,tokens)
  match pathParts tokens with
  | .error fault => .error fault
  | .ok ([key],rest) =>
    if !rooted && known.contains key then .ok (key,rest) else .error (.unknownKey known)
  | .ok _ => .error (.unknownKey known)

-- Each setting takes one token at least.
def readSettings (known : List String) : Nat → Settings → List Token →
    Except DeclarationFault Settings
  | 0,settings,_ | _,settings,[] => .ok settings
  | fuel + 1,settings,tokens =>
    match settingKey known tokens with
    | .error fault => .error fault
    | .ok (key,.mark '=' _ :: .string value :: rest) =>
      let settings := settings ++ [(key,value)]
      match rest with
      | [] => .ok settings
      | .mark ',' _ :: rest => readSettings known fuel settings rest
      | _ => .error .commaMissing
    | .ok (_,[.mark '=' _]) => .error .stringMissing
    | .ok (_,.mark '=' _ :: _) => .error .notAString
    | .ok _ => .error .valueMissing

def Attribute.isOurs (a : Attribute) : Bool :=
  match tokens? a.path with
  | some [.word "orm"] => true
  | _ => false

def settingsAfter (known : List String) (settings : Settings) :
    List Attribute → Except DeclarationFault Settings
  | [] => .ok settings
  | a :: rest =>
    if !a.isOurs then settingsAfter known settings rest
    else
      match tokens? a.source with
      | none => .error .unreadable
      | some tokens =>
        match readSettings known (tokens.length + 1) settings tokens with
        | .error fault => .error fault
        | .ok settings => settingsAfter known settings rest

def settingsOf (known : List String) (attributes : List Attribute) :
    Except DeclarationFault Settings :=
  settingsAfter known [] attributes

end DataAccess.Declaration
