import DataAccess.Error
import DataAccess.Text.Blank

-- Names of tables and columns. They are the one thing from outside that stands in SQL text itself,
-- so a name is a sequence of parts joined by dots, and a part has only letters, digits and
-- underscores, no digit first, and at most sixty-three bytes.
namespace DataAccess

def startsName (c : Char) : Bool := c == '_' || c.isAlpha

def continuesName (c : Char) : Bool := c == '_' || c.isAlphanum

def nameFault? (name : String) : Option Fault :=
  match name.toList with
  | [] => some .emptyIdentifier
  | first :: rest =>
    if maxNameBytes < name.utf8ByteSize then some (.longIdentifier name)
    else if !startsName first then some (.identifierStart name)
    else
      match rest.find? fun c => !continuesName c with
      | some c => some (.identifierCharacter c name)
      | none => none

def IsName (name : String) : Prop := nameFault? name = none

instance (name : String) : Decidable (IsName name) := by unfold IsName; infer_instance

def checkName (name : String) : Except Error String :=
  match nameFault? name with
  | some fault => .error (.validation fault)
  | none => .ok name

structure Ident where
  parts : List String
  nonempty : parts ≠ []
  named : ∀ part ∈ parts, IsName part
  deriving DecidableEq

namespace Ident

-- Parts with nothing wrong, or the first fault of the first part that has one. A part that is
-- empty is a fault of the whole identifier.
def partFault? (whole : String) : List String → Option Fault
  | [] => none
  | part :: parts =>
    if part = "" then some (.emptySegment whole)
    else (nameFault? part).or (partFault? whole parts)

theorem partFault?_none {whole : String} {parts : List String}
    (passed : partFault? whole parts = none) : ∀ part ∈ parts, IsName part := by
  induction parts with
  | nil => simp
  | cons part parts ih =>
    simp only [partFault?] at passed
    split at passed
    · simp at passed
    · simp only [Option.or_eq_none_iff] at passed
      intro p hp
      rcases List.mem_cons.1 hp with rfl | hp
      · exact passed.1
      · exact ih passed.2 p hp

def segments (s : String) : List String :=
  (s.toList.splitOn '.').map String.ofList

theorem segments_ne_nil (s : String) : segments s ≠ [] := by
  simp [segments,List.splitOn_ne_nil]

def parse (s : String) : Except Error Ident :=
  if s = "" then .error (.validation .emptyIdentifier)
  else
    match found : partFault? s (segments s) with
    | some fault => .error (.validation fault)
    | none => .ok ⟨segments s,segments_ne_nil s,partFault?_none found⟩

def simple (s : String) : Except Error Ident :=
  match found : nameFault? s with
  | some fault => .error (.validation fault)
  | none => .ok ⟨[s],by simp,by simpa [IsName] using found⟩

def name (i : Ident) : String := i.parts.getLast i.nonempty

def isQualified (i : Ident) : Bool := 1 < i.parts.length

def schema? (i : Ident) : Option String := i.parts.dropLast.getLast?

def sql (i : Ident) : String := String.intercalate "." i.parts

instance : ToString Ident := ⟨sql⟩

-- The same text, written part by part behind what is there already.
def writeTo (i : Ident) (out : String) : String :=
  match i.parts with
  | [] => out
  | part :: parts => parts.foldl (fun out part => out ++ "." ++ part) (out ++ part)

theorem foldl_dotted (out first : String) (parts : List String) :
    parts.foldl (fun out part => out ++ "." ++ part) (out ++ first) =
      out ++ String.intercalate "." (first :: parts) := by
  induction parts generalizing out first with
  | nil => simp
  | cons part parts ih =>
    rw [List.foldl_cons,ih,String.intercalate_cons_cons]
    simp only [String.append_assoc]

theorem writeTo_sql (i : Ident) (out : String) : i.writeTo out = out ++ i.sql := by
  obtain ⟨parts,nonempty,named⟩ := i
  cases parts with
  | nil => exact absurd rfl nonempty
  | cons part parts => exact foldl_dotted out part parts

def parseAll : List String → Except Error (List Ident)
  | [] => .ok []
  | s :: rest =>
    match parse s with
    | .error e => .error e
    | .ok i =>
      match parseAll rest with
      | .error e => .error e
      | .ok is => .ok (i :: is)

end Ident

end DataAccess
