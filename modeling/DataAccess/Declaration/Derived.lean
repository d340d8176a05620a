import DataAccess.Declaration.Attribute
import DataAccess.Declaration.TypeExpr
import DataAccess.Text.Snake

-- Record types out of declarations. The names of the model and the table are those of the declared
-- type unless an attribute gives others; a column has the name of its field in the same way.
namespace DataAccess.Declaration

inductive Form where
  | struct
  | tuple
  | unit
  | enumeration
  | union
  deriving DecidableEq, Repr

structure FieldDeclaration where
  name : String
  type : String
  attributes : List Attribute
  deriving DecidableEq, Repr

structure TypeDeclaration where
  form : Form
  name : String
  fields : List FieldDeclaration
  attributes : List Attribute
  deriving DecidableEq, Repr

structure Derived where
  name : String
  model : String
  table : String
  members : List Member
  deriving DecidableEq, Repr

def FieldDeclaration.member (field : FieldDeclaration) : Except DeclarationFault Member :=
  match settingsOf ["column"] field.attributes with
  | .error fault => .error fault
  | .ok settings =>
    match fieldStorage? field.type with
    | none => .error .unsupportedType
    | some (storage,nullable) =>
      let name := nameOf field.name
      .ok ⟨name,(settings.get? "column").getD name,storage,nullable⟩

def members : List FieldDeclaration → Except DeclarationFault (List Member)
  | [] => .ok []
  | field :: fields =>
    match field.member with
    | .error fault => .error fault
    | .ok m =>
      match members fields with
      | .error fault => .error fault
      | .ok ms => .ok (m :: ms)

def TypeDeclaration.derive (d : TypeDeclaration) : Except DeclarationFault Derived :=
  match d.form with
  | .enumeration | .union => .error .notAStruct
  | .tuple | .unit => .error .unnamedFields
  | .struct =>
    if d.fields.isEmpty then .error .noFields
    else
      match settingsOf ["table","model"] d.attributes with
      | .error fault => .error fault
      | .ok settings =>
        match members d.fields with
        | .error fault => .error fault
        | .ok members =>
          let name := nameOf d.name
          .ok ⟨name,(settings.get? "model").getD name,
            (settings.get? "table").getD (Text.snakeCase name),members⟩

def Derived.recordType (d : Derived) : RecordType (Instance d.members) :=
  .ofMembers d.name d.model d.table d.members

end DataAccess.Declaration
