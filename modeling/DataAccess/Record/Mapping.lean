import DataAccess.Record.Coerce
import DataAccess.Value.Reading

-- Making records out of rows. A row fits a record type when it has one column for each field and
-- every column converts; the type's own constructor then takes the values out.
namespace DataAccess

structure MappedRow where
  fields : List Field
  values : Row
  deriving DecidableEq

namespace MappedRow

def fieldName (row : MappedRow) (index : Nat) : String :=
  (row.fields[index]?).elim "?" Field.name

def get (row : MappedRow) (index : Nat) (read : Value → Except Mismatch α) : Except Error α :=
  match row.values[index]? with
  | none => .error (.dataMapping (row.fieldName index) (.noColumnAt index))
  | some v => (read v).mapError (.dataMapping (row.fieldName index))

-- Takes the value at a position out of the row, and leaves NULL in its place.
def take (row : MappedRow) (index : Nat) (read : Value → Except Mismatch α) :
    Except Error (α × MappedRow) :=
  (row.get index read).map fun a => (a,{ row with values := row.values.set index .null })

end MappedRow

structure RecordType (ρ : Type) extends Shape where
  ofRow : MappedRow → Except Error ρ
  toValues : ρ → Row

namespace RecordType

def coerceAll : List Field → Row → Except Error Row
  | field :: fields,v :: values =>
    match field.coerce v with
    | .error e => .error e
    | .ok w =>
      match coerceAll fields values with
      | .error e => .error e
      | .ok ws => .ok (w :: ws)
  | _,_ => .ok []

def mapRow (type : RecordType ρ) (row : Row) : Except Error ρ :=
  if row.length ≠ type.fields.length then
    .error (.dataMapping type.model (.columnCount row.length type.fields.length))
  else
    match coerceAll type.fields row with
    | .error e => .error e
    | .ok values => type.ofRow ⟨type.fields,values⟩

def mapRows (type : RecordType ρ) : List Row → Except Error (List ρ)
  | [] => .ok []
  | row :: rows =>
    match type.mapRow row with
    | .error e => .error e
    | .ok record =>
      match type.mapRows rows with
      | .error e => .error e
      | .ok records => .ok (record :: records)

def asRows (type : RecordType ρ) : RecordType Row where
  toShape := type.toShape
  ofRow row := (type.ofRow row).map type.toValues
  toValues := id

end RecordType

end DataAccess
