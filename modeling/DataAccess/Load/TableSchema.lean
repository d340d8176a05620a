import DataAccess.Load.ColumnType
import DataAccess.Statement

-- The columns of a load: their names, made from the header, and their types, which a sample of the
-- records widens and an existing table may fix. With them come the statements that prepare the
-- table.
namespace DataAccess.Load

def headerName (raw : String) : String :=
  String.ofList (Text.lowercase ((Text.trim raw.toList).map fun c => if c = ' ' then '_' else c))

def normalizeHeader (raw : String) : Except Error String :=
  match nameFault? (headerName raw) with
  | some fault => .error (.validation (.headerName raw fault))
  | none => .ok (headerName raw)

structure TableSchema where
  columns : List (String × ColumnType)
  deriving DecidableEq, Repr

namespace TableSchema

def columnNames (schema : TableSchema) : List String := schema.columns.map (·.1)

def namesAfter (seen : List String) : List String → Except Error (List String)
  | [] => .ok []
  | raw :: raws =>
    match normalizeHeader raw with
    | .error e => .error e
    | .ok name =>
      if name ∈ seen then .error (.validation (.duplicateHeader name))
      else
        match namesAfter (seen ++ [name]) raws with
        | .error e => .error e
        | .ok names => .ok (name :: names)

def ofHeaders (headers : List String) : Except Error TableSchema :=
  match namesAfter [] headers with
  | .error e => .error e
  | .ok [] => .error (.validation .noHeader)
  | .ok names => .ok ⟨names.map fun name => (name,.unknown)⟩

-- The type of a column after one more cell; a blank cell says nothing.
def widenBy (type : ColumnType) (cell : String) : ColumnType :=
  if Text.isAllBlank cell then type else type.widen (.ofCell cell)

def observeCells : List (String × ColumnType) → List String → List (String × ColumnType)
  | (name,type) :: columns,cell :: cells =>
    (name,widenBy type cell) :: observeCells columns cells
  | columns,_ => columns

def observe (schema : TableSchema) (record : List String) : TableSchema :=
  ⟨observeCells schema.columns record⟩

def observeAll (schema : TableSchema) (records : List (List String)) : TableSchema :=
  records.foldl observe schema

def columnType? (schema : TableSchema) (name : String) : Option ColumnType :=
  schema.columns.lookup name

def setType (name : String) (type : ColumnType) :
    List (String × ColumnType) → List (String × ColumnType)
  | [] => []
  | (n,old) :: rest =>
    if n = name then (n,type) :: rest else (n,old) :: setType name type rest

-- Takes over the types that a table declares for its columns, those that cells can be converted
-- to.
def adopt (schema : TableSchema) (declared : List (String × String)) : TableSchema :=
  declared.foldl
    (fun schema (name,dataType) =>
      match ColumnType.ofDataType? dataType with
      | some type => ⟨setType name type schema.columns⟩
      | none => schema)
    schema

def valuesOf (line : Nat) : List (String × ColumnType) → List String → Except Error Row
  | (name,type) :: columns,cell :: cells =>
    match type.toValue cell with
    | .error fault => .error (.validation (.cell line name fault))
    | .ok v =>
      match valuesOf line columns cells with
      | .error e => .error e
      | .ok vs => .ok (v :: vs)
  | _,_ => .ok []

def values (schema : TableSchema) (record : List String) (line : Nat) : Except Error Row :=
  valuesOf line schema.columns record

def keyName (table : Ident) : String := table.name ++ "_id"

-- The name of the key column, which must be a name and none of the other columns'.
def identityColumn (schema : TableSchema) (table : Ident) : Except Error String :=
  match nameFault? (keyName table) with
  | some fault => .error (.validation fault)
  | none =>
    if (schema.columnType? (keyName table)).isSome then
      .error (.validation (.identityClash (keyName table) table.sql))
    else .ok (keyName table)

def pushColumn (s : Statement) (column : String × ColumnType) : Statement :=
  ((s.push column.1).push " ").push column.2.sqlType

def pushColumns (s : Statement) : List (String × ColumnType) → Statement
  | [] => s
  | column :: columns =>
    columns.foldl (fun s column => pushColumn (s.push ", ") column) (pushColumn s column)

def createTable (schema : TableSchema) (table : Ident) (withKey : Bool) : Statement :=
  let s := ((Statement.ofText "CREATE TABLE IF NOT EXISTS ").pushIdent table).push " ("
  let s :=
    if withKey then
      (s.push (keyName table)).push " BIGINT GENERATED BY DEFAULT AS IDENTITY PRIMARY KEY, "
    else s
  (pushColumns s schema.columns).push ")"

end TableSchema

def dropTable (table : Ident) : Statement :=
  (Statement.ofText "DROP TABLE IF EXISTS ").pushIdent table

def pushSchema (s : Statement) (table : Ident) : Statement :=
  match table.schema? with
  | some schema => s.bind (.text schema)
  | none => s.push "current_schema()"

def tableExists (table : Ident) : Statement :=
  let s := pushSchema (Statement.ofText
    "SELECT EXISTS (SELECT 1 FROM information_schema.tables WHERE table_schema = ") table
  ((s.push " AND table_name = ").bind (.text table.name)).push ")"

def tableColumns (table : Ident) : Statement :=
  let s := pushSchema (Statement.ofText
    ("SELECT column_name::text, data_type::text FROM information_schema.columns " ++
      "WHERE table_schema = ")) table
  ((s.push " AND table_name = ").bind (.text table.name)).push " ORDER BY ordinal_position"

end DataAccess.Load
