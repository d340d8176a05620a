import DataAccess.Duration

-- What can go wrong, by cause. Each kind of error has a type of its causes; the wording is in one
-- function for each type, and nothing else in the library looks at a wording.
namespace DataAccess

def maxNameBytes : Nat := 63

def maxParameters : Nat := 65535

inductive CellFault where
  | notInteger (cell : String)
  | notFinite (cell : String)
  | notDate (cell : String)
  deriving DecidableEq, Repr

inductive Fault where
  | emptyIdentifier
  | longIdentifier (name : String)
  | identifierStart (name : String)
  | identifierCharacter (c : Char) (name : String)
  | emptySegment (identifier : String)
  | unknownOperator (text : String)
  | listNeeded (operator column : String)
  | listRefused (operator column : String)
  | emptyList (operator column : String)
  | emptyProjection
  | nothingSet (table : String)
  | unconfirmedDelete (table : String)
  | rowLength (row values columns : Nat)
  | noColumns (table : String)
  | noRows (table : String)
  | tooManyParameters (table : String) (total : Nat)
  | unknownDate (text : String)
  | emptyQuery
  | zeroChunk
  | chunkTooLarge (chunk columns total : Nat)
  | headerName (raw : String) (cause : Fault)
  | duplicateHeader (name : String)
  | noHeader
  | identityClash (name table : String)
  | cell (line : Nat) (column : String) (cause : CellFault)
  | unopened (path reason : String)
  | noRecords (table : String)
  | given (message : String)
  deriving DecidableEq, Repr

inductive Mismatch where
  | expected (kind found : String)
  | outOfRange (n : Int) (width : String)
  | noColumnAt (index : Nat)
  | columnCount (columns fields : Nat)
  | unconvertible (kind text wanted : String)
  | unexpectedNull
  | countWithoutRow
  | otherCachedType
  | undecodable (index : Nat)
  | unsupportedType (type column : String)
  | given (message : String)
  deriving DecidableEq, Repr

inductive Misconfiguration where
  | unsetVariable (key : String)
  | invalidVariable (key raw : String)
  | emptySetting (name : String)
  | zeroPort
  | zeroPoolSize
  | zeroSample
  | unreadableAddress
  | given (message : String)
  deriving DecidableEq, Repr

inductive CsvFault where
  | unequalLengths (record line byte found expected : Nat)
  | invalidText (record line field byte index : Nat)
  | sourceFailed (reason : String)
  | readerStopped
  | given (message : String)
  deriving DecidableEq, Repr

inductive Error where
  | validation (fault : Fault)
  | query (message : String) (sqlstate : Option String)
  | connection (message : String)
  | poolExhausted (waited : Duration)
  | dataMapping (field : String) (mismatch : Mismatch)
  | configuration (cause : Misconfiguration)
  | csv (fault : CsvFault)
  deriving DecidableEq, Repr

def firstChars (n : Nat) (s : String) : String := String.ofList (s.toList.take n)

def validationLead : String := "Validation error: "

def CellFault.message : CellFault → String
  | .notInteger cell => s!"'{cell}' is not an integer"
  | .notFinite cell => s!"'{cell}' is not a finite number"
  | .notDate cell => s!"{validationLead}Unrecognized date format: '{cell}'"

def Fault.message : Fault → String
  | .emptyIdentifier => "Identifier cannot be empty"
  | .longIdentifier name =>
    s!"Identifier '{firstChars maxNameBytes name}…' exceeds {maxNameBytes} characters"
  | .identifierStart name =>
    s!"Invalid identifier '{name}': must start with a letter or underscore"
  | .identifierCharacter c name => s!"Invalid character '{c}' in identifier '{name}'"
  | .emptySegment identifier => s!"Empty identifier segment in '{identifier}'"
  | .unknownOperator text => s!"Invalid operator '{text}'"
  | .listNeeded operator column => s!"Operator {operator} on '{column}' requires a list of values"
  | .listRefused operator column => s!"Operator {operator} on '{column}' does not take a list"
  | .emptyList operator column => s!"{operator} on '{column}' requires at least one value"
  | .emptyProjection => "Empty column list"
  | .nothingSet table => s!"UPDATE {table} requires at least one SET column"
  | .unconfirmedDelete table =>
    s!"Refusing to DELETE FROM {table} without a WHERE clause; " ++
      "pass confirm_delete_all = true to delete every row"
  | .rowLength row values columns => s!"INSERT row {row} has {values} values for {columns} columns"
  | .noColumns table => s!"INSERT INTO {table} requires at least one column"
  | .noRows table => s!"INSERT INTO {table} requires at least one row"
  | .tooManyParameters table total =>
    s!"INSERT INTO {table} binds {total} parameters; the limit is {maxParameters}"
  | .unknownDate text => s!"Unrecognized date format: '{text}'"
  | .emptyQuery => "fetch requires a non-empty SQL query"
  | .zeroChunk => "chunk_size must be greater than 0"
  | .chunkTooLarge chunk columns total =>
    s!"chunk_size {chunk} x {columns} columns binds {total} parameters; " ++
      s!"the limit is {maxParameters}"
  | .headerName raw cause =>
    s!"CSV header '{raw}' is not a valid column name: {validationLead}" ++ cause.message
  | .duplicateHeader name => s!"Duplicate CSV column '{name}' after normalization"
  | .noHeader => "CSV source has no header row"
  | .identityClash name table =>
    s!"CSV column '{name}' clashes with the auto-increment key of {table}"
  | .cell line column cause => s!"CSV line {line}, column {column}: " ++ cause.message
  | .unopened path reason => s!"cannot open CSV file {path}: {reason}"
  | .noRecords table => s!"no records to insert into {table}"
  | .given message => message

def Mismatch.message : Mismatch → String
  | .expected kind found => s!"expected {kind}, got {found}"
  | .outOfRange n width => s!"integer {n} out of range for {width}"
  | .noColumnAt index => s!"no column at position {index}"
  | .columnCount columns fields =>
    s!"row has {columns} columns but the record declares {fields} fields"
  | .unconvertible kind text wanted => s!"cannot convert {kind} value '{text}' to {wanted}"
  | .unexpectedNull => "unexpected NULL in non-nullable field"
  | .countWithoutRow => "COUNT(*) returned no rows"
  | .otherCachedType => "cached result has a different type than requested"
  | .undecodable index => s!"error deserializing column {index}"
  | .unsupportedType type column => s!"unsupported column type {type} for column '{column}'"
  | .given message => message

def Misconfiguration.message : Misconfiguration → String
  | .unsetVariable key => s!"environment variable {key} is not set"
  | .invalidVariable key raw => s!"{key} has an invalid value '{raw}'"
  | .emptySetting name => s!"{name} must not be empty"
  | .zeroPort => "port must not be 0"
  | .zeroPoolSize => "pool_size must be greater than 0"
  | .zeroSample => "sample_size must be greater than 0"
  | .unreadableAddress => "invalid connection string"
  | .given message => message

def CsvFault.message : CsvFault → String
  | .unequalLengths record line byte found expected =>
    s!"CSV error: record {record} (line: {line}, byte: {byte}): found record with {found} " ++
      s!"fields, but the previous record has {expected} fields"
  | .invalidText record line field byte index =>
    s!"CSV parse error: record {record} (line {line}, field: {field}, byte: {byte}): " ++
      s!"invalid utf-8: invalid UTF-8 in field {field} near byte index {index}"
  | .sourceFailed reason => reason
  | .readerStopped => "CSV reader stopped"
  | .given message => message

def Error.message : Error → String
  | .validation fault => validationLead ++ fault.message
  | .query message _ => "Query error: " ++ message
  | .connection message => "Connection error: " ++ message
  | .poolExhausted waited => "Connection pool exhausted after waiting " ++ waited.text
  | .dataMapping field mismatch =>
    s!"Data mapping error on field '{field}': " ++ mismatch.message
  | .configuration cause => "Configuration error: " ++ cause.message
  | .csv fault => "CSV error: " ++ fault.message

def Error.sqlstate : Error → Option String
  | .query _ sqlstate => sqlstate
  | _ => none

def Error.isValidation : Error → Bool
  | .validation _ => true
  | _ => false

def Error.isQuery : Error → Bool
  | .query _ _ => true
  | _ => false

def Error.isConnection : Error → Bool
  | .connection _ | .poolExhausted _ => true
  | _ => false

def Error.isPoolExhausted : Error → Bool
  | .poolExhausted _ => true
  | _ => false

def Error.isDataMapping : Error → Bool
  | .dataMapping _ _ => true
  | _ => false

def Error.isConfiguration : Error → Bool
  | .configuration _ => true
  | _ => false

-- The error as a fault of a builder: a fault as it is, anything else by its message.
def Error.asFault : Error → Fault
  | .validation fault => fault
  | other => .given other.message

inductive PoolFailure where
  | timedOut
  | closed
  | backend (error : Error)
  deriving DecidableEq, Repr

def PoolFailure.toError : PoolFailure → Error
  | .timedOut => .poolExhausted ⟨0⟩
  | .closed => .connection "Pool has been closed"
  | .backend error => error

end DataAccess
