import DataAccess.Clause

-- What a caller asks of a WHERE clause, before it is known to be a clause. The first thing that a
-- caller asks wrongly is remembered by every builder, and is what the builder fails with from then
-- on.
namespace DataAccess.Query

inductive Condition where
  | compare (column : String) (op : Operator) (v : Value)
  | among (column : String) (op : Operator) (vs : List Value)
  | compareBy (column operator : String) (v : Value)
  | amongBy (column operator : String) (vs : List Value)
  | given (clause : Except Error Clause)

namespace Condition

def comparison (column : String) (op : Operator) (v : Value) : Except Error Clause :=
  (Ident.parse column).bind fun column => Clause.compare column op v

def membership (column : String) (op : Operator) (vs : List Value) : Except Error Clause :=
  (Ident.parse column).bind fun column => Clause.list column op vs

-- The clause that a condition asks for. An operator is read before the column.
def clause : Condition → Except Error Clause
  | compare column op v => comparison column op v
  | among column op vs => membership column op vs
  | compareBy column operator v =>
    (Operator.parse operator).bind fun op => comparison column op v
  | amongBy column operator vs =>
    (Operator.parse operator).bind fun op => membership column op vs
  | given clause => clause

end Condition

abbrev Rejection := Option Fault

-- Adds an error to those so far: the first one stays.
def Rejection.add (rejected : Rejection) (e : Error) : Rejection :=
  rejected.or (some e.asFault)

def Rejection.check : Rejection → Except Error Unit
  | some fault => .error (.validation fault)
  | none => .ok ()

end DataAccess.Query
