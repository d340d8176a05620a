import DataAccess.Operator
import DataAccess.Statement

-- Comparisons of a column with values, and the WHERE text that joins them.
namespace DataAccess

inductive Operand where
  | single (v : Value)
  | list (vs : List Value)
  deriving DecidableEq

structure Clause where
  column : Ident
  op : Operator
  operand : Operand
  deriving DecidableEq

namespace Clause

def compare (column : Ident) (op : Operator) (v : Value) : Except Error Clause :=
  if op.takesList then .error (.validation (.listNeeded op.sql column.sql))
  else .ok ⟨column,op,.single v⟩

def list (column : Ident) (op : Operator) (vs : List Value) : Except Error Clause :=
  if !op.takesList then .error (.validation (.listRefused op.sql column.sql))
  else if vs.isEmpty then .error (.validation (.emptyList op.sql column.sql))
  else .ok ⟨column,op,.list vs⟩

def paramCount (c : Clause) : Nat :=
  match c.operand with
  | .single _ => 1
  | .list vs => vs.length

def appendTo (c : Clause) (s : Statement) : Statement :=
  let s := (((s.pushIdent c.column).push " ").push c.op.sql)
  match c.operand with
  | .single v => (s.push " ").bind v
  | .list vs => ((s.push " (").bindList vs).push ")"

end Clause

def Statement.pushWhere (s : Statement) : List Clause → Statement
  | [] => s
  | c :: cs => cs.foldl (fun s c => c.appendTo (s.push " AND ")) (c.appendTo (s.push " WHERE "))

end DataAccess
