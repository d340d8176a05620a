import DataAccess.Statement

-- The assignments of an UPDATE: one value for each column, in the order in which the columns were
-- first set.
namespace DataAccess

abbrev Assignments := List (Ident × Value)

namespace Assignments

-- Gives a column its value: in its old place if it was set before, else at the end.
def set (column : Ident) (v : Value) : Assignments → Assignments
  | [] => [(column,v)]
  | (c,old) :: rest =>
    if c = column then (c,v) :: rest else (c,old) :: set column v rest

def appendTo (s : Statement) : Assignments → Statement
  | [] => s
  | (c,v) :: rest =>
    rest.foldl (fun s (c,v) => ((s.push ", ").pushIdent c |>.push " = ").bind v)
      (((s.push " SET ").pushIdent c |>.push " = ").bind v)

end Assignments

end DataAccess
