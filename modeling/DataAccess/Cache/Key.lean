import DataAccess.Cache.Canonical
import DataAccess.Value

-- What a result is kept under: the model it was asked for, the canonical text of the statement, and
-- the values bound to it.
namespace DataAccess.Cache

structure Key where
  model : String
  sql : String
  params : List Value
  deriving DecidableEq

def Key.of (model sql : String) (params : List Value) : Key := ⟨model,canonicalSql sql,params⟩

end DataAccess.Cache
