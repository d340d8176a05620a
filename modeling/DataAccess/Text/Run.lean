-- Runs of code points: the form in which the character tables of this library are written.
namespace DataAccess.Text

-- A run of code points: `first`, and every `step`-th one after it up to `last`.
structure Run where
  first : Nat
  last : Nat
  step : Nat
  deriving DecidableEq, Repr

def Run.holds (r : Run) (c : Char) : Bool :=
  r.first ≤ c.toNat && c.toNat ≤ r.last && (c.toNat - r.first) % r.step == 0

def covered (table : List Run) (c : Char) : Bool := table.any (·.holds c)

def isAscii (c : Char) : Bool := c.toNat < 128

end DataAccess.Text
