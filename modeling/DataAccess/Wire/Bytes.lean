import DataAccess.Text.Utf8

-- Whole numbers as bytes, the most significant first. A signed number of some width is sent as its
-- remainder modulo the number of words of that width.
namespace DataAccess.Wire
open Text

def words (width : Nat) : Nat := Nat.pow 256 width

def ofNat : (width : Nat) → Nat → Bytes
  | 0,_ => []
  | width + 1,n => UInt8.ofNat (n / words width) :: ofNat width (n % words width)

def toNat (bytes : Bytes) : Nat := bytes.foldl (fun n b => 256 * n + b.toNat) 0

def ofInt (width : Nat) (n : Int) : Bytes := ofNat width (n % words width).toNat

def toInt (bytes : Bytes) : Int :=
  if 2 * toNat bytes < words bytes.length then toNat bytes
  else (toNat bytes : Int) - words bytes.length

def word? (width : Nat) (bytes : Bytes) : Option Nat :=
  if bytes.length = width then some (toNat bytes) else none

def signed? (width : Nat) (bytes : Bytes) : Option Int :=
  if bytes.length = width then some (toInt bytes) else none

end DataAccess.Wire
