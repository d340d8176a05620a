-- Text as bytes, in UTF-8.
namespace DataAccess.Text

abbrev Bytes := List UInt8

def utf8 (s : String) : Bytes := s.toUTF8.data.toList

def ofUtf8? (bytes : Bytes) : Option String := String.fromUTF8? ⟨bytes.toArray⟩

-- From `i` on, how far the bytes are whole characters. Every character moves on by a byte
-- at least, so as many steps as there are bytes are enough.
def validFrom (bytes : ByteArray) (i : Nat) : Nat → Nat
  | 0 => i
  | fuel + 1 =>
    match bytes.utf8DecodeChar? i with
    | some c => validFrom bytes (i + c.utf8Size) fuel
    | none => i

def validUpTo (bytes : Bytes) : Nat := validFrom ⟨bytes.toArray⟩ 0 bytes.length

end DataAccess.Text
