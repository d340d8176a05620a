import DataAccess.Text.CaseTable

-- Letter case. ASCII case is changed character by character; the full lower-case form of a text
-- follows the Unicode mapping, in which one character may become two and a capital sigma is written
-- differently at the end of a word.
namespace DataAccess.Text

def isUppercase (c : Char) : Bool :=
  if isAscii c then c.isUpper else covered upperRuns c

def isLowercase (c : Char) : Bool :=
  if isAscii c then c.isLower else covered lowerRuns c

def isCased (c : Char) : Bool :=
  if isAscii c then c.isAlpha else covered casedRuns c

def isCaseIgnorable (c : Char) : Bool :=
  if isAscii c then c.toNat ∈ [0x27,0x2E,0x3A,0x5E,0x60] else covered caseIgnorableRuns c

def lowerChar (c : Char) : List Char :=
  if isAscii c then [c.toLower]
  else if c.toNat = 0x130 then ['i',Char.ofNat 0x307]
  else
    match lowerMapping.find? fun entry => entry.1.holds c with
    | some (_,shift) => [Char.ofNat (c.toNat + shift).toNat]
    | none => [c]

-- What stands next to a sigma, marks passed over, belongs to a cased word.
def meetsCased (s : List Char) : Bool :=
  match s.dropWhile isCaseIgnorable with
  | [] => false
  | c :: _ => isCased c

-- The capital sigma, U+03A3, which ends a word as U+03C2 and stands elsewhere as U+03C3.
def capitalSigma : Char := Char.ofNat 0x3A3

-- `before` holds what was read so far, the nearest character first.
def lowerFrom (before : List Char) : List Char → List Char
  | [] => []
  | c :: rest =>
    let image :=
      if c = capitalSigma then
        if meetsCased before && !meetsCased rest then [Char.ofNat 0x3C2] else [Char.ofNat 0x3C3]
      else lowerChar c
    image ++ lowerFrom (c :: before) rest

def lowercase (s : List Char) : List Char := lowerFrom [] s

def asciiLower (s : List Char) : List Char := s.map Char.toLower

def asciiUpper (s : List Char) : List Char := s.map Char.toUpper

end DataAccess.Text
