import DataAccess.Text.ClassTable

-- Quoted text, as it is written in descriptions: between double quotes, with an escape for every
-- character that has no plain visible form.
namespace DataAccess.Text

def isExtending (c : Char) : Bool := !isAscii c && covered extendingRuns c

def isPrintable (c : Char) : Bool :=
  if c.toNat < 0x7F then 0x20 ≤ c.toNat else !covered invisibleRuns c

def codePointEscape (c : Char) : List Char :=
  ['\\','u','\x7b'] ++ Nat.toDigits 16 c.toNat ++ ['\x7d']

-- One character between double quotes. A mark that extends the character before it is escaped
-- too, since it would attach itself to the text around.
def quotedChar (c : Char) : List Char :=
  if c = Char.ofNat 0 then ['\\','0']
  else if c = '\t' then ['\\','t']
  else if c = '\r' then ['\\','r']
  else if c = '\n' then ['\\','n']
  else if c = '\\' || c = '"' then ['\\',c]
  else if isExtending c then codePointEscape c
  else if isPrintable c then [c]
  else codePointEscape c

def quoted (s : String) : String :=
  String.ofList ('"' :: s.toList.flatMap quotedChar ++ ['"'])

end DataAccess.Text
