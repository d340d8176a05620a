import DataAccess.Text.Blank
import DataAccess.Text.Utf8

-- Paths of files that are not there. A path is followed part by part, from the root or from a
-- directory of which nothing is known; it leads to a directory, to the file that is always empty,
-- or to nothing, and then the first part that fails gives the reason.
namespace DataAccess.Load
open Text

inductive Place where
  | directory
  | emptyFile
  | nothing (reason : String)
  deriving DecidableEq, Repr

namespace Place

def missing : Place := nothing "No such file or directory (os error 2)"
def notADirectory : Place := nothing "Not a directory (os error 20)"
def tooLong : Place := nothing "File name too long (os error 36)"

end Place

def systemDirectories : List String :=
  ["bin","boot","dev","etc","home","lib","media","mnt","opt","proc","root","run",
    "sbin","srv","sys","tmp","usr","var"]

-- The directory that was reached is known by its parts below the root, if it was reached
-- from there.
def follow (reached : Option (List String)) : List String → Place
  | [] => .directory
  | part :: parts =>
    if part = "" ∨ part = "." then follow reached parts
    else if part = ".." then follow (reached.map List.dropLast) parts
    else if 255 < part.utf8ByteSize then .tooLong
    else if reached = some [] ∧ systemDirectories.contains part then follow (some [part]) parts
    else if reached = some ["dev"] ∧ part = "null" then
      if parts.isEmpty then .emptyFile else .notADirectory
    else .missing

def placeAt (path : String) : Place :=
  if path.toList.contains (Char.ofNat 0) then
    .nothing "file name contained an unexpected NUL byte"
  else if path = "" then .missing
  else if 4096 ≤ path.utf8ByteSize then .tooLong
  else
    follow (if path.toList.head? = some '/' then some [] else none)
      ((path.toList.splitOn '/').map String.ofList)

end DataAccess.Load
