import DataAccess.Record.Members

-- Record types to try the library with. Two share the name of their model; one has names that no
-- statement takes, one has no member, and one takes its values out by hand.
namespace DataAccess.Samples

def userOf (name : String) (joined : Storage) : RecordType Row :=
  RecordType.asRows <| .ofMembers name "User" "users"
    [⟨"id","id",.int64,false⟩,⟨"name","name",.text,false⟩,⟨"age","age",.int64,true⟩,
      ⟨"joined","joined",joined,true⟩]

def user : RecordType Row := userOf "User" .date

def imposter : RecordType Row := userOf "Imposter" .text

def account : RecordType Row :=
  RecordType.asRows <| .ofMembers "Account" "AppUser" "app_users"
    [⟨"id","id",.int64,false⟩,⟨"name","user_name",.text,false⟩,
      ⟨"score","score",.double,false⟩,⟨"active","active",.bool,false⟩,
      ⟨"joined","joined",.date,true⟩]

def orderLine : RecordType Row :=
  RecordType.asRows <| .ofMembers "OrderLine" "OrderLine" "order_line"
    [⟨"line_no","line_no",.int32,false⟩,⟨"note","note",.text,true⟩]

def wide : RecordType Row :=
  RecordType.asRows <| .ofMembers "Wide" "Wide" "wh.wide_rows"
    [⟨"flag","flag",.bool,false⟩,⟨"small","small",.int16,false⟩,
      ⟨"medium","medium",.int32,false⟩,⟨"big","big",.int64,false⟩,
      ⟨"single","single",.single,false⟩,⟨"double","double",.double,false⟩,
      ⟨"label","label",.text,false⟩,⟨"day","day",.date,false⟩,
      ⟨"at","at",.timestamp,false⟩,⟨"flag_o","flag_o",.bool,true⟩,
      ⟨"small_o","small_o",.int16,true⟩,⟨"single_o","single_o",.single,true⟩,
      ⟨"double_o","double_o",.double,true⟩,⟨"label_o","label_o",.text,true⟩,
      ⟨"at_o","at_o",.timestamp,true⟩]

def badNames : RecordType Row :=
  RecordType.asRows <| .ofMembers "BadNames" "BadNames" "bad table"
    [⟨"id","id",.int64,false⟩,⟨"col","bad-col",.text,false⟩]

def empty : RecordType Row := RecordType.asRows <| .ofMembers "Empty" "Empty" "nothing" []

def readOdd (row : MappedRow) : Except Error Row := do
  let tag ← row.get 0 Value.toText
  let row ← match tag with
    | "get_len" => (row.get row.values.length Value.toInt64).map fun _ => row
    | "take_len" => (row.take row.values.length Value.toInt64).map Prod.snd
    | "get_int" => (row.get 0 Value.toInt64).map fun _ => row
    | "take_int" => (row.take 0 Value.toInt64).map Prod.snd
    | _ => .ok row
  let (first,row) ← row.take 1 (Value.optional Value.toInt64)
  let (second,_) ← row.take 1 (Value.optional Value.toInt64)
  return [.text tag,Value.ofOption .int first,Value.ofOption .int second]

def odd : RecordType Row where
  name := "Odd"
  model := "Odd"
  table := "odd"
  fields := [⟨0,"tag",.text,false⟩,⟨1,"num",.int,true⟩]
  ofRow := readOdd
  toValues := id

def all : List (RecordType Row) :=
  [user,account,orderLine,wide,imposter,badNames,empty,odd]

def find? (name : String) : Option (RecordType Row) := all.find? fun type => type.name == name

end DataAccess.Samples
