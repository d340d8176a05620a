import DataAccess.Proofs.Statement.Numbering

-- Statements that are appended to. The text that parts add after some values is the text that they
-- are on their own with the numbers of those values skipped: every placeholder of it is raised.
namespace DataAccess

namespace Statement

-- A text in which the number after each dollar sign that has one is raised.
def raised (k : Nat) : List Char → List Char
  | [] => []
  | c :: rest =>
    if c = '$' ∧ (rest.head?.any Char.isDigit) then
      '$' :: Nat.toDigits 10 (Nat.ofDigitChars 10 (rest.takeWhile Char.isDigit) 0 + k) ++
        raised k (rest.dropWhile Char.isDigit)
    else c :: raised k rest
termination_by s => s.length
decreasing_by
  · exact Nat.lt_succ_of_le (List.dropWhile_sublist _).length_le
  · exact Nat.lt_succ_self _

def raise (k : Nat) (sql : String) : String := String.ofList (raised k sql.toList)

theorem raised_plain {s : List Char} (plain : '$' ∉ s) (k : Nat) (rest : List Char) :
    raised k (s ++ rest) = s ++ raised k rest := by
  induction s with
  | nil => rfl
  | cons c s ih =>
    rw [List.mem_cons,not_or] at plain
    rw [List.cons_append,raised,if_neg fun read => plain.1 read.1.symm,ih plain.2]
    rfl

theorem raised_placeholder {rest : List Char} (ended : rest.head?.all (!·.isDigit)) (k n : Nat) :
    raised k ((placeholder n).toList ++ rest) = (placeholder (n + k)).toList ++ raised k rest := by
  have digits : ∀ c ∈ Nat.toDigits 10 n, c.isDigit := fun c member =>
    Nat.isDigit_of_mem_toDigits (by decide) (by decide) member
  have starts : ((Nat.toDigits 10 n ++ rest).head?.any Char.isDigit) = true := by
    cases written : Nat.toDigits 10 n with
    | nil => exact absurd written Nat.toDigits_ne_nil
    | cons c cs => simpa using digits c (by simp [written])
  have ends : rest.takeWhile Char.isDigit = [] ∧ rest.dropWhile Char.isDigit = rest := by
    cases rest with
    | nil => exact ⟨rfl,rfl⟩
    | cons c rest => simp_all
  rw [placeholder_toList,List.cons_append,raised,if_pos ⟨rfl,starts⟩,
    List.takeWhile_append_of_pos digits,List.dropWhile_append_of_pos digits,ends.1,ends.2,
    List.append_nil,Nat.ofDigitChars_ten_toDigits,placeholder_toList]

end Statement

namespace Part
open Statement

-- After more values the same parts are written with their placeholders raised.
theorem write_raised {afterValue : Bool} {parts : List Part} (legible : Legible afterValue parts)
    (bound k : Nat) : write (bound + k) parts = raised k (write bound parts) := by
  induction parts generalizing afterValue bound with
  | nil => rw [write,write,raised]
  | cons part rest ih =>
    cases part with
    | text s =>
      obtain ⟨plain,_,further⟩ := legible
      rw [write,write,raised_plain plain,ih further]
    | value v =>
      have next := ih legible (bound + 1)
      rw [write,write,raised_placeholder (write_ends_digits legible _),Nat.add_right_comm,next]

end Part

namespace Statement
open DataAccess.Part

theorem add_raised {parts : List Part} (legible : Legible afterValue parts) (s : Statement) :
    s.add parts = ⟨s.sql ++ raise s.params.size (ofParts parts).sql,
      s.params ++ (ofParts parts).params⟩ := by
  have text : (s.add parts).sql.toList =
      (s.sql ++ raise s.params.size (ofParts parts).sql).toList := by
    rw [add_sql,String.toList_append,raise,String.toList_ofList,ofParts_sql,
      ← write_raised legible,Nat.zero_add]
  have values : (s.add parts).params.toList = (s.params ++ (ofParts parts).params).toList := by
    rw [add_params,Array.toList_append,ofParts_params]
  exact (mk.injEq ..).mpr ⟨String.toList_inj.mp text,Array.toList_inj.mp values⟩

end Statement

end DataAccess
