import DataAccess.Proofs.Text.Letters
import DataAccess.Text.Case
import Mathlib

-- The case of names. A server folds a name that is not quoted: its ASCII capitals become small
-- letters. What a text is lower-cased to has none of them, so that it is folded already.
namespace DataAccess.Text

theorem isUpper_of_beyond {c : Char} (beyond : 90 < c.toNat) : c.isUpper = false := by
  rw [Bool.eq_false_iff,ne_eq,isUpper_iff]
  omega

theorem toLower_plain {c : Char} : c.toLower = c ↔ c.isUpper = false := by
  constructor
  · intro same
    rw [← same]
    exact c.isUpper_toLower_eq_false
  · intro plain
    exact Char.toLower_eq_of_not_isUpper (by simp [plain])

-- The characters behind the capitals, and what stands for no character.
theorem isUpper_ofNat {n : Nat} (beyond : 90 < n) : (Char.ofNat n).isUpper = false := by
  by_cases valid : n.isValidChar
  · rw [Char.ofNat,dif_pos valid]
    exact isUpper_of_beyond beyond
  · rw [Char.ofNat,dif_neg valid]
    decide

theorem lowerMapping_beyond : ∀ entry ∈ lowerMapping, 90 < (entry.1.first : Int) + entry.2 := by
  decide +kernel

theorem lowerChar_plain (c : Char) : ∀ d ∈ lowerChar c, d.isUpper = false := by
  unfold lowerChar
  split
  · simp
  · rename_i other
    split
    · exact List.forall_mem_cons.mpr ⟨by decide,by simp only [List.mem_singleton,forall_eq]; decide⟩
    · split
      · rename_i run shift found
        have beyond : 90 < (run.first : Int) + shift :=
          lowerMapping_beyond _ (List.mem_of_find?_eq_some found)
        have least : run.first ≤ c.toNat := by
          have holds := List.find?_some found
          simp only [Run.holds,Bool.and_eq_true,decide_eq_true_eq] at holds
          exact holds.1.1
        simp only [List.mem_singleton,forall_eq]
        exact isUpper_ofNat (by omega)
      · have ascii : ¬c.toNat < 128 := by simpa [isAscii] using other
        simp only [List.mem_singleton,forall_eq]
        exact isUpper_of_beyond (by omega)

theorem lowerFrom_plain (before s : List Char) : ∀ d ∈ lowerFrom before s, d.isUpper = false := by
  induction s generalizing before with
  | nil => simp [lowerFrom]
  | cons c rest ih =>
    unfold lowerFrom
    intro d member
    rcases List.mem_append.mp member with own | later
    · split at own
      · split at own
        · rw [List.mem_singleton.mp own]
          decide
        · rw [List.mem_singleton.mp own]
          decide
      · exact lowerChar_plain c d own
    · exact ih (c :: before) d later

-- Small ASCII letters stay as they are, and so does all else in ASCII that is no capital.
theorem lowerFrom_small {s : List Char} (small : ∀ c ∈ s, isAscii c = true ∧ c.isUpper = false)
    (before : List Char) : lowerFrom before s = s := by
  induction s generalizing before with
  | nil => rfl
  | cons c rest ih =>
    obtain ⟨⟨ascii,plain⟩,later⟩ := List.forall_mem_cons.mp small
    have other : c ≠ capitalSigma := by
      rintro rfl
      exact absurd ascii (by decide)
    have kept : lowerChar c = [c] := by
      rw [lowerChar,if_pos ascii,toLower_plain.mpr plain]
    rw [lowerFrom,if_neg other,kept,ih later]
    rfl

theorem lowercase_small {s : List Char} (small : ∀ c ∈ s, isAscii c = true ∧ c.isUpper = false) :
    lowercase s = s := lowerFrom_small small []

-- A name that is not quoted, as a server stores it.
def folded (name : String) : String := String.ofList (asciiLower name.toList)

theorem folded_toList (name : String) : (folded name).toList = asciiLower name.toList :=
  String.toList_ofList

theorem asciiLower_plain {s : List Char} : asciiLower s = s ↔ ∀ c ∈ s, c.isUpper = false := by
  unfold asciiLower
  induction s with
  | nil => simp
  | cons c s ih => rw [List.map_cons,List.cons.injEq,ih,toLower_plain,List.forall_mem_cons]

theorem folded_plain {name : String} : folded name = name ↔ ∀ c ∈ name.toList, c.isUpper = false := by
  rw [← String.toList_inj,folded_toList,asciiLower_plain]

theorem folded_folded (name : String) : folded (folded name) = folded name := by
  rw [folded_plain,folded_toList,asciiLower]
  simp

theorem folded_lowercase (s : List Char) :
    folded (String.ofList (lowercase s)) = String.ofList (lowercase s) := by
  rw [folded_plain,String.toList_ofList]
  exact lowerFrom_plain [] s

end DataAccess.Text
