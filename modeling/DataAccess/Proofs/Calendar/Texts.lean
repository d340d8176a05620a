import DataAccess.Calendar.Reading

-- A date that writes itself writes what the layout of year, month and day does, also where the year
-- has a sign.
namespace DataAccess.Calendar
open Number (padded)

theorem toDigits_last {n : Nat} (many : 10 ≤ n) :
    Nat.toDigits 10 n = Nat.toDigits 10 (n / 10) ++ [Nat.digitChar (n % 10)] := by
  have last := Nat.toDigits_append_toDigits (show 1 < 10 by decide) (show 0 < n / 10 by omega)
    (Nat.mod_lt n (show 0 < 10 by decide))
  rw [Nat.div_add_mod,Nat.toDigits_of_lt_base (Nat.mod_lt n (show 0 < 10 by decide))] at last
  exact last.symm

theorem padded_last (width n : Nat) :
    padded (width + 2) n = padded (width + 1) (n / 10) ++ [Nat.digitChar (n % 10)] := by
  by_cases many : 10 ≤ n
  · have fewer (digits : Nat) : width + 2 - (digits + 1) = width + 1 - digits :=
      Nat.succ_sub_succ _ _
    simp only [padded,toDigits_last many,List.length_append,List.length_singleton,fewer,
      List.append_assoc]
  · have zero : n / 10 = 0 := by omega
    have same : n % 10 = n := by omega
    rw [zero,same,padded,padded,Nat.toDigits_of_lt_base (by omega),Nat.toDigits_of_lt_base (by decide)]
    exact congrArg (· ++ [Nat.digitChar n]) List.replicate_succ'

theorem padded_two {n : Nat} (small : n < 100) : padded 2 n = twoDigits n := by
  rw [padded_last,padded,Nat.toDigits_of_lt_base (by omega)]
  rfl

theorem padded_four {n : Nat} (small : n < 10000) :
    padded 4 n = twoDigits (n / 100) ++ twoDigits (n % 100) := by
  have tens : n / 10 % 10 = n % 100 / 10 := by omega
  have ones : n % 10 = n % 100 % 10 := by omega
  rw [padded_last,padded_last,Nat.div_div_eq_div_mul,padded_two (by omega),List.append_assoc,tens,
    ones]
  rfl

theorem daysInMonth_le (year : Int) (month : Nat) : daysInMonth year month ≤ 31 := by
  unfold daysInMonth
  split
  · split <;> decide
  all_goals decide

theorem Date.plain_eq (d : Date) : d.plain = d.text := by
  obtain ⟨_,⟨_,months⟩,_,inside⟩ := d.valid
  have days := daysInMonth_le d.year d.month
  have laid : d.text = yearText d.year ++ '-' :: padded 2 d.month ++ '-' :: padded 2 d.day := by
    simp [text,Layout.write,yearMonthDay,Item.write,Timestamp.ofDate]
  rw [laid,padded_two (by omega),padded_two (by omega),plain,yearText]
  split
  · rw [padded_four (by omega)]
  · rfl

end DataAccess.Calendar
