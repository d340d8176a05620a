import DataAccess.Proofs.Text.Encoding
import DataAccess.Session.QueryType

-- The excerpt of a statement that is logged. A text that is too long is cut where a character ends,
-- at the last such place within the limit, which is at most three bytes before it.
namespace DataAccess
open Text String.Pos

theorem boundaryAtMost_le (sql : String) (n : Nat) : boundaryAtMost sql n ≤ n := by
  induction n with
  | zero => exact Nat.le_refl 0
  | succ n ih =>
    unfold boundaryAtMost
    split <;> omega

theorem boundaryAtMost_valid (sql : String) (n : Nat) : (Raw.mk (boundaryAtMost sql n)).IsValid sql := by
  induction n with
  | zero => exact Raw.isValid_zero
  | succ n ih =>
    unfold boundaryAtMost
    split
    · rename_i place
      exact Raw.isValid_eq_true_iff.mp place
    · exact ih

-- The last place up to `n` is not passed over.
theorem le_boundaryAtMost {sql : String} {m n : Nat} (place : (Raw.mk m).IsValid sql) (within : m ≤ n) :
    m ≤ boundaryAtMost sql n := by
  induction n with
  | zero => omega
  | succ n ih =>
    unfold boundaryAtMost
    split
    · exact within
    · rename_i other
      have apart : m ≠ n + 1 := by
        rintro rfl
        exact other (Raw.isValid_eq_true_iff.mpr place)
      exact ih (by omega)

theorem passed_over {sql : String} {limit place : Nat} (beyond : boundaryAtMost sql limit < place)
    (inside : place ≤ limit) : ¬(Raw.mk place).IsValid sql := by
  intro valid
  exact absurd (le_boundaryAtMost valid inside) (Nat.not_le.mpr beyond)

-- A character has at most four bytes.
theorem valid_near (s : List Char) {n : Nat} (within : n ≤ (String.ofList s).utf8ByteSize) :
    ∃ m, m ≤ n ∧ n ≤ m + 3 ∧ (Raw.mk m).IsValid (String.ofList s) := by
  induction s generalizing n with
  | nil => exact ⟨0,Nat.zero_le n,Nat.le_trans within (Nat.zero_le 3),Raw.isValid_zero⟩
  | cons c rest ih =>
    have most := c.utf8Size_le_four
    by_cases inside : n < c.utf8Size
    · exact ⟨0,Nat.zero_le n,by omega,Raw.isValid_zero⟩
    · rw [String.ofList_cons,String.utf8ByteSize_append,String.utf8ByteSize_singleton] at within
      obtain ⟨m,before,near,valid⟩ := @ih (n - c.utf8Size) (by omega)
      refine ⟨c.utf8Size + m,by omega,by omega,?_⟩
      have behind : String.singleton c + Raw.mk m = Raw.mk (c.utf8Size + m) := by
        ext
        simp
      rw [String.ofList_cons,← behind]
      exact valid.append_left (String.singleton c)

theorem boundaryAtMost_near {sql : String} {n : Nat} (within : n ≤ sql.utf8ByteSize) :
    n ≤ boundaryAtMost sql n + 3 := by
  have sized : n ≤ (String.ofList sql.toList).utf8ByteSize := by rwa [String.ofList_toList]
  obtain ⟨m,before,near,valid⟩ := valid_near sql.toList sized
  rw [String.ofList_toList] at valid
  have reached := le_boundaryAtMost valid before
  omega

-- Of two beginnings of a text the one with fewer bytes is a beginning of the other.
theorem prefix_of_bytes {kept other : String} {s : List Char} (first : kept.toList <+: s)
    (second : other.toList <+: s) (fewer : other.utf8ByteSize ≤ kept.utf8ByteSize) :
    other.toList <+: kept.toList := by
  rcases List.prefix_or_prefix_of_prefix second first with shorter | ⟨more,longer⟩
  · exact shorter
  · have whole : other = kept ++ String.ofList more := by
      rw [← String.toList_inj,← longer,String.toList_append,String.toList_ofList]
    rw [whole,String.utf8ByteSize_append] at fewer
    have none : String.ofList more = "" := String.utf8ByteSize_eq_zero_iff.mp (by omega)
    have same : other = kept := by rw [whole,none,String.append_empty]
    exact same ▸ List.prefix_rfl

-- The text before the last place up to a limit.
theorem cut_atMost (sql : String) (limit : Nat) : ∃ kept more : String, sql = kept ++ more ∧
    kept.utf8ByteSize = boundaryAtMost sql limit := by
  obtain ⟨kept,more,split,size⟩ := Raw.isValid_iff_exists_append.mp (boundaryAtMost_valid sql limit)
  exact ⟨kept,more,split,(congrArg Raw.byteIdx size).symm⟩

-- Whole characters within the limit stand before that place.
theorem prefix_of_cut {sql kept other : String} {limit : Nat} (within : kept.toList <+: sql.toList)
    (size : kept.utf8ByteSize = boundaryAtMost sql limit) (begins : other.toList <+: sql.toList)
    (fits : other.utf8ByteSize ≤ limit) : other.toList <+: kept.toList := by
  apply prefix_of_bytes within begins
  rw [size]
  obtain ⟨rest,joined⟩ := begins
  have split : sql = other ++ String.ofList rest := by
    rw [← String.toList_inj,← joined,String.toList_append,String.toList_ofList]
  apply le_boundaryAtMost _ fits
  exact Raw.isValid_iff_exists_append.mpr ⟨other,String.ofList rest,split,rfl⟩

-- A text within the limit stays as it is. A longer one is cut at the last place where a character ends,
-- which is found in three steps back at most: what is before it is a text, no beginning of whole characters
-- within the limit is longer, and dots follow it.
theorem excerpt_longest (sql : String) :
    (sql.utf8ByteSize ≤ 200 → excerpt sql = sql) ∧
    (200 < sql.utf8ByteSize →
      let stop := boundaryAtMost sql 200
      stop ≤ 200 ∧ 200 ≤ stop + 3 ∧ (Raw.mk stop).IsValid sql ∧
      (∀ place, stop < place → place ≤ 200 → ¬(Raw.mk place).IsValid sql) ∧
      ∃ kept, ofUtf8? ((utf8 sql).take stop) = some kept ∧ excerpt sql = kept ++ "..." ∧
        kept.toList <+: sql.toList ∧ 197 ≤ kept.utf8ByteSize ∧ kept.utf8ByteSize ≤ 200 ∧
        ∀ other : String, other.toList <+: sql.toList → other.utf8ByteSize ≤ 200 →
          other.toList <+: kept.toList) := by
  constructor
  · intro short
    exact if_pos short
  · intro long stop
    have least : stop ≤ 200 := boundaryAtMost_le sql 200
    have near : 200 ≤ stop + 3 := boundaryAtMost_near (Nat.le_of_lt long)
    obtain ⟨kept,more,split,size⟩ := cut_atMost sql 200
    have within : kept.toList <+: sql.toList := by
      rw [split,String.toList_append]
      exact List.prefix_append _ _
    have read : ofUtf8? ((utf8 sql).take stop) = some kept := by
      have whole : (utf8 sql).take stop = utf8 kept := by
        conv => lhs; rw [split,utf8_append]
        exact List.take_left' ((length_utf8 kept).trans size)
      rw [whole,ofUtf8?_utf8]
    refine ⟨least,near,boundaryAtMost_valid sql 200,?_,kept,read,?_,within,by omega,by omega,?_⟩
    · intro place beyond inside
      exact passed_over beyond inside
    · have cut : excerpt sql = (ofUtf8? ((utf8 sql).take stop)).getD "" ++ "..." :=
        if_neg (Nat.not_le.mpr long)
      rw [cut,read]
      rfl
    · intro other begins fits
      exact prefix_of_cut within size begins fits

-- A small letter and then characters of four bytes, of which the last does not fit by one.
theorem excerpt_longest_wide :
    let sql := String.ofList ('a' :: List.replicate 50 '😀')
    200 < sql.utf8ByteSize ∧ boundaryAtMost sql 200 = 197 ∧ ¬(Raw.mk 198).IsValid sql ∧
    ∃ kept, ofUtf8? ((utf8 sql).take 197) = some kept ∧ excerpt sql = kept ++ "..." ∧
      kept.toList <+: sql.toList ∧ 197 ≤ kept.utf8ByteSize := by
  intro sql
  have long : 200 < sql.utf8ByteSize := by
    simp only [sql]
    decide +kernel
  have last : boundaryAtMost sql 200 = 197 := by
    simp only [sql]
    decide +kernel
  obtain ⟨_,_,_,passed,kept,text,logged,begins,least,_⟩ := (excerpt_longest sql).2 long
  rw [last] at passed text
  exact ⟨long,last,passed 198 (by decide) (by decide),kept,text,logged,begins,least⟩

end DataAccess
