import DataAccess.Proofs.Calendar.ReadingBack

-- The layouts that dates are documented to be read in. They are tried one after the other, and each
-- of them reads more than it writes; but no layout reads what a later one has written, so that a
-- date with a year of four digits is found again in whichever of them it was written.
namespace DataAccess.Calendar
open Number Text

def compact : Layout := [.year,.month,.day]
def shortMonthDayYear : Layout := [.monthAbbreviation,.space,.day,.mark ',',.space,.year]
def shortDayMonthYear : Layout := [.day,.space,.monthAbbreviation,.space,.year]

def documentedLayouts : List Layout :=
  [yearMonthDay,dayMonthYear,slashedMonthDayYear,slashedYearMonthDay,compact,shortMonthDayYear,
    namedMonthDayYear,shortDayMonthYear]

example : documentedLayouts.map (fun layout => String.ofList (layout.write (.ofDate ⟨2023,1,15,by decide⟩))) =
    ["2023-01-15","15-01-2023","01/15/2023","2023/01/15","20230115","Jan 15, 2023","January 15, 2023",
      "15 Jan 2023"] := by decide +kernel

-- How many digits an item reads at most, a year without a sign.
def Item.width? : Item → Option Nat
  | year => some 4
  | month | day | hour | minute | second => some 2
  | fraction | monthName | monthAbbreviation | space | mark _ => none

-- An item that reads a number reads as far as the number goes.
theorem Item.read_number {item : Item} {width : Nat} (wide : item.width? = some width) {s : List Char}
    (plain : Unsigned s) (p : Parts) :
    (item.read p s).map Prod.snd = (takeNumber width s).map Prod.snd := by
  have number : numberItem 2 s = takeNumber 2 s := by
    rw [numberItem,trimStart_kept fun c first => (plain c first).1]
  cases item with
  | year =>
    cases wide
    rw [read,yearItem_unsigned plain,Option.map_map,Option.map_map]
    rfl
  | month | day | hour | minute | second =>
    cases wide
    rw [read,number,Option.map_map]
    rfl
  | fraction | monthName | monthAbbreviation | space | mark c => cases wide

theorem Item.read_digits {item : Item} {width : Nat} (wide : item.width? = some width)
    {digits rest : List Char} (some : digits ≠ []) (all : ∀ c ∈ digits, c.isDigit = true)
    (fits : digits.length ≤ width)
    (ends : digits.length = width ∨ ∀ c ∈ rest.head?, c.isDigit = false) (p : Parts) :
    ∃ q, item.read p (digits ++ rest) = .some (q,rest) := by
  have far := read_number wide (unsigned_digits some all rest) p
  rw [takeNumber_digits all (digits?_eq some all) fits ends] at far
  obtain ⟨⟨q,_⟩,read,rfl⟩ := Option.map_eq_some_iff.mp far
  exact ⟨q,read⟩

theorem Item.read_pair {item : Item} {width : Nat} (wide : item.width? = some width) {n : Nat}
    (fits : n < 100) (rest : List Char) (ends : width = 2 ∨ ∀ c ∈ rest.head?, c.isDigit = false)
    (p : Parts) : ∃ q, item.read p (padded 2 n ++ rest) = some (q,rest) := by
  have length : (padded 2 n).length = 2 := padded_length (by decide) fits
  have room : 2 ≤ width := by cases item <;> cases wide <;> decide
  exact Item.read_digits wide (padded_some 2 n) (padded_digits 2 n) (length.trans_le room)
    (ends.imp (fun two => length.trans two.symm) id) p

theorem Item.read_letter {item : Item} {width : Nat} (wide : item.width? = some width) {c : Char}
    (letter : c.isAlpha = true) (rest : List Char) (p : Parts) : item.read p (c :: rest) = none := by
  have plain : Unsigned (c :: rest) := by
    intro d first
    cases first
    refine ⟨isBlank_of_alphanum (isAlphanum_iff.mpr (.inl letter)),?_,?_⟩ <;> rintro rfl <;> cases letter
  have other : c.isDigit = false := by
    rw [Bool.eq_false_iff,ne_eq,isDigit_iff]
    have within := isAlpha_iff.mp letter
    omega
  have untaken : takeNumber width (c :: rest) = none := by
    cases width with
    | zero => rfl
    | succ width => simp [takeNumber,other,digits?]
  have far := read_number wide plain p
  rw [untaken] at far
  exact Option.map_eq_none_iff.mp far

theorem monthItem_digit {c : Char} (digit : c.isDigit = true) (rest : List Char) :
    monthItem (c :: rest) = none := by
  have plain : c.toLower = c := by
    rw [toLower_plain,Bool.eq_false_iff,ne_eq,isUpper_iff]
    have within := isDigit_iff.mp digit
    omega
  have begins : ∀ entry ∈ monthNames.zipIdx 1,
      ((entry.1.toList.take 3).map Char.toLower).head?.any Char.isDigit = false := by decide
  have long : ∀ entry ∈ monthNames.zipIdx 1, entry.1.toList.take 3 ≠ [] := by decide
  refine List.findSome?_eq_none_iff.mpr fun entry member => ?_
  obtain ⟨letter,word,named⟩ := List.exists_cons_of_ne_nil (long entry member)
  have other : ¬ ((c :: rest).take (letter :: word).length).map Char.toLower =
      (letter :: word).map Char.toLower := by
    intro same
    have lower : c.toLower = letter.toLower := (List.cons.inj same).1
    have none := begins entry member
    rw [named,List.map_cons,List.head?_cons,Option.any_some,← lower,plain,digit] at none
    cases none
  change (afterWord? (entry.1.toList.take 3) (c :: rest)).map _ = _
  rw [named,afterWord?,if_neg other]
  rfl

namespace Layout

theorem readParts_read {item : Item} {p q : Parts} {s rest : List Char}
    (read : item.read p s = some (q,rest)) (items : Layout) :
    readParts p s (item :: items) = readParts q rest items := by
  rw [readParts,read]
  rfl

theorem readParts_mark (p : Parts) (c : Char) (s : List Char) (items : Layout) :
    readParts p (c :: s) (.mark c :: items) = readParts p s items :=
  readParts_read (show Item.read p (c :: s) (.mark c) = some (p,s) from if_pos rfl) items

theorem readDate?_unread {layout : Layout} {s : List Char}
    (unread : layout.readParts Parts.none s = none) : layout.readDate? s = none := by
  rw [readDate?,parts?,unread]
  rfl

theorem readDate?_left {layout : Layout} {s rest : List Char} {p : Parts} (some : rest ≠ [])
    (left : layout.readParts Parts.none s = .some (p,rest)) : layout.readDate? s = none := by
  obtain ⟨c,others,rfl⟩ := List.exists_cons_of_ne_nil some
  rw [readDate?,parts?,left]
  rfl

-- Another character stands where the mark behind the first number should.
theorem readDate?_unmarked {item : Item} {s rest : List Char} {c m : Char}
    (read : ∃ q, item.read Parts.none s = some (q,c :: rest)) (other : c ≠ m) (items : Layout) :
    readDate? (item :: .mark m :: items) s = none := by
  obtain ⟨q,read⟩ := read
  refine readDate?_unread ?_
  rw [readParts_read read,readParts,Item.read,if_neg other]
  rfl

theorem readDate?_letter {item : Item} {width : Nat} (wide : item.width? = some width) {c : Char}
    (letter : c.isAlpha = true) (rest : List Char) (items : Layout) :
    readDate? (item :: items) (c :: rest) = none := by
  refine readDate?_unread ?_
  rw [readParts,Item.read_letter wide letter]
  rfl

theorem readDate?_nameless {c : Char} (digit : c.isDigit = true) (rest : List Char) (items : Layout) :
    readDate? (.monthName :: items) (c :: rest) = none := by
  refine readDate?_unread ?_
  rw [readParts,Item.read,monthItem_digit digit]
  rfl

-- A text that begins with a number of two digits and no mark of the layout's.
theorem readDate?_pair {item : Item} {width : Nat} (wide : item.width? = some width) {n : Nat}
    (fits : n < 100) {c m : Char} (plain : c.isDigit = false) (other : c ≠ m) (rest : List Char)
    (items : Layout) : readDate? (item :: .mark m :: items) (padded 2 n ++ c :: rest) = none := by
  have stops : ∀ d ∈ (c :: rest).head?, d.isDigit = false := fun d first => Option.some.inj first ▸ plain
  exact readDate?_unmarked (Item.read_pair wide fits _ (.inr stops) _) other items

-- A text that begins with a year, whose third digit stands where a mark should.
theorem readDate?_year {item : Item} (wide : item.width? = some 2) {n : Nat} (fits : n < 10000) {m : Char}
    (mark : m.isDigit = false) (rest : List Char) (items : Layout) :
    readDate? (item :: .mark m :: items) (padded 4 n ++ rest) = none := by
  have digit : (Nat.digitChar (n % 100 / 10)).isDigit = true := by
    have all := padded_digits 2 (n % 100)
    rw [padded_two (by omega)] at all
    exact all _ (by simp [twoDigits])
  rw [padded_four fits,← padded_two (by omega),List.append_assoc]
  refine readDate?_unmarked (Item.read_pair wide (by omega) _ (.inl rfl) _) ?_ items
  rintro rfl
  cases digit.symm.trans mark

-- The year comes last: two of its digits are left over when the first number is taken for it.
theorem readDate?_leftover {a b n : Nat} (first : a < 100) (second : b < 100) (fits : n < 10000) :
    yearMonthDay.readDate? (padded 2 a ++ '-' :: (padded 2 b ++ '-' :: padded 4 n)) = none := by
  obtain ⟨p,year⟩ := Item.read_pair (rfl : Item.year.width? = some 4) first
    ('-' :: (padded 2 b ++ '-' :: (padded 2 (n / 100) ++ twoDigits (n % 100))))
    (.inr fun _ dash => Option.some.inj dash ▸ rfl) Parts.none
  obtain ⟨q,month⟩ := Item.read_pair (rfl : Item.month.width? = some 2) second
    ('-' :: (padded 2 (n / 100) ++ twoDigits (n % 100))) (.inl rfl) p
  obtain ⟨r,day⟩ := Item.read_pair (rfl : Item.day.width? = some 2) (show n / 100 < 100 by omega)
    (twoDigits (n % 100)) (.inl rfl) q
  rw [padded_four fits,← padded_two (show n / 100 < 100 by omega)]
  have left : yearMonthDay.readParts Parts.none (padded 2 a ++ '-' :: (padded 2 b ++
      '-' :: (padded 2 (n / 100) ++ twoDigits (n % 100)))) = some (r,twoDigits (n % 100)) := by
    rw [yearMonthDay,readParts_read year,readParts_mark,readParts_read month,readParts_mark,
      readParts_read day]
    rfl
  exact readDate?_left (List.cons_ne_nil _ _) left

end Layout

-- A text that a layout reads and no earlier one does.
def Reaches (layout : Layout) (s : List Char) (d : Date) : Prop :=
  ∃ earlier later, dateLayouts = earlier ++ layout :: later ∧ layout.readDate? s = some d ∧
    ∀ other ∈ earlier, other.readDate? s = none

theorem Reaches.found {layout : Layout} {s : List Char} {d : Date} (reaches : Reaches layout s d) :
    (dateLayouts.findSome? fun layout => layout.readDate? s) = some d := by
  obtain ⟨earlier,later,split,own,none⟩ := reaches
  exact List.findSome?_eq_some_iff.mpr ⟨earlier,layout,later,split,own,none⟩

-- A date with a year of four digits, and no sign.
def Date.IsCommon (d : Date) : Prop := 0 ≤ d.year ∧ d.year ≤ 9999

namespace Date

theorem month_lt (d : Date) : d.month < 100 := by
  obtain ⟨_,⟨_,last⟩,_⟩ := d.valid
  omega

theorem day_lt (d : Date) : d.day < 100 := by
  obtain ⟨_,_,_,inside⟩ := d.valid
  have days := daysInMonth_le d.year d.month
  omega

variable {d : Date}

theorem IsCommon.year (common : d.IsCommon) :
    d.year.toNat < 10000 ∧ yearText d.year = padded 4 d.year.toNat := by
  have same := Int.toNat_of_nonneg common.1
  have last := common.2
  exact ⟨by omega,if_pos common⟩

theorem written_yearMonthDay (d : Date) : Reaches yearMonthDay (yearMonthDay.write (.ofDate d)) d :=
  ⟨[],_,rfl,Layout.readDate?_write rfl d rfl,by simp⟩

theorem IsCommon.written_dayMonthYear (common : d.IsCommon) :
    Reaches dayMonthYear (dayMonthYear.write (.ofDate d)) d := by
  refine ⟨[yearMonthDay],_,rfl,Layout.readDate?_write rfl d rfl,?_⟩
  obtain ⟨fits,text⟩ := common.year
  have written : dayMonthYear.write (.ofDate d) =
      padded 2 d.day ++ '-' :: (padded 2 d.month ++ '-' :: padded 4 d.year.toNat) := by
    rw [← text,← List.append_nil (yearText d.year)]
    rfl
  rw [written,List.forall_mem_singleton]
  exact Layout.readDate?_leftover d.day_lt d.month_lt fits

theorem written_slashedMonthDayYear (d : Date) :
    Reaches slashedMonthDayYear (slashedMonthDayYear.write (.ofDate d)) d := by
  refine ⟨[yearMonthDay,dayMonthYear],_,rfl,Layout.readDate?_write rfl d rfl,?_⟩
  have other {item : Item} {width : Nat} (wide : item.width? = some width) (items : Layout) :
      Layout.readDate? (item :: .mark '-' :: items) (slashedMonthDayYear.write (.ofDate d)) = none :=
    Layout.readDate?_pair wide d.month_lt (rfl : '/'.isDigit = false) (by decide) _ items
  simp only [List.forall_mem_cons,List.not_mem_nil,false_implies,implies_true,and_true]
  exact ⟨other rfl _,other rfl _⟩

theorem IsCommon.written_slashedYearMonthDay (common : d.IsCommon) :
    Reaches slashedYearMonthDay (slashedYearMonthDay.write (.ofDate d)) d := by
  refine ⟨[yearMonthDay,dayMonthYear,slashedMonthDayYear],_,rfl,Layout.readDate?_write rfl d rfl,?_⟩
  obtain ⟨fits,text⟩ := common.year
  have written : slashedYearMonthDay.write (.ofDate d) = padded 4 d.year.toNat ++
      '/' :: Layout.write [.month,.mark '/',.day] (.ofDate d) := by
    rw [← text]
    rfl
  have dashed : yearMonthDay.readDate? (slashedYearMonthDay.write (.ofDate d)) = none := by
    rw [written]
    exact Layout.readDate?_unmarked (Item.read_digits (rfl : Item.year.width? = some 4) (padded_some 4 _)
      (padded_digits 4 _) (padded_length (by decide) fits).le (.inl (padded_length (by decide) fits)) _)
      (by decide) _
  have narrow {item : Item} (wide : item.width? = some 2) {m : Char} (mark : m.isDigit = false)
      (items : Layout) :
      Layout.readDate? (item :: .mark m :: items) (slashedYearMonthDay.write (.ofDate d)) = none := by
    rw [written]
    exact Layout.readDate?_year wide fits mark _ items
  simp only [List.forall_mem_cons,List.not_mem_nil,false_implies,implies_true,and_true]
  exact ⟨dashed,narrow rfl rfl _,narrow rfl rfl _⟩

-- The layouts that begin with a number have a mark behind it.
theorem numbered_cases {motive : Layout → Prop}
    (numbered : ∀ (item : Item) width m items, item.width? = some width → (m = '-' ∨ m = '/') →
      motive (item :: .mark m :: items)) :
    ∀ layout ∈ [yearMonthDay,dayMonthYear,slashedMonthDayYear,slashedYearMonthDay], motive layout := by
  simp only [List.forall_mem_cons,List.not_mem_nil,false_implies,implies_true,and_true]
  exact ⟨numbered _ _ _ _ rfl (.inl rfl),numbered _ _ _ _ rfl (.inl rfl),numbered _ _ _ _ rfl (.inr rfl),
    numbered _ _ _ _ rfl (.inr rfl)⟩

-- A month's name first, in whole or in part.
theorem reaches_named {s rest : List Char} {c : Char} (begun : s = c :: rest) (letter : c.isAlpha = true)
    (own : namedMonthDayYear.readDate? s = some d) : Reaches namedMonthDayYear s d := by
  subst begun
  exact ⟨[yearMonthDay,dayMonthYear,slashedMonthDayYear,slashedYearMonthDay],_,rfl,own,
    numbered_cases fun item width m items wide _ => Layout.readDate?_letter wide letter rest _⟩

theorem monthLetters_begun (d : Date) : ∃ c rest, monthLetters d.month = c :: rest ∧ c.isAlpha = true := by
  obtain ⟨_,⟨first,last⟩,_⟩ := d.valid
  obtain ⟨long,letters,_⟩ := monthLetters_facts first last
  obtain ⟨c,rest,split⟩ := List.exists_cons_of_length_pos (Nat.lt_of_lt_of_le (by decide) long)
  exact ⟨c,rest,split,letters c (by simp [split])⟩

theorem written_namedMonthDayYear (d : Date) :
    Reaches namedMonthDayYear (namedMonthDayYear.write (.ofDate d)) d := by
  obtain ⟨c,rest,split,letter⟩ := monthLetters_begun d
  have begun : namedMonthDayYear.write (.ofDate d) = monthLetters d.month ++
      Layout.write [.space,.day,.mark ',',.space,.year] (.ofDate d) := rfl
  rw [split] at begun
  exact reaches_named begun letter (Layout.readDate?_write rfl d rfl)

theorem written_shortMonthDayYear (d : Date) :
    Reaches namedMonthDayYear (shortMonthDayYear.write (.ofDate d)) d := by
  obtain ⟨c,rest,split,letter⟩ := monthLetters_begun d
  have begun : shortMonthDayYear.write (.ofDate d) = (monthLetters d.month).take 3 ++
      Layout.write [.space,.day,.mark ',',.space,.year] (.ofDate d) := rfl
  have own : shortMonthDayYear.readDate? (shortMonthDayYear.write (.ofDate d)) = some d :=
    Layout.readDate?_write rfl d rfl
  rw [split] at begun
  exact reaches_named begun letter own

theorem written_shortDayMonthYear (d : Date) :
    Reaches namedDayMonthYear (shortDayMonthYear.write (.ofDate d)) d := by
  have own : shortDayMonthYear.readDate? (shortDayMonthYear.write (.ofDate d)) = some d :=
    Layout.readDate?_write rfl d rfl
  have written : shortDayMonthYear.write (.ofDate d) = padded 2 d.day ++
      ' ' :: Layout.write [.monthAbbreviation,.space,.year] (.ofDate d) := rfl
  refine ⟨[yearMonthDay,dayMonthYear,slashedMonthDayYear,slashedYearMonthDay] ++ [namedMonthDayYear],[],rfl,
    own,List.forall_mem_append.mpr ⟨?_,?_⟩⟩
  · refine numbered_cases fun item width m items wide mark => ?_
    have other : ' ' ≠ m := by rcases mark with rfl | rfl <;> decide
    exact Layout.readDate?_pair wide d.day_lt rfl other _ items
  · obtain ⟨c,rest,split⟩ := List.exists_cons_of_ne_nil (padded_some 2 d.day)
    have digit := padded_digits 2 d.day c (by simp [split])
    rw [List.forall_mem_singleton,written,split]
    exact Layout.readDate?_nameless digit _ _

end Date

-- A text between blanks, which is read as it is, unless it is one of eight digits.
theorem parseDate_around {before after : String} {s : List Char} {d : Date} (trimmed : Trimmed s)
    (leading : isAllBlank before = true) (trailing : isAllBlank after = true)
    (read : (if s.length = 8 ∧ s.all Char.isDigit then compactDate? s
      else dateLayouts.findSome? fun layout => layout.readDate? s) = some d) :
    parseDate (before ++ String.ofList s ++ after) = .ok d := by
  have trim : trim (before ++ String.ofList s ++ after).toList = s := by
    rw [String.toList_append,String.toList_append,String.toList_ofList]
    exact trimmed.trim_around (List.all_eq_true.mp leading) (List.all_eq_true.mp trailing)
  have found : readDate? (before ++ String.ofList s ++ after) = some d := by
    rw [readDate?,trim]
    exact read
  rw [parseDate,found]

theorem Reaches.parsed {layout written : Layout} {before after : String} {d : Date}
    (reaches : Reaches layout (written.write (.ofDate d)) d) (closed : written.isClosed = true)
    (marked : written.isMarked = true) (leading : isAllBlank before = true)
    (trailing : isAllBlank after = true) :
    parseDate (before ++ String.ofList (written.write (.ofDate d)) ++ after) = .ok d := by
  refine parseDate_around (Layout.write_trimmed closed _) leading trailing ?_
  rw [if_neg (Layout.write_not_digits marked _),reaches.found]

theorem Date.IsCommon.written_compact {d : Date} (common : d.IsCommon) :
    (compact.write (.ofDate d)).length = 8 ∧ (compact.write (.ofDate d)).all Char.isDigit = true ∧
      compactDate? (compact.write (.ofDate d)) = some d := by
  obtain ⟨fits,text⟩ := common.year
  have written : compact.write (.ofDate d) =
      padded 4 d.year.toNat ++ (padded 2 d.month ++ (padded 2 d.day ++ [])) := by
    rw [← text]
    rfl
  have year := padded_length (show 0 < 4 by decide) fits
  have month := padded_length (show 0 < 2 by decide) d.month_lt
  have day := padded_length (show 0 < 2 by decide) d.day_lt
  have whole : (d.year.toNat : Int) = d.year := Int.toNat_of_nonneg common.1
  rw [written,List.append_nil]
  refine ⟨by simp [year,month,day],?_,?_⟩
  · simp only [List.all_append,Bool.and_eq_true,List.all_eq_true]
    exact ⟨padded_digits _ _,padded_digits _ _,padded_digits _ _⟩
  · have later : (padded 4 d.year.toNat ++ (padded 2 d.month ++ padded 2 d.day)).drop 6 =
        padded 2 d.day := by
      rw [← List.append_assoc]
      exact List.drop_left' (by simp [year,month])
    rw [compactDate?,later,List.take_left' year,List.drop_left' year,List.take_left' month,
      List.take_of_length_le day.le,digits?_padded,digits?_padded,digits?_padded]
    dsimp only
    rw [whole]
    exact dif_pos d.valid

theorem layouts_found_apart {d : Date} (common : 0 ≤ d.year ∧ d.year ≤ 9999) {layout : Layout}
    (documented : layout ∈ documentedLayouts) {before after : String}
    (leading : isAllBlank before = true) (trailing : isAllBlank after = true) :
    parseDate (before ++ String.ofList (layout.write (.ofDate d)) ++ after) = .ok d := by
  have common : d.IsCommon := common
  simp only [documentedLayouts,List.mem_cons,List.not_mem_nil,or_false] at documented
  rcases documented with rfl | rfl | rfl | rfl | rfl | rfl | rfl | rfl
  · exact d.written_yearMonthDay.parsed rfl rfl leading trailing
  · exact common.written_dayMonthYear.parsed rfl rfl leading trailing
  · exact d.written_slashedMonthDayYear.parsed rfl rfl leading trailing
  · exact common.written_slashedYearMonthDay.parsed rfl rfl leading trailing
  · obtain ⟨length,all,read⟩ := common.written_compact
    exact parseDate_around (Layout.write_trimmed rfl _) leading trailing
      (by rw [if_pos ⟨length,all⟩,read])
  · exact d.written_shortMonthDayYear.parsed rfl rfl leading trailing
  · exact d.written_namedMonthDayYear.parsed rfl rfl leading trailing
  · exact d.written_shortDayMonthYear.parsed rfl rfl leading trailing

-- Days whose year has more zeros than digits, and a month whose name is its own abbreviation.
theorem layouts_found_apart_early :
    ("\t" ++ String.ofList (dayMonthYear.write (.ofDate ⟨12,2,29,by decide⟩)) ++ " " = "\t29-02-0012 " ∧
      parseDate "\t29-02-0012 " = .ok ⟨12,2,29,by decide⟩) ∧
    ("" ++ String.ofList (shortMonthDayYear.write (.ofDate ⟨5,5,5,by decide⟩)) ++ "\n" = "May 05, 0005\n" ∧
      parseDate "May 05, 0005\n" = .ok ⟨5,5,5,by decide⟩) := by
  have first : "\t" ++ String.ofList (dayMonthYear.write (.ofDate ⟨12,2,29,by decide⟩)) ++ " " =
      "\t29-02-0012 " := by decide +kernel
  have second : "" ++ String.ofList (shortMonthDayYear.write (.ofDate ⟨5,5,5,by decide⟩)) ++ "\n" =
      "May 05, 0005\n" := by decide +kernel
  refine ⟨⟨first,?_⟩,second,?_⟩
  · rw [← first]
    exact layouts_found_apart (by decide) (by decide) (by decide) (by decide)
  · rw [← second]
    exact layouts_found_apart (by decide) (by decide) (by decide) (by decide)

end DataAccess.Calendar
