import DataAccess.Proofs.Calendar.Texts
import DataAccess.Proofs.Number.Digits
import DataAccess.Proofs.Text.Capitals

-- What a layout writes it reads back, if its items can be told apart: a number ends where its width
-- does or no digit follows, and a short month name where no letter follows. So every timestamp is
-- read back from its parts, but for one with a leap second that is not the last of its minute.
namespace DataAccess.Calendar
open Number Text

theorem takeNumber_digits {digits rest : List Char} {width n : Nat}
    (all : ∀ c ∈ digits, c.isDigit = true) (read : digits? digits = some n)
    (fits : digits.length ≤ width)
    (ends : digits.length = width ∨ ∀ c ∈ rest.head?, c.isDigit = false) :
    takeNumber width (digits ++ rest) = some (n,rest) := by
  have stopped : (rest.take (width - digits.length)).takeWhile Char.isDigit = [] := by
    rcases ends with full | stop
    · rw [full,Nat.sub_self]
      rfl
    · cases rest with
      | nil => simp
      | cons c rest =>
        cases width - digits.length with
        | zero => rfl
        | succ left => simp [stop c rfl]
  have taken : ((digits ++ rest).take width).takeWhile Char.isDigit = digits := by
    rw [List.take_append,List.take_of_length_le fits,List.takeWhile_append_of_pos all,stopped,
      List.append_nil]
  rw [takeNumber,taken,read,Option.map_some,List.drop_left]

theorem takeNumber_padded {width n : Nat} (some : 0 < width) (fits : n < 10 ^ width)
    (rest : List Char) : takeNumber width (padded width n ++ rest) = .some (n,rest) :=
  takeNumber_digits (padded_digits width n) (digits?_padded width n) (padded_length some fits).le
    (.inl (padded_length some fits))

theorem numberItem_padded {n : Nat} (fits : n < 100) (rest : List Char) :
    numberItem 2 (padded 2 n ++ rest) = some (n,rest) := by
  rw [numberItem,trimStart_kept ((padded_solid 2 n).starts rest)]
  exact takeNumber_padded (by decide) fits rest

-- A text that begins with no blank and no sign.
def Unsigned (s : List Char) : Prop := ∀ c ∈ s.head?, isBlank c = false ∧ c ≠ '-' ∧ c ≠ '+'

theorem unsigned_digits {digits : List Char} (some : digits ≠ [])
    (all : ∀ c ∈ digits, c.isDigit = true) (rest : List Char) : Unsigned (digits ++ rest) := by
  intro c first
  rw [List.head?_append_of_ne_nil _ some] at first
  have digit := all c (List.mem_of_mem_head? first)
  refine ⟨isBlank_of_digit digit,?_,?_⟩ <;> rintro rfl <;> cases digit

theorem yearItem_unsigned {s : List Char} (plain : Unsigned s) :
    yearItem s = (takeNumber 4 s).map fun taken => ((taken.1 : Int),taken.2) := by
  rw [yearItem,trimStart_kept fun c first => (plain c first).1]
  split
  · exact absurd rfl (plain '-' rfl).2.1
  · exact absurd rfl (plain '+' rfl).2.2
  · rfl

theorem yearItem_yearText (year : Int) {rest : List Char}
    (ends : ∀ c ∈ rest.head?, c.isDigit = false) : yearItem (yearText year ++ rest) = some (year,rest) := by
  have signed : takeNumber (padded 4 year.natAbs ++ rest).length (padded 4 year.natAbs ++ rest) =
      some (year.natAbs,rest) :=
    takeNumber_digits (padded_digits _ _) (digits?_padded _ _) (by simp) (.inr ends)
  unfold yearText
  split
  · rename_i common
    have same : (year.toNat : Int) = year := Int.toNat_of_nonneg common.1
    rw [yearItem_unsigned (unsigned_digits (padded_some _ _) (padded_digits _ _) rest),
      takeNumber_padded (by decide) (by omega),Option.map_some]
    dsimp only
    rw [same]
  · rename_i uncommon
    split
    · rename_i negative
      have same : -(year.natAbs : Int) = year := by omega
      refine (congrArg (Option.map _) signed).trans ?_
      rw [Option.map_some]
      dsimp only
      rw [same]
    · have same : (year.natAbs : Int) = year := by omega
      refine (congrArg (Option.map _) signed).trans ?_
      rw [Option.map_some]
      dsimp only
      rw [same]

theorem fractionItem_padded {width n : Nat} (some : 0 < width) (short : width ≤ 9)
    (fits : n < 10 ^ width) {rest : List Char} (ends : ∀ c ∈ rest.head?, c.isDigit = false) :
    fractionItem ('.' :: padded width n ++ rest) = .some (.some (n * 10 ^ (9 - width)),rest) := by
  have length := padded_length some fits
  have read : takeNumber 9 (padded width n ++ rest) = .some (n,rest) :=
    takeNumber_digits (padded_digits _ _) (digits?_padded _ _) (by omega) (.inr ends)
  have behind : rest.dropWhile Char.isDigit = rest := by
    cases rest with
    | nil => rfl
    | cons c rest => exact List.dropWhile_cons_of_neg (by simp [ends c rfl])
  rw [List.cons_append,fractionItem,read,Option.map_some]
  dsimp only
  rw [behind,List.length_append,length,Nat.add_sub_cancel,Nat.pow_eq]

theorem fractionItem_none {rest : List Char} (ends : ∀ c ∈ rest.head?, c ≠ '.') :
    fractionItem rest = some (none,rest) := by
  unfold fractionItem
  split
  · exact absurd rfl (ends '.' rfl)
  · rfl

theorem fractionItem_text {nanos : Nat} (fits : nanos < 1_000_000_000) {rest : List Char}
    (ends : ∀ c ∈ rest.head?, c.isDigit = false ∧ c ≠ '.') :
    fractionItem (fractionText nanos ++ rest) = some (if nanos = 0 then none else some nanos,rest) := by
  have stops : ∀ c ∈ rest.head?, c.isDigit = false := fun c first => (ends c first).1
  unfold fractionText
  split
  · exact fractionItem_none fun c first => (ends c first).2
  · split
    · have whole : nanos / 1_000_000 * 10 ^ 6 = nanos := by omega
      rw [fractionItem_padded (by decide) (by decide) (by omega) stops,whole]
    · split
      · have whole : nanos / 1000 * 10 ^ 3 = nanos := by omega
        rw [fractionItem_padded (by decide) (by decide) (by omega) stops,whole]
      · rw [fractionItem_padded (by decide) (by decide) (by omega) stops,Nat.sub_self,Nat.pow_zero,
          Nat.mul_one]

-- The letters of a month's name.
def monthLetters (month : Nat) : List Char := ((monthNames[month - 1]?).getD "").toList

theorem monthLetters_facts {month : Nat} (first : 1 ≤ month) (last : month ≤ 12) :
    3 ≤ (monthLetters month).length ∧ (∀ c ∈ monthLetters month, c.isAlpha = true) ∧
      ∀ c ∈ (monthLetters month).drop 3, c.isUpper = false := by
  have checked : 3 ≤ (monthLetters month).length ∧ (monthLetters month).all Char.isAlpha = true ∧
      ((monthLetters month).drop 3).any Char.isUpper = false := by
    interval_cases month <;> decide
  obtain ⟨long,letters,small⟩ := checked
  exact ⟨long,List.all_eq_true.mp letters,
    fun c member => Bool.eq_false_iff.mpr (List.any_eq_false.mp small c member)⟩

theorem monthItem_begun {month : Nat} (first : 1 ≤ month) (last : month ≤ 12) (rest : List Char) :
    monthItem ((monthLetters month).take 3 ++ rest) =
      some (month,(afterWord? ((monthLetters month).drop 3) rest).getD rest) := by
  interval_cases month <;> rfl

theorem afterWord?_self (word rest : List Char) : afterWord? word (word ++ rest) = some rest := by
  rw [afterWord?,List.take_left,if_pos rfl,List.drop_left]

-- Small letters are not found where no letter stands.
theorem afterWord?_stopped {word rest : List Char} (letters : ∀ c ∈ word, c.isAlpha = true)
    (small : ∀ c ∈ word, c.isUpper = false) (stops : ∀ c ∈ rest.head?, c.isAlpha = false) :
    (afterWord? word rest).getD rest = rest := by
  cases word with
  | nil => rfl
  | cons letter word =>
    have other : ¬ (rest.take (letter :: word).length).map Char.toLower =
        (letter :: word).map Char.toLower := by
      intro same
      cases rest with
      | nil => cases same
      | cons c rest =>
        have plain : c.isUpper = false := (Bool.or_eq_false_iff.mp (stops c rfl)).1
        have lower : c.toLower = letter.toLower := (List.cons.inj same).1
        rw [toLower_plain.mpr plain,toLower_plain.mpr (small letter (by simp))] at lower
        cases lower
        cases (stops letter rfl).symm.trans (letters letter (by simp))
    rw [afterWord?,if_neg other]
    rfl

namespace Item

-- The characters that may stand behind an item's text for it to be read as it was written.
def Allows : Item → Char → Prop
  | year,c => c.isDigit = false
  | fraction,c => c.isDigit = false ∧ c ≠ '.'
  | monthAbbreviation,c => c.isAlpha = false
  | space,c => isBlank c = false
  | _,_ => True

-- What an item that was written adds to the parts that were read before.
def put (t : Timestamp) (p : Parts) : Item → Parts
  | year => { p with year := some t.date.year }
  | month | monthName | monthAbbreviation => { p with month := some t.date.month }
  | day => { p with day := some t.date.day }
  | hour => { p with hour := some t.time.hour }
  | minute => { p with minute := some t.time.minute }
  | second => { p with second := some (t.time.second + t.time.nanos / 1_000_000_000) }
  | fraction =>
    let nanos := t.time.nanos % 1_000_000_000
    { p with nanos := if nanos = 0 then none else some nanos }
  | space | mark _ => p

theorem read_write (item : Item) (t : Timestamp) (p : Parts) {rest : List Char}
    (allowed : ∀ c ∈ rest.head?, item.Allows c) :
    item.read p (item.write t ++ rest) = some (item.put t p,rest) := by
  obtain ⟨_,⟨first,last⟩,_,inside⟩ := t.date.valid
  have days := daysInMonth_le t.date.year t.date.month
  have seconds := t.time.seconds_lt
  have nanos := t.time.nanos_lt
  have fitting {n : Nat} (fits : n < 100) := numberItem_padded fits rest
  cases item with
  | year => exact congrArg (Option.map _) (yearItem_yearText t.date.year allowed)
  | month => exact congrArg (Option.map _) (fitting (by omega))
  | day => exact congrArg (Option.map _) (fitting (by omega))
  | hour => exact congrArg (Option.map _) (fitting (by unfold Time.hour; omega))
  | minute => exact congrArg (Option.map _) (fitting (by unfold Time.minute; omega))
  | second => exact congrArg (Option.map _) (fitting (by unfold Time.second; omega))
  | fraction =>
    exact congrArg (Option.map _) (fractionItem_text (Nat.mod_lt _ (by decide)) allowed)
  | monthName =>
    have split : monthLetters t.date.month ++ rest = (monthLetters t.date.month).take 3 ++
        ((monthLetters t.date.month).drop 3 ++ rest) := by
      rw [← List.append_assoc,List.take_append_drop]
    have read := monthItem_begun first last ((monthLetters t.date.month).drop 3 ++ rest)
    rw [afterWord?_self,← split] at read
    exact congrArg (Option.map _) read
  | monthAbbreviation =>
    obtain ⟨_,letters,small⟩ := monthLetters_facts first last
    have read := monthItem_begun first last rest
    rw [afterWord?_stopped (fun c member => letters c (List.mem_of_mem_drop member)) small allowed]
      at read
    exact congrArg (Option.map _) read
  | space =>
    have kept : trimStart ([' '] ++ rest) = rest := by
      rw [trimStart_blank (by simp; rfl),trimStart_kept allowed]
    exact congrArg (fun rest => some (p,rest)) kept
  | mark c => exact if_pos rfl

-- The items whose texts are without blanks, and not empty.
def isSolid : Item → Bool
  | fraction | space => false
  | mark c => !isBlank c
  | _ => true

theorem write_solid {item : Item} (solid : item.isSolid = true) (t : Timestamp) :
    Solid (item.write t) := by
  obtain ⟨_,⟨first,last⟩,_⟩ := t.date.valid
  obtain ⟨long,letters,_⟩ := monthLetters_facts first last
  have plain : ∀ c ∈ monthLetters t.date.month, isBlank c = false := fun c member =>
    isBlank_of_alphanum (isAlphanum_iff.mpr (.inl (letters c member)))
  cases item with
  | year =>
    change Solid (yearText t.date.year)
    unfold yearText
    split
    · exact padded_solid _ _
    · have sign : Solid [if t.date.year < 0 then '-' else '+'] := by
        split <;> exact ⟨List.cons_ne_nil _ _,by simp; rfl⟩
      exact sign.append (padded_solid _ _)
  | month | day | hour | minute | second => exact padded_solid _ _
  | monthName => exact ⟨List.ne_nil_of_length_pos (Nat.lt_of_lt_of_le (by decide) long),plain⟩
  | monthAbbreviation =>
    have begun : ((monthLetters t.date.month).take 3).length = 3 := by
      rw [List.length_take]
      omega
    exact ⟨List.ne_nil_of_length_pos (begun ▸ Nat.succ_pos 2),
      fun c member => plain c (List.mem_of_mem_take member)⟩
  | mark c => exact ⟨by simp [write],by simpa [write,isSolid] using solid⟩
  | fraction | space => cases solid

-- An item and the next one that can be told apart, whatever they write.
def isEndedBy : Item → Item → Bool
  | year,mark c => !c.isDigit
  | monthAbbreviation,mark c => !c.isAlpha
  | year,space | monthAbbreviation,space => true
  | space,next => next.isSolid
  | year,_ | monthAbbreviation,_ | fraction,_ => false
  | _,_ => true

theorem allows_write {item next : Item} (ended : item.isEndedBy next = true) (t : Timestamp)
    (rest : List Char) : ∀ c ∈ (next.write t ++ rest).head?, item.Allows c := by
  intro c first
  cases item with
  | year =>
    cases next with
    | mark d =>
      cases first
      exact (Bool.not_eq_true' _).mp ended
    | space =>
      cases first
      rfl
    | year | month | day | hour | minute | second | fraction | monthName | monthAbbreviation => cases ended
  | monthAbbreviation =>
    cases next with
    | mark d =>
      cases first
      exact (Bool.not_eq_true' _).mp ended
    | space =>
      cases first
      rfl
    | year | month | day | hour | minute | second | fraction | monthName | monthAbbreviation => cases ended
  | space => exact (write_solid ended t).starts rest c first
  | fraction => cases next <;> cases ended
  | month | day | hour | minute | second | monthName | mark => trivial

end Item

namespace Layout

def isDelimited : Layout → Bool
  | item :: next :: items => item.isEndedBy next && isDelimited (next :: items)
  | _ => true

theorem isDelimited_cons {item : Item} {items : Layout} (delimited : isDelimited (item :: items) = true) :
    isDelimited items = true ∧
      ∀ t, ∀ c ∈ (write items t).head?, item.Allows c := by
  cases items with
  | nil => exact ⟨rfl,fun t c first => by cases first⟩
  | cons next items =>
    obtain ⟨ended,others⟩ := Bool.and_eq_true_iff.mp delimited
    exact ⟨others,fun t => Item.allows_write ended t (write items t)⟩

theorem readParts_write {layout : Layout} (delimited : layout.isDelimited = true) (t : Timestamp)
    (p : Parts) : layout.readParts p (layout.write t) = some (layout.foldl (Item.put t) p,[]) := by
  induction layout generalizing p with
  | nil => rfl
  | cons item items ih =>
    obtain ⟨others,allowed⟩ := isDelimited_cons delimited
    change (item.read p (item.write t ++ write items t)).bind _ = _
    rw [item.read_write t p (allowed t),Option.bind_some]
    exact ih others (item.put t p)

theorem parts?_write {layout : Layout} (delimited : layout.isDelimited = true) (t : Timestamp) :
    layout.parts? (layout.write t) = some (layout.foldl (Item.put t) Parts.none) := by
  rw [parts?,readParts_write delimited]

-- A layout that has the year, the month and the day.
theorem readDate?_write {layout : Layout} (delimited : layout.isDelimited = true) (d : Date)
    (whole : (layout.foldl (Item.put (.ofDate d)) Parts.none).date? = Date.of? d.year d.month d.day) :
    layout.readDate? (layout.write (.ofDate d)) = some d := by
  rw [readDate?,parts?_write delimited,Option.bind_some,whole]
  exact dif_pos d.valid

-- The layouts whose first and last items are solid.
def isClosed (layout : Layout) : Bool := layout.head?.any Item.isSolid && layout.getLast?.any Item.isSolid

theorem write_trimmed {layout : Layout} (closed : layout.isClosed = true) (t : Timestamp) :
    Trimmed (layout.write t) := by
  obtain ⟨starts,ends⟩ := Bool.and_eq_true_iff.mp closed
  obtain ⟨first,atFirst,begun⟩ := (Option.any_eq_true _ _).mp starts
  obtain ⟨last,atLast,ended⟩ := (Option.any_eq_true _ _).mp ends
  constructor
  · obtain ⟨items,rfl⟩ := List.head?_eq_some_iff.mp atFirst
    exact (first.write_solid begun t).starts (write items t)
  · obtain ⟨items,rfl⟩ := List.getLast?_eq_some_iff.mp atLast
    have solid := last.write_solid ended t
    have written : write (items ++ [last]) t = write items t ++ last.write t := by simp [write]
    rw [written,List.getLast?_append_of_ne_nil _ solid.some]
    exact solid.trimmed.ends

-- The layouts that write something else than digits.
def isMarked (layout : Layout) : Bool :=
  layout.any fun item => match item with
    | .space => true
    | .mark c => !c.isDigit
    | _ => false

theorem write_not_digits {layout : Layout} (marked : layout.isMarked = true) (t : Timestamp) :
    ¬ ((layout.write t).length = 8 ∧ (layout.write t).all Char.isDigit = true) := by
  rintro ⟨_,all⟩
  obtain ⟨item,member,mark⟩ := List.any_eq_true.mp marked
  have digit {c : Char} (own : c ∈ item.write t) : c.isDigit = true :=
    List.all_eq_true.mp all c (List.mem_flatMap.mpr ⟨item,member,own⟩)
  cases item with
  | space => cases digit (List.mem_singleton_self ' ')
  | mark c =>
    have plain : c.isDigit = false := (Bool.not_eq_true' _).mp mark
    cases plain.symm.trans (digit (List.mem_singleton_self c))
  | year | month | day | hour | minute | second | fraction | monthName | monthAbbreviation => cases mark

end Layout

end DataAccess.Calendar
