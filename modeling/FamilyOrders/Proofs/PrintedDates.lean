import FamilyOrders.Calendar.Basic
import FamilyOrders.Proofs.Numerals
import FamilyOrders.Text.Characters

/-!
# Printed dates

Dates as they are written in a case file and as they are printed: what is
written is read back, and no two days or moments are printed alike, in either
language.
-/

namespace FamilyOrders

/-! ## What printed dates look like

A printed date starts with the digits of its day, so it is never blank. -/

namespace Text

theorem isBlank_of_isDigit
    {c : Char} (hc : c.isDigit = true) : isBlank c = false := by
  have hblanks : ∀ d, isBlank d = true → d.isDigit = false := by
    intro d hd
    simp only [isBlank, List.contains_eq_mem, decide_eq_true_eq] at hd
    revert d
    simp
  cases hblank : isBlank c with
  | false => rfl
  | true =>
      rw [hblanks c hblank] at hc
      contradiction

theorem allBlank_eq_false_of_mem
    {c : Char} {s : String} (hmem : c ∈ s.toList) (hc : isBlank c = false) :
    allBlank s = false := by
  rw [allBlank, List.all_eq_false]
  exact ⟨c, hmem, by simp [hc]⟩

end Text

namespace Calendar

open FamilyOrders.Text

theorem Date.exists_mem_printedChars (date : Date) (language : Language) :
    ∃ c ∈ date.printedChars language, isBlank c = false := by
  obtain ⟨c, hc⟩ :=
    List.exists_mem_of_ne_nil (digits date.day) Nat.toDigits_ne_nil
  refine ⟨c, ?_, isBlank_of_isDigit (isDigit_of_mem_digits hc)⟩
  simp [Date.printedChars, hc]

theorem Date.allBlank_printed (date : Date) (language : Language) :
    allBlank (date.printed language) = false := by
  obtain ⟨c, hmem, hc⟩ := date.exists_mem_printedChars language
  apply allBlank_eq_false_of_mem (c := c)
  · simpa [Date.printed] using hmem
  · exact hc

theorem Moment.allBlank_printed (moment : Moment) (language : Language) :
    allBlank (moment.printed language) = false := by
  obtain ⟨c, hmem, hc⟩ := moment.date.exists_mem_printedChars language
  apply allBlank_eq_false_of_mem (c := c)
  · simp [Moment.printed, hmem]
  · exact hc

end Calendar

/-! ## Written dates read back

A date or a moment is read back from its own notation, whatever its year, its
fraction of a second and also within a leap second.  Each part ends where the
next one starts: by its width, or because the next character is no digit. -/

namespace Text

theorem dropWhile_isBlank_of_digit
    {run : List Char} (hdigits : ∀ c ∈ run, c.isDigit = true) (hsome : run ≠ [])
    (rest : List Char) :
    (run ++ rest).dropWhile isBlank = run ++ rest := by
  obtain ⟨first, others, rfl⟩ := List.exists_cons_of_ne_nil hsome
  have hfirst := isBlank_of_isDigit (hdigits first List.mem_cons_self)
  rw [List.cons_append, List.dropWhile_cons_of_neg]
  rw [hfirst]
  exact Bool.false_ne_true

end Text

namespace Calendar

open FamilyOrders.Text

/-- The text does not go on with a digit. -/
def StopsDigits (cs : List Char) : Prop :=
  ∀ c, cs.head? = some c → c.isDigit = false

theorem stopsDigits_cons
    {c : Char} (hc : c.isDigit = false) (cs : List Char) :
    StopsDigits (c :: cs) := by
  intro first hfirst
  cases hfirst
  exact hc

theorem readDigits_append
    {width : Nat} {run rest : List Char} (hdigits : ∀ c ∈ run, c.isDigit = true)
    (hsome : run ≠ []) (hwidth : run.length ≤ width)
    (hstop : run.length = width ∨ StopsDigits rest) :
    readDigits width (run ++ rest) = some (run, rest) := by
  have hrest :
      (rest.take (width - run.length)).takeWhile Char.isDigit = [] := by
    rcases hstop with hfull | hstop
    · rw [hfull, Nat.sub_self, List.take_zero, List.takeWhile_nil]
    · cases rest with
      | nil => rw [List.take_nil, List.takeWhile_nil]
      | cons c others =>
          have hc := hstop c rfl
          cases width - run.length with
          | zero => rfl
          | succ more =>
              rw [List.take_succ_cons, List.takeWhile_cons_of_neg]
              rw [hc]
              exact Bool.false_ne_true
  have hrun : ((run ++ rest).take width).takeWhile Char.isDigit = run := by
    rw [List.take_append, List.take_of_length_le hwidth,
      List.takeWhile_append_of_pos hdigits, hrest, List.append_nil]
  have hempty : run.isEmpty = false := by
    rw [List.isEmpty_eq_false_iff]
    exact hsome
  rw [readDigits, hrun, hempty, List.drop_left]
  rfl

theorem readDigits_paddedDigits
    {width n : Nat} (hwidth : 0 < width) (hn : n < 10 ^ width)
    (rest : List Char) :
    readDigits width (paddedDigits width n ++ rest) =
      some (paddedDigits width n, rest) := by
  have hlength := length_paddedDigits hwidth hn
  exact readDigits_append (fun _ => isDigit_of_mem_paddedDigits)
    (paddedDigits_ne_nil width n)
    (Nat.le_of_eq hlength) (.inl hlength)

theorem readPart_paddedDigits
    {n : Nat} (hn : n < 100) (rest : List Char) :
    readPart 2 (paddedDigits 2 n ++ rest) = some (n, rest) := by
  rw [readPart, dropWhile_isBlank_of_digit
    (fun _ => isDigit_of_mem_paddedDigits)
    (paddedDigits_ne_nil 2 n), readDigits_paddedDigits
    (by decide) hn, Option.map_some]
  dsimp only
  rw [digitsValue_paddedDigits]

theorem readMark_cons
    {mark : Char} (hmark : isBlank mark = false) (rest : List Char) :
    readMark mark (mark :: rest) = some rest := by
  have hdrop : (mark :: rest).dropWhile isBlank = mark :: rest := by
    rw [List.dropWhile_cons_of_neg]
    rw [hmark]
    exact Bool.false_ne_true
  rw [readMark, hdrop]
  exact if_pos rfl

/-! ### Dates -/

theorem readDigits_signed
    {rest : List Char} (hstop : StopsDigits rest) (n : Nat) :
    readDigits (paddedDigits 4 n ++ rest).length (paddedDigits 4 n ++ rest) =
      some (paddedDigits 4 n, rest) := by
  apply readDigits_append (fun _ => isDigit_of_mem_paddedDigits)
    (paddedDigits_ne_nil 4 n)
  · rw [List.length_append]
    exact Nat.le_add_right _ _
  · exact .inr hstop

/-- A year that begins with a digit has no sign. -/
theorem readYear_of_digits
    {run : List Char} (hdigits : ∀ c ∈ run, c.isDigit = true) (hsome : run ≠ [])
    (rest : List Char) :
    readYear (run ++ rest) =
      (readDigits 4 (run ++ rest)).map fun (run, rest) =>
      ((digitsValue run : Int), rest) := by
  rw [readYear, dropWhile_isBlank_of_digit hdigits hsome]
  obtain ⟨first, others, rfl⟩ := List.exists_cons_of_ne_nil hsome
  have hfirst := hdigits first List.mem_cons_self
  split
  · rename_i heq
    cases heq
    cases hfirst
  · rename_i heq
    cases heq
    cases hfirst
  · rfl

theorem readYear_yearChars
    {rest : List Char} (hstop : StopsDigits rest) (year : Int) :
    readYear (yearChars year ++ rest) = some (year, rest) := by
  unfold yearChars
  by_cases hplain : 0 ≤ year ∧ year ≤ 9999
  · have hn : year.toNat < 10 ^ 4 := by omega
    rw [if_pos hplain, readYear_of_digits (fun _ => isDigit_of_mem_paddedDigits)
      (paddedDigits_ne_nil 4 year.toNat), readDigits_paddedDigits
      (by decide) hn, Option.map_some]
    dsimp only
    rw [digitsValue_paddedDigits, Int.toNat_of_nonneg hplain.1]
  · rw [if_neg hplain]
    have hread := readDigits_signed hstop year.natAbs
    by_cases hnegative : year < 0
    · have hvalue : -(year.natAbs : Int) = year := by omega
      rw [if_pos hnegative, List.cons_append]
      change (readDigits _ _).map _ = _
      rw [hread, Option.map_some]
      dsimp only
      rw [digitsValue_paddedDigits, hvalue]
    · have hvalue : (year.natAbs : Int) = year := by omega
      rw [if_neg hnegative, List.cons_append]
      change (readDigits _ _).map _ = _
      rw [hread, Option.map_some]
      dsimp only
      rw [digitsValue_paddedDigits, hvalue]

theorem Date.of?_parts
    (date : Date) :
    Date.of? date.year (date.month.val + 1) date.day = some date := by
  have hmonth : 1 ≤ date.month.val + 1 ∧ date.month.val + 1 ≤ 12 :=
    ⟨Nat.le_add_left _ _, date.month.isLt⟩
  unfold Date.of?
  rw [dif_pos hmonth, dif_pos date.year_mem]
  exact dif_pos date.day_mem

theorem Date.day_le
    (date : Date) :
    date.day ≤ 31 := by
  have hmonth : daysInMonth date.year date.month ≤ 31 := by
    unfold daysInMonth
    repeat' split
    all_goals decide
  exact Nat.le_trans date.day_mem.2 hmonth

theorem Date.day_lt_hundred
    (date : Date) :
    date.day < 100 :=
  Nat.lt_of_le_of_lt date.day_le (by decide)

theorem readDate_chars
    (date : Date) (rest : List Char) :
    readDate (date.chars ++ rest) = some (date, rest) := by
  have hmonth : date.month.val + 1 < 100 := by omega
  have hdash : isBlank '-' = false := by decide
  unfold readDate Date.chars
  simp only [List.append_assoc, List.cons_append]
  rw [readYear_yearChars (stopsDigits_cons (by decide) _)]
  simp only [Option.bind_eq_bind, Option.bind_some, readMark_cons hdash,
    readPart_paddedDigits hmonth, readPart_paddedDigits date.day_lt_hundred,
      date.of?_parts]
  rfl

/-! ### Times -/

theorem readFraction_paddedDigits
    {width n : Nat} (hwidth : 0 < width) (hnine : width ≤ 9)
    (hn : n < 10 ^ width) :
    readFraction ('.' :: paddedDigits width n) =
      some (n * 10 ^ (9 - width), []) := by
  have hlength := length_paddedDigits hwidth hn
  have hread :
      readDigits 9 (paddedDigits width n ++ []) =
        some (paddedDigits width n, []) :=
    readDigits_append (fun _ => isDigit_of_mem_paddedDigits)
      (paddedDigits_ne_nil width n)
      (Nat.le_trans (Nat.le_of_eq hlength) hnine) (.inr nofun)
  rw [List.append_nil] at hread
  change (readDigits 9 (paddedDigits width n)).map _ = _
  rw [hread, Option.map_some]
  dsimp only
  rw [digitsValue_paddedDigits, hlength]
  rfl

theorem readFraction_fractionChars
    {nanos : Nat} (hnanos : nanos < nanosPerSecond) :
    readFraction (fractionChars nanos) = some (nanos, []) := by
  have hbound : nanos < 1000000000 := hnanos
  unfold fractionChars
  split
  · rename_i hzero
    rw [hzero]
    rfl
  split
  · rename_i hmillis
    have hn : nanos / 1000000 < 10 ^ 3 := by omega
    have hvalue : nanos / 1000000 * 10 ^ (9 - 3) = nanos := by omega
    rw [readFraction_paddedDigits (by decide) (by decide) hn, hvalue]
  split
  · rename_i hmicros
    have hn : nanos / 1000 < 10 ^ 6 := by omega
    have hvalue : nanos / 1000 * 10 ^ (9 - 6) = nanos := by omega
    rw [readFraction_paddedDigits (by decide) (by decide) hn, hvalue]
  · rw [readFraction_paddedDigits (by decide) (by decide) hbound, Nat.sub_self,
      Nat.pow_zero, Nat.mul_one]

theorem TimeOfDay.of?_written
    (time : TimeOfDay) :
    TimeOfDay.of? time.hour.val time.minute.val time.writtenSecond
      time.fraction = some time := by
  obtain ⟨hour, minute, second, nanos, hnanos, hleap⟩ := time
  have hfraction : nanos % nanosPerSecond < nanosPerSecond :=
    Nat.mod_lt _ (by decide)
  unfold of? writtenSecond fraction
  by_cases hplain : nanos < nanosPerSecond
  · simp only [if_pos hplain, Nat.mod_eq_of_lt hplain]
    rw [dif_pos ⟨hour.isLt, minute.isLt, Nat.le_of_lt second.isLt, hplain⟩,
      dif_pos second.isLt]
  · -- Within a leap second: the kept second is the last one, and the rest
    -- of the count is written.
    have hsecond : second = ⟨59, by decide⟩ :=
      Fin.ext (hleap (Nat.le_of_not_lt hplain))
    have hcount : nanosPerSecond + nanos % nanosPerSecond = nanos := by
      unfold nanosPerSecond at hnanos hplain ⊢
      omega
    simp only [if_neg hplain]
    rw [dif_pos ⟨hour.isLt, minute.isLt, Nat.le_refl _, hfraction⟩,
      dif_neg (by decide)]
    simp only [hcount, hsecond]

theorem TimeOfDay.writtenSecond_le
    (time : TimeOfDay) :
    time.writtenSecond ≤ 60 := by
  unfold writtenSecond
  split
  · exact Nat.le_of_lt time.second.isLt
  · exact Nat.le_refl _

theorem readTime_chars
    (time : TimeOfDay) :
    readTime time.chars = some (time, []) := by
  have hhour : time.hour.val < 100 := by omega
  have hminute : time.minute.val < 100 := by omega
  have hsecond : time.writtenSecond < 100 :=
    Nat.lt_of_le_of_lt time.writtenSecond_le (by decide)
  have hfraction : time.fraction < nanosPerSecond := Nat.mod_lt _ (by decide)
  have hcolon : isBlank ':' = false := by decide
  unfold readTime TimeOfDay.chars
  simp only [List.append_assoc, List.cons_append]
  simp only [Option.bind_eq_bind, Option.bind_some, readMark_cons hcolon,
    readPart_paddedDigits hhour, readPart_paddedDigits hminute,
      readPart_paddedDigits hsecond,
    readFraction_fractionChars hfraction, time.of?_written]
  rfl

/-! ### Texts -/

theorem Date.ofText?_text
    (date : Date) :
    Date.ofText? date.text = some date := by
  have hread := readDate_chars date []
  rw [List.append_nil] at hread
  rw [Date.ofText?, Date.text, String.toList_ofList, hread]
  rfl

theorem Moment.ofText?_text
    (moment : Moment) :
    Moment.ofText? moment.text = some moment := by
  have hmark : isBlank 'T' = false := by decide
  rw [Moment.ofText?, Moment.text, String.toList_ofList, Moment.chars]
  simp only [Option.bind_eq_bind, Option.bind_some, readDate_chars,
    readMark_cons hmark, readTime_chars]
  rfl

/-- A leap second of a year before year zero. -/
example :
    (Moment.ofText? "-0044-03-15T23:59:60.500").map (·.text) =
      some "-0044-03-15T23:59:60.500" := by
  decide

end Calendar

/-! ## Printed dates tell dates apart

A printed date can only be that of one date, and a printed moment only that of
the moments in one minute of one day.  The parts of a printed date are found
again by the blanks between them, those of a moment by the comma and the colon,
and no date is printed like a moment. -/

namespace Calendar

open FamilyOrders.Text

/-! ### Dates -/

theorem monthName_injective
    {language : Language} {m n : Fin 12}
    (hname : monthName language m = monthName language n) : m = n := by
  revert m n
  cases language <;> decide

/-- No name of a month holds one of the marks that stand between the parts of a
printed date. -/
theorem notMem_monthName (language : Language) (month : Fin 12) :
    ' ' ∉ (monthName language month).toList ∧
    ',' ∉ (monthName language month).toList := by
  revert month
  cases language <;> decide

theorem yearChars_injective
    {a b : Int} (hyears : yearChars a = yearChars b) :
    a = b := by
  have hread : ∀ year, readYear (yearChars year ++ []) = some (year, []) :=
    readYear_yearChars nofun
  have hsame := hread a
  rw [hyears, hread b] at hsame
  cases hsame
  rfl

theorem printedYear_injective
    {language : Language} {a b : Int}
    (hyears : printedYear language a = printedYear language b) :
    a = b := by
  cases language with
  | english => exact yearChars_injective hyears
  | welsh =>
      have hsign : ∀ m n : Nat, '-' :: digits m ≠ digits n := by
        intro m n hdigits
        exact notMem_digits (by decide) n (hdigits ▸ List.mem_cons_self)
      by_cases ha : a < 0 <;> by_cases hb : b < 0
      all_goals simp only [printedYear, ha, hb, if_true, if_false,
        List.singleton_append, List.nil_append] at hyears
      · have habs := digits_injective (List.cons.inj hyears).2
        omega
      · exact absurd hyears (hsign _ _)
      · exact absurd hyears.symm (hsign _ _)
      · have habs := digits_injective hyears
        omega

theorem notMem_printedYear
    {c : Char} (hdigit : c.isDigit = false) (hplus : c ≠ '+') (hminus : c ≠ '-')
    (language : Language) (year : Int) :
    c ∉ printedYear language year := by
  have hpadded : ∀ width n, c ∉ paddedDigits width n :=
    notMem_paddedDigits hdigit
  have hplain : ∀ n, c ∉ digits n := notMem_digits hdigit
  cases language with
  | english =>
      rw [printedYear, yearChars]
      split
      · exact hpadded _ _
      · split <;> simp [hpadded, hplus, hminus]
  | welsh =>
      rw [printedYear]
      split <;> simp [hplain, hminus]

theorem Date.printedChars_injective
    {language : Language} {a b : Date}
    (hprinted : a.printedChars language = b.printedChars language) :
    a = b := by
  unfold printedChars at hprinted
  simp only [List.append_assoc, List.cons_append] at hprinted
  have hblank : ∀ n, ' ' ∉ digits n := notMem_digits (by decide)
  obtain ⟨hday, hrest⟩ := append_mark_inj (hblank _) (hblank _) hprinted
  obtain ⟨hname, hyear⟩ := append_mark_inj (notMem_monthName language a.month).1
    (notMem_monthName language b.month).1 hrest
  have hmonth := monthName_injective (String.toList_inj.mp hname)
  cases a
  cases b
  cases digits_injective hday
  cases printedYear_injective hyear
  cases hmonth
  rfl

theorem Date.printed_inj
    {language : Language} {a b : Date} :
    a.printed language = b.printed language ↔ a = b := by
  constructor
  · intro hprinted
    exact printedChars_injective (String.ofList_injective hprinted)
  · rintro rfl
    rfl

theorem Date.comma_notMem_printedChars (date : Date) (language : Language) :
    ',' ∉ date.printedChars language := by
  have hday := notMem_digits (c := ',') (by decide) date.day
  have hyear :=
    notMem_printedYear (c := ',') (by decide) (by decide) (by decide) language
    date.year
  simp [printedChars, hday, notMem_monthName, hyear]

/-! ### Moments -/

theorem TimeOfDay.printedChars_eq_iff
    {a b : TimeOfDay} :
    a.printedChars = b.printedChars ↔
      a.hour = b.hour ∧ a.minute = b.minute := by
  constructor
  · intro hprinted
    unfold printedChars at hprinted
    simp only [List.append_assoc, List.cons_append] at hprinted
    have hcolon : ∀ n, ':' ∉ digits n := notMem_digits (by decide)
    obtain ⟨hclock, hrest⟩ := append_mark_inj (hcolon _) (hcolon _) hprinted
    obtain ⟨hminute, hhalf⟩ := List.append_inj' hrest rfl
    have hhours := digits_injective hclock
    have hminutes := paddedDigits_injective hminute
    -- the clock tells the hour up to the half of the day
    have hhalves : a.hour.val < 12 ↔ b.hour.val < 12 := by
      by_cases ha : a.hour.val < 12 <;> by_cases hb :
        b.hour.val < 12 <;> simp [ha, hb] at hhalf ⊢
    have hclocks : a.hour.val % 12 = b.hour.val % 12 := by
      unfold clockHour at hhours
      split at hhours <;> split at hhours <;> omega
    exact ⟨by omega, Fin.ext hminutes⟩
  · rintro ⟨hhour, hminute⟩
    simp only [printedChars, clockHour, hhour, hminute]

theorem Moment.printed_eq_iff
    {language : Language} {a b : Moment} :
    a.printed language = b.printed language ↔
      a.date = b.date ∧ a.time.hour = b.time.hour ∧
      a.time.minute = b.time.minute := by
  rw [← TimeOfDay.printedChars_eq_iff]
  constructor
  · intro hprinted
    have hchars := String.ofList_injective hprinted
    simp only [List.append_assoc, List.cons_append] at hchars
    obtain ⟨hdate, hrest⟩ :=
      append_mark_inj (a.date.comma_notMem_printedChars language)
      (b.date.comma_notMem_printedChars language) hchars
    exact ⟨Date.printedChars_injective hdate, (List.cons.inj hrest).2⟩
  · rintro ⟨hdate, htime⟩
    simp only [printed, hdate, htime]

theorem Date.printed_ne_moment
    {language : Language} (date : Date) (moment : Moment) :
    date.printed language ≠ moment.printed language := by
  intro hprinted
  apply date.comma_notMem_printedChars language
  rw [String.ofList_injective hprinted]
  simp

/-! ### Telling apart -/

/-- What the texts printed in a language tell apart. -/
structure TellsApart (language : Language) : Prop where
  dates :
    ∀ a b : Date, a.printed language = b.printed language ↔ a = b
  moments :
    ∀ a b : Moment,
      a.printed language = b.printed language ↔
        a.date = b.date ∧ a.time.hour = b.time.hour ∧
        a.time.minute = b.time.minute
  midnight_noon :
    ∀ a b : Moment, a.time.hour = 0 → b.time.hour = 12 →
      a.printed language ≠ b.printed language
  kinds :
    ∀ (date : Date) (moment : Moment),
      date.printed language ≠ moment.printed language

/-- A text is that of one date, or that of the moments in one minute, fractions
and leap seconds among them. -/
theorem tellsApart (language : Language) : TellsApart language := by
  constructor
  case dates => exact fun a b => Date.printed_inj
  case moments => exact fun a b => Moment.printed_eq_iff
  case midnight_noon =>
    intro a b hmidnight hnoon hprinted
    have hhours := (Moment.printed_eq_iff.mp hprinted).2.1
    rw [hmidnight, hnoon] at hhours
    exact absurd hhours (by decide)
  case kinds => exact Date.printed_ne_moment

/-- The end of a leap second is printed like the start of its minute. -/
example :
    (Moment.ofText? "2016-12-31T23:59:60.999999999").map (·.printed .welsh) =
      (Moment.ofText? "2016-12-31T23:59:00").map (·.printed .welsh) := by
  decide

end Calendar

end FamilyOrders

namespace FamilyOrders.Calendar

open FamilyOrders.Text

/-! ## One date in two languages

The Welsh text of a date has the day of the English one and the numeral of its
year, and the time of a moment is the same text in both.  English fills the year
up to four digits and puts a plus sign before the years beyond 9999.  So the two
texts of a date differ in the name of the month alone exactly when its year
needs neither. -/

/-- The day and the year around the name of the month are the same text in both
languages. -/
def Date.PrintsAlike (date : Date) : Prop :=
  ∃ day year : List Char, ' ' ∉ day ∧ ∀ language,
    (date.printed language).toList =
      day ++ ' ' :: (monthName language date.month).toList ++ ' ' :: year

/-- All that stands around the name of the month is the same text in both
languages. -/
def Moment.PrintsAlike (moment : Moment) : Prop :=
  ∃ day year time : List Char, ' ' ∉ day ∧ ∀ language,
    (moment.printed language).toList =
      day ++ ' ' :: (monthName language moment.date.month).toList ++ ' ' ::
        year ++ [',', ' '] ++ time

/-! ### Years -/

/-- The sign of a year before year zero. -/
def minusSign (year : Int) : List Char :=
  if year < 0 then ['-'] else []

/-- The sign that English gives to a year that four digits do not hold. -/
def plusSign (year : Int) : List Char :=
  if 9999 < year then ['+'] else []

/-- The zeros by which English fills up the numeral of a year. -/
def fillingZeros (year : Int) : List Char :=
  List.replicate (4 - (digits year.natAbs).length) '0'

/-- English neither fills up the year nor puts a plus sign before it. -/
def IsPlainYear (year : Int) : Prop :=
  year ≤ -1000 ∨ 1000 ≤ year ∧ year ≤ 9999

instance (year : Int) : Decidable (IsPlainYear year) :=
  inferInstanceAs (Decidable (_ ∨ _))

theorem printedYear_welsh (year : Int) :
    printedYear .welsh year = minusSign year ++ digits year.natAbs :=
  rfl

theorem printedYear_english (year : Int) :
    printedYear .english year =
      plusSign year ++ minusSign year ++ fillingZeros year ++
        digits year.natAbs := by
  rw [printedYear, yearChars, plusSign, minusSign, fillingZeros, paddedDigits,
    paddedDigits]
  by_cases hlarge : 9999 < year
  · have hpositive : ¬ year < 0 := by omega
    have hbeyond : ¬ (0 ≤ year ∧ year ≤ 9999) := by omega
    simp [hlarge, hpositive, hbeyond]
  by_cases hnegative : year < 0
  · have hbefore : ¬ (0 ≤ year ∧ year ≤ 9999) := by omega
    simp [hlarge, hnegative, hbefore]
  · have hwithin : 0 ≤ year ∧ year ≤ 9999 := by omega
    have hvalue : year.toNat = year.natAbs := by omega
    simp [hlarge, hnegative, hwithin, hvalue]

/-- The texts of a year can only be the same if they are as long. -/
theorem printedYear_eq_iff (year : Int) :
    printedYear .english year = printedYear .welsh year ↔ IsPlainYear year := by
  have hdigits : (digits year.natAbs).length ≤ 3 ↔ year.natAbs < 10 ^ 3 :=
    length_digits_le_iff (by decide)
  rw [printedYear_english, printedYear_welsh, IsPlainYear]
  constructor
  · intro hyears
    have hlengths := congrArg List.length hyears
    simp only [List.length_append, fillingZeros,
      List.length_replicate] at hlengths
    have hnoPlus : ¬ 9999 < year := by
      intro hlarge
      simp [plusSign, hlarge] at hlengths
      omega
    omega
  · intro hplain
    have hnoPlus : ¬ 9999 < year := by omega
    have hfull : 4 - (digits year.natAbs).length = 0 := by omega
    simp [plusSign, hnoPlus, fillingZeros, hfull]

/-! ### Dates and moments -/

theorem Date.toList_printed (date : Date) (language : Language) :
    (date.printed language).toList =
      digits date.day ++ ' ' :: (monthName language date.month).toList ++
        ' ' :: printedYear language date.year := by
  rw [printed, String.toList_ofList, printedChars]

theorem Moment.printed_eq_append (moment : Moment) (language : Language) :
    moment.printed language =
      moment.date.printed language ++ ", " ++
        String.ofList moment.time.printedChars := by
  rw [← String.toList_inj]
  simp [printed, Date.printed]

/-- The year is what follows the name of the month. -/
theorem Date.after_month
    {date : Date} {language : Language} {day rest more : List Char}
    (hday : ' ' ∉ day) (htext : (date.printed language).toList ++ more =
      day ++ ' ' :: (monthName language date.month).toList ++ ' ' :: rest) :
    printedYear language date.year ++ more = rest := by
  rw [toList_printed] at htext
  simp only [List.append_assoc, List.cons_append] at htext
  have hblank : ' ' ∉ digits date.day := notMem_digits (by decide) _
  obtain ⟨-, hafter⟩ := append_mark_inj hblank hday htext
  exact (List.cons.inj (List.append_cancel_left hafter)).2

theorem Date.printsAlike_iff (date : Date) :
    date.PrintsAlike ↔ IsPlainYear date.year := by
  rw [← printedYear_eq_iff]
  constructor
  · rintro ⟨day, year, hday, htexts⟩
    have hyear (language : Language) :
        printedYear language date.year ++ [] = year :=
      after_month hday ((List.append_nil _).trans (htexts language))
    exact List.append_cancel_right ((hyear .english).trans (hyear .welsh).symm)
  · intro hyears
    refine ⟨digits date.day, printedYear .welsh date.year,
      notMem_digits (by decide) _, ?_⟩
    intro language
    rw [toList_printed]
    cases language with
    | english => rw [hyears]
    | welsh => rfl

theorem Moment.printsAlike_iff (moment : Moment) :
    moment.PrintsAlike ↔ IsPlainYear moment.date.year := by
  constructor
  · rintro ⟨day, year, time, hday, htexts⟩
    rw [← printedYear_eq_iff]
    have hyear (language : Language) :
        printedYear language moment.date.year ++
          (", ".toList ++ moment.time.printedChars) =
            year ++ [',', ' '] ++ time := by
      apply Date.after_month hday
      have htext := htexts language
      rw [printed_eq_append] at htext
      simpa using htext
    exact List.append_cancel_right ((hyear .english).trans (hyear .welsh).symm)
  · intro hplain
    obtain ⟨day, year, hday, htexts⟩ := moment.date.printsAlike_iff.mpr hplain
    refine ⟨day, year, moment.time.printedChars, hday, ?_⟩
    intro language
    rw [printed_eq_append, String.toList_append, String.toList_append, htexts]
    simp

/-- How a date, and each moment of it, is printed in the two languages. -/
structure Date.BilingualLaw (date : Date) : Prop where
  welsh :
    (date.printed .welsh).toList =
      digits date.day ++ ' ' :: (monthName .welsh date.month).toList ++
        ' ' :: (minusSign date.year ++ digits date.year.natAbs)
  english :
    (date.printed .english).toList =
      digits date.day ++ ' ' :: (monthName .english date.month).toList ++
        ' ' :: (plusSign date.year ++ minusSign date.year ++
          fillingZeros date.year ++ digits date.year.natAbs)
  alike_iff :
    date.PrintsAlike ↔ IsPlainYear date.year
  timed :
    ∀ (time : TimeOfDay) (language : Language),
      Moment.printed ⟨date, time⟩ language =
        date.printed language ++ ", " ++ String.ofList time.printedChars
  timed_alike_iff :
    ∀ time : TimeOfDay, Moment.PrintsAlike ⟨date, time⟩ ↔ IsPlainYear date.year

theorem Date.bilingualLaw (date : Date) : date.BilingualLaw := by
  constructor
  case welsh => rw [toList_printed, printedYear_welsh]
  case english => rw [toList_printed, printedYear_english]
  case alike_iff => exact date.printsAlike_iff
  case timed => exact fun time => Moment.printed_eq_append ⟨date, time⟩
  case timed_alike_iff => exact fun time => Moment.printsAlike_iff ⟨date, time⟩

/-- In the Welsh text of an early date the year is not filled up. -/
theorem Date.early_year_prints_apart :
    ∃ date : Date, Date.of? 44 3 15 = some date ∧
    date.printed .english = "15 March 0044" ∧
      date.printed .welsh = "15 Mawrth 44" ∧ ¬ date.PrintsAlike := by
  refine ⟨⟨44, 2,
    15, by decide, by decide⟩, by decide, by decide, by decide, ?_⟩
  rw [(bilingualLaw _).alike_iff]
  decide

end FamilyOrders.Calendar
