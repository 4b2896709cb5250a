import SchemaGuard.Calendar
import Mathlib.Algebra.Group.Nat.Defs
import Mathlib.Data.List.Induction
import Mathlib.Data.List.TakeWhile

/-! # Written dates and times

A date is read from its written form, and so is a date and time with an offset. Whatever the
form in which one of them was read first, reading what is written of it gives it again.
-/

namespace SchemaGuard.Calendar

/-! ## Numbers with leading zeros -/

theorem isDigit_of_mem_padded {width n : Nat} {c : Char} (hc : c ∈ padded width n) :
    c.isDigit = true := by
  obtain hzero | hdigit := List.mem_append.mp hc
  · rw [List.eq_of_mem_replicate hzero]
    rfl
  · exact Nat.isDigit_of_mem_toDigits (by decide) (by decide) hdigit

/-- Leading zeros do not count. -/
theorem natural_padded (width n : Nat) : Numeral.natural (padded width n) = n := by
  change Nat.ofDigitChars 10 (padded width n) 0 = n
  rw [padded, Nat.ofDigitChars_append, Nat.ofDigitChars_replicate_zero, Nat.mul_zero,
    Nat.ofDigitChars_ten_toDigits]

theorem le_length_padded (width n : Nat) : width ≤ (padded width n).length := by
  simp only [padded, List.length_append, List.length_replicate]
  omega

theorem length_padded {width n : Nat} (hwidth : 0 < width) (hn : n < 10 ^ width) :
    (padded width n).length = width := by
  have hdigits : (Nat.toDigits 10 n).length ≤ width :=
    (Nat.length_toDigits_le_iff (by decide) hwidth).mpr hn
  simp only [padded, List.length_append, List.length_replicate]
  omega

/-- A text that does not begin with a digit. -/
def Stops (text : List Char) : Prop :=
  ∀ c ∈ text.head?, c.isDigit = false

theorem Stops.takeWhile_take {text : List Char} (hstops : Stops text) (most : Nat) :
    (text.take most).takeWhile Char.isDigit = [] := by
  cases text with
  | nil => simp
  | cons c rest =>
      cases most with
      | zero => rfl
      | succ most =>
          rw [List.take_succ_cons, List.takeWhile_cons, hstops c rfl]
          rfl

/-- A run of digits is read up to the text that stops it, or up to the bound on its length. -/
theorem digits?_append {least most : Nat} {run rest : List Char}
    (hrun : ∀ c ∈ run, c.isDigit = true) (hleast : least ≤ run.length)
    (hmost : run.length ≤ most) (hrest : run.length = most ∨ Stops rest) :
    digits? least most (run ++ rest) = some (run, rest) := by
  have htake : ((run ++ rest).take most).takeWhile Char.isDigit = run := by
    rw [List.take_append, List.take_of_length_le hmost, List.takeWhile_append_of_pos hrun]
    obtain hfull | hstops := hrest
    · simp [hfull]
    · rw [hstops.takeWhile_take, List.append_nil]
  simp only [digits?, htake]
  rw [if_neg (Nat.not_lt.mpr hleast), List.drop_left]

theorem number?_padded {least most width n : Nat} {rest : List Char}
    (hleast : least ≤ (padded width n).length) (hmost : (padded width n).length ≤ most)
    (hrest : (padded width n).length = most ∨ Stops rest) :
    number? least most (padded width n ++ rest) = some (n, rest) := by
  have hdigits : digits? least most (padded width n ++ rest) = some (padded width n, rest) :=
    digits?_append (fun _ => isDigit_of_mem_padded) hleast hmost hrest
  simp only [number?, hdigits, Option.map_some, natural_padded]

/-- A number of exactly two digits. -/
theorem number?_two {least n : Nat} (hleast : least ≤ 2) (hn : n < 100) (rest : List Char) :
    number? least 2 (padded 2 n ++ rest) = some (n, rest) := by
  have hlength : (padded 2 n).length = 2 := length_padded (by decide) hn
  exact number?_padded (by omega) (by omega) (.inl hlength)

theorem toNat_of_isDigit {c : Char} (hc : c.isDigit = true) : 48 ≤ c.toNat ∧ c.toNat ≤ 57 := by
  simpa [Char.isDigit, UInt32.le_iff_toNat_le] using hc

theorem isBlank_of_isDigit {c : Char} (hc : c.isDigit = true) : Unicode.isBlank c = false := by
  have hnone : ∀ n ≤ 57, 48 ≤ n → Unicode.whiteSpaceRanges.has n = false := by decide
  obtain ⟨hleast, hmost⟩ := toNat_of_isDigit hc
  exact hnone c.toNat hmost hleast

/-- What is written of a number begins with a digit. -/
theorem exists_padded_eq_cons {width : Nat} (hwidth : 0 < width) (n : Nat) :
    ∃ c digits, padded width n = c :: digits ∧ c.isDigit = true := by
  cases hpadded : padded width n with
  | nil =>
      have hlength := le_length_padded width n
      rw [hpadded, List.length_nil] at hlength
      omega
  | cons c digits => exact ⟨c, digits, rfl, isDigit_of_mem_padded (hpadded ▸ List.mem_cons_self)⟩

theorem looseNumber?_two {n : Nat} (hn : n < 100) (rest : List Char) :
    looseNumber? (padded 2 n ++ rest) = some (n, rest) := by
  obtain ⟨c, digits, hpadded, hc⟩ := exists_padded_eq_cons Nat.two_pos n
  have hblanks : (padded 2 n ++ rest).dropWhile Unicode.isBlank = padded 2 n ++ rest := by
    rw [hpadded, List.cons_append, List.dropWhile_cons, isBlank_of_isDigit hc]
    rfl
  rw [looseNumber?, hblanks]
  exact number?_two (by decide) hn rest

/-! ## Bounds on what is read -/

theorem natural_lt {digits : List Char} (hdigits : ∀ c ∈ digits, c.isDigit = true) :
    Numeral.natural digits < 10 ^ digits.length := by
  induction digits using List.reverseRecOn with
  | nil => decide
  | append_singleton digits c ih =>
      rw [List.forall_mem_append, List.forall_mem_singleton] at hdigits
      have hdigit : Numeral.digitValue c < 10 := by
        have hrange := toNat_of_isDigit hdigits.2
        change c.toNat - 48 < 10
        omega
      have hlast : Numeral.natural (digits ++ [c]) =
          10 * Numeral.natural digits + Numeral.digitValue c := by
        simp only [Numeral.natural, List.foldl_append, List.foldl_cons, List.foldl_nil]
      have hinit := ih hdigits.1
      rw [hlast, List.length_append, List.length_singleton, Nat.pow_succ]
      omega

/-- A run of digits that is read has as many digits as it must have, and no more than it may. -/
theorem digits?_eq_some {least most : Nat} {text run rest : List Char}
    (hread : digits? least most text = some (run, rest)) :
    (∀ c ∈ run, c.isDigit = true) ∧ least ≤ run.length ∧ run.length ≤ most := by
  simp only [digits?] at hread
  split at hread
  next => cases hread
  next hleast =>
    cases hread
    refine ⟨fun c hc => List.mem_takeWhile_imp hc, Nat.not_lt.mp hleast, ?_⟩
    exact Nat.le_trans (List.takeWhile_prefix _).length_le (List.length_take_le most text)

theorem number?_lt {least most n : Nat} {text rest : List Char}
    (hread : number? least most text = some (n, rest)) : n < 10 ^ most := by
  obtain ⟨⟨run, rest⟩, hdigits, hn⟩ := Option.map_eq_some_iff.mp hread
  cases hn
  obtain ⟨hrun, _, hmost⟩ := digits?_eq_some hdigits
  exact Nat.lt_of_lt_of_le (natural_lt hrun) (Nat.pow_le_pow_right (Nat.succ_pos 9) hmost)

/-! ## Dates -/

theorem looseYear?_of_isDigit {c : Char} (hc : c.isDigit = true) (rest : List Char) :
    looseYear? (c :: rest) = (number? 1 4 (c :: rest)).map fun (n, rest) => ((n : Int), rest) := by
  have hminus : c ≠ '-' := by
    rintro rfl
    cases hc
  have hplus : c ≠ '+' := by
    rintro rfl
    cases hc
  unfold looseYear?
  rw [List.dropWhile_cons, isBlank_of_isDigit hc]
  split
  next heq =>
    cases heq
    exact absurd rfl hminus
  next heq =>
    cases heq
    exact absurd rfl hplus
  next => rfl

/-- A year is read from what is written of it, up to the text that stops it. -/
theorem looseYear?_yearText (year : Int) {rest : List Char} (hrest : Stops rest) :
    looseYear? (yearText year ++ rest) = some (year, rest) := by
  have hread (most : Nat) (hmost : (padded 4 year.natAbs).length ≤ most) :
      number? 1 most (padded 4 year.natAbs ++ rest) = some (year.natAbs, rest) :=
    number?_padded (Nat.le_trans (by decide) (le_length_padded 4 _)) hmost (.inr hrest)
  have hwhole := hread (padded 4 year.natAbs ++ rest).length
    (by rw [List.length_append]; omega)
  unfold yearText
  -- After a sign any number of digits is read, and without one no more than four.
  by_cases hnegative : year < 0
  · have hyear : -(year.natAbs : Int) = year := by omega
    rw [if_pos hnegative, List.cons_append]
    change (number? 1 _ _).map _ = _
    simp only [hwhole, Option.map_some, hyear]
  · have hyear : (year.natAbs : Int) = year := by omega
    rw [if_neg hnegative]
    by_cases hlarge : 9999 < year
    · rw [if_pos hlarge, List.cons_append]
      change (number? 1 _ _).map _ = _
      simp only [hwhole, Option.map_some, hyear]
    · rw [if_neg hlarge]
      obtain ⟨c, digits, hpadded, hc⟩ := exists_padded_eq_cons (by decide : 0 < 4) year.natAbs
      have hlength : (padded 4 year.natAbs).length = 4 := length_padded (by decide) (by omega)
      have hfour := hread 4 (by omega)
      rw [hpadded, List.cons_append] at hfour ⊢
      simp only [looseYear?_of_isDigit hc, hfour, Option.map_some, hyear]

/-- A date that the calendar has. -/
def Date.Exists (date : Date) : Prop :=
  Date.ofParts? date.year date.month date.day = some date

theorem Date.exists_of_ofParts? {year : Int} {month day : Nat} {date : Date}
    (hparts : Date.ofParts? year month day = some date) :
    date = ⟨year, month, day⟩ ∧ date.Exists := by
  have hdate := hparts
  unfold Date.ofParts? at hdate
  split at hdate
  next =>
    cases hdate
    exact ⟨rfl, hparts⟩
  next => cases hdate

theorem daysInMonth_le (year : Int) (month : Nat) : daysInMonth year month ≤ 31 := by
  unfold daysInMonth
  split
  · split <;> decide
  · split <;> decide

theorem Date.Exists.month_day_lt {date : Date} (hexists : date.Exists) :
    date.month < 100 ∧ date.day < 100 := by
  unfold Date.Exists Date.ofParts? at hexists
  split at hexists
  next hrange =>
    have hmost := daysInMonth_le date.year date.month
    omega
  next => cases hexists

theorem looseDate?_text {date : Date} (hexists : date.Exists) (rest : List Char) :
    looseDate? (date.text ++ rest) = some (date, rest) := by
  obtain ⟨hmonth, hday⟩ := hexists.month_day_lt
  have hyear (rest : List Char) : looseYear? (yearText date.year ++ '-' :: rest) =
      some (date.year, '-' :: rest) :=
    looseYear?_yearText date.year (by rintro _ ⟨⟩; rfl)
  have hhyphen (rest : List Char) : char? '-' ('-' :: rest) = some rest := rfl
  simp only [looseDate?, Date.text, List.append_assoc, List.cons_append, hyear, hhyphen,
    looseNumber?_two hmonth, looseNumber?_two hday, Option.bind_eq_bind, Option.bind_some]
  rw [hexists]
  rfl

/-- A date that is read is one that the calendar has. -/
theorem looseDate?_exists {text rest : List Char} {date : Date}
    (hread : looseDate? text = some (date, rest)) : date.Exists := by
  simp only [looseDate?, Option.bind_eq_bind, Option.bind_eq_some_iff, Prod.exists] at hread
  obtain ⟨_, _, _, _, _, _, _, _, _, _, _, _, _, found, hparts, hdate⟩ := hread
  cases hdate
  exact (Date.exists_of_ofParts? hparts).2

/-- A date is read from its written form. -/
theorem date?_text {text : List Char} {date : Date} (hread : date? text = some date) :
    date? date.text = some date := by
  simp only [date?, Option.bind_eq_bind, Option.bind_eq_some_iff, Prod.exists] at hread
  obtain ⟨found, rest, hfound, hwhole⟩ := hread
  have hdate : found = date := by
    split at hwhole
    · exact Option.some.inj hwhole
    · cases hwhole
  have hwritten := looseDate?_text (looseDate?_exists hfound) []
  rw [List.append_nil, hdate] at hwritten
  simp only [date?, hwritten, Option.bind_eq_bind, Option.bind_some]
  rfl

/-! ## Moments -/

theorem read_then {α β : Type} {part : Option α} {next : α → Option β} {a : α} {b : β}
    (hpart : part = some a) (hnext : next a = some b) : part >>= next = some b :=
  Option.bind_eq_some_iff.mpr ⟨a, hpart, hnext⟩

theorem Stops.dropWhile {text : List Char} (hstops : Stops text) :
    text.dropWhile Char.isDigit = text := by
  cases text with
  | nil => rfl
  | cons c rest => simp [hstops c rfl]

theorem fraction?_padded {width n : Nat} {rest : List Char} (hwidth : 0 < width) (hmost : width ≤ 9)
    (hn : n < 10 ^ width) (hrest : Stops rest) :
    fraction? (padded width n ++ rest) = some (n * 10 ^ (9 - width), rest) := by
  have hlength := length_padded hwidth hn
  have hdigits : digits? 1 9 (padded width n ++ rest) = some (padded width n, rest) :=
    digits?_append (fun _ => isDigit_of_mem_padded) (by omega) (by omega) (.inr hrest)
  simp only [fraction?, hdigits, Option.bind_eq_bind, Option.bind_some, natural_padded, hlength,
    hrest.dropWhile]
  rfl

/-- The fraction of a second is read from what is written of it. -/
theorem optionalFraction?_text {nanosecond : Nat} {rest : List Char} (hn : nanosecond < 10 ^ 9)
    (hrest : Stops rest) (hpoint : ∀ c ∈ rest.head?, c ≠ '.') :
    optionalFraction? (fractionText nanosecond ++ rest) = some (nanosecond, rest) := by
  unfold fractionText
  split
  next hzero =>
    subst hzero
    cases rest with
    | nil => rfl
    | cons c rest =>
        unfold optionalFraction?
        split
        next heq =>
          cases heq
          exact absurd rfl (hpoint '.' rfl)
        next => rfl
  next =>
    split
    next hmillis =>
      change fraction? (padded 3 (nanosecond / 1000000) ++ rest) = _
      rw [fraction?_padded (by decide) (by decide) (by omega) hrest]
      have hwhole : nanosecond / 1000000 * 10 ^ (9 - 3) = nanosecond := by omega
      rw [hwhole]
    next =>
      split
      next hmicros =>
        change fraction? (padded 6 (nanosecond / 1000) ++ rest) = _
        rw [fraction?_padded (by decide) (by decide) (by omega) hrest]
        have hwhole : nanosecond / 1000 * 10 ^ (9 - 6) = nanosecond := by omega
        rw [hwhole]
      next =>
        change fraction? (padded 9 nanosecond ++ rest) = _
        rw [fraction?_padded (by decide) (by decide) hn hrest, Nat.sub_self, Nat.pow_zero,
          Nat.mul_one]

theorem optionalFraction?_lt {text rest : List Char} {nanosecond : Nat}
    (hread : optionalFraction? text = some (nanosecond, rest)) : nanosecond < 10 ^ 9 := by
  unfold optionalFraction? at hread
  split at hread
  next =>
    simp only [fraction?, Option.bind_eq_bind, Option.bind_eq_some_iff, Prod.exists] at hread
    obtain ⟨run, _, hdigits, hnanosecond⟩ := hread
    cases hnanosecond
    obtain ⟨hrun, _, hmost⟩ := digits?_eq_some hdigits
    calc
      Numeral.natural run * 10 ^ (9 - run.length)
          < 10 ^ run.length * 10 ^ (9 - run.length) :=
        Nat.mul_lt_mul_of_pos_right (natural_lt hrun) (Nat.pow_pos (by decide))
      _ = 10 ^ 9 := by rw [← Nat.pow_add, Nat.add_sub_cancel' hmost]
  next =>
    cases hread
    decide

/-- An offset is read after its sign. -/
theorem offset?_of_sign {sign : Char} {negative : Bool} {hours minutes : Nat}
    (hsign : ∀ rest, offsetSign? (sign :: rest) = some (negative, rest))
    (hhours : hours ≤ 23) (hminutes : minutes ≤ 59) :
    offset? (sign :: (padded 2 hours ++ ':' :: padded 2 minutes)) =
      some (if negative then -((hours * 60 + minutes : Nat) : Int)
        else (hours * 60 + minutes : Nat), []) := by
  have hcolon (rest : List Char) : char? ':' (':' :: rest) = some rest := rfl
  have hlast : number? 2 2 (padded 2 minutes) = some (minutes, []) := by
    have hwritten := number?_two (Nat.le_refl 2) (by omega : minutes < 100) []
    rwa [List.append_nil] at hwritten
  have hfirst := number?_two (Nat.le_refl 2) (by omega : hours < 100) (':' :: padded 2 minutes)
  unfold offset?
  split
  next heq =>
    cases heq
    cases hsign []
  next heq =>
    cases heq
    cases hsign []
  next =>
    simp only [hsign, hfirst, hcolon, hlast, hhours, hminutes, and_self, if_true,
      Option.bind_eq_bind, Option.bind_some]
    rfl

/-- An offset of less than a day is read from what is written of it. -/
theorem offset?_text {offset : Int} (hday : offset.natAbs < 1440) :
    offset? (offsetText offset) = some (offset, []) := by
  have hhours : offset.natAbs / 60 ≤ 23 := by omega
  have hminutes : offset.natAbs % 60 ≤ 59 := by omega
  have htotal : offset.natAbs / 60 * 60 + offset.natAbs % 60 = offset.natAbs := by omega
  unfold offsetText
  by_cases hnegative : offset < 0
  · have hoffset : -(offset.natAbs : Int) = offset := by omega
    rw [if_pos hnegative, offset?_of_sign (fun _ => rfl) hhours hminutes, htotal, if_pos rfl,
      hoffset]
  · have hoffset : (offset.natAbs : Int) = offset := by omega
    rw [if_neg hnegative, offset?_of_sign (fun _ => rfl) hhours hminutes, htotal,
      if_neg Bool.false_ne_true, hoffset]

theorem offset?_lt {text rest : List Char} {offset : Int}
    (hread : offset? text = some (offset, rest)) : offset.natAbs < 1440 := by
  unfold offset? at hread
  split at hread
  next =>
    cases hread
    decide
  next =>
    cases hread
    decide
  next =>
    simp only [Option.bind_eq_bind, Option.bind_eq_some_iff, Prod.exists] at hread
    obtain ⟨negative, _, _, hours, _, _, _, _, minutes, _, _, hoffset⟩ := hread
    split at hoffset
    next hrange =>
      cases hoffset
      split <;> omega
    next => cases hoffset

/-- A date and time with an offset whose parts fit the fixed widths of its written form. -/
structure Moment.Fits (moment : Moment) : Prop where
  date : moment.date.Exists
  year : 0 ≤ moment.date.year ∧ moment.date.year ≤ 9999
  time : Time.ofParts? moment.time.hour moment.time.minute moment.time.second
    moment.time.nanosecond = some moment.time
  nanosecond : moment.time.nanosecond < 10 ^ 9
  offset : moment.offset.natAbs < 1440

theorem Time.eq_of_ofParts? {hour minute second nanosecond : Nat} {time : Time}
    (hparts : Time.ofParts? hour minute second nanosecond = some time) :
    time = ⟨hour, minute, second, nanosecond⟩ ∧ hour ≤ 23 ∧ minute ≤ 59 ∧ second ≤ 60 := by
  unfold Time.ofParts? at hparts
  split at hparts
  next hrange =>
    cases hparts
    exact ⟨rfl, hrange⟩
  next => cases hparts

theorem moment?_fits {text : List Char} {moment : Moment} (hread : moment? text = some moment) :
    moment.Fits := by
  unfold moment? at hread
  obtain ⟨⟨year, _⟩, hyear, hread⟩ := Option.bind_eq_some_iff.mp hread
  obtain ⟨_, _, hread⟩ := Option.bind_eq_some_iff.mp hread
  obtain ⟨⟨month, _⟩, _, hread⟩ := Option.bind_eq_some_iff.mp hread
  obtain ⟨_, _, hread⟩ := Option.bind_eq_some_iff.mp hread
  obtain ⟨⟨day, rest⟩, _, hread⟩ := Option.bind_eq_some_iff.mp hread
  obtain ⟨date, hdate, hread⟩ := Option.bind_eq_some_iff.mp hread
  cases rest with
  | nil => cases hread
  | cons separator rest =>
      dsimp only at hread
      split at hread
      next =>
        obtain ⟨_, _, hread⟩ := Option.bind_eq_some_iff.mp hread
        obtain ⟨⟨hour, _⟩, _, hread⟩ := Option.bind_eq_some_iff.mp hread
        obtain ⟨_, _, hread⟩ := Option.bind_eq_some_iff.mp hread
        obtain ⟨⟨minute, _⟩, _, hread⟩ := Option.bind_eq_some_iff.mp hread
        obtain ⟨_, _, hread⟩ := Option.bind_eq_some_iff.mp hread
        obtain ⟨⟨second, _⟩, _, hread⟩ := Option.bind_eq_some_iff.mp hread
        obtain ⟨⟨nanosecond, _⟩, hnanosecond, hread⟩ := Option.bind_eq_some_iff.mp hread
        obtain ⟨time, htime, hread⟩ := Option.bind_eq_some_iff.mp hread
        obtain ⟨⟨offset, rest⟩, hoffset, hwhole⟩ := Option.bind_eq_some_iff.mp hread
        dsimp only at hwhole
        split at hwhole
        next =>
          cases hwhole
          -- Here a year has exactly four digits, and the calendar has the date and the time.
          have hyear' : year < 10 ^ 4 := number?_lt hyear
          obtain ⟨rfl, hexists⟩ := Date.exists_of_ofParts? hdate
          obtain ⟨rfl, hrange⟩ := Time.eq_of_ofParts? htime
          have hwidth : (0 : Int) ≤ year ∧ (year : Int) ≤ 9999 := by omega
          exact ⟨hexists, hwidth, htime, optionalFraction?_lt hnanosecond, offset?_lt hoffset⟩
        next => cases hwhole
      next => cases hread

/-- A date and time with an offset is read from its written form. -/
theorem moment?_text {moment : Moment} (hfits : moment.Fits) :
    moment? moment.text = some moment := by
  obtain ⟨⟨year, month, day⟩, ⟨hour, minute, second, nanosecond⟩, offset⟩ := moment
  obtain ⟨hexists, ⟨hleast, hmost⟩, htime, hnanosecond, hday⟩ := hfits
  dsimp only at hleast hmost htime hnanosecond hday
  obtain ⟨hmonth, hmonthday⟩ := hexists.month_day_lt
  obtain ⟨_, hhour, hminute, hsecond⟩ := Time.eq_of_ofParts? htime
  have hyear (rest : List Char) :
      number? 4 4 (yearText year ++ rest) = some (year.natAbs, rest) := by
    have hlength : (padded 4 year.natAbs).length = 4 := length_padded (by decide) (by omega)
    rw [yearText, if_neg (by omega), if_neg (by omega)]
    exact number?_padded (by omega) (by omega) (.inl hlength)
  have hdate : Date.ofParts? year.natAbs month day = some ⟨year, month, day⟩ := by
    have hcast : (year.natAbs : Int) = year := by omega
    rw [hcast]
    exact hexists
  have hliteral (c : Char) (rest : List Char) : char? c (c :: rest) = some rest := by
    rw [char?, if_pos rfl]
  have hstops : Stops (offsetText offset) := by
    unfold offsetText
    split <;> (rintro _ ⟨⟩; rfl)
  have hpoint : ∀ c ∈ (offsetText offset).head?, c ≠ '.' := by
    unfold offsetText
    split <;> (rintro _ ⟨⟩; decide)
  have hfraction := optionalFraction?_text hnanosecond hstops hpoint
  have hoffset := offset?_text hday
  have htwo {n : Nat} (hn : n < 100) := number?_two (Nat.le_refl 2) hn
  have hwritten : Moment.text ⟨⟨year, month, day⟩, ⟨hour, minute, second, nanosecond⟩, offset⟩ =
      yearText year ++ '-' :: (padded 2 month ++ '-' :: (padded 2 day ++ 'T' :: (padded 2 hour ++
        ':' :: (padded 2 minute ++ ':' :: (padded 2 second ++
          (fractionText nanosecond ++ offsetText offset)))))) := by
    simp only [Moment.text, Date.text, Time.text, List.append_assoc, List.cons_append]
  rw [hwritten]
  refine read_then (hyear _) (read_then (hliteral _ _) ?_)
  refine read_then (htwo hmonth _) (read_then (hliteral _ _) ?_)
  refine read_then (htwo hmonthday _) (read_then hdate ?_)
  -- The letter between the date and the time is one of three that may stand there.
  dsimp only
  rw [if_pos (.inl rfl)]
  refine read_then rfl (read_then (htwo (by omega) _) (read_then (hliteral _ _) ?_))
  refine read_then (htwo (by omega) _) (read_then (hliteral _ _) ?_)
  refine read_then (htwo (by omega) _) (read_then hfraction ?_)
  exact read_then htime (read_then hoffset rfl)

end SchemaGuard.Calendar
