import Mathlib.Data.Nat.Digits.Lemmas
import TaskRunner.Proofs.Calendar
import TaskRunner.Timestamp
/- # TaskRunner.Proofs.Timestamp -- a timestamp is read from its text

The text of a timestamp of four-digit years says all of it, to the nanosecond and in a leap second
too (`parse?_text`).

The text is a row of numerals of known width with single characters between them.  Each reader takes
just the numeral that stands in front: there is no blank to pass over, and either the reader takes no
more digits than there are, or what follows is none. -/

namespace TaskRunner.Timestamp
set_option autoImplicit false

/-- A timestamp of a year with four digits, in a second or, at the end of a minute, in the leap
second behind it. -/
structure Ordinary (time : Timestamp) : Prop where
  year : 0 ≤ time.date.year ∧ time.date.year ≤ 9999
  nanos : time.nanos < nanosPerSecond ∨
    time.secondOfDay % 60 = 59 ∧ time.nanos < 2 * nanosPerSecond

/-! ## Numerals -/

/-- A number written with so many digits. -/
structure Numeral (width n : Nat) (run : List Char) : Prop where
  length : run.length = width
  isDigit : ∀ c ∈ run, c.isDigit = true
  amount : run.foldl (fun n c => n * 10 + (c.toNat - '0'.toNat)) 0 = n

theorem numeral_padded {width n : Nat} (some_digit : 0 < width) (fits : n < 10 ^ width) :
    Numeral width n (padded width n).toList := by
  have short : (Nat.toDigits 10 n).length ≤ width :=
    (Nat.length_toDigits_le_iff (by decide) some_digit).2 fits
  have chars : (padded width n).toList =
      List.replicate (width - (Nat.toDigits 10 n).length) '0' ++ Nat.toDigits 10 n := by
    simp [padded]
  have zeros : ∀ k, (List.replicate k '0').foldl (fun n c => n * 10 + (c.toNat - '0'.toNat)) 0 =
      0 := by
    intro k
    induction k with
    | zero => rfl
    | succ k ih => rw [List.replicate_succ, List.foldl_cons]; exact ih
  refine ⟨?_, ?_, ?_⟩
  · rw [chars, List.length_append, List.length_replicate]
    omega
  · intro c member
    rw [chars, List.mem_append, List.mem_replicate] at member
    rcases member with ⟨-, rfl⟩ | digit
    · decide
    · exact Nat.isDigit_of_mem_toDigits (by decide) (by decide) digit
  · have value := Nat.ofDigitChars_toDigits (b := 10) (n := n) (by decide) (by decide)
    rw [chars, List.foldl_append, zeros]
    simpa only [Nat.ofDigitChars, Nat.mul_comm] using value

/-- Whether a text does not go on with a digit. -/
def Stops (rest : List Char) : Prop := ∀ c more, rest = c :: more → c.isDigit = false

theorem takeWhile_of_stops {rest : List Char} (stops : Stops rest) (k : Nat) :
    (rest.take k).takeWhile Char.isDigit = [] := by
  cases rest with
  | nil => simp
  | cons c more => cases k <;> simp [stops c more rfl]

namespace Numeral

variable {width n : Nat} {run : List Char}

theorem digits? (numeral : Numeral width n run) (some_digit : 0 < width) {most : Nat}
    {rest : List Char} (room : width ≤ most) (ends : width = most ∨ Stops rest) :
    digits? most (run ++ rest) = some (n, rest) := by
  have behind : (rest.take (most - run.length)).takeWhile Char.isDigit = [] := by
    rcases ends with full | stops
    · rw [numeral.length, full, Nat.sub_self]
      rfl
    · exact takeWhile_of_stops stops _
  have taken : ((run ++ rest).take most).takeWhile Char.isDigit = run := by
    rw [List.take_append, List.take_of_length_le (numeral.length.trans_le room),
      List.takeWhile_append_of_pos numeral.isDigit, behind, List.append_nil]
  have nonempty : run.isEmpty = false := by
    cases run with
    | nil => exact absurd numeral.length (by simp; omega)
    | cons c run => rfl
  rw [Timestamp.digits?]
  simp only [taken, nonempty, numeral.amount, Bool.false_eq_true, if_false, List.drop_left]

theorem begins (numeral : Numeral width n run) (some_digit : 0 < width) :
    ∃ c more, run = c :: more ∧ c.isDigit = true := by
  cases run with
  | nil => exact absurd numeral.length (by simp; omega)
  | cons c more => exact ⟨c, more, rfl, numeral.isDigit c List.mem_cons_self⟩

end Numeral

theorem isSpace_of_isDigit {c : Char} (digit : c.isDigit = true) : isSpace c = false := by
  obtain ⟨low, high⟩ := Bool.and_eq_true_iff.1 digit
  have range : 48 ≤ c.toNat ∧ c.toNat ≤ 57 := ⟨of_decide_eq_true low, of_decide_eq_true high⟩
  simp [isSpace]
  omega

theorem skipSpaces_cons {c : Char} (solid : isSpace c = false) (rest : List Char) :
    skipSpaces (c :: rest) = c :: rest := by
  simp [skipSpaces, solid]

namespace Numeral

variable {n : Nat} {run : List Char}

theorem skipSpaces {width : Nat} (numeral : Numeral width n run) (some_digit : 0 < width)
    (rest : List Char) : skipSpaces (run ++ rest) = run ++ rest := by
  obtain ⟨c, more, rfl, digit⟩ := numeral.begins some_digit
  exact skipSpaces_cons (isSpace_of_isDigit digit) _

theorem number? (numeral : Numeral 2 n run) (rest : List Char) :
    number? (run ++ rest) = some (n, rest) := by
  rw [Timestamp.number?, numeral.skipSpaces (by decide),
    numeral.digits? (by decide) (le_refl 2) (.inl rfl)]

theorem year? (numeral : Numeral 4 n run) (rest : List Char) :
    year? (run ++ rest) = some ((n : Int), rest) := by
  have read := numeral.digits? (by decide) (le_refl 4) (.inl rfl : 4 = 4 ∨ Stops rest)
  rw [Timestamp.year?, numeral.skipSpaces (by decide)]
  obtain ⟨c, more, rfl, digit⟩ := numeral.begins (by decide)
  split
  · next same => cases same; exact absurd digit (by decide)
  · next same => cases same; exact absurd digit (by decide)
  · rw [read]
    rfl

/-- Digits behind a point, with zeros for those that are not there. -/
theorem fraction? {width : Nat} (numeral : Numeral width n run) (some_digit : 0 < width)
    (room : width ≤ 9) {rest : List Char} (stops : Stops rest) :
    fraction? ('.' :: (run ++ rest)) = some (n * 10 ^ (9 - width), rest) := by
  have stays : rest.dropWhile Char.isDigit = rest := by
    cases rest with
    | nil => rfl
    | cons c more => simp [stops c more rfl]
  rw [Timestamp.fraction?, numeral.digits? some_digit room (.inr stops)]
  simp [stays, numeral.length]

end Numeral

/-! ## The parts of a text -/

theorem sign?_cons {c : Char} (solid : isSpace c = false) (rest : List Char) :
    sign? c (c :: rest) = some rest := by
  simp [sign?, skipSpaces_cons solid]

theorem stops_zone (rest : List Char) : Stops ('Z' :: rest) := by
  rintro c more same
  cases same
  rfl

theorem fraction?_fractionText {nanos : Nat} (small : nanos < nanosPerSecond) (rest : List Char) :
    fraction? ((fractionText nanos).toList ++ 'Z' :: rest) = some (nanos, 'Z' :: rest) := by
  unfold nanosPerSecond at small
  have point : ∀ width n, (("." ++ padded width n).toList ++ 'Z' :: rest) =
      '.' :: ((padded width n).toList ++ 'Z' :: rest) := by
    simp
  have read : ∀ width n, 0 < width → width ≤ 9 → n < 10 ^ width →
      fraction? (("." ++ padded width n).toList ++ 'Z' :: rest) =
        some (n * 10 ^ (9 - width), 'Z' :: rest) := by
    intro width n some_digit room fits
    rw [point, (numeral_padded some_digit fits).fraction? some_digit room (stops_zone rest)]
  unfold fractionText
  split
  · next zero =>
    rw [beq_iff_eq.1 zero]
    rfl
  split
  · next millis =>
    rw [read 3 _ (by decide) (by decide) (by omega)]
    simp only [beq_iff_eq] at millis
    congr 2
    omega
  split
  · next micros =>
    rw [read 6 _ (by decide) (by decide) (by omega)]
    simp only [beq_iff_eq] at micros
    congr 2
    omega
  · rw [read 9 _ (by decide) (by decide) (by omega), Nat.pow_zero, Nat.mul_one]

theorem toList_text (time : Timestamp) :
    time.text.toList = (yearText time.date.year).toList ++ ('-' ::
      ((padded 2 time.date.month).toList ++ ('-' :: ((padded 2 time.date.day).toList ++ ('T' ::
        ((padded 2 (time.secondOfDay / 3600)).toList ++ (':' ::
          ((padded 2 (time.secondOfDay / 60 % 60)).toList ++ (':' ::
            ((padded 2 time.second).toList ++
              ((fractionText (time.nanos % nanosPerSecond)).toList ++ ['Z'])))))))))))  := by
  simp [text]

theorem secondOfDay_lt (time : Timestamp) : time.secondOfDay < 86400 := by
  unfold secondOfDay secondsPerDay
  omega

/-- The date of a timestamp has a month and a day of at most two digits. -/
theorem date_range (time : Timestamp) : time.date.month < 10 ^ 2 ∧ time.date.day < 10 ^ 2 := by
  have valid : time.date.isValid = true := Date.isValid_ofDays _
  have longest : ∀ year month, Date.monthLength year month ≤ 31 := by
    intro year month
    unfold Date.monthLength
    repeat' split
    all_goals omega
  have shorter := longest time.date.year time.date.month
  simp only [Date.isValid, Bool.and_eq_true, decide_eq_true_eq] at valid
  omega

namespace Ordinary

variable {time : Timestamp}

/-- The second of an ordinary timestamp is 60 just in a leap second. -/
theorem second_cases (ordinary : time.Ordinary) :
    time.second = time.secondOfDay % 60 ∧ time.nanos < nanosPerSecond ∨
      time.second = 60 ∧ time.secondOfDay % 60 = 59 ∧ nanosPerSecond ≤ time.nanos ∧
        time.nanos < 2 * nanosPerSecond := by
  unfold second
  rcases ordinary.nanos with small | ⟨last, more⟩
  · exact .inl ⟨by rw [if_neg (by omega)]; rfl, small⟩
  · split
    · next long => exact .inr ⟨by omega, last, long, more⟩
    · next short => exact .inl ⟨rfl, by omega⟩

theorem date? (ordinary : time.Ordinary) (rest : List Char) :
    date? ((yearText time.date.year).toList ++ ('-' ::
      ((padded 2 time.date.month).toList ++ ('-' :: ((padded 2 time.date.day).toList ++ rest))))) =
      some (time.date, rest) := by
  obtain ⟨low, high⟩ := ordinary.year
  obtain ⟨two_months, two_days⟩ := time.date_range
  have dash : isSpace '-' = false := by decide
  have year : Numeral 4 time.date.year.toNat (yearText time.date.year).toList := by
    rw [yearText, if_pos (by simp [low, high])]
    exact numeral_padded (by decide) (by omega)
  have same : (time.date.year.toNat : Int) = time.date.year := Int.toNat_of_nonneg low
  rw [Timestamp.date?, year.year?]
  simp only [Option.bind_eq_bind, Option.bind_some, sign?_cons dash, same,
    (numeral_padded (by decide) two_months).number?, (numeral_padded (by decide) two_days).number?]
  rfl

/-- The parts of an ordinary timestamp are put together again. -/
theorem ofParts? (ordinary : time.Ordinary) :
    ofParts? time.date (time.secondOfDay / 3600) (time.secondOfDay / 60 % 60) time.second
      (time.nanos % nanosPerSecond) 0 = some time := by
  obtain ⟨low, high⟩ := ordinary.year
  have valid : time.date.isValid = true := Date.isValid_ofDays _
  have days : time.date.toDays = time.seconds / secondsPerDay := Date.toDays_ofDays _
  have seconds := time.secondOfDay_lt
  have isYear : isYear time.date.year = true := by
    simp only [Timestamp.isYear, Bool.and_eq_true, decide_eq_true_eq]
    unfold yearLimit
    omega
  have within : time.second ≤ 60 := by
    rcases ordinary.second_cases with ⟨same, -⟩ | ⟨same, -⟩ <;> omega
  have accepted : (time.date.isValid && Timestamp.isYear time.date.year &&
      time.secondOfDay / 3600 < 24 && time.secondOfDay / 60 % 60 < 60 && time.second ≤ 60 &&
        -secondsPerDay < 0 && 0 < secondsPerDay) = true := by
    simp only [valid, isYear, within, Bool.and_eq_true, decide_eq_true_eq, true_and, and_true]
    unfold secondsPerDay
    omega
  have split : time.seconds =
      time.seconds / secondsPerDay * secondsPerDay + (time.secondOfDay : Int) := by
    unfold secondOfDay secondsPerDay
    omega
  have whole : time.date.toDays * secondsPerDay + (time.secondOfDay / 3600 : Nat) * 3600 +
      (time.secondOfDay / 60 % 60 : Nat) * 60 + (if time.second == 60 then 59 else time.second : Nat)
        - 0 = time.seconds := by
    have counted : (if time.second == 60 then 59 else time.second) = time.secondOfDay % 60 := by
      rcases ordinary.second_cases with ⟨same, -⟩ | ⟨same, last, -⟩
      · rw [same, if_neg (by rw [beq_iff_eq]; omega)]
      · rw [same, last]
        rfl
    rw [days, counted]
    omega
  have nanos : (if time.second == 60 then time.nanos % nanosPerSecond + nanosPerSecond
      else time.nanos % nanosPerSecond) = time.nanos := by
    rcases ordinary.second_cases with ⟨same, small⟩ | ⟨same, -, long, more⟩
    · rw [same, if_neg (by rw [beq_iff_eq]; omega), Nat.mod_eq_of_lt small]
    · rw [same, if_pos (by decide), Nat.mod_eq_sub_mod long, Nat.mod_eq_of_lt (by omega)]
      omega
  rw [Timestamp.ofParts?, if_pos accepted]
  dsimp only
  rw [whole, nanos, if_pos isYear]

/-- **An ordinary timestamp is read from its text.** -/
theorem parse?_text (ordinary : time.Ordinary) : parse? time.text = some time := by
  have seconds := time.secondOfDay_lt
  have hour : Numeral 2 (time.secondOfDay / 3600) (padded 2 (time.secondOfDay / 3600)).toList :=
    numeral_padded (by decide) (by omega)
  have minute : Numeral 2 (time.secondOfDay / 60 % 60)
      (padded 2 (time.secondOfDay / 60 % 60)).toList :=
    numeral_padded (by decide) (by omega)
  have second : Numeral 2 time.second (padded 2 time.second).toList :=
    numeral_padded (by decide) (by rcases ordinary.second_cases with ⟨same, -⟩ | ⟨same, -⟩ <;> omega)
  have colon : isSpace ':' = false := by decide
  have fraction := fraction?_fractionText
    (Nat.mod_lt time.nanos (by decide : 0 < nanosPerSecond)) []
  rw [parse?, toList_text, ordinary.date?]
  simp only [Option.bind_eq_bind, Option.bind_some, hour.number?, minute.number?, second.number?,
    sign?_cons colon, fraction, skipSpaces_cons (by decide : isSpace 'Z' = false)]
  exact ordinary.ofParts?

end Ordinary
end TaskRunner.Timestamp
