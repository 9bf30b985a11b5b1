import ConfigGate.Proofs.Digits
import ConfigGate.Time.InternetDate
import Mathlib.Algebra.Group.Nat.Defs

/-!
# Timestamps read back

Each part of a timestamp is read back from its text, and what stands behind the part is left.

Results: `read_text`: the text of a timestamp gives it back.
-/

namespace ConfigGate.Timestamp

/-! ## Numbers -/

theorem toList_padNumber (width value : Nat) :
    (padNumber width value).toList =
      List.replicate (width - (Nat.toDigits 10 value).length) '0' ++ Nat.toDigits 10 value := by
  have digits : (toString value).length = (Nat.toDigits 10 value).length := by
    rw [← String.length_toList, Decimal.toList_toString]
  rw [padNumber, String.toList_append, Decimal.toList_pushn, Decimal.toList_toString, digits]

theorem isDigit_of_mem_padNumber {width value : Nat} {c : Char}
    (member : c ∈ (padNumber width value).toList) : c.isDigit = true := by
  rw [toList_padNumber] at member
  rcases List.mem_append.mp member with zero | digit
  · rw [List.eq_of_mem_replicate zero]
    rfl
  · exact Decimal.isDigit_of_mem_toDigits digit

theorem ofDigitChars_padNumber (width value : Nat) :
    Nat.ofDigitChars 10 (padNumber width value).toList 0 = value := by
  rw [toList_padNumber, Nat.ofDigitChars_append, Nat.ofDigitChars_replicate_zero, Nat.mul_zero,
    Nat.ofDigitChars_ten_toDigits]

theorem length_padNumber (width value : Nat) (positive : 0 < width) (fits : value < 10 ^ width) :
    (padNumber width value).toList.length = width := by
  have short := (Nat.length_toDigits_le_iff (b := 10) (by decide) positive).mpr fits
  rw [toList_padNumber, List.length_append, List.length_replicate]
  omega

/-- The digits of a padded number spell it. -/
theorem digitsIn?_padNumber (width value : Nat) (positive : 0 < width)
    (fits : value < 10 ^ width) :
    Decimal.digitsIn? 10 (padNumber width value).toList = some value := by
  have nonempty : (padNumber width value).toList ≠ [] := by
    intro empty
    have length := length_padNumber width value positive fits
    rw [empty] at length
    exact Nat.ne_of_gt positive length.symm
  rw [Decimal.digitsIn?_of_digits nonempty fun c => isDigit_of_mem_padNumber,
    ofDigitChars_padNumber]

theorem readNumber_padNumber (width value : Nat) (positive : 0 < width)
    (fits : value < 10 ^ width) (rest : List Char) :
    readNumber width ((padNumber width value).toList ++ rest) = some (value, rest) := by
  have length := length_padNumber width value positive fits
  have front : ((padNumber width value).toList ++ rest).take width =
      (padNumber width value).toList := List.take_left' length
  have back : ((padNumber width value).toList ++ rest).drop width = rest :=
    List.drop_left' length
  have digits : (padNumber width value).toList.all Char.isDigit = true :=
    List.all_eq_true.mpr fun c => isDigit_of_mem_padNumber
  simp only [readNumber, front, back, length, digits]
  rw [digitsIn?_padNumber width value positive fits]
  rfl

/-! ## Fractions -/

/-- The text ends in as many of these characters as are dropped from its end. -/
theorem dropped_append_replicate (c : Char) (cs : List Char) :
    (cs.reverse.dropWhile (· == c)).reverse ++
        List.replicate (cs.reverse.takeWhile (· == c)).length c = cs := by
  have run : cs.reverse.takeWhile (· == c) =
      List.replicate (cs.reverse.takeWhile (· == c)).length c := by
    refine List.eq_replicate_of_mem fun d member => ?_
    exact eq_of_beq (List.all_eq_true.mp List.all_takeWhile d member)
  rw [← List.reverse_replicate, ← run, ← List.reverse_append, List.takeWhile_append_dropWhile,
    List.reverse_reverse]

/-- Digits without zeros at their end are filled up to the digits they come from. -/
theorem readFraction_digits {cs : List Char} {value : Nat} (nine : cs.length = 9)
    (digits : ∀ c ∈ cs, c.isDigit = true) (spelled : Decimal.digitsIn? 10 cs = some value)
    (nonzero : ∃ c ∈ cs, c ≠ '0') {rest : List Char}
    (ends : ∀ c more, rest = c :: more → c.isDigit = false ∧ c ≠ '.') :
    readFraction ('.' :: ((cs.reverse.dropWhile (· == '0')).reverse ++ rest)) =
      some (value, rest) := by
  have whole := dropped_append_replicate '0' cs
  generalize (cs.reverse.dropWhile (· == '0')).reverse = kept at whole ⊢
  generalize (cs.reverse.takeWhile (· == '0')).length = count at whole
  have keptDigits : ∀ c ∈ kept, c.isDigit = true := by
    intro c member
    exact digits c (whole ▸ List.mem_append_left _ member)
  have keptSome : kept.isEmpty = false := by
    cases kept with
    | cons c more => rfl
    | nil =>
        obtain ⟨c, member, other⟩ := nonzero
        rw [← whole, List.nil_append] at member
        exact absurd (List.eq_of_mem_replicate member) other
  -- The reader fills up what it took with zeros, and these are the zeros that were dropped.
  have filled : (kept ++ List.replicate 9 '0').take 9 = cs := by
    have length : kept.length + count = 9 := by
      rw [← nine, ← whole, List.length_append, List.length_replicate]
    rw [List.take_append, List.take_of_length_le (by omega), List.take_replicate, ← whole]
    congr 2
    omega
  have taken : (kept ++ rest).takeWhile Char.isDigit = kept :=
    Decimal.takeWhile_digits keptDigits fun c more same => (ends c more same).1
  have dropped : (kept ++ rest).dropWhile Char.isDigit = rest :=
    Decimal.dropWhile_digits keptDigits fun c more same => (ends c more same).1
  simp only [readFraction, taken, dropped, keptSome, filled, spelled]
  rfl

theorem readFraction_fractionText {nanosecond : Nat} (fits : nanosecond < 10 ^ 9)
    {rest : List Char} (ends : ∀ c more, rest = c :: more → c.isDigit = false ∧ c ≠ '.') :
    readFraction ((fractionText nanosecond).toList ++ rest) = some (nanosecond, rest) := by
  unfold fractionText
  split
  · rename_i zero
    rw [zero]
    show readFraction rest = _
    unfold readFraction
    split
    · exact absurd rfl (ends _ _ rfl).2
    · rfl
  · rename_i positive
    have length := length_padNumber 9 nanosecond (by decide) fits
    have spelled := digitsIn?_padNumber 9 nanosecond (by decide) fits
    have nonzero : ∃ c ∈ (padNumber 9 nanosecond).toList, c ≠ '0' := by
      -- Zeros alone spell zero.
      refine Classical.byContradiction fun none => positive ?_
      have zeros : (padNumber 9 nanosecond).toList = List.replicate 9 '0' :=
        List.eq_replicate_iff.mpr ⟨length, fun c member =>
          Classical.byContradiction fun other => none ⟨c, member, other⟩⟩
      have value := ofDigitChars_padNumber 9 nanosecond
      rw [zeros, Nat.ofDigitChars_replicate_zero, Nat.mul_zero] at value
      exact value.symm
    have point : ".".toList = ['.'] := by decide
    simp only [String.toList_append, String.toList_ofList, point, List.singleton_append]
    exact readFraction_digits length (fun c => isDigit_of_mem_padNumber) spelled nonzero ends

/-! ## Offsets -/

/-- Hours and minutes behind a sign. -/
theorem readOffset_signed (sign : Char) (hours minutes : Nat) (hoursFit : hours ≤ 23)
    (minutesFit : minutes ≤ 59) :
    readOffset (sign :: ((padNumber 2 hours).toList ++ ':' :: (padNumber 2 minutes).toList)) =
      if sign == '+' then some ((hours * 60 + minutes : Nat) : Int)
      else if sign == '-' then some (-((hours * 60 + minutes : Nat) : Int))
      else none := by
  have hoursRead := readNumber_padNumber 2 hours (by decide) (by omega)
    (':' :: (padNumber 2 minutes).toList)
  have minutesRead := readNumber_padNumber 2 minutes (by decide) (by omega) []
  rw [List.append_nil] at minutesRead
  have inRange : (!([] : List Char).isEmpty || decide (23 < hours) || decide (59 < minutes)) =
      false := by
    simp
    omega
  rw [readOffset]
  · rw [hoursRead]
    simp only [Option.bind_eq_bind, Option.bind_some, readChar, BEq.rfl, if_true]
    rw [minutesRead]
    simp only [Option.bind_some, inRange]
    rfl
  all_goals simp

theorem readOffset_offsetText {offset : Int} (fits : offset.natAbs < 24 * 60) :
    readOffset (offsetText offset).toList = some offset := by
  unfold offsetText
  split
  · rename_i zero
    rw [zero]
    rfl
  · have read (sign : Char) := readOffset_signed sign (offset.natAbs / 60) (offset.natAbs % 60)
      (by omega) (by omega)
    simp only [Nat.div_add_mod'] at read
    split
    · rename_i negative
      have text : ("-" ++ padNumber 2 (offset.natAbs / 60) ++ ":" ++
          padNumber 2 (offset.natAbs % 60)).toList =
          '-' :: ((padNumber 2 (offset.natAbs / 60)).toList ++
            ':' :: (padNumber 2 (offset.natAbs % 60)).toList) := by
        simp
      have back : -(offset.natAbs : Int) = offset := by omega
      rw [text, read, if_neg (by decide), if_pos (by decide), back]
    · have text : ("+" ++ padNumber 2 (offset.natAbs / 60) ++ ":" ++
          padNumber 2 (offset.natAbs % 60)).toList =
          '+' :: ((padNumber 2 (offset.natAbs / 60)).toList ++
            ':' :: (padNumber 2 (offset.natAbs % 60)).toList) := by
        simp
      have back : (offset.natAbs : Int) = offset := by omega
      rw [text, read, if_pos (by decide), back]

/-! ## Timestamps -/

theorem readChar_cons {accepts : Char → Bool} {c : Char} (accepted : accepts c = true)
    (rest : List Char) : readChar accepts (c :: rest) = some rest := by
  rw [readChar, if_pos accepted]

theorem readDate_padNumber {year month day : Nat} (yearFits : year < 10 ^ 4)
    (monthFits : month < 10 ^ 2) (dayFits : day < 10 ^ 2) (rest : List Char) :
    readDate ((padNumber 4 year).toList ++ '-' :: ((padNumber 2 month).toList ++
      '-' :: ((padNumber 2 day).toList ++ 'T' :: rest))) = some ((year, month, day), rest) := by
  rw [readDate, readNumber_padNumber 4 year (by decide) yearFits]
  simp only [Option.bind_eq_bind, Option.bind_some]
  rw [readChar_cons (by decide), Option.bind_some,
    readNumber_padNumber 2 month (by decide) monthFits]
  simp only [Option.bind_some]
  rw [readChar_cons (by decide), Option.bind_some, readNumber_padNumber 2 day (by decide) dayFits]
  simp only [Option.bind_some]
  rw [readChar_cons (by decide), Option.bind_some]

theorem readClock_padNumber {hour minute second : Nat} (hourFits : hour < 10 ^ 2)
    (minuteFits : minute < 10 ^ 2) (secondFits : second < 10 ^ 2) (rest : List Char) :
    readClock ((padNumber 2 hour).toList ++ ':' :: ((padNumber 2 minute).toList ++
      ':' :: ((padNumber 2 second).toList ++ rest))) = some ((hour, minute, second), rest) := by
  rw [readClock, readNumber_padNumber 2 hour (by decide) hourFits]
  simp only [Option.bind_eq_bind, Option.bind_some]
  rw [readChar_cons (by decide), Option.bind_some,
    readNumber_padNumber 2 minute (by decide) minuteFits]
  simp only [Option.bind_some]
  rw [readChar_cons (by decide), Option.bind_some,
    readNumber_padNumber 2 second (by decide) secondFits]
  simp only [Option.bind_some]

/-- An offset begins with a letter or a sign. -/
theorem offsetText_first (offset : Int) :
    ∃ c more, (offsetText offset).toList = c :: more ∧ c.isDigit = false ∧ c ≠ '.' := by
  unfold offsetText
  split
  · exact ⟨'Z', [], rfl, by decide, by decide⟩
  · split
    · exact ⟨'-', _, by simp only [String.toList_append, List.append_assoc]; rfl, by decide,
        by decide⟩
    · exact ⟨'+', _, by simp only [String.toList_append, List.append_assoc]; rfl, by decide,
        by decide⟩

/-- The fields of a timestamp have the digits that its text gives them. -/
theorem bounds (time : Timestamp) :
    time.year < 10 ^ 4 ∧ time.month < 10 ^ 2 ∧ time.day < 10 ^ 2 ∧ time.hour < 10 ^ 2 ∧
      time.minute < 10 ^ 2 ∧ time.second ≤ 59 ∧ time.nanosecond < 10 ^ 9 ∧
      time.offset.natAbs < 24 * 60 := by
  have real := time.isReal
  simp only [TimeFields.isReal, Bool.and_eq_true, decide_eq_true_eq] at real
  have longest : daysInMonth time.year time.month ≤ 31 := by
    unfold daysInMonth
    split
    · split <;> decide
    · split <;> decide
  omega

/-- The text of a timestamp gives it back. -/
theorem read_text (time : Timestamp) : read time.text = some time := by
  obtain ⟨year, month, day, hour, minute, second, nanosecond, offset⟩ := time.bounds
  have parts : time.text.toList = (padNumber 4 time.year).toList ++
      '-' :: ((padNumber 2 time.month).toList ++ '-' :: ((padNumber 2 time.day).toList ++
        'T' :: ((padNumber 2 time.hour).toList ++ ':' :: ((padNumber 2 time.minute).toList ++
          ':' :: ((padNumber 2 time.second).toList ++ ((fractionText time.nanosecond).toList ++
            (offsetText time.offset).toList)))))) := by
    simp [text]
  obtain ⟨c, more, first, noDigit, noPoint⟩ := offsetText_first time.offset
  have ends : ∀ d rest, (offsetText time.offset).toList = d :: rest →
      d.isDigit = false ∧ d ≠ '.' := by
    intro d rest same
    rw [first] at same
    rw [← (List.cons.inj same).1]
    exact ⟨noDigit, noPoint⟩
  rw [read, parts, readDate_padNumber year month day]
  simp only [Option.bind_eq_bind, Option.bind_some]
  rw [readClock_padNumber hour minute (by omega)]
  simp only [Option.bind_some]
  rw [readFraction_fractionText nanosecond ends]
  simp only [Option.bind_some]
  rw [readOffset_offsetText offset, Option.bind_some, ofWritten?, if_neg (by simp; omega)]
  exact ofFields?_fields time

end ConfigGate.Timestamp
