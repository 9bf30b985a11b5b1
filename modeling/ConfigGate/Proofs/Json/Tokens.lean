import ConfigGate.Json.Writer
import ConfigGate.Proofs.Digits
import ConfigGate.Proofs.Json.Values

/-!
# Texts and numbers read back

The reader takes a quoted text up to its closing quote, and an integer as far as digits go. What
stands behind is left, so a text must not go on with what could belong to the number.

Results:
1. `readTextBody_escaped`: the characters of a text are read back from their escapes;
2. `readValue_int`: an integer of 64 bits is read back from its digits.
-/

namespace ConfigGate.Json

theorem skipSpace_cons {c : Char} (solid : isSpace c = false) (cs : List Char) :
    skipSpace (c :: cs) = c :: cs := by
  rw [skipSpace, List.dropWhile_cons_of_neg (by simp [solid])]

/-! ## Texts -/

/-- A control character is read back from its escape. -/
theorem hexUnit?_control {code : Nat} (control : code < 32) :
    hexUnit? '0' '0' (Decimal.hexDigit (code / 16)) (Decimal.hexDigit (code % 16)) = some code := by
  revert code
  decide

/-- One character is read back from how it stands inside a text. -/
theorem readTextBody_escapeChar (c : Char) (cs : List Char) :
    readTextBody (escapeChar c ++ cs) =
      (readTextBody cs).map fun (body, after) => (c :: body, after) := by
  unfold escapeChar
  -- The short escapes.
  iterate 7
    split
    · rename_i equal
      subst equal
      rfl
  split
  · rename_i control
    show readTextBody ('\\' :: 'u' :: '0' :: '0' :: _ :: _ :: cs) = _
    rw [readTextBody, hexUnit?_control control]
    simp only
    rw [if_pos (by simp; omega), Char.ofNat_toNat]
  · rename_i quote backslash _ _ _ _ _ control
    show readTextBody (c :: cs) = _
    rw [readTextBody]
    · rw [if_neg (by simp [control, backslash])]
    · exact quote
    · exact fun _ _ _ _ _ same _ => backslash same
    · exact fun _ _ same _ => backslash same

theorem readTextBody_escaped (body rest : List Char) :
    readTextBody (body.flatMap escapeChar ++ '"' :: rest) = some (body, rest) := by
  induction body with
  | nil => rfl
  | cons c body ih =>
      rw [List.flatMap_cons, List.append_assoc, readTextBody_escapeChar, ih]
      rfl

/-! ## Numbers -/

/-- No number goes on in the text. -/
def EndsNumber (rest : List Char) : Prop :=
  ∀ c more, rest = c :: more → c.isDigit = false ∧ c ≠ '.' ∧ c ≠ 'e' ∧ c ≠ 'E'

theorem takeDigits_digits {cs rest : List Char} (digits : ∀ c ∈ cs, c.isDigit = true)
    (ends : EndsNumber rest) (acc taken : Nat)
    (fits : Nat.ofDigitChars 10 cs acc < Decimal.twoTo 64) :
    takeDigits acc taken (cs ++ rest) = (Nat.ofDigitChars 10 cs acc, taken + cs.length, rest) := by
  induction cs generalizing acc taken with
  | nil =>
      cases rest with
      | nil => rfl
      | cons c rest =>
          rw [List.nil_append, takeDigits, if_neg (by simp [(ends c rest rfl).1])]
          rfl
  | cons c cs ih =>
      have digit := digits c List.mem_cons_self
      have value : acc * 10 + digitValue c = 10 * acc + (c.toNat - '0'.toNat) := by
        rw [Nat.mul_comm]
        rfl
      rw [Nat.ofDigitChars_cons] at fits ⊢
      have small := Nat.lt_of_le_of_lt (Decimal.le_ofDigitChars cs _) fits
      rw [List.cons_append, takeDigits, value, if_pos (by rw [digit]; exact decide_eq_true small),
        ih (fun other member => digits other (List.mem_cons_of_mem c member)) _ _ fits,
        List.length_cons, Nat.add_right_comm, Nat.add_assoc]

theorem readMagnitude_toDigits (negative : Bool) {value : Nat} (fits : value < Decimal.twoTo 64)
    {rest : List Char} (ends : EndsNumber rest) :
    readMagnitude negative (Nat.toDigits 10 value ++ rest) =
      some (integer negative value, rest) := by
  have digits : ∀ c ∈ Nat.toDigits 10 value, c.isDigit = true :=
    fun c => Decimal.isDigit_of_mem_toDigits
  have taken := takeDigits_digits digits ends 0 0 (by rwa [Nat.ofDigitChars_ten_toDigits])
  rw [Nat.ofDigitChars_ten_toDigits] at taken
  obtain ⟨c, more, spelled, first, alone⟩ := Decimal.toDigits_eq_cons value
  have noZero : (c == '0' && (more ++ rest).head?.any Char.isDigit) = false := by
    rw [Bool.and_eq_false_iff]
    by_cases zero : c = '0'
    · right
      rw [alone zero]
      cases rest with
      | nil => rfl
      | cons next rest => exact (ends next rest rfl).1
    · left
      simpa using zero
  rw [spelled, List.cons_append] at taken ⊢
  unfold readMagnitude
  simp only [first, noZero, taken]
  cases rest with
  | nil => rfl
  | cons next rest =>
      obtain ⟨noDigit, noPoint, noMark, noCapital⟩ := ends next rest rfl
      simp [noDigit, noMark, noCapital]

theorem isSpace_of_isDigit {c : Char} (digit : c.isDigit = true) : isSpace c = false := by
  rw [Bool.eq_false_iff]
  intro space
  simp only [isSpace, Bool.or_eq_true, beq_iff_eq] at space
  rcases space with ((rfl | rfl) | rfl) | rfl <;> exact absurd digit (by decide)

theorem readValue_digit {c : Char} (digit : c.isDigit = true) (fuel depth : Nat)
    (cs : List Char) : readValue (fuel + 1) depth (c :: cs) = readMagnitude false (c :: cs) := by
  rw [readValue, skipSpace_cons (isSpace_of_isDigit digit)]
  split <;> rename_i equal <;> cases equal
  all_goals first
    | exact absurd digit (by decide)
    | rfl

/-- The digits of an integer are read back, behind the sign that it has. -/
theorem readValue_int {value : Int} (fits : FitsWord value) (fuel depth : Nat) {rest : List Char}
    (ends : EndsNumber rest) :
    readValue (fuel + 1) depth ((toString value).toList ++ rest) = some (.int value, rest) := by
  rw [Decimal.toList_toString_int]
  split
  · rename_i positive
    have small : value.toNat < Decimal.twoTo 64 := by
      have below := fits.2
      omega
    obtain ⟨c, more, digits, digit, -⟩ := Decimal.toDigits_eq_cons value.toNat
    rw [digits, List.cons_append, readValue_digit digit, ← List.cons_append, ← digits,
      readMagnitude_toDigits false small ends]
    simp [integer, Int.toNat_of_nonneg positive]
  · rename_i negative
    have range : 0 < (-value).toNat ∧ (-value).toNat ≤ Decimal.twoTo 63 := by
      have above := fits.1
      omega
    have small : (-value).toNat < Decimal.twoTo 64 := Nat.lt_of_le_of_lt range.2 (by decide)
    rw [List.cons_append, readValue, skipSpace_cons (by decide)]
    simp only
    have narrow : ((-value).toNat = 0 || Decimal.twoTo 63 < (-value).toNat) = false := by
      rw [Bool.or_eq_false_iff, decide_eq_false_iff_not, decide_eq_false_iff_not, Nat.not_lt]
      exact ⟨Nat.ne_of_gt range.1, range.2⟩
    have back : -((-value).toNat : Int) = value := by omega
    rw [readMagnitude_toDigits true small ends, integer, narrow, back]
    rfl

end ConfigGate.Json
