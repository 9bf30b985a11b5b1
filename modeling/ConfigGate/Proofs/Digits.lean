import ConfigGate.Decimal.Literal

/-!
# Digits

The digits of a number spell it, also behind zeros. The first of them is zero for zero alone.

Results:
1. `digitsIn?_of_digits`: the value of a run of digits;
2. `toDigits_eq_cons`: the digits of a number have no zeros in front.
-/

namespace ConfigGate.Decimal

theorem toList_pushn (c : Char) (count : Nat) :
    ("".pushn c count).toList = List.replicate count c := by
  have pushed (text : String) :
      (Nat.repeat (fun text => text.push c) count text).toList =
        text.toList ++ List.replicate count c := by
    induction count with
    | zero => simp [Nat.repeat]
    | succ count ih =>
        rw [Nat.repeat, String.toList_push, ih, List.replicate_succ', List.append_assoc]
  exact pushed ""

theorem toList_toString (value : Nat) : (toString value).toList = Nat.toDigits 10 value :=
  Nat.toList_repr

theorem toList_toString_int (value : Int) :
    (toString value).toList =
      if 0 ≤ value then Nat.toDigits 10 value.toNat else '-' :: Nat.toDigits 10 (-value).toNat := by
  show value.repr.toList = _
  rw [Int.repr_eq_if]
  split
  · exact Nat.toList_repr
  · rw [String.toList_append, Nat.toList_repr]
    rfl

theorem isDigit_of_mem_toDigits {value : Nat} {c : Char} (member : c ∈ Nat.toDigits 10 value) :
    c.isDigit = true :=
  Nat.isDigit_of_mem_toDigits (by decide) (by decide) member

/-- A number has digits, and only zero has a zero for its first. -/
theorem toDigits_eq_cons (value : Nat) :
    ∃ c rest, Nat.toDigits 10 value = c :: rest ∧ c.isDigit = true ∧ (c = '0' → rest = []) := by
  induction value using Nat.strongRecOn with
  | _ value ih =>
      rw [Nat.toDigits_eq_if (by decide)]
      split
      · rename_i small
        have digit : value.digitChar.isDigit = true := by
          rw [Nat.isDigit_digitChar]
          exact decide_eq_true small
        exact ⟨_, [], rfl, digit, fun _ => rfl⟩
      · rename_i large
        obtain ⟨c, rest, digits, digit, alone⟩ := ih (value / 10) (by omega)
        rw [digits]
        refine ⟨c, rest ++ [(value % 10).digitChar], rfl, digit, fun zero => ?_⟩
        -- The leading digits spell a tenth of the number, and that is not zero.
        have spelled := Nat.ofDigitChars_ten_toDigits (n := value / 10)
        rw [digits, zero, alone zero, Nat.ofDigitChars_cons, Nat.ofDigitChars_nil] at spelled
        have zeroValue : 10 * 0 + ('0'.toNat - '0'.toNat) = 0 := rfl
        omega

/-- What further digits spell is no less. -/
theorem le_ofDigitChars (cs : List Char) (init : Nat) : init ≤ Nat.ofDigitChars 10 cs init := by
  induction cs generalizing init with
  | nil => exact Nat.le_refl init
  | cons c rest ih =>
      rw [Nat.ofDigitChars_cons]
      exact Nat.le_trans (by omega) (ih _)

theorem hexDigit?_of_isDigit {c : Char} (digit : c.isDigit = true) :
    hexDigit? c = some (c.toNat - '0'.toNat) := by
  rw [hexDigit?, if_pos digit]
  rfl

theorem sub_lt_of_isDigit {c : Char} (digit : c.isDigit = true) : c.toNat - '0'.toNat < 10 := by
  rw [Char.isDigit, Bool.and_eq_true, decide_eq_true_eq, decide_eq_true_eq] at digit
  have below : c.toNat ≤ 57 := digit.2
  have zero : '0'.toNat = 48 := rfl
  omega

section Runs

variable {cs rest : List Char} (digits : ∀ c ∈ cs, c.isDigit = true)
  (ends : ∀ c more, rest = c :: more → c.isDigit = false)

include digits ends

/-- A run of digits ends where no digit follows. -/
theorem takeWhile_digits : (cs ++ rest).takeWhile Char.isDigit = cs := by
  rw [List.takeWhile_append_of_pos digits]
  cases rest with
  | nil => rw [List.takeWhile_nil, List.append_nil]
  | cons c more => rw [List.takeWhile_cons_of_neg (by simp [ends c more rfl]), List.append_nil]

theorem dropWhile_digits : (cs ++ rest).dropWhile Char.isDigit = rest := by
  rw [List.dropWhile_append_of_pos digits]
  cases rest with
  | nil => rfl
  | cons c more => rw [List.dropWhile_cons_of_neg (by simp [ends c more rfl])]

end Runs

/-- A run of digits spells a number. -/
theorem digitsIn?_of_digits {cs : List Char} (nonempty : cs ≠ [])
    (digits : ∀ c ∈ cs, c.isDigit = true) :
    digitsIn? 10 cs = some (Nat.ofDigitChars 10 cs 0) := by
  have folded (init : Nat) : cs.foldl (fun (acc : Option Nat) c =>
      acc.bind fun value =>
        (hexDigit? c).bind fun digit => if digit < 10 then some (value * 10 + digit) else none)
      (some init) = some (Nat.ofDigitChars 10 cs init) := by
    clear nonempty
    induction cs generalizing init with
    | nil => rfl
    | cons c rest ih =>
        have digit := digits c List.mem_cons_self
        rw [List.foldl_cons, Option.bind_some, hexDigit?_of_isDigit digit, Option.bind_some,
          if_pos (sub_lt_of_isDigit digit), Nat.ofDigitChars_cons, Nat.mul_comm]
        exact ih (fun other member => digits other (List.mem_cons_of_mem c member)) _
  rw [digitsIn?, if_neg (by simpa using nonempty)]
  exact folded 0

end ConfigGate.Decimal
