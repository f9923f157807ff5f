import Reflash.Text.Hex

/-!
# Hexadecimal numerals without leading zeros

`Numeral` says what the numeral of a number is, digit by digit from the lowest, without reference to
the function that writes it. A number has one numeral (`Numeral.unique`), which this function writes
(`numeral_digits`); `numeral_iff` puts both together.
-/

namespace Reflash.Text.Hex

/-- The digits in the order of their values. -/
def alphabet : List Char :=
  ['0', '1', '2', '3', '4', '5', '6', '7', '8', '9', 'a', 'b', 'c', 'd', 'e', 'f']

/-- The numeral of a number: one digit, or the numeral of a number that is not zero and one digit
more. -/
inductive Numeral : Nat → List Char → Prop where
  | digit {value digit} : alphabet[value]? = some digit → Numeral value [digit]
  | extend {front numeral value digit} : 0 < front → Numeral front numeral →
      alphabet[value]? = some digit → Numeral (16 * front + value) (numeral ++ [digit])

/-- Below sixteen, the alphabet has the digit that is written. -/
theorem alphabet_getElem? {value : Nat} (h : value < 16) :
    alphabet[value]? = some (Nat.digitChar value) := by
  have hall : ∀ value < 16, alphabet[value]? = some (Nat.digitChar value) := by decide
  exact hall value h

/-- The alphabet has digits for values below sixteen only. -/
theorem lt_of_alphabet_getElem? {value : Nat} {digit : Char} (h : alphabet[value]? = some digit) :
    value < 16 :=
  (List.getElem?_eq_some_iff.mp h).1

/-- A number has no other numeral. -/
theorem Numeral.unique {n : Nat} {numeral other : List Char} (h : Numeral n numeral)
    (hother : Numeral n other) : numeral = other := by
  induction h generalizing other with
  | @digit value digit hdigit =>
      have hlow := lt_of_alphabet_getElem? hdigit
      generalize hn : value = n at hother
      cases hother with
      | digit hotherDigit =>
          rw [hn, hotherDigit] at hdigit
          cases hdigit
          rfl
      | extend hpos => omega
  | @extend front numeral value digit hpos _ hdigit ih =>
      have hlow := lt_of_alphabet_getElem? hdigit
      generalize hn : 16 * front + value = n at hother
      cases hother with
      | digit hotherDigit =>
          have hotherLow := lt_of_alphabet_getElem? hotherDigit
          omega
      | @extend otherFront _ otherValue _ _ hfront hotherDigit =>
          have hotherLow := lt_of_alphabet_getElem? hotherDigit
          obtain rfl : front = otherFront := by omega
          obtain rfl : value = otherValue := by omega
          rw [hotherDigit] at hdigit
          cases hdigit
          rw [ih hfront]

/-- The numeral of a number is what is written for it. -/
theorem numeral_digits (n : Nat) : Numeral n (digits n).toList := by
  unfold digits
  rw [String.toList_ofList]
  induction n using Nat.strongRecOn with
  | ind n ih =>
      rcases Nat.lt_or_ge n 16 with hlow | hhigh
      · rw [Nat.toDigits_of_lt_base hlow]
        exact .digit (alphabet_getElem? hlow)
      · have hsplit : 16 * (n / 16) + n % 16 = n := Nat.div_add_mod n 16
        have hfront : Numeral (n / 16) (Nat.toDigits 16 (n / 16)) := ih (n / 16) (by omega)
        have hextended := hfront.extend (by omega) (alphabet_getElem? (Nat.mod_lt n (by decide)))
        rw [hsplit] at hextended
        rwa [Nat.toDigits_of_base_le (by decide) hhigh]

/-- What is written for a number is its one numeral. -/
theorem numeral_iff {n : Nat} {numeral : List Char} :
    Numeral n numeral ↔ numeral = (digits n).toList := by
  constructor
  · intro h
    exact h.unique (numeral_digits n)
  · rintro rfl
    exact numeral_digits n

end Reflash.Text.Hex
