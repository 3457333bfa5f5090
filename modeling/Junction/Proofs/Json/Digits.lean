import Junction.Json.Decimal
import Junction.Proofs.Text.Pieces

/-!
Integers in decimal: the text that is written of one is read as the same one, if it fits a 64-bit word.
-/

namespace Junction

/-- A number that a 64-bit word holds, signed or unsigned. -/
def Number.IsWord : Number → Prop
  | .int value => -Text.signedLimit ≤ value ∧ value ≤ Text.wordLimit
  | .double _ => False

namespace Json.Decimal

/-- What may follow a number: nothing, or a character that no number goes on with. -/
def Follows (rest : List Char) : Prop :=
  ∀ c ∈ rest.head?, c.isDigit = false ∧ c ≠ '.' ∧ c ≠ 'e' ∧ c ≠ 'E'

theorem digitChar_toNat {digit : Nat} (small : digit < 10) : digit.digitChar.toNat - 48 = digit := by
  have all : ∀ digit < 10, digit.digitChar.toNat - 48 = digit := by decide
  exact all digit small

theorem valueOf_append (front : List Nat) (digit : Nat) : valueOf (front ++ [digit]) = 10 * valueOf front + digit := by
  simp [valueOf]

/-- The digits of a number, as they are read. -/
def digitsOf (n : Nat) : List Nat := (Nat.toDigits 10 n).map fun c => c.toNat - 48

theorem digitsOf_of_lt {n : Nat} (small : n < 10) : digitsOf n = [n] := by
  rw [digitsOf, Nat.toDigits_of_lt_base small]
  simp [digitChar_toNat small]

theorem digitsOf_of_ge {n : Nat} (large : 10 ≤ n) : digitsOf n = digitsOf (n / 10) ++ [n % 10] := by
  rw [digitsOf, Nat.toDigits_of_base_le (by decide) large]
  simp [digitsOf, digitChar_toNat (Nat.mod_lt n (by decide : 0 < 10))]

theorem valueOf_digitsOf (n : Nat) : valueOf (digitsOf n) = n := by
  induction n using Nat.strongRecOn with
  | ind n ih =>
    by_cases small : n < 10
    · rw [digitsOf_of_lt small]
      simp [valueOf]
    · have large : 10 ≤ n := by omega
      rw [digitsOf_of_ge large, valueOf_append, ih (n / 10) (by omega)]
      omega

/-- The first digit of a number is zero for zero alone. -/
theorem digitsOf_head (n : Nat) : digitsOf n = [0] ∨ ∃ first rest, digitsOf n = (first + 1) :: rest := by
  induction n using Nat.strongRecOn with
  | ind n ih =>
    by_cases small : n < 10
    · rw [digitsOf_of_lt small]
      cases n with
      | zero => exact .inl rfl
      | succ n => exact .inr ⟨n, [], rfl⟩
    · have large : 10 ≤ n := by omega
      right
      rw [digitsOf_of_ge large]
      rcases ih (n / 10) (by omega) with zero | ⟨first, rest, same⟩
      · have value := valueOf_digitsOf (n / 10)
        rw [zero] at value
        have none : n / 10 = 0 := value.symm
        omega
      · exact ⟨first, rest ++ [n % 10], by rw [same]; rfl⟩

theorem digits_toDigits (n : Nat) {rest : List Char} (follows : Follows rest) :
    digits (Nat.toDigits 10 n ++ rest) = (digitsOf n, rest) := by
  have allDigits : ∀ c ∈ Nat.toDigits 10 n, c.isDigit = true :=
    fun c member => Nat.isDigit_of_mem_toDigits (by decide) (by decide) member
  have ends : ∀ c ∈ rest.head?, c.isDigit = false := fun c first => (follows c first).1
  rw [digits, Text.takeWhile_of_stops allDigits ends, Text.dropWhile_of_stops allDigits ends]
  rfl

theorem whole?_toDigits (n : Nat) {rest : List Char} (follows : Follows rest) :
    whole? (Nat.toDigits 10 n ++ rest) = some (digitsOf n, rest) := by
  have found := digits_toDigits n follows
  rcases digitsOf_head n with zero | ⟨first, more, same⟩
  · rw [zero] at found ⊢
    simp [whole?, someDigits?, found]
  · rw [same] at found ⊢
    simp [whole?, someDigits?, found]

theorem fraction?_of_follows {rest : List Char} (follows : Follows rest) : fraction? rest = some (none, rest) := by
  cases rest with
  | nil => rfl
  | cons c rest =>
    have notPoint := (follows c rfl).2.1
    simp [fraction?, notPoint]

theorem exponent?_of_follows {rest : List Char} (follows : Follows rest) : exponent? rest = some (none, rest) := by
  cases rest with
  | nil => rfl
  | cons c rest =>
    obtain ⟨_, _, notSmall, notLarge⟩ := follows c rfl
    simp [exponent?, notSmall, notLarge]

/-- A number of digits alone, perhaps after a minus sign. -/
def ofInt (value : Int) : Decimal := ⟨decide (value < 0), digitsOf value.natAbs, none, none⟩

/-- A number begins with a digit. -/
theorem toDigits_cons (n : Nat) : ∃ first more, Nat.toDigits 10 n = first :: more ∧ first.isDigit = true := by
  obtain ⟨first, more, same⟩ := List.exists_cons_of_ne_nil (Nat.toDigits_ne_nil (n := n) (b := 10))
  refine ⟨first, more, same, ?_⟩
  apply Nat.isDigit_of_mem_toDigits (by decide) (by decide : 10 ≤ 10)
  rw [same]
  exact List.mem_cons_self

theorem read?_toDigits (n : Nat) {rest : List Char} (follows : Follows rest) :
    read? (Nat.toDigits 10 n ++ rest) = some (⟨false, digitsOf n, none, none⟩, rest) := by
  obtain ⟨first, more, same, digit⟩ := toDigits_cons n
  have unsigned : first ≠ '-' := by
    rintro rfl
    cases digit
  have whole := whole?_toDigits n follows
  rw [same] at whole ⊢
  simp only [List.cons_append] at whole ⊢
  simp [read?, unsigned, whole, fraction?_of_follows follows, exponent?_of_follows follows]

theorem read?_int (value : Int) {rest : List Char} (follows : Follows rest) :
    read? ((toString value).toList ++ rest) = some (ofInt value, rest) := by
  rw [Int.toString_eq_repr, Int.repr_eq_if]
  by_cases sign : 0 ≤ value
  · obtain ⟨n, rfl⟩ := Int.eq_ofNat_of_zero_le sign
    have positive : ¬ ((n : Int) < 0) := by omega
    simp [read?_toDigits n follows, ofInt, positive]
  · have below : value < 0 := by omega
    have size : (-value).toNat = value.natAbs := by omega
    have whole := whole?_toDigits value.natAbs follows
    simp [sign, size, read?, whole, ofInt, below, fraction?_of_follows follows, exponent?_of_follows follows]

theorem value?_ofInt {value : Int} (fits : (Number.int value).IsWord) : (ofInt value).value? = some (.int value) := by
  obtain ⟨least, greatest⟩ := fits
  by_cases below : value < 0
  · have bounds : value.natAbs ≠ 0 ∧ value.natAbs ≤ Text.signedLimit := by omega
    have same : -(value.natAbs : Int) = value := by omega
    simp only [value?, ofInt, Option.isNone_none, Bool.and_self, if_true, valueOf_digitsOf, below, decide_true,
      if_pos bounds, same]
  · have small : value.natAbs ≤ Text.wordLimit := by omega
    have same : (value.natAbs : Int) = value := by omega
    simp only [value?, ofInt, Option.isNone_none, Bool.and_self, if_true, valueOf_digitsOf, below, decide_false,
      Bool.false_eq_true, if_false, if_pos small, same]

theorem toList_toString (n : Nat) : (toString n).toList = Nat.toDigits 10 n := Nat.toList_repr

theorem isDigit_of_mem_toString {n : Nat} {c : Char} (member : c ∈ (toString n).toList) : c.isDigit = true := by
  rw [toList_toString] at member
  exact Nat.isDigit_of_mem_toDigits (by decide) (by decide) member

/-- A number in decimal is read as a word, if it is one. -/
theorem word?_toString {n : Nat} (fits : n ≤ Text.wordLimit) : Text.word? (toString n).toList = some n := by
  obtain ⟨first, more, same, digit⟩ := toDigits_cons n
  have unsigned : first ≠ '+' := by
    rintro rfl
    cases digit
  have allDigits : (Nat.toDigits 10 n).all Char.isDigit = true :=
    List.all_eq_true.mpr fun c member => Nat.isDigit_of_mem_toDigits (by decide) (by decide) member
  have value : (Nat.toDigits 10 n).foldl (fun value c => 10 * value + (c.toNat - 48)) 0 = n := by
    have whole := valueOf_digitsOf n
    rwa [valueOf, digitsOf, List.foldl_map] at whole
  have read : Text.digitsValue? (Nat.toDigits 10 n) = some n := by
    rw [Text.digitsValue?, allDigits, value, same]
    rfl
  rw [toList_toString]
  unfold Text.word?
  split
  · rename_i digits plus
    cases same.symm.trans plus
    exact absurd rfl unsigned
  · dsimp only
    rw [read]
    exact Option.filter_eq_some_iff.mpr ⟨rfl, by simpa using fits⟩

end Json.Decimal
end Junction
