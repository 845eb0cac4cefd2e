/-!
# Base64

Bytes as text of the standard alphabet, three bytes to four digits, with padding. Reading accepts
the canonical form only: padding in full, no bits lost in the last digit, nothing after the padding.
It undoes writing (`decode?_encodeChars`), and writing undoes it (`encodeChars_of_decode?`).
-/

namespace SoapDispatch.Base64

/-- The digit with a value below 64. -/
def digit (value : Nat) : Char :=
  if value < 26 then Char.ofNat ('A'.toNat + value)
  else if value < 52 then Char.ofNat ('a'.toNat + (value - 26))
  else if value < 62 then Char.ofNat ('0'.toNat + (value - 52))
  else if value = 62 then '+'
  else '/'

/-- The value of a digit. -/
def value? (c : Char) : Option Nat :=
  if 'A' ≤ c && c ≤ 'Z' then some (c.toNat - 'A'.toNat)
  else if 'a' ≤ c && c ≤ 'z' then some (c.toNat - 'a'.toNat + 26)
  else if '0' ≤ c && c ≤ '9' then some (c.toNat - '0'.toNat + 52)
  else if c = '+' then some 62
  else if c = '/' then some 63
  else none

/-- The digits of three bytes. -/
def digits (first second third : Nat) : List Char :=
  [digit (first / 4), digit (first % 4 * 16 + second / 16), digit (second % 16 * 4 + third / 64),
    digit (third % 64)]

/-- The digits and the padding that bytes are written with. -/
def encodeChars : List UInt8 → List Char
  | [] => []
  | [first] => (digits first.toNat 0 0).take 2 ++ ['=', '=']
  | [first, second] => (digits first.toNat second.toNat 0).take 3 ++ ['=']
  | first :: second :: third :: rest =>
    digits first.toNat second.toNat third.toNat ++ encodeChars rest

/-- The text that bytes are written as. -/
def encode (bytes : List UInt8) : String :=
  String.ofList (encodeChars bytes)

/-- The bytes that a text in canonical form stands for. -/
def decode? : List Char → Option (List UInt8)
  | [] => some []
  | [a, b, '=', '='] => do
    let a ← value? a
    let b ← value? b
    if b % 16 = 0 then some [UInt8.ofNat (a * 4 + b / 16)] else none
  | [a, b, c, '='] => do
    let a ← value? a
    let b ← value? b
    let c ← value? c
    if c % 4 = 0 then
      some [UInt8.ofNat (a * 4 + b / 16), UInt8.ofNat (b % 16 * 16 + c / 4)]
    else none
  | a :: b :: c :: d :: rest => do
    let a ← value? a
    let b ← value? b
    let c ← value? c
    let d ← value? d
    let bytes ← decode? rest
    some (UInt8.ofNat (a * 4 + b / 16) :: UInt8.ofNat (b % 16 * 16 + c / 4) ::
      UInt8.ofNat (c % 4 * 64 + d) :: bytes)
  | _ => none

/-- Every digit has the value it was written for. -/
@[simp] theorem value?_digit {value : Nat} (small : value < 64) :
    value? (digit value) = some value := by
  have all : ∀ value < 64, value? (digit value) = some value := by decide
  exact all value small

/-- No digit is the padding character. -/
theorem digit_ne_padding {value : Nat} (small : value < 64) : digit value ≠ '=' := by
  have all : ∀ value < 64, digit value ≠ '=' := by decide
  exact all value small

/-- A number below 256 is the byte it is the value of. -/
theorem ofNat_eq (byte : UInt8) {value : Nat} (same : value = byte.toNat) :
    UInt8.ofNat value = byte := by
  rw [same, UInt8.ofNat_toNat]

/-- Four digits that are not padded are read on their own. -/
theorem decode?_digits (first second third : UInt8) (rest : List Char) :
    decode? (digits first.toNat second.toNat third.toNat ++ rest) =
      (decode? rest).map ([first, second, third] ++ ·) := by
  have firstBound := first.toNat_lt
  have secondBound := second.toNat_lt
  have thirdBound := third.toNat_lt
  have unpadded := digit_ne_padding (show third.toNat % 64 < 64 by omega)
  simp only [digits, List.cons_append, List.nil_append]
  rw [decode?.eq_4 _ _ _ _ _ (by simp [unpadded]) (by simp [unpadded]),
    value?_digit (by omega), value?_digit (by omega), value?_digit (by omega),
    value?_digit (by omega)]
  simp only [Option.bind_eq_bind, Option.bind_some]
  rw [ofNat_eq first (by omega), ofNat_eq second (by omega), ofNat_eq third (by omega)]
  cases decode? rest <;> rfl

/-- Reading undoes writing. -/
@[simp] theorem decode?_encodeChars (bytes : List UInt8) :
    decode? (encodeChars bytes) = some bytes := by
  fun_induction encodeChars bytes with
  | case1 => rfl
  | case2 first =>
    have bound := first.toNat_lt
    simp only [digits, List.take_succ_cons, List.take_zero, List.cons_append, List.nil_append,
      decode?]
    rw [value?_digit (by omega), value?_digit (by omega)]
    simp only [Option.bind_eq_bind, Option.bind_some]
    rw [if_pos (by omega), ofNat_eq first (by omega)]
  | case3 first second =>
    have firstBound := first.toNat_lt
    have secondBound := second.toNat_lt
    have unpadded := digit_ne_padding (show second.toNat % 16 * 4 < 64 by omega)
    simp only [digits, List.take_succ_cons, List.take_zero, List.cons_append, List.nil_append,
      Nat.zero_div, Nat.add_zero]
    rw [decode?.eq_3 _ _ _ (by simp [unpadded]), value?_digit (by omega),
      value?_digit (by omega), value?_digit (by omega)]
    simp only [Option.bind_eq_bind, Option.bind_some]
    rw [if_pos (by omega), ofNat_eq first (by omega), ofNat_eq second (by omega)]
  | case4 first second third rest inductionHypothesis =>
    rw [decode?_digits, inductionHypothesis]
    rfl

/-- A character that has a value is the digit of that value. -/
theorem digit_of_value? {c : Char} {value : Nat} (known : value? c = some value) :
    value < 64 ∧ digit value = c := by
  have shifted {base : Nat} (low : base ≤ c.toNat) : Char.ofNat (base + (c.toNat - base)) = c := by
    rw [Nat.add_sub_cancel' low, Char.ofNat_toNat]
  have range {first last : Char} (within : (first ≤ c && c ≤ last) = true) :
      first.toNat ≤ c.toNat ∧ c.toNat ≤ last.toNat := by
    simpa [Char.le_def, UInt32.le_iff_toNat_le] using within
  unfold value? at known
  split at known
  · next capital =>
    obtain ⟨low, high⟩ : 65 ≤ c.toNat ∧ c.toNat ≤ 90 := range capital
    obtain rfl : c.toNat - 65 = value := Option.some.inj known
    refine ⟨by omega, ?_⟩
    rw [digit, if_pos (by omega)]
    exact shifted low
  split at known
  · next small =>
    obtain ⟨low, high⟩ : 97 ≤ c.toNat ∧ c.toNat ≤ 122 := range small
    obtain rfl : c.toNat - 97 + 26 = value := Option.some.inj known
    refine ⟨by omega, ?_⟩
    rw [digit, if_neg (by omega), if_pos (by omega), Nat.add_sub_cancel]
    exact shifted low
  split at known
  · next decimal =>
    obtain ⟨low, high⟩ : 48 ≤ c.toNat ∧ c.toNat ≤ 57 := range decimal
    obtain rfl : c.toNat - 48 + 52 = value := Option.some.inj known
    refine ⟨by omega, ?_⟩
    rw [digit, if_neg (by omega), if_neg (by omega), if_pos (by omega), Nat.add_sub_cancel]
    exact shifted low
  split at known
  · next plus =>
    cases known
    exact ⟨by decide, plus.symm⟩
  split at known
  · next slash =>
    cases known
    exact ⟨by decide, slash.symm⟩
  · cases known

/-- A number below 256 is the value of its byte. -/
theorem toNat_ofNat {value : Nat} (small : value < 256) : (UInt8.ofNat value).toNat = value := by
  rw [UInt8.toNat_ofNat', Nat.mod_eq_of_lt small]

/-- Writing undoes reading: only the canonical form is read. -/
theorem encodeChars_of_decode? {chars : List Char} {bytes : List UInt8}
    (read : decode? chars = some bytes) : encodeChars bytes = chars := by
  fun_induction decode? chars generalizing bytes with
  | case1 =>
    cases read
    rfl
  | case2 a b =>
    obtain ⟨first, knownFirst, afterFirst⟩ := Option.bind_eq_some_iff.1 read
    obtain ⟨second, knownSecond, made⟩ := Option.bind_eq_some_iff.1 afterFirst
    obtain ⟨firstSmall, rfl⟩ := digit_of_value? knownFirst
    obtain ⟨secondSmall, rfl⟩ := digit_of_value? knownSecond
    split at made
    · next exact =>
      cases made
      simp only [encodeChars, digits, toNat_ofNat (show first * 4 + second / 16 < 256 by omega),
        List.take_succ_cons, List.take_zero, List.cons_append, List.nil_append]
      rw [show (first * 4 + second / 16) / 4 = first by omega,
        show (first * 4 + second / 16) % 4 * 16 + 0 / 16 = second by omega]
    · cases made
  | case3 a b c unpadded =>
    obtain ⟨first, knownFirst, afterFirst⟩ := Option.bind_eq_some_iff.1 read
    obtain ⟨second, knownSecond, afterSecond⟩ := Option.bind_eq_some_iff.1 afterFirst
    obtain ⟨third, knownThird, made⟩ := Option.bind_eq_some_iff.1 afterSecond
    obtain ⟨firstSmall, rfl⟩ := digit_of_value? knownFirst
    obtain ⟨secondSmall, rfl⟩ := digit_of_value? knownSecond
    obtain ⟨thirdSmall, rfl⟩ := digit_of_value? knownThird
    split at made
    · next exact =>
      cases made
      simp only [encodeChars, digits, toNat_ofNat (show first * 4 + second / 16 < 256 by omega),
        toNat_ofNat (show second % 16 * 16 + third / 4 < 256 by omega),
        List.take_succ_cons, List.take_zero, List.cons_append, List.nil_append]
      rw [show (first * 4 + second / 16) / 4 = first by omega,
        show (first * 4 + second / 16) % 4 * 16 + (second % 16 * 16 + third / 4) / 16 = second by
          omega,
        show (second % 16 * 16 + third / 4) % 16 * 4 + 0 / 64 = third by omega]
    · cases made
  | case4 a b c d rest _ _ inductionHypothesis =>
    obtain ⟨first, knownFirst, afterFirst⟩ := Option.bind_eq_some_iff.1 read
    obtain ⟨second, knownSecond, afterSecond⟩ := Option.bind_eq_some_iff.1 afterFirst
    obtain ⟨third, knownThird, afterThird⟩ := Option.bind_eq_some_iff.1 afterSecond
    obtain ⟨fourth, knownFourth, afterFourth⟩ := Option.bind_eq_some_iff.1 afterThird
    obtain ⟨others, later, made⟩ := Option.bind_eq_some_iff.1 afterFourth
    obtain ⟨firstSmall, rfl⟩ := digit_of_value? knownFirst
    obtain ⟨secondSmall, rfl⟩ := digit_of_value? knownSecond
    obtain ⟨thirdSmall, rfl⟩ := digit_of_value? knownThird
    obtain ⟨fourthSmall, rfl⟩ := digit_of_value? knownFourth
    cases made
    rw [encodeChars, inductionHypothesis later, digits,
      toNat_ofNat (show first * 4 + second / 16 < 256 by omega),
      toNat_ofNat (show second % 16 * 16 + third / 4 < 256 by omega),
      toNat_ofNat (show third % 4 * 64 + fourth < 256 by omega),
      show (first * 4 + second / 16) / 4 = first by omega,
      show (first * 4 + second / 16) % 4 * 16 + (second % 16 * 16 + third / 4) / 16 = second by
        omega,
      show (second % 16 * 16 + third / 4) % 16 * 4 + (third % 4 * 64 + fourth) / 64 = third by
        omega,
      show (third % 4 * 64 + fourth) % 64 = fourth by omega]
    rfl
  | case5 => cases read
end SoapDispatch.Base64
