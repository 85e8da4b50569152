/-!
# Octets

The bytes that travel on a link are lists of octets, oldest first. Texts enter
them by their UTF-8 spelling, and the two-octet lengths of long records are
written with the high octet first.
-/

set_option autoImplicit false

namespace Commissioner

/-- A run of octets in the order in which they travel. -/
abbrev Octets := List UInt8

namespace Octets

/-- The octets that spell a text in UTF-8. -/
def ofText (text : String) : Octets :=
  text.toList.flatMap String.utf8EncodeChar

/-- The number that two octets spell, high octet first. -/
def word (high low : UInt8) : Nat :=
  high.toNat * 256 + low.toNat

/-- The two octets of a number below `2 ^ 16`, high octet first. -/
def ofWord (n : Nat) : Octets :=
  [UInt8.ofNat (n / 256), UInt8.ofNat (n % 256)]

/-- A number below `2 ^ 16` is spelled by its own two octets. -/
theorem word_ofWord {n : Nat} (small : n < 65536) :
    word (UInt8.ofNat (n / 256)) (UInt8.ofNat (n % 256)) = n := by
  have high : n / 256 < 256 := by omega
  simp only [word, UInt8.toNat_ofNat']
  omega

/-- Two octets are those of the number that they spell. -/
theorem ofWord_word (high low : UInt8) : ofWord (word high low) = [high, low] := by
  have boundLow := low.toNat_lt
  have front : word high low / 256 = high.toNat := by
    simp only [word]
    omega
  have back : word high low % 256 = low.toNat := by
    simp only [word]
    omega
  simp only [ofWord, front, back, UInt8.ofNat_toNat]

/-- Two octets spell a number below `2 ^ 16`. -/
theorem word_lt (high low : UInt8) : word high low < 65536 := by
  have boundHigh := high.toNat_lt
  have boundLow := low.toNat_lt
  simp only [word]
  omega

end Octets

end Commissioner
