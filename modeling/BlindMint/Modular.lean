/-!
# Arithmetic modulo a number

Powers by repeated squaring, and the inverse modulo a prime as a power.
-/

namespace BlindMint.Modular

/-- The binary digits of a number, highest first; zero has one. -/
def bits (n : Nat) : List Bool :=
  (List.range (n.log2 + 1)).reverse.map n.testBit

/-- One step of raising to a power: square, and multiply by the base if the bit is set. -/
def powStep (base modulus acc : Nat) (bit : Bool) : Nat :=
  let square := acc * acc % modulus
  if bit then square * base % modulus else square

/-- A power modulo a number. -/
def pow (base exponent modulus : Nat) : Nat :=
  (bits exponent).foldl (powStep base modulus) (1 % modulus)

/-- The inverse of a number modulo a prime; zero has none and yields zero. -/
def inverse (n prime : Nat) : Nat :=
  pow n (prime - 2) prime

/-- The difference of two numbers modulo a number that is greater than the second one. -/
def sub (a b modulus : Nat) : Nat :=
  (a + (modulus - b % modulus)) % modulus

end BlindMint.Modular
