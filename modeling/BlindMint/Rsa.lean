import BlindMint.Hash.Sha2
import BlindMint.Modular

/-!
# RSA keys and their signatures

A public key is a modulus and an exponent; a private key adds the private exponent and the prime
factors. Keys are accepted as they come out of a document (`RsaPublic.isSound`, `RsaPrivate.isSound`);
signing asks for more (`RsaPrivate.isFitForSigning`), checking signatures for something else again
(`RsaPublic.isFitForChecking`).

Signatures are over the SHA-256 digest of the message, framed as `RsaPublic.frame` says.
-/

namespace BlindMint

/-- Bits of a number; zero has none. -/
def bitLength (n : Nat) : Nat :=
  if n = 0 then 0 else n.log2 + 1

/-- An RSA public key. -/
structure RsaPublic where
  /-- The modulus. -/
  n : Nat
  /-- The public exponent. -/
  e : Nat
  deriving DecidableEq, Repr

/-- An RSA private key. -/
structure RsaPrivate where
  pub : RsaPublic
  /-- The private exponent. -/
  d : Nat
  /-- The prime factors of the modulus, in the order of the document. -/
  primes : List Nat
  deriving DecidableEq, Repr

namespace RsaPublic

/-- Bytes of the modulus. -/
def size (key : RsaPublic) : Nat :=
  (Octets.minimal key.n).length

/-- Whether a key is accepted from a document: an odd modulus of at most 4096 bits, and an odd exponent
between 2 and 33 bits of ones that is below the modulus. -/
def isSound (key : RsaPublic) : Bool :=
  bitLength key.n ≤ 4096 && key.e < key.n && key.n % 2 == 1 && key.e % 2 == 1 && 2 ≤ key.e &&
    bitLength key.e ≤ 33

/-- Whether signatures can be checked with the key: an odd modulus of 2048 to 8192 bits, counted in
whole bytes, and an odd exponent from 3 to 33 bits of ones. -/
def isFitForChecking (key : RsaPublic) : Bool :=
  256 ≤ key.size && bitLength key.n ≤ 8192 && key.n % 2 == 1 && key.e % 2 == 1 && 3 ≤ key.e &&
    bitLength key.e ≤ 33

/-- The bytes that name the digest's algorithm in a frame. -/
def digestHeader : Octets :=
  [0x30, 0x31, 0x30, 0x0d, 0x06, 0x09, 0x60, 0x86, 0x48, 0x01, 0x65, 0x03, 0x04, 0x02, 0x01, 0x05, 0x00,
    0x04, 0x20]

/-- The frame of a message: 0, 1, a run of 255 up to the size of the modulus, 0, and the digest with the
name of its algorithm. -/
def frame (size : Nat) (message : Octets) : Octets :=
  let body := digestHeader ++ Sha2.sha256 message
  [0x00, 0x01] ++ List.replicate (size - 3 - body.length) 0xff ++ [0x00] ++ body

/-- Whether a signature over a message is right. -/
def checks (key : RsaPublic) (message signature : Octets) : Bool :=
  key.isFitForChecking && signature.length == key.size && signature.toNat < key.n &&
    Modular.pow signature.toNat key.e key.n == Octets.toNat (frame key.size message)

end RsaPublic

namespace RsaPrivate

/-- Whether a key is accepted from a document: its public key is, its two factors exceed one and multiply
to the modulus, and both exponents undo each other modulo each factor less one. -/
def isSound (key : RsaPrivate) : Bool :=
  key.pub.isSound &&
    match key.primes with
    | [p, q] => 1 < p && 1 < q && p * q == key.pub.n &&
        (key.d * key.pub.e) % (p - 1) == 1 && (key.d * key.pub.e) % (q - 1) == 1
    | _ => false

/-- Whether a key may sign: a modulus of 2048 to 4096 bits, counted in whole bytes, a public exponent from
65537 on, factors of half the modulus's bits in whole units of 512, and a private exponent that is
longer than half the modulus and below it. -/
def isFitForSigning (key : RsaPrivate) : Bool :=
  let bits := bitLength key.pub.n
  let half := (bits + 1) / 2
  256 ≤ key.pub.size && bits ≤ 4096 && 65537 ≤ key.pub.e && half % 512 == 0 &&
    key.primes.all (fun p => bitLength p == half) && half < bitLength key.d && key.d < key.pub.n

/-- The signature over a message. -/
def sign (key : RsaPrivate) (message : Octets) : Octets :=
  Octets.ofNat key.pub.size
    (Modular.pow (Octets.toNat (RsaPublic.frame key.pub.size message)) key.d key.pub.n)

end RsaPrivate

end BlindMint
