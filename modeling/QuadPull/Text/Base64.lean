/-!
Bytes as text of 64 characters: three bytes make four characters, and the last ones are filled up.
-/

namespace QuadPull.Text.Base64

def alphabet : List Char :=
  "ABCDEFGHIJKLMNOPQRSTUVWXYZabcdefghijklmnopqrstuvwxyz0123456789+/".toList

def filler : Char := '='

def sextet (n place : Nat) : Char := alphabet.getD (n / place % 64) filler

def encode : List UInt8 → List Char
  | [] => []
  | [a] =>
    let n := a.toNat * 65536
    [sextet n 262144, sextet n 4096, filler, filler]
  | [a, b] =>
    let n := a.toNat * 65536 + b.toNat * 256
    [sextet n 262144, sextet n 4096, sextet n 64, filler]
  | a :: b :: c :: rest =>
    let n := a.toNat * 65536 + b.toNat * 256 + c.toNat
    sextet n 262144 :: sextet n 4096 :: sextet n 64 :: sextet n 1 :: encode rest

end QuadPull.Text.Base64
