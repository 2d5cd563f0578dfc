/-
Ids from a seed. An id is a number of 128 bits in hexadecimal digits, in five groups,
with the digits that mark it as a random one. Successive numbers lie far apart.
-/
import DurableWorkflow.Engine.State

namespace DurableWorkflow

namespace IdSupply

/-- The distance between one number and the next; it is odd, so that no two numbers
of 128 bits coincide. -/
def stride : Nat := 0x9e3779b97f4a7c15f39cc0605cedc835

/-- A number of 128 bits. -/
def number (seed n : Nat) : Nat := (seed + n * stride) % 0x100000000000000000000000000000000

/-- The last hexadecimal digits of a number. -/
def hexDigits : Nat → Nat → List Char
  | 0, _ => []
  | width + 1, n => hexDigits width (n / 16) ++ [Value.hexDigit (n % 16)]

/-- A number in five groups of digits. -/
def grouped (n : Nat) : String :=
  let ds := hexDigits 32 n
  String.ofList (
    ds.take 8 ++ '-' :: ((ds.drop 8).take 4) ++ '-' :: '4' :: ((ds.drop 13).take 3)
      ++ '-' :: Value.hexDigit (8 + n / 0x4000000000000000 % 4) :: ((ds.drop 17).take 3)
      ++ '-' :: ds.drop 20)

/-- The ids that come from a seed. -/
def ofSeed (seed : Nat) : IdSupply where
  workflow n := grouped (number seed (3 * n))
  run n := grouped (number seed (3 * n + 1))
  node n := String.ofList ((hexDigits 32 (number seed (3 * n + 2))).take 8)

end IdSupply

end DurableWorkflow
