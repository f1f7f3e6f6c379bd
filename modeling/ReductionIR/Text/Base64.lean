/-
Bytes written with 64 characters of six bits each. Characters of no value are passed over.
-/
namespace ReductionIR.Text.Base64

def value? (c : Char) : Option Nat :=
  if 'A' ≤ c ∧ c ≤ 'Z' then some (c.toNat - 65)
  else if 'a' ≤ c ∧ c ≤ 'z' then some (c.toNat - 71)
  else if c.isDigit then some (c.toNat + 4)
  else if c = '+' then some 62
  else if c = '/' then some 63
  else none

/-- The values of a text, with the padding signs in a row so far. A group of four is full with
    its padding, and ends the text then; it must not stay open. -/
def values? : List Nat → Nat → List Char → Option (List Nat)
  | taken, _, [] => if taken.length % 4 = 0 then some taken.reverse else none
  | taken, padding, c :: rest =>
    if c = '=' then
      if 2 ≤ taken.length % 4 then
        if 4 ≤ taken.length % 4 + padding + 1 then some taken.reverse
        else values? taken (padding + 1) rest
      else values? taken padding rest
    else
      match value? c with
      | some n => values? (n :: taken) 0 rest
      | none => values? taken padding rest

/-- Bytes from groups of four values; a last group may be shorter. -/
def join : List Nat → List UInt8
  | a :: b :: c :: d :: rest =>
    let n := ((a * 64 + b) * 64 + c) * 64 + d
    (n / 65536).toUInt8 :: (n / 256 % 256).toUInt8 :: (n % 256).toUInt8 :: join rest
  | [a, b, c] =>
    let n := (a * 64 + b) * 64 + c
    [(n / 1024).toUInt8, (n / 4 % 256).toUInt8]
  | [a, b] => [((a * 64 + b) / 16).toUInt8]
  | _ => []

/-- The bytes of a text; characters outside of ASCII are refused. -/
def decode? (text : String) : Option (List UInt8) :=
  if text.toList.all fun c => decide (c.toNat < 128) then (values? [] 0 text.toList).map join
  else none

end ReductionIR.Text.Base64
