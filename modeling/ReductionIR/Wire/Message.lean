import ReductionIR.Text.Quoted
/-
Messages as bytes: numbered fields one after the other, each with a tag, numbers in groups
of seven bits. Which fields a message has, and what they mean, is up to its reader.
-/
namespace ReductionIR.Wire

abbrev Bytes := List UInt8

/-- What a field carries. -/
inductive Payload
  | number (n : Nat)
  | eight (n : Nat)
  | block (bytes : Bytes)
  | four (n : Nat)

abbrev Message := List (Nat × Payload)

/-! Numbers -/

/-- A number, seven bits a byte and the lowest first; every byte but the last has its top
    bit set. -/
def writeNumber (n : Nat) : Bytes :=
  if n < 128 then [n.toUInt8] else (n % 128 + 128).toUInt8 :: writeNumber (n / 128)

/-- Read a number of at most `most` bytes and leave the rest. -/
def readDigits : Nat → Bytes → Option (Nat × Bytes)
  | 0, _ => none
  | _, [] => none
  | most + 1, b :: rest =>
    if b.toNat < 128 then some (b.toNat, rest)
    else (readDigits most rest).map fun (n, rest) => (b.toNat % 128 + 128 * n, rest)

/-- Numbers have 64 bits; what is above them does not count. -/
def readNumber (bytes : Bytes) : Option (Nat × Bytes) :=
  (readDigits 10 bytes).map fun (n, rest) => (n % Nat.pow 2 64, rest)

theorem readDigits_shorter {most : Nat} {bytes rest : Bytes} {n : Nat}
    (read : readDigits most bytes = some (n, rest)) : rest.length < bytes.length := by
  induction most generalizing bytes rest n with
  | zero => simp [readDigits] at read
  | succ most ih =>
    cases bytes with
    | nil => simp [readDigits] at read
    | cons b bytes =>
      by_cases last : b.toNat < 128
      · grind [readDigits]
      · simp only [readDigits, last, ↓reduceIte, Option.map_eq_some_iff, Prod.exists] at read
        obtain ⟨m, tail, read, same⟩ := read
        have := ih read
        simp only [Prod.mk.injEq] at same
        simp only [List.length_cons, ← same.2]
        omega

theorem readNumber_shorter {bytes rest : Bytes} {n : Nat}
    (read : readNumber bytes = some (n, rest)) : rest.length < bytes.length := by
  simp only [readNumber, Option.map_eq_some_iff, Prod.exists] at read
  obtain ⟨m, tail, read, same⟩ := read
  simp only [Prod.mk.injEq] at same
  exact same.2 ▸ readDigits_shorter read

/-- Reading takes back what writing gave, whatever follows. -/
theorem readDigits_writeNumber (more n : Nat) (rest : Bytes)
    (fits : n < Nat.pow 128 (more + 1)) :
    readDigits (more + 1) (writeNumber n ++ rest) = some (n, rest) := by
  induction more generalizing n with
  | zero =>
    have small : n < 128 := fits
    have same : n.toUInt8.toNat = n := by simp; omega
    rw [writeNumber, if_pos small]
    simp [readDigits, same, small]
  | succ more ih =>
    rw [writeNumber]
    split
    · next small =>
      have same : n.toUInt8.toNat = n := by simp; omega
      simp [readDigits, same, small]
    · next large =>
      have byte : (n % 128 + 128).toUInt8.toNat = n % 128 + 128 := by simp; omega
      have upper : n / 128 < Nat.pow 128 (more + 1) :=
        Nat.div_lt_of_lt_mul (Nat.mul_comm .. ▸ fits)
      rw [List.cons_append, readDigits, byte, if_neg (by omega), ih (n / 128) upper]
      simp only [Option.map_some, Option.some.injEq, Prod.mk.injEq, and_true]
      omega

/-- `count` bytes of a number, the lowest first. -/
def writeFixed : Nat → Nat → Bytes
  | 0, _ => []
  | count + 1, n => n.toUInt8 :: writeFixed count (n / 256)

def readFixed (bytes : Bytes) : Nat := bytes.foldr (fun b n => b.toNat + 256 * n) 0

/-- Cut off the first `count` bytes. -/
def split (count : Nat) (bytes : Bytes) : Option (Bytes × Bytes) :=
  if count ≤ bytes.length then some (bytes.splitAt count) else none

theorem split_not_longer {count : Nat} {bytes front rest : Bytes}
    (cut : split count bytes = some (front, rest)) : rest.length ≤ bytes.length := by
  simp only [split, List.splitAt_eq, Option.ite_none_right_eq_some, Option.some.injEq,
    Prod.mk.injEq] at cut
  simp [← cut.2.2]

/-! Fields -/

/-- What a tag announces. -/
inductive Form
  | number | eight | block | opening | closing | four

def Form.ofTag? (tag : Nat) : Option Form :=
  [number, eight, block, opening, closing, four][tag % 8]?

/-- The payload of a field and the rest; brackets around groups of fields carry nothing. -/
def readPayload (form : Form) (bytes : Bytes) : Option (Option Payload × Bytes) :=
  match form with
  | .number => (readNumber bytes).map fun (n, rest) => (some (.number n), rest)
  | .eight => (split 8 bytes).map fun (front, rest) => (some (.eight (readFixed front)), rest)
  | .four => (split 4 bytes).map fun (front, rest) => (some (.four (readFixed front)), rest)
  | .block =>
    match readNumber bytes with
    | some (count, rest) =>
      (split count rest).map fun (front, rest) => (some (.block front), rest)
    | none => none
  | .opening | .closing => some (none, bytes)

theorem readPayload_not_longer {form : Form} {bytes rest : Bytes} {payload : Option Payload}
    (read : readPayload form bytes = some (payload, rest)) : rest.length ≤ bytes.length := by
  cases form with
  | number =>
    simp only [readPayload, Option.map_eq_some_iff, Prod.exists] at read
    obtain ⟨n, tail, read, same⟩ := read
    simp only [Prod.mk.injEq] at same
    exact same.2 ▸ Nat.le_of_lt (readNumber_shorter read)
  | eight | four =>
    simp only [readPayload, Option.map_eq_some_iff, Prod.exists] at read
    obtain ⟨front, tail, cut, same⟩ := read
    simp only [Prod.mk.injEq] at same
    exact same.2 ▸ split_not_longer cut
  | block =>
    simp only [readPayload] at read
    split at read
    · next count tail counted =>
      simp only [Option.map_eq_some_iff, Prod.exists] at read
      obtain ⟨front, tail', cut, same⟩ := read
      simp only [Prod.mk.injEq] at same
      exact same.2 ▸ Nat.le_trans (split_not_longer cut) (Nat.le_of_lt (readNumber_shorter counted))
    · simp at read
  | opening | closing => simp_all [readPayload]

/-- The groups that stay open after a tag; a group closes with the number it opened with. -/
def regroup (groups : List Nat) (number : Nat) : Form → Option (List Nat)
  | .opening => some (number :: groups)
  | .closing =>
    match groups with
    | [] => none
    | group :: outer => if group = number then some outer else none
  | _ => some groups

/-- Read fields to the end, inside the given groups. Fields inside of groups are left out. -/
def readFields (groups : List Nat) (bytes : Bytes) : Option Message :=
  match bytes with
  | [] => if groups.isEmpty then some [] else none
  | b :: more =>
    match _tagged : readNumber (b :: more) with
    | none => none
    | some (tag, afterTag) =>
      match Form.ofTag? tag with
      | none => none
      | some form =>
        match _read : readPayload form afterTag, regroup groups (tag / 8) form with
        | some (payload, rest), some open' =>
          if tag / 8 = 0 then none
          else
            match readFields open' rest, payload, groups with
            | some fields, some payload, [] => some ((tag / 8, payload) :: fields)
            | some fields, _, _ => some fields
            | none, _, _ => none
        | _, _ => none
  termination_by bytes.length
  decreasing_by
    have := readNumber_shorter _tagged
    have := readPayload_not_longer _read
    simp only [List.length_cons] at *
    omega

def readMessage (bytes : Bytes) : Option Message := readFields [] bytes

def writePayload (number : Nat) : Payload → Bytes
  | .number n => writeNumber (8 * number) ++ writeNumber n
  | .eight n => writeNumber (8 * number + 1) ++ writeFixed 8 n
  | .block bytes => writeNumber (8 * number + 2) ++ writeNumber bytes.length ++ bytes
  | .four n => writeNumber (8 * number + 5) ++ writeFixed 4 n

def writeMessage (message : Message) : Bytes :=
  message.flatMap fun field => writePayload field.1 field.2

def bitsOf (n : Int) : Nat := (n % Nat.pow 2 64).toNat

def intField (number : Nat) (n : Int) : Message := [(number, .number (bitsOf n))]

def bytesField (number : Nat) (bytes : Bytes) : Message := [(number, .block bytes)]

/-- A text; an empty one is left out. -/
def textField (number : Nat) (text : String) : Message :=
  if text = "" then [] else bytesField number text.toUTF8.toList

def innerField (number : Nat) (message : Message) : Message :=
  bytesField number (writeMessage message)

/-! Looking fields up -/

namespace Message

def payloads (message : Message) (number : Nat) : List Payload :=
  (message.filter fun field => field.1 == number).map Prod.snd

def has (message : Message) (number : Nat) : Bool := !(message.payloads number).isEmpty

def blocks (message : Message) (number : Nat) : List Bytes :=
  (message.payloads number).filterMap fun
    | .block bytes => some bytes
    | _ => none

def block? (message : Message) (number : Nat) : Option Bytes :=
  (message.blocks number).getLast?

/-- The text of bytes; bytes that are no text are quoted. -/
def textOf (bytes : Bytes) : String :=
  (String.fromUTF8? ⟨bytes.toArray⟩).getD (Text.quotedBytes bytes)

/-- The text of the last block of a number; without one it is empty. -/
def text (message : Message) (number : Nat) : String :=
  textOf ((message.block? number).getD [])

def texts (message : Message) (number : Nat) : List String :=
  (message.blocks number).map textOf

/-- A message inside a message; several of a number are read as one. -/
def inner? (message : Message) (number : Nat) : Option Message :=
  readMessage (message.blocks number).flatten

def inners? (message : Message) (number : Nat) : Option (List Message) :=
  (message.blocks number).mapM readMessage

def signed (n : Nat) : Int := if n < Nat.pow 2 63 then n else (n : Int) - Nat.pow 2 64

/-- The last number of a field; without one it is zero. -/
def int (message : Message) (number : Nat) : Int :=
  ((message.payloads number).filterMap fun
    | .number n => some (signed n)
    | _ => none).getLast?.getD 0

/-- A number of which 32 bits count. -/
def shortInt (message : Message) (number : Nat) : Int :=
  (message.int number).bmod 4294967296

def packed? (bytes : Bytes) : Option (List Nat) :=
  match bytes with
  | [] => some []
  | b :: more =>
    match _read : readNumber (b :: more) with
    | some (n, rest) => (packed? rest).map (n :: ·)
    | none => none
  termination_by bytes.length
  decreasing_by exact readNumber_shorter _read

def numbersOf? : Payload → Option (List Nat)
  | .number n => some [n]
  | .block bytes => packed? bytes
  | .eight _ | .four _ => some []

/-- The numbers of a field, each in a field of its own or many in one block. -/
def numbers? (message : Message) (number : Nat) : Option (List Nat) :=
  ((message.payloads number).mapM numbersOf?).map List.flatten

/-- Bytes in pieces of `width + 1`. -/
def pieces (width : Nat) (bytes : Bytes) : List Bytes :=
  match bytes with
  | [] => []
  | b :: rest => (b :: rest.take width) :: pieces width (rest.drop width)
  termination_by bytes.length

def wordsOf? (width : Nat) : Payload → Option (List Nat)
  | .eight n => some (if width = 8 then [n] else [])
  | .four n => some (if width = 4 then [n] else [])
  | .block bytes =>
    if bytes.length % width = 0 then some ((pieces (width - 1) bytes).map readFixed) else none
  | .number _ => some []

/-- The words of eight or four bytes of a field, each in a field of its own or many in one
    block. -/
def words? (message : Message) (width number : Nat) : Option (List Nat) :=
  ((message.payloads number).mapM (wordsOf? width)).map List.flatten

end Message

end ReductionIR.Wire
