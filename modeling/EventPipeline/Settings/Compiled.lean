import EventPipeline.Encoding
import EventPipeline.Text.Quoted

/-!
# Compiled files of settings

A compiled file begins with four bytes that say so. Behind them stand flags and what the file was
compiled from, twelve bytes in all, and then one object: the code of the file. An object begins with
a byte for its kind; some kinds hold other objects, and one kind refers back to an earlier object.

`Compiled.check` tells whether a file has that form. What the code of a file does is not followed.
-/

namespace EventPipeline

/-- Why a compiled file gives no settings. -/
inductive CompiledFault
  /-- It begins otherwise. -/
  | beginning (bytes : Bytes)
  /-- It ends too early. -/
  | ended
  /-- It has flags that mean nothing. -/
  | flags (flags : Nat)
  /-- Its objects are not what they should be. -/
  | invalid (what : String)
  /-- An object is missing. -/
  | missing
  /-- It holds something else than code. -/
  | noCode
  deriving DecidableEq, Repr

/-- The wording of a fault; those that need none have an empty one. -/
def CompiledFault.message : CompiledFault → Text
  | beginning bytes => "bad magic number in 'settings': ".toList ++ Text.shownBytes bytes
  | flags n => "invalid flags ".toList ++ Text.ofNat n ++ " in 'settings'".toList
  | invalid what => "bad marshal data (".toList ++ what.toList ++ [')']
  | noCode => "Non-code object in 'settings'".toList
  | _ => []

namespace Compiled

/-! ## Numbers -/

/-- The bytes that a compiled file begins with. -/
def mark : Bytes := [0xA7, 0x0D, 0x0D, 0x0A]

/-- How many bytes stand in front of the object of a file. -/
def headLength : Nat := 16

/-- The number of bytes of which the first one counts least. -/
def number : Bytes → Nat
  | [] => 0
  | b :: rest => b.toNat + 256 * number rest

/-- The number of bytes that may be negative. -/
def wholeNumber (bytes : Bytes) : Int :=
  Int.bmod (number bytes) (Nat.pow 256 bytes.length)

/-! ## Objects -/

/-- What an object is, as far as it matters. -/
inductive Kind
  /-- The end of other objects. -/
  | nothing
  /-- Code. -/
  | code
  /-- A value. -/
  | value
  deriving DecidableEq

/-- What is left to be read, and how many objects can be referred to. -/
structure Place where
  /-- The bytes that are left. -/
  rest : Bytes
  /-- The number of objects that can be referred to. -/
  objects : Nat

/-- What reads from a file. -/
abbrev Reader (α : Type) := StateT Place (Except CompiledFault) α

/-- Takes bytes. -/
def take (count : Nat) : Reader Bytes := do
  let place ← get
  let bytes := place.rest.take count
  if bytes.length < count then throw .ended
  set { place with rest := place.rest.drop count }
  return bytes

/-- Takes a number of some bytes. -/
def takeNumber (width : Nat) : Reader Int := do
  return wholeNumber (← take width)

/-- Takes as many bytes as a number in front of them says. -/
def takeSized (what : String) : Reader Unit := do
  let count ← takeNumber 4
  if count < 0 then throw (.invalid what)
  let _ ← take count.toNat

/-- Takes as many bytes as one byte in front of them says. -/
def takeShort : Reader Unit := do
  let _ ← take (number (← take 1))

/-- Takes a whole number of any size. -/
def takeLong : Reader Unit := do
  let count ← takeNumber 4
  if count = -2147483648 then throw (.invalid "long size out of range")
  let bytes ← take (2 * count.natAbs)
  let last := number (bytes.drop (2 * count.natAbs - 2))
  if 0 < count.natAbs && last = 0 then throw (.invalid "unnormalized long data")

/-- How many objects follow the numbers of code, and how many follow the number of its line. -/
def codeObjects : Nat × Nat := (8, 2)

mutual

/-- Takes an object. -/
def takeObject : (fuel : Nat) → Reader Kind
  | 0 => throw .ended
  | fuel + 1 => do
    let byte := number (← take 1)
    let kind := Char.ofNat (byte % 128)
    if 128 ≤ byte && !"0NFTS.r".toList.contains kind then
      modify fun place => { place with objects := place.objects + 1 }
    match kind with
    | '0' => return .nothing
    | 'N' | 'F' | 'T' | 'S' | '.' => return .value
    | 'i' => discard (take 4)
    | 'I' => discard (take 8)
    | 'g' => discard (take 8)
    | 'y' => discard (take 16)
    | 'l' => takeLong
    | 'f' => takeShort
    | 'x' =>
      takeShort
      takeShort
    | 's' => takeSized "bytes object size out of range"
    | 't' | 'u' | 'a' | 'A' => takeSized "string size out of range"
    | 'z' | 'Z' => takeShort
    | ')' => takeObjects fuel (number (← take 1))
    | '(' => takeCounted fuel "tuple size out of range"
    | '[' => takeCounted fuel "list size out of range"
    | '<' | '>' => takeCounted fuel "set size out of range"
    | '\x7b' => takeEntries fuel
    | 'r' =>
      let index ← takeNumber 4
      if index < 0 || (← get).objects ≤ index.toNat then throw (.invalid "invalid reference")
    | 'c' =>
      discard (take 20)
      takeObjects fuel codeObjects.1
      discard (take 4)
      takeObjects fuel codeObjects.2
      return .code
    | _ => throw (.invalid "unknown type code")
    return .value

/-- Takes a number of objects. -/
def takeObjects : (fuel count : Nat) → Reader Unit
  | _, 0 => return
  | 0, _ => throw .ended
  | fuel + 1, count + 1 => do
    if (← takeObject fuel) = .nothing then throw .missing
    takeObjects fuel count

/-- Takes as many objects as a number in front of them says. -/
def takeCounted : (fuel : Nat) → (what : String) → Reader Unit
  | 0, _ => throw .ended
  | fuel + 1, what => do
    let count ← takeNumber 4
    if count < 0 then throw (.invalid what)
    takeObjects fuel count.toNat

/-- Takes objects by key up to the one that ends them. -/
def takeEntries : (fuel : Nat) → Reader Unit
  | 0 => throw .ended
  | fuel + 1 => do
    if (← takeObject fuel) = .nothing then return
    if (← takeObject fuel) = .nothing then return
    takeEntries fuel

end

/-- Whether a file is a compiled one. -/
def check (file : Bytes) : Except CompiledFault Unit := do
  if !mark.isPrefixOf file then throw (.beginning (file.take mark.length))
  if file.length < headLength then throw .ended
  let flags := number ((file.drop mark.length).take 4)
  if 4 ≤ flags then throw (.flags flags)
  let rest := file.drop headLength
  match ← (takeObject (3 * rest.length + 3)).run' ⟨rest, 0⟩ with
  | .code => return ()
  | .nothing => throw .missing
  | .value => throw .noCode

end Compiled

end EventPipeline
