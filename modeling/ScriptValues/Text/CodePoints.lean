/-!
Code points in stored texts. A text is stored as UTF-8, while all positions count code points. In a
text of ASCII characters each byte is one code point, so its bytes answer directly; any other text
is gone through from the start.
-/

namespace ScriptValues

namespace Text

/-- The bytes that store a text. -/
def bytes (s : String) : List UInt8 := s.toByteArray.data.toList

/-- Whether every byte of a text is an ASCII character. -/
def isAscii (s : String) : Bool := s.toByteArray.data.all (· < 128)

/-- The number of code points. -/
def length (s : String) : Nat := if isAscii s then s.utf8ByteSize else s.toList.length

/-- The code point at an index. -/
def codePoint? (s : String) (i : Nat) : Option Char :=
  if isAscii s then s.toByteArray.data[i]?.map (Char.ofNat ·.toNat) else s.toList[i]?

/-- The byte offsets at which characters start, when the first of them starts at `offset`. -/
def startsFrom (offset : Nat) : List Char → List Nat
  | [] => []
  | c :: cs => offset :: startsFrom (offset + c.utf8Size) cs

/-- The byte offset of the code point at an index. From the end on it is the number of bytes. -/
def byteOffset (s : String) (i : Nat) : Nat :=
  if isAscii s then min i s.utf8ByteSize else (startsFrom 0 s.toList)[i]?.getD s.utf8ByteSize

/-- The bytes from one offset to another as a text; none when the offsets are crossed or one of them
falls inside a character. -/
def cut? (s : String) (start stop : Nat) : Option String :=
  if h : String.Pos.Raw.IsValid s ⟨start⟩ ∧ String.Pos.Raw.IsValid s ⟨stop⟩ ∧ start ≤ stop then
    some (s.extract (s.pos ⟨start⟩ h.1) (s.pos ⟨stop⟩ h.2.1))
  else none

/-- The index of the code point that starts at a byte offset. -/
def codePointIndex (s : String) (offset : Nat) : Nat :=
  if isAscii s then offset else ((cut? s 0 offset).getD "").toList.length

/-- The text from one code point to another, which does not come before it. All of a text is the
text itself. -/
def codePointsBetween (s : String) (first last : Nat) : String :=
  let start := byteOffset s first
  let stop := byteOffset s last
  if start = 0 ∧ stop = s.utf8ByteSize then s else (cut? s start stop).getD ""

end Text

end ScriptValues
