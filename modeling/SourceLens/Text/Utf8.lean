/-!
# UTF-8

Bytes become text in two ways. The strict reading accepts exactly the encodings of texts and
otherwise names the first fault: where it is, which bytes it covers and what is wrong with them.
The lenient reading accepts everything and puts one replacement character in place of every
faulty piece. Both rest on one step, `Piece.first`, which takes the first character off a byte
list or says how many bytes of a broken one belong together: a fault covers the longest run of
bytes that some character could begin with, and at least one byte.
-/
namespace SourceLens.Text.Utf8

/-- What is wrong with a piece of a byte list. -/
inductive Reason where
  /-- No character begins with this byte. -/
  | badStart
  /-- A character is begun and the next byte cannot continue it. -/
  | badContinuation
  /-- The bytes end inside a character. -/
  | cutShort
  deriving DecidableEq, Repr

/-- The reason in words. -/
def Reason.message : Reason → String
  | .badStart => "invalid start byte"
  | .badContinuation => "invalid continuation byte"
  | .cutShort => "unexpected end of data"

/-- The first piece of a byte list: a character or a fault, with the bytes it covers. -/
inductive Piece where
  /-- A character encoded by the given number of bytes. -/
  | character (c : Char) (size : Nat)
  /-- A fault that covers the given number of bytes. -/
  | fault (reason : Reason) (size : Nat)

/-- The ranges of the bytes that must follow a lead byte, or none when nothing begins with it.
The second byte is restricted where a shorter encoding, a surrogate or a value beyond the last
code point would be written. -/
def followers (lead : UInt8) : Option (List (UInt8 × UInt8)) :=
  let any : UInt8 × UInt8 := (0x80, 0xBF)
  if lead < 0x80 then some []
  else if lead < 0xC2 then none
  else if lead < 0xE0 then some [any]
  else if lead = 0xE0 then some [(0xA0, 0xBF), any]
  else if lead = 0xED then some [(0x80, 0x9F), any]
  else if lead < 0xF0 then some [any, any]
  else if lead = 0xF0 then some [(0x90, 0xBF), any, any]
  else if lead < 0xF4 then some [any, any, any]
  else if lead = 0xF4 then some [(0x80, 0x8F), any, any]
  else none

/-- The bits of the code point that a lead byte carries, given the number of bytes after it. -/
def leadBits (lead : UInt8) (count : Nat) : Nat :=
  if count = 0 then lead.toNat else lead.toNat % (1 <<< (6 - count))

/-- Match bytes against the ranges that must follow, six bits of the code point a byte; `size`
counts the bytes matched so far. -/
def Piece.follow : List (UInt8 × UInt8) → List UInt8 → Nat → Nat → Piece
  | [], _, point, size => .character (Char.ofNat point) size
  | _ :: _, [], _, size => .fault .cutShort size
  | (low, high) :: ranges, byte :: bytes, point, size =>
    if low ≤ byte ∧ byte ≤ high then
      Piece.follow ranges bytes (point * 64 + byte.toNat % 64) (size + 1)
    else .fault .badContinuation size

/-- The first piece of a byte list that begins with `lead`. -/
def Piece.first (lead : UInt8) (bytes : List UInt8) : Piece :=
  match followers lead with
  | none => .fault .badStart 1
  | some ranges => Piece.follow ranges bytes (leadBits lead ranges.length) 1

/-- The character that stands for a faulty piece. -/
def replacement : Char := '\uFFFD'

/-- The lenient reading: every faulty piece becomes one replacement character. -/
def lenient : List UInt8 → List Char
  | [] => []
  | lead :: bytes =>
    match Piece.first lead bytes with
    | .character c size => c :: lenient (bytes.drop (size - 1))
    | .fault _ size => replacement :: lenient (bytes.drop (size - 1))
termination_by bytes => bytes.length
decreasing_by all_goals (simp only [List.length_drop, List.length_cons]; omega)

/-- A place where bytes are not UTF-8. -/
structure Fault where
  /-- The number of bytes before the fault. -/
  position : Nat
  /-- The bytes that the fault covers. -/
  bytes : List UInt8
  /-- What is wrong with them. -/
  reason : Reason
  deriving DecidableEq, Repr

/-- The first fault of bytes that follow `position` others. Bytes without a fault are reported as
cut short at their end. -/
def Fault.find (position : Nat) : List UInt8 → Fault
  | [] => ⟨position, [], .cutShort⟩
  | lead :: bytes =>
    match Piece.first lead bytes with
    | .character _ size => Fault.find (position + size) (bytes.drop (size - 1))
    | .fault reason size => ⟨position, (lead :: bytes).take size, reason⟩
termination_by bytes => bytes.length
decreasing_by simp only [List.length_drop, List.length_cons]; omega

/-- A byte as two lower-case hexadecimal digits. -/
def hexByte (byte : UInt8) : String :=
  String.ofList [Nat.digitChar (byte.toNat / 16), Nat.digitChar (byte.toNat % 16)]

/-- A fault of one byte shows the byte, a longer one shows its first and last position. -/
def Fault.message (fault : Fault) : String :=
  match fault.bytes with
  | [byte] =>
    s!"'utf-8' codec can't decode byte 0x{hexByte byte} in position {fault.position}: " ++
      fault.reason.message
  | bytes =>
    s!"'utf-8' codec can't decode bytes in position {fault.position}-" ++
      s!"{fault.position + bytes.length - 1}: " ++ fault.reason.message

/-- The strict reading: the text that the bytes encode, or their first fault. -/
def decode (bytes : ByteArray) : Except Fault String :=
  match String.fromUTF8? bytes with
  | some text => .ok text
  | none => .error (Fault.find 0 bytes.toList)

/-- The strict reading succeeds exactly on the encoding of its result. -/
theorem decode_eq_ok_iff {bytes : ByteArray} {text : String} :
    decode bytes = .ok text ↔ text.toUTF8 = bytes := by
  unfold decode String.fromUTF8?
  constructor
  · intro decoded
    split at decoded
    · next found =>
      split at found
      · simp only [Option.some.injEq] at found
        simp only [Except.ok.injEq] at decoded
        subst found decoded
        rfl
      · contradiction
    · contradiction
  · intro encoded
    subst encoded
    simp only [String.toUTF8_eq_toByteArray, dif_pos text.isValidUTF8]
    rfl

end SourceLens.Text.Utf8
