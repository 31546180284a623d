/-!
# UTF-8

Reading bytes as UTF-8, with and without tolerance for faults. A byte string is cut into chunks:
characters, faulty sequences, and possibly one sequence at the very end that lacks its tail. A
faulty sequence is as long as a prefix of some character goes, and at least one byte.

* `chunks` is the cut;
* `decode` accepts characters only and says where and what the first fault is;
* `decodeLossy` writes the replacement character for each fault;
* `encode` is the inverse of `decode`.
-/

namespace RuleDelta.Text.Utf8

/-- A part of a byte string read as UTF-8. -/
inductive Chunk
  /-- The bytes of one character. -/
  | char (c : Char)
  /-- So many bytes that start no character together with what follows them. -/
  | invalid (length : Nat)
  /-- The text ends inside of a character. -/
  | cut
  deriving DecidableEq, Repr

/-- A trailing byte. -/
def isTail (b : UInt8) : Bool :=
  0x80 ≤ b && b ≤ 0xBF

/-- How a character may begin: the number of its trailing bytes and the bounds of the first. -/
structure Lead where
  tails : Nat
  low : UInt8
  high : UInt8

/-- What a first byte promises, if it can start a character of several bytes. -/
def lead? (b : UInt8) : Option Lead :=
  if 0xC2 ≤ b && b ≤ 0xDF then some ⟨1, 0x80, 0xBF⟩
  else if b == 0xE0 then some ⟨2, 0xA0, 0xBF⟩
  else if b == 0xED then some ⟨2, 0x80, 0x9F⟩
  else if 0xE1 ≤ b && b ≤ 0xEF then some ⟨2, 0x80, 0xBF⟩
  else if b == 0xF0 then some ⟨3, 0x90, 0xBF⟩
  else if 0xF1 ≤ b && b ≤ 0xF3 then some ⟨3, 0x80, 0xBF⟩
  else if b == 0xF4 then some ⟨3, 0x80, 0x8F⟩
  else none

/-- The character with the given payload bits. -/
def ofBits (n : Nat) : Char :=
  Char.ofNat n

/-- The six payload bits of a trailing byte. -/
def tailBits (b : UInt8) : Nat :=
  b.toNat % 0x40

/-- The cut of a byte string into chunks. -/
def chunks : List UInt8 → List Chunk
  | [] => []
  | a :: r₁ =>
    if a < 0x80 then .char (ofBits a.toNat) :: chunks r₁
    else
      match lead? a with
      | none => .invalid 1 :: chunks r₁
      | some l =>
        match r₁ with
        | [] => [.cut]
        | b :: r₂ =>
          if !(l.low ≤ b && b ≤ l.high) then .invalid 1 :: chunks (b :: r₂)
          else if l.tails == 1 then
            .char (ofBits (a.toNat % 0x20 * 0x40 + tailBits b)) :: chunks r₂
          else
            match r₂ with
            | [] => [.cut]
            | c :: r₃ =>
              if !isTail c then .invalid 2 :: chunks (c :: r₃)
              else if l.tails == 2 then
                .char (ofBits (a.toNat % 0x10 * 0x1000 + tailBits b * 0x40 + tailBits c))
                  :: chunks r₃
              else
                match r₃ with
                | [] => [.cut]
                | d :: r₄ =>
                  if !isTail d then .invalid 3 :: chunks (d :: r₄)
                  else
                    .char (ofBits (a.toNat % 0x08 * 0x40000 + tailBits b * 0x1000 +
                      tailBits c * 0x40 + tailBits d)) :: chunks r₄

/-- Why bytes are not UTF-8. -/
inductive Fault
  /-- `length` bytes from `index` on are no character and start none. -/
  | invalid (length index : Nat)
  /-- The character that starts at `index` lacks its last bytes. -/
  | incomplete (index : Nat)
  deriving DecidableEq, Repr

/-- The wording of a fault. -/
def Fault.message : Fault → String
  | .invalid length index => s!"invalid utf-8 sequence of {length} bytes from index {index}"
  | .incomplete index => s!"incomplete utf-8 byte sequence from index {index}"

/-- The characters of chunks that start at byte `index`, or the first fault among them. -/
def ofChunks (index : Nat) : List Chunk → Except Fault (List Char)
  | [] => .ok []
  | .char c :: rest => (ofChunks (index + c.utf8Size) rest).map (c :: ·)
  | .invalid length :: _ => .error (.invalid length index)
  | .cut :: _ => .error (.incomplete index)

/-- The text whose UTF-8 form the bytes are. -/
def decode (bytes : List UInt8) : Except Fault (List Char) :=
  ofChunks 0 (chunks bytes)

/-- What a chunk shows as, faults as the replacement character. -/
def Chunk.shown : Chunk → Char
  | .char c => c
  | .invalid _ => '\uFFFD'
  | .cut => '\uFFFD'

/-- The text of the bytes, with one replacement character for each fault. -/
def decodeLossy (bytes : List UInt8) : List Char :=
  (chunks bytes).map Chunk.shown

/-- The UTF-8 form of a text. -/
def encode (s : List Char) : List UInt8 :=
  s.flatMap String.utf8EncodeChar

/-- The number of bytes of a text in UTF-8. -/
def byteLength : List Char → Nat
  | [] => 0
  | c :: cs => c.utf8Size + byteLength cs

/-- The text without its first `n` bytes, or `none` when byte `n` lies inside of a character or
beyond the end. -/
def dropBytes? : Nat → List Char → Option (List Char)
  | 0, s => some s
  | _ + 1, [] => none
  | n + 1, c :: rest =>
    if c.utf8Size ≤ n + 1 then dropBytes? (n + 1 - c.utf8Size) rest else none

end RuleDelta.Text.Utf8
