/-! UTF-8: strict decoding with the place of the first fault, and lossy decoding that puts one
replacement character for each maximal ill-formed piece. -/
namespace LatencyHarness.Text.Utf8

abbrev Bytes := List UInt8

/-- What a byte sequence starts with: a character, a piece of `width` bytes that belongs to no
character, or the beginning of a character that the sequence does not finish. -/
inductive Head where
  | char (c : Char) (width : Nat)
  | fault (width : Nat)
  | cut
  deriving DecidableEq, Repr

def isTail (b : UInt8) : Bool := 0x80 ≤ b && b ≤ 0xBF

/-- The bits that a continuation byte carries. -/
def tailBits (b : UInt8) : Nat := b.toNat % 0x40

/-- The second bytes that may follow the first byte of a three- or four-byte character. -/
def secondOk (first second : UInt8) : Bool :=
  if first == 0xE0 then 0xA0 ≤ second && second ≤ 0xBF
  else if first == 0xED then 0x80 ≤ second && second ≤ 0x9F
  else if first == 0xF0 then 0x90 ≤ second && second ≤ 0xBF
  else if first == 0xF4 then 0x80 ≤ second && second ≤ 0x8F
  else isTail second

def head2 (a : UInt8) : Bytes → Head
  | [] => .cut
  | b :: _ =>
    if isTail b then .char (.ofNat (a.toNat % 0x20 * 0x40 + tailBits b)) 2 else .fault 1

def head3 (a : UInt8) : Bytes → Head
  | [] => .cut
  | b :: r =>
    if !secondOk a b then .fault 1 else
    match r with
    | [] => .cut
    | c :: _ =>
      if isTail c then
        .char (.ofNat (a.toNat % 0x10 * 0x1000 + tailBits b * 0x40 + tailBits c)) 3
      else .fault 2

def head4 (a : UInt8) : Bytes → Head
  | [] => .cut
  | b :: r =>
    if !secondOk a b then .fault 1 else
    match r with
    | [] => .cut
    | c :: r =>
      if !isTail c then .fault 2 else
      match r with
      | [] => .cut
      | d :: _ =>
        if isTail d then
          .char (.ofNat (a.toNat % 0x08 * 0x40000 + tailBits b * 0x1000 + tailBits c * 0x40
            + tailBits d)) 4
        else .fault 3

/-- The start of the sequence `a :: r`. -/
def head (a : UInt8) (r : Bytes) : Head :=
  if a < 0x80 then .char (.ofNat a.toNat) 1
  else if 0xC2 ≤ a && a ≤ 0xDF then head2 a r
  else if 0xE0 ≤ a && a ≤ 0xEF then head3 a r
  else if 0xF0 ≤ a && a ≤ 0xF4 then head4 a r
  else .fault 1

/-- A fault in a byte sequence: the index of its first byte, and its width where more bytes
could not mend it. -/
structure Fault where
  start : Nat
  width : Option Nat
  deriving DecidableEq, Repr

def Fault.message (f : Fault) : String :=
  match f.width with
  | some w => s!"invalid utf-8 sequence of {w} bytes from index {f.start}"
  | none => s!"incomplete utf-8 byte sequence from index {f.start}"

/-- Decodes from the byte with index `start` on, onto the reversed text `acc`. -/
def decodeFrom (start : Nat) (acc : List Char) : Bytes → Except Fault (List Char)
  | [] => .ok acc.reverse
  | a :: r =>
    match head a r with
    | .char c w => decodeFrom (start + w) (c :: acc) (r.drop (w - 1))
    | .fault w => .error ⟨start, some w⟩
    | .cut => .error ⟨start, none⟩
  termination_by s => s.length
  decreasing_by simp only [List.length_drop, List.length_cons]; omega

/-- The text of a byte sequence, or its first fault. -/
def decode (s : Bytes) : Except Fault (List Char) := decodeFrom 0 [] s

def replacement : Char := '\uFFFD'

def decodeLossyOnto (acc : List Char) : Bytes → List Char
  | [] => acc.reverse
  | a :: r =>
    match head a r with
    | .char c w => decodeLossyOnto (c :: acc) (r.drop (w - 1))
    | .fault w => decodeLossyOnto (replacement :: acc) (r.drop (w - 1))
    | .cut => (replacement :: acc).reverse
  termination_by s => s.length
  decreasing_by all_goals (simp only [List.length_drop, List.length_cons]; omega)

/-- The text of a byte sequence with a replacement character for each faulty piece. -/
def decodeLossy (s : Bytes) : List Char := decodeLossyOnto [] s

/-- The bytes of a text. -/
def encode (s : List Char) : Bytes := s.flatMap String.utf8EncodeChar

/-- The number of bytes of a text. -/
def size (s : List Char) : Nat := s.foldr (fun c n => c.utf8Size + n) 0

end LatencyHarness.Text.Utf8
