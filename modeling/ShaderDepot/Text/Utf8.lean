/-!
# UTF-8

A text is spelled in bytes, and bytes are read back as a text.  Bytes that spell no text are read all the
same: one character stands for each longest piece with which a character begins and breaks off, and for
each byte with which none begins.
-/

namespace ShaderDepot.Text

def encode (s : List Char) : List UInt8 := s.flatMap String.utf8EncodeChar

/-- What stands for bytes that spell no character. -/
def replacement : Char := '\uFFFD'

/-- A character that has begun. -/
structure Begun where
  /-- How many bytes are still to come. -/
  left : Nat
  /-- The bounds of the next byte. -/
  least : Nat := 0x80
  greatest : Nat := 0xBF
  /-- The number that the bytes so far make. -/
  number : Nat
  bounds : 0x80 ≤ least ∧ greatest ≤ 0xBF := by decide
  /-- It cannot become a character of one byte. -/
  large : 0x80 ≤ (number * 64 + (least - 0x80)) <<< (6 * (left - 1))

namespace Begun

def two (n : Nat) (h : 0xC2 ≤ n ∧ n < 0xE0) : Begun where
  left := 1
  number := n - 0xC0
  large := by simp; omega

/-- What has a shorter spelling is no character of three bytes, nor are the numbers of surrogates. -/
def three (n : Nat) (h : 0xE0 ≤ n ∧ n < 0xF0) : Begun where
  left := 2
  least := if n = 0xE0 then 0xA0 else 0x80
  greatest := if n = 0xED then 0x9F else 0xBF
  number := n - 0xE0
  bounds := by split <;> split <;> omega
  large := by split <;> omega

def four (n : Nat) (h : 0xF0 ≤ n ∧ n < 0xF5) : Begun where
  left := 3
  least := if n = 0xF0 then 0x90 else 0x80
  greatest := if n = 0xF4 then 0x8F else 0xBF
  number := n - 0xF0
  bounds := by split <;> split <;> omega
  large := by split <;> omega

def grown (b : Begun) (n : Nat) : Nat := b.number * 64 + (n - 0x80)

theorem large_grown (b : Begun) {n : Nat} (hn : b.least ≤ n) :
    0x80 ≤ b.grown n <<< (6 * (b.left - 1)) := by
  have hgrown : b.number * 64 + (b.least - 0x80) ≤ b.grown n :=
    Nat.add_le_add_left (Nat.sub_le_sub_right hn _) _
  refine Nat.le_trans b.large ?_
  rw [Nat.shiftLeft_eq, Nat.shiftLeft_eq]
  exact Nat.mul_le_mul_right _ hgrown

/-- One byte more, which is not the last one. -/
def more (b : Begun) (n : Nat) (hn : b.least ≤ n) (hleft : 1 < b.left) : Begun where
  left := b.left - 1
  number := b.grown n
  large := by
    have hbits : 6 + 6 * (b.left - 1 - 1) = 6 * (b.left - 1) := by omega
    have hnumber : b.grown n * 64 + (0x80 - 0x80) = b.grown n <<< 6 := by
      simp only [Nat.sub_self, Nat.add_zero, Nat.shiftLeft_eq, Nat.reducePow]
    rw [hnumber, ← Nat.shiftLeft_add, hbits]
    exact b.large_grown hn

end Begun

/-- What is complete with a byte, and what begins with it. -/
def start (byte : UInt8) : List Char × Option Begun :=
  let n := byte.toNat
  if n < 0x80 then ([.ofNat n], none)
  else if h : 0xC2 ≤ n ∧ n < 0xE0 then ([], some (.two n h))
  else if h : 0xE0 ≤ n ∧ n < 0xF0 then ([], some (.three n h))
  else if h : 0xF0 ≤ n ∧ n < 0xF5 then ([], some (.four n h))
  else ([replacement], none)

/-- Goes on with a character.  A byte that does not continue it begins another one. -/
def Begun.next (b : Begun) (byte : UInt8) : List Char × Option Begun :=
  let n := byte.toNat
  if h : b.least ≤ n ∧ n ≤ b.greatest then
    if hleft : 1 < b.left then ([], some (b.more n h.1 hleft)) else ([.ofNat (b.grown n)], none)
  else
    let (chars, begun?) := start byte
    (replacement :: chars, begun?)

def readByte : Option Begun → UInt8 → List Char × Option Begun
  | none, byte => start byte
  | some b, byte => b.next byte

/-- The text of bytes, of which the first ones may go on with a character. -/
def readFrom : Option Begun → List UInt8 → List Char
  | none, [] => []
  | some _, [] => [replacement]
  | begun?, byte :: bytes =>
    let (chars, begun?) := readByte begun? byte
    chars ++ readFrom begun? bytes

def decode (bytes : List UInt8) : List Char := readFrom none bytes

end ShaderDepot.Text
