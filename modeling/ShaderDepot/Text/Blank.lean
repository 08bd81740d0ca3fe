/-!
# Blank characters and trimming

Blank means the Unicode property `White_Space`: twenty-five characters, of which `Char.isWhitespace`
knows four.  Trimming removes blank characters from the ends of a text and keeps those inside.
-/

namespace ShaderDepot.Text

/-- The characters with the Unicode property `White_Space`. -/
def isBlank (c : Char) : Bool :=
  let n := c.toNat
  (0x09 ≤ n && n ≤ 0x0D) || n == 0x20 || n == 0x85 || n == 0xA0 || n == 0x1680 ||
    (0x2000 ≤ n && n ≤ 0x200A) || n == 0x2028 || n == 0x2029 || n == 0x202F || n == 0x205F ||
    n == 0x3000

def trimStart (s : List Char) : List Char := s.dropWhile isBlank

def trimEnd (s : List Char) : List Char := (s.reverse.dropWhile isBlank).reverse

def trim (s : List Char) : List Char := trimEnd (trimStart s)

/-- The maximal runs of characters that are not blank. -/
def words (s : List Char) : List (List Char) :=
  match _h : trimStart s with
  | [] => []
  | c :: r => (c :: r).takeWhile (!isBlank ·) :: words (r.dropWhile (!isBlank ·))
termination_by s.length
decreasing_by
  have h₁ : (r.dropWhile (!isBlank ·)).length ≤ r.length := (List.dropWhile_sublist _).length_le
  have h₂ : (trimStart s).length ≤ s.length := (List.dropWhile_sublist _).length_le
  rw [_h] at h₂
  simp only [List.length_cons] at h₂
  omega

@[simp] theorem trimStart_nil : trimStart [] = [] := rfl

@[simp] theorem trimEnd_nil : trimEnd [] = [] := rfl

@[simp] theorem trim_nil : trim [] = [] := rfl

/-- What is left after trimming the front starts with no blank. -/
theorem not_isBlank_of_trimStart {s r : List Char} {c : Char} (h : trimStart s = c :: r) :
    isBlank c = false := by
  have := List.head?_dropWhile_not isBlank s
  simp only [trimStart] at h
  simpa [h] using this

end ShaderDepot.Text
