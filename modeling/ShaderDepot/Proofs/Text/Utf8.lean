import ShaderDepot.Text.Utf8

/-!
# What UTF-8 keeps

A text that is spelled in bytes is read back (`Text.decode_encode`), and so is one behind any bytes
(`Text.decode_append_encode`).
-/

namespace ShaderDepot.Text

variable {b : Begun} {byte : UInt8} {bytes : List UInt8} {s : List Char}

/-! ## One byte -/

theorem readFrom_cons (begun? : Option Begun) (byte : UInt8) (bytes : List UInt8) :
    readFrom begun? (byte :: bytes) =
      (readByte begun? byte).1 ++ readFrom (readByte begun? byte).2 bytes := by
  cases begun? <;> rfl

theorem readFrom_small (h : byte.toNat < 0x80) :
    readFrom none (byte :: bytes) = .ofNat byte.toNat :: readFrom none bytes := by
  rw [readFrom_cons, readByte, start, if_pos h]
  rfl

theorem readFrom_two (h : 0xC2 ≤ byte.toNat ∧ byte.toNat < 0xE0) :
    readFrom none (byte :: bytes) = readFrom (some (.two byte.toNat h)) bytes := by
  rw [readFrom_cons, readByte, start, if_neg (by omega), dif_pos h]
  rfl

theorem readFrom_three (h : 0xE0 ≤ byte.toNat ∧ byte.toNat < 0xF0) :
    readFrom none (byte :: bytes) = readFrom (some (.three byte.toNat h)) bytes := by
  rw [readFrom_cons, readByte, start, if_neg (by omega), dif_neg (by omega), dif_pos h]
  rfl

theorem readFrom_four (h : 0xF0 ≤ byte.toNat ∧ byte.toNat < 0xF5) :
    readFrom none (byte :: bytes) = readFrom (some (.four byte.toNat h)) bytes := by
  rw [readFrom_cons, readByte, start, if_neg (by omega), dif_neg (by omega), dif_neg (by omega), dif_pos h]
  rfl

theorem readFrom_more (h : b.least ≤ byte.toNat ∧ byte.toNat ≤ b.greatest) (hleft : 1 < b.left) :
    readFrom (some b) (byte :: bytes) = readFrom (some (b.more byte.toNat h.1 hleft)) bytes := by
  rw [readFrom_cons, readByte, Begun.next, dif_pos h, dif_pos hleft]
  rfl

theorem readFrom_last (h : b.least ≤ byte.toNat ∧ byte.toNat ≤ b.greatest) (hleft : ¬1 < b.left) :
    readFrom (some b) (byte :: bytes) = .ofNat (b.grown byte.toNat) :: readFrom none bytes := by
  rw [readFrom_cons, readByte, Begun.next, dif_pos h, dif_neg hleft]
  rfl

/-- A byte that does not continue the character is read as if none had begun. -/
theorem readFrom_broken (h : ¬(b.least ≤ byte.toNat ∧ byte.toNat ≤ b.greatest)) :
    readFrom (some b) (byte :: bytes) = replacement :: readFrom none (byte :: bytes) := by
  rw [readFrom_cons, readByte, Begun.next, dif_neg h, readFrom_cons]
  rfl

/-! ## One character -/

/-- The numbers of characters, which are no surrogates. -/
theorem toNat_bounds (c : Char) : c.toNat < 0xD800 ∨ 0xDFFF < c.toNat ∧ c.toNat < 0x110000 := c.valid

/-- The bytes of a character by its number, with one case for each number of bytes. -/
theorem encodeChar_eq (c : Char) : String.utf8EncodeChar c =
    if c.toNat ≤ 0x7F then [.ofNat c.toNat]
    else if c.toNat ≤ 0x7FF then [.ofNat (c.toNat / 64 % 32 + 0xC0), .ofNat (c.toNat % 64 + 0x80)]
    else if c.toNat ≤ 0xFFFF then
      [.ofNat (c.toNat / 4096 % 16 + 0xE0), .ofNat (c.toNat / 64 % 64 + 0x80), .ofNat (c.toNat % 64 + 0x80)]
    else
      [.ofNat (c.toNat / 262144 % 8 + 0xF0), .ofNat (c.toNat / 4096 % 64 + 0x80),
        .ofNat (c.toNat / 64 % 64 + 0x80), .ofNat (c.toNat % 64 + 0x80)] := rfl

theorem readFrom_encodeChar (c : Char) (bytes : List UInt8) :
    readFrom none (String.utf8EncodeChar c ++ bytes) = c :: readFrom none bytes := by
  have hbounds := toNat_bounds c
  have hbyte {n : Nat} (hn : n < 256) : (UInt8.ofNat n).toNat = n := UInt8.toNat_ofNat_of_lt' hn
  have hnumber {n : Nat} (hn : n = c.toNat) : Char.ofNat n = c := hn ▸ c.ofNat_toNat
  rw [encodeChar_eq]
  generalize c.toNat = v at *
  split
  · rw [List.singleton_append, readFrom_small (by rw [hbyte] <;> omega), hbyte (by omega), hnumber rfl]
  split
  · have h₁ := hbyte (n := v / 64 % 32 + 192) (by omega)
    have h₂ := hbyte (n := v % 64 + 128) (by omega)
    rw [List.cons_append, List.singleton_append, readFrom_two (by omega),
      readFrom_last (by simp only [Begun.two]; omega) (by simp [Begun.two])]
    refine List.cons_eq_cons.mpr ⟨hnumber ?_, rfl⟩
    show ((UInt8.ofNat _).toNat - 0xC0) * 64 + ((UInt8.ofNat _).toNat - 0x80) = v
    omega
  split
  · have h₁ := hbyte (n := v / 4096 % 16 + 224) (by omega)
    have h₂ := hbyte (n := v / 64 % 64 + 128) (by omega)
    have h₃ := hbyte (n := v % 64 + 128) (by omega)
    rw [List.cons_append, List.cons_append, List.singleton_append, readFrom_three (by omega),
      readFrom_more (by simp only [Begun.three]; split <;> split <;> omega) (by simp [Begun.three]),
      readFrom_last (by simp only [Begun.more]; omega) (by simp [Begun.more, Begun.three])]
    refine List.cons_eq_cons.mpr ⟨hnumber ?_, rfl⟩
    show (((UInt8.ofNat _).toNat - 0xE0) * 64 + ((UInt8.ofNat _).toNat - 0x80)) * 64 +
      ((UInt8.ofNat _).toNat - 0x80) = v
    omega
  · have h₁ := hbyte (n := v / 262144 % 8 + 240) (by omega)
    have h₂ := hbyte (n := v / 4096 % 64 + 128) (by omega)
    have h₃ := hbyte (n := v / 64 % 64 + 128) (by omega)
    have h₄ := hbyte (n := v % 64 + 128) (by omega)
    rw [List.cons_append, List.cons_append, List.cons_append, List.singleton_append,
      readFrom_four (by omega),
      readFrom_more (by simp only [Begun.four]; split <;> split <;> omega) (by simp [Begun.four]),
      readFrom_more (by simp only [Begun.more]; omega) (by simp [Begun.more, Begun.four]),
      readFrom_last (by simp only [Begun.more]; omega) (by simp [Begun.more, Begun.four])]
    refine List.cons_eq_cons.mpr ⟨hnumber ?_, rfl⟩
    show ((((UInt8.ofNat _).toNat - 0xF0) * 64 + ((UInt8.ofNat _).toNat - 0x80)) * 64 +
      ((UInt8.ofNat _).toNat - 0x80)) * 64 + ((UInt8.ofNat _).toNat - 0x80) = v
    omega

/-- The first byte of a character does not continue another one. -/
theorem exists_encodeChar_eq_cons (c : Char) :
    ∃ byte bytes, String.utf8EncodeChar c = byte :: bytes ∧ ¬(0x80 ≤ byte.toNat ∧ byte.toNat ≤ 0xBF) := by
  have hbounds := toNat_bounds c
  have hbyte {n : Nat} (hn : n < 256) : (UInt8.ofNat n).toNat = n := UInt8.toNat_ofNat_of_lt' hn
  rw [encodeChar_eq]
  generalize c.toNat = v at *
  split
  · exact ⟨_, _, rfl, by rw [hbyte (by omega)]; omega⟩
  split
  · exact ⟨_, _, rfl, by rw [hbyte (by omega)]; omega⟩
  split <;> exact ⟨_, _, rfl, by rw [hbyte (by omega)]; omega⟩

/-- A small byte is in no character but its own. -/
theorem mem_encodeChar_iff {c : Char} (h : byte.toNat < 0x80) :
    byte ∈ String.utf8EncodeChar c ↔ c.toNat = byte.toNat := by
  have hbyte {n : Nat} (hn : n < 256) : byte = .ofNat n ↔ n = byte.toNat := by
    rw [eq_comm, UInt8.ofNat_eq_iff_mod_eq_toNat, Nat.mod_eq_of_lt hn]
  have hbounds := toNat_bounds c
  rw [encodeChar_eq]
  generalize c.toNat = v at *
  split
  · rw [List.mem_singleton, hbyte (by omega)]
  split
  · rw [List.mem_cons, List.mem_singleton, hbyte (by omega), hbyte (by omega)]
    omega
  split
  · rw [List.mem_cons, List.mem_cons, List.mem_singleton, hbyte (by omega), hbyte (by omega),
      hbyte (by omega)]
    omega
  · rw [List.mem_cons, List.mem_cons, List.mem_cons, List.mem_singleton, hbyte (by omega),
      hbyte (by omega), hbyte (by omega), hbyte (by omega)]
    omega

/-! ## Texts -/

theorem encode_cons (c : Char) (s : List Char) : encode (c :: s) = String.utf8EncodeChar c ++ encode s :=
  List.flatMap_cons

theorem encode_append (s t : List Char) : encode (s ++ t) = encode s ++ encode t := List.flatMap_append

theorem decode_encode (s : List Char) : decode (encode s) = s := by
  induction s with
  | nil => rfl
  | cons c s ih => rw [encode_cons, decode, readFrom_encodeChar, ← decode, ih]

/-- A text is read as it is, whatever stands in front of it. -/
theorem readFrom_append_encode (begun? : Option Begun) (bytes : List UInt8) (s : List Char) :
    readFrom begun? (bytes ++ encode s) = readFrom begun? bytes ++ s := by
  induction bytes generalizing begun? with
  | nil =>
    cases begun? with
    | none => exact decode_encode s
    | some b =>
      cases s with
      | nil => rfl
      | cons c s =>
        obtain ⟨byte, bytes, hc, hfirst⟩ := exists_encodeChar_eq_cons c
        have hbounds := b.bounds
        rw [List.nil_append, encode_cons, hc, List.cons_append, readFrom_broken (by omega),
          ← List.cons_append, ← hc, readFrom_encodeChar, ← decode, decode_encode]
        rfl
  | cons byte bytes ih => rw [List.cons_append, readFrom_cons, readFrom_cons, ih, List.append_assoc]

theorem decode_append_encode (bytes : List UInt8) (s : List Char) :
    decode (bytes ++ encode s) = decode bytes ++ s :=
  readFrom_append_encode none bytes s

/-- A surrogate is no character, so each of its bytes is read for itself. -/
example : decode ([0xED, 0xA0, 0x80, 0xE2, 0x82] ++ encode ['A']) =
    [replacement, replacement, replacement, replacement, 'A'] := by decide

theorem encode_injective : Function.Injective encode := Function.LeftInverse.injective decode_encode

/-! ## The last character -/

theorem toNat_ofNat_or (n : Nat) : (Char.ofNat n).toNat = n ∨ (Char.ofNat n).toNat = 0 := by
  by_cases hn : n.isValidChar
  · rw [Char.ofNat, dif_pos hn]
    exact .inl rfl
  · rw [Char.ofNat, dif_neg hn]
    exact .inr rfl

theorem ofNat_ne {n : Nat} {c : Char} (hn : 0x80 ≤ n) (hc : c.toNat < 0x80 ∧ c.toNat ≠ 0) :
    Char.ofNat n ≠ c := by
  rintro rfl
  have hnumber := toNat_ofNat_or n
  omega

theorem replacement_ne {c : Char} (hc : c.toNat < 0x80) : replacement ≠ c := by
  rintro rfl
  exact absurd hc (by decide)

/-- One byte is one character, and a small one its own. -/
theorem exists_readFrom_singleton {c : Char} (hc : c.toNat < 0x80 ∧ c.toNat ≠ 0) (byte : UInt8) :
    ∃ last, readFrom none [byte] = [last] ∧ (last = c ↔ byte.toNat = c.toNat) := by
  by_cases hone : byte.toNat < 0x80
  · rw [readFrom_small hone]
    refine ⟨_, rfl, ?_, fun h => h ▸ c.ofNat_toNat⟩
    rintro rfl
    have hnumber := toNat_ofNat_or byte.toNat
    omega
  · -- What begins with the byte, if anything does, breaks off.
    have hbroken : readFrom none [byte] = [replacement] := by
      rw [readFrom_cons, readByte, start, if_neg hone]
      split
      · rfl
      split
      · rfl
      split <;> rfl
    exact ⟨replacement, hbroken, iff_of_false (replacement_ne hc.1) (by omega)⟩

/-- A small byte is its own character also where it breaks off another one. -/
theorem exists_readFrom_some_singleton {c : Char} (hc : c.toNat < 0x80 ∧ c.toNat ≠ 0) (b : Begun)
    (byte : UInt8) : ∃ front last, readFrom (some b) [byte] = front ++ [last] ∧
      (last = c ↔ byte.toNat = c.toNat) := by
  have hbounds := b.bounds
  by_cases h : b.least ≤ byte.toNat ∧ byte.toNat ≤ b.greatest
  · by_cases hleft : 1 < b.left
    · rw [readFrom_more h hleft]
      exact ⟨[], replacement, rfl, iff_of_false (replacement_ne hc.1) (by omega)⟩
    · rw [readFrom_last h hleft]
      have hlarge := b.large_grown h.1
      rw [show b.left - 1 = 0 by omega, Nat.mul_zero, Nat.shiftLeft_zero] at hlarge
      exact ⟨[], _, rfl, iff_of_false (ofNat_ne hlarge hc) (by omega)⟩
  · obtain ⟨last, hread, hlast⟩ := exists_readFrom_singleton hc byte
    rw [readFrom_broken h, hread]
    exact ⟨[replacement], last, rfl, hlast⟩

/-- Bytes end in a small one exactly if their text ends in its character. -/
theorem exists_readFrom_eq {c : Char} (hc : c.toNat < 0x80 ∧ c.toNat ≠ 0) (begun? : Option Begun)
    (bytes : List UInt8) (byte : UInt8) :
    ∃ front last, readFrom begun? (bytes ++ [byte]) = front ++ [last] ∧
      (last = c ↔ byte.toNat = c.toNat) := by
  induction bytes generalizing begun? with
  | nil =>
    rw [List.nil_append]
    cases begun? with
    | none =>
      obtain ⟨last, hread, hlast⟩ := exists_readFrom_singleton hc byte
      exact ⟨[], last, hread, hlast⟩
    | some b => exact exists_readFrom_some_singleton hc b byte
  | cons first bytes ih =>
    obtain ⟨front, last, hread, hlast⟩ := ih (readByte begun? first).2
    exact ⟨(readByte begun? first).1 ++ front, last,
      by rw [List.cons_append, readFrom_cons, hread, List.append_assoc], hlast⟩

theorem decode_eq_nil_iff : decode bytes = [] ↔ bytes = [] := by
  rcases List.eq_nil_or_concat bytes with rfl | ⟨front, byte, rfl⟩
  · exact iff_of_true rfl rfl
  · obtain ⟨chars, last, hread, -⟩ := exists_readFrom_eq (c := '/') (by decide) none front byte
    rw [List.concat_eq_append, decode, hread]
    exact iff_of_false (by simp) (by simp)

theorem getLast?_decode_iff : (decode bytes).getLast? = some '/' ↔ bytes.getLast? = some 0x2F := by
  rcases List.eq_nil_or_concat bytes with rfl | ⟨front, byte, rfl⟩
  · exact iff_of_false nofun nofun
  · obtain ⟨chars, last, hread, hlast⟩ := exists_readFrom_eq (c := '/') (by decide) none front byte
    rw [List.concat_eq_append, decode, hread, List.getLast?_concat, List.getLast?_concat,
      Option.some_inj, Option.some_inj, hlast, ← UInt8.toNat_inj]
    rfl

/-! ## The first character -/

theorem head?_encode_iff : (encode s).head? = some 0x2F ↔ s.head? = some '/' := by
  cases s with
  | nil => exact iff_of_false nofun nofun
  | cons c s =>
    obtain ⟨byte, bytes, hc, -⟩ := exists_encodeChar_eq_cons c
    have hmem : (0x2F : UInt8) ∈ String.utf8EncodeChar c ↔ c.toNat = 0x2F := mem_encodeChar_iff (by decide)
    rw [encode_cons, hc, List.cons_append, List.head?_cons, List.head?_cons, Option.some_inj,
      Option.some_inj]
    constructor
    · rintro rfl
      rw [hc] at hmem
      exact Char.toNat_inj.mp (hmem.mp List.mem_cons_self)
    · rintro rfl
      exact (List.cons_eq_cons.mp hc).1.symm

end ShaderDepot.Text
