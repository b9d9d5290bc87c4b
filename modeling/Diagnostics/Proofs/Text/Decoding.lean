import Diagnostics.Proofs.Text.Utf8

namespace Diagnostics.Text.Utf8

theorem val_ofNat {n : Nat} (h : n.isValidChar) : (Char.ofNat n).val.toNat = n := by
  rw [Char.ofNat, dif_pos h]
  rfl

theorem eq_ofNat {b : UInt8} {n : Nat} (h : b.toNat = n) : UInt8.ofNat n = b := by rw [← h, UInt8.ofNat_toNat]

section Forms

variable {a b c d : UInt8} {w x y z : Nat}

theorem utf8EncodeChar_one (ha : a.toNat < 0x80) : String.utf8EncodeChar (Char.ofNat a.toNat) = [a] := by
  have hvalid : a.toNat.isValidChar := .inl (by omega)
  have hsize : a.toNat ≤ 127 := by omega
  simp only [String.utf8EncodeChar, val_ofNat hvalid, if_pos hsize, UInt8.ofNat_toNat]

theorem utf8EncodeChar_two (ha : a.toNat = 0xC0 + x) (hb : b.toNat = 0x80 + y) (hx : 2 ≤ x ∧ x < 32)
    (hy : y < 64) : String.utf8EncodeChar (Char.ofNat (x * 64 + y)) = [a, b] := by
  have hvalid : (x * 64 + y).isValidChar := .inl (by omega)
  have hone : ¬ x * 64 + y ≤ 127 := by omega
  have htwo : x * 64 + y ≤ 2047 := by omega
  simp only [String.utf8EncodeChar, val_ofNat hvalid, if_neg hone, if_pos htwo]
  rw [eq_ofNat (b := a) (by omega), eq_ofNat (b := b) (by omega)]

theorem utf8EncodeChar_three (ha : a.toNat = 0xE0 + x) (hb : b.toNat = 0x80 + y) (hc : c.toNat = 0x80 + z)
    (hx : x < 16) (hy : y < 64) (hz : z < 64) (hlow : x = 0 → 32 ≤ y) (hhigh : x = 13 → y < 32) :
    String.utf8EncodeChar (Char.ofNat ((x * 64 + y) * 64 + z)) = [a, b, c] := by
  have hvalid : ((x * 64 + y) * 64 + z).isValidChar := by
    rw [Nat.isValidChar]
    omega
  have hone : ¬ (x * 64 + y) * 64 + z ≤ 127 := by omega
  have htwo : ¬ (x * 64 + y) * 64 + z ≤ 2047 := by omega
  have hthree : (x * 64 + y) * 64 + z ≤ 65535 := by omega
  simp only [String.utf8EncodeChar, val_ofNat hvalid, if_neg hone, if_neg htwo, if_pos hthree]
  rw [eq_ofNat (b := a) (by omega), eq_ofNat (b := b) (by omega), eq_ofNat (b := c) (by omega)]

theorem utf8EncodeChar_four (ha : a.toNat = 0xF0 + w) (hb : b.toNat = 0x80 + x) (hc : c.toNat = 0x80 + y)
    (hd : d.toNat = 0x80 + z) (hw : w < 5) (hx : x < 64) (hy : y < 64) (hz : z < 64) (hlow : w = 0 → 16 ≤ x)
    (hhigh : w = 4 → x < 16) :
    String.utf8EncodeChar (Char.ofNat (((w * 64 + x) * 64 + y) * 64 + z)) = [a, b, c, d] := by
  have hvalid : (((w * 64 + x) * 64 + y) * 64 + z).isValidChar := .inr (by omega)
  have hone : ¬ ((w * 64 + x) * 64 + y) * 64 + z ≤ 127 := by omega
  have htwo : ¬ ((w * 64 + x) * 64 + y) * 64 + z ≤ 2047 := by omega
  have hthree : ¬ ((w * 64 + x) * 64 + y) * 64 + z ≤ 65535 := by omega
  simp only [String.utf8EncodeChar, val_ofNat hvalid, if_neg hone, if_neg htwo, if_neg hthree]
  rw [eq_ofNat (b := a) (by omega), eq_ofNat (b := b) (by omega), eq_ofNat (b := c) (by omega),
    eq_ofNat (b := d) (by omega)]

end Forms

theorem begin?_outcome {pos : Nat} {b : UInt8} {p : Pending} (h : begin? pos b = some p) :
    (∃ x, b.toNat = 0xC0 + x ∧ (2 ≤ x ∧ x < 32) ∧ p = ⟨pos, b, 1, 0x80, 0xBF, x⟩) ∨
    (∃ x low high, b.toNat = 0xE0 + x ∧ x < 16 ∧ p = ⟨pos, b, 2, low, high, x⟩ ∧
      (0x80 ≤ low ∧ high ≤ 0xBF) ∧ (x = 0 → low = 0xA0) ∧ (x = 13 → high = 0x9F)) ∨
    ∃ x low high, b.toNat = 0xF0 + x ∧ x < 5 ∧ p = ⟨pos, b, 3, low, high, x⟩ ∧
      (0x80 ≤ low ∧ high ≤ 0xBF) ∧ (x = 0 → low = 0x90) ∧ (x = 4 → high = 0x8F) := by
  simp only [begin?] at h
  split at h
  · obtain rfl := Option.some.inj h
    exact .inl ⟨_, by omega, by omega, rfl⟩
  split at h
  · obtain rfl := Option.some.inj h
    exact .inr (.inl ⟨0, _, _, by omega, by omega, rfl, by omega, by omega, by omega⟩)
  split at h
  · obtain rfl := Option.some.inj h
    exact .inr (.inl ⟨13, _, _, by omega, by omega, rfl, by omega, by omega, by omega⟩)
  split at h
  · obtain rfl := Option.some.inj h
    exact .inr (.inl ⟨b.toNat - 0xE0, _, _, by omega, by omega, rfl, by omega, by omega, by omega⟩)
  split at h
  · obtain rfl := Option.some.inj h
    exact .inr (.inr ⟨0, _, _, by omega, by omega, rfl, by omega, by omega, by omega⟩)
  split at h
  · obtain rfl := Option.some.inj h
    exact .inr (.inr ⟨b.toNat - 0xF0, _, _, by omega, by omega, rfl, by omega, by omega, by omega⟩)
  split at h
  · obtain rfl := Option.some.inj h
    exact .inr (.inr ⟨4, _, _, by omega, by omega, rfl, by omega, by omega, by omega⟩)
  · cases h

section Pending

variable {pos start missing lowest highest value : Nat} {first : UInt8} {bytes : List UInt8} {cs : List Char}

theorem exists_last (h : decodeFrom pos (some ⟨start, first, 1, lowest, highest, value⟩) bytes = .ok cs) :
    ∃ b rest more, bytes = b :: rest ∧ (lowest ≤ b.toNat ∧ b.toNat ≤ highest) ∧
      cs = Char.ofNat (value * 64 + b.toNat % 64) :: more ∧ decodeFrom (pos + 1) none rest = .ok more := by
  cases bytes with
  | nil => cases h
  | cons b rest =>
    by_cases hb : lowest ≤ b.toNat ∧ b.toNat ≤ highest
    · rw [decodeFrom_last rest hb.1 hb.2 rfl] at h
      obtain ⟨more, hmore, rfl⟩ := map_ok.1 h
      exact ⟨b, rest, more, rfl, hb, rfl, hmore⟩
    · rw [decodeFrom, if_neg hb] at h
      cases h

theorem exists_more
    (h : decodeFrom pos (some ⟨start, first, missing + 2, lowest, highest, value⟩) bytes = .ok cs) :
    ∃ b rest, bytes = b :: rest ∧ (lowest ≤ b.toNat ∧ b.toNat ≤ highest) ∧
      decodeFrom (pos + 1) (some ⟨start, first, missing + 1, 0x80, 0xBF, value * 64 + b.toNat % 64⟩) rest = .ok cs := by
  cases bytes with
  | nil => cases h
  | cons b rest =>
    by_cases hb : lowest ≤ b.toNat ∧ b.toNat ≤ highest
    · rw [decodeFrom_more rest hb.1 hb.2 (by simp)] at h
      exact ⟨b, rest, rfl, hb, h⟩
    · rw [decodeFrom, if_neg hb] at h
      cases h

end Pending

theorem exists_char_of_begin? {pos : Nat} {b : UInt8} {p : Pending} {bytes : List UInt8} {cs : List Char}
    (hbegin : begin? pos b = some p) (h : decodeFrom (pos + 1) (some p) bytes = .ok cs) :
    ∃ c more next rest, b :: bytes = String.utf8EncodeChar c ++ rest ∧ rest.length ≤ bytes.length ∧ cs = c :: more ∧
      decodeFrom next none rest = .ok more := by
  rcases begin?_outcome hbegin with ⟨x, hb, hx, rfl⟩ | ⟨x, low, high, hb, hx, rfl, hbounds, hlow, hhigh⟩ |
    ⟨x, low, high, hb, hx, rfl, hbounds, hlow, hhigh⟩
  · obtain ⟨b₁, rest, more, rfl, hb₁, rfl, hmore⟩ := exists_last h
    have hform := utf8EncodeChar_two (y := b₁.toNat % 64) hb (b := b₁) (by omega) hx (by omega)
    exact ⟨_, more, _, rest, by rw [hform]; rfl, by simp, rfl, hmore⟩
  · obtain ⟨b₁, bytes, rfl, hb₁, h⟩ := exists_more h
    obtain ⟨b₂, rest, more, rfl, hb₂, rfl, hmore⟩ := exists_last h
    have hform := utf8EncodeChar_three (y := b₁.toNat % 64) (z := b₂.toNat % 64) hb (b := b₁) (c := b₂) (by omega)
      (by omega) hx (by omega) (by omega) (by omega) (by omega)
    exact ⟨_, more, _, rest, by rw [hform]; rfl, by simp; omega, rfl, hmore⟩
  · obtain ⟨b₁, bytes, rfl, hb₁, h⟩ := exists_more h
    obtain ⟨b₂, bytes, rfl, hb₂, h⟩ := exists_more h
    obtain ⟨b₃, rest, more, rfl, hb₃, rfl, hmore⟩ := exists_last h
    have hform := utf8EncodeChar_four (x := b₁.toNat % 64) (y := b₂.toNat % 64) (z := b₃.toNat % 64) hb (b := b₁)
      (c := b₂) (d := b₃) (by omega) (by omega) (by omega) hx (by omega) (by omega) (by omega) (by omega) (by omega)
    exact ⟨_, more, _, rest, by rw [hform]; rfl, by simp; omega, rfl, hmore⟩

theorem eq_encode_of_decodeFrom {pos : Nat} {bytes : List UInt8} {cs : List Char}
    (h : decodeFrom pos none bytes = .ok cs) : bytes = encode cs := by
  -- By the number of bytes: a character takes up to four of them.
  induction hlength : bytes.length using Nat.strongRecOn generalizing pos bytes cs with
  | ind n ih =>
    cases bytes with
    | nil =>
      obtain rfl := Except.ok.inj h
      rfl
    | cons b bytes =>
      rw [List.length_cons] at hlength
      by_cases hascii : b.toNat < 0x80
      · rw [decodeFrom_one pos bytes hascii] at h
        obtain ⟨more, hmore, rfl⟩ := map_ok.1 h
        rw [encode_cons, utf8EncodeChar_one hascii, ← ih bytes.length (by omega) hmore rfl]
        rfl
      · rw [decodeFrom, if_neg hascii] at h
        cases hbegin : begin? pos b with
        | none => simp [hbegin] at h
        | some p =>
          simp only [hbegin] at h
          obtain ⟨c, more, next, rest, hbytes, hrest, rfl, hmore⟩ := exists_char_of_begin? hbegin h
          rw [hbytes, encode_cons, ← ih rest.length (by omega) hmore rfl]

theorem decode_eq_ok {bytes : List UInt8} {cs : List Char} : decode bytes = .ok cs ↔ bytes = encode cs :=
  ⟨eq_encode_of_decodeFrom, fun h => h ▸ decode_encode cs⟩

theorem encode_injective : Function.Injective encode := fun a b h =>
  Except.ok.inj ((decode_encode a).symm.trans ((congrArg decode h).trans (decode_encode b)))

end Diagnostics.Text.Utf8
