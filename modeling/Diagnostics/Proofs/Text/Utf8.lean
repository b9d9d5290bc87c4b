import Diagnostics.Proofs.Outcome
import Diagnostics.Text.Utf8

namespace Diagnostics.Text.Utf8

@[simp] theorem encode_nil : encode [] = [] := rfl

@[simp] theorem encode_cons (c : Char) (cs : List Char) :
    encode (c :: cs) = String.utf8EncodeChar c ++ encode cs := rfl

@[simp] theorem encode_append (a b : List Char) : encode (a ++ b) = encode a ++ encode b := by
  simp [encode]

theorem isContinuation_iff (b : UInt8) : isContinuation b = true ↔ b.toNat / 64 = 2 := by
  have h : ∀ k : Fin 256, isContinuation (UInt8.ofNat k.val) = true ↔ k.val / 64 = 2 := by
    decide +kernel
  simpa using h ⟨b.toNat, b.toNat_lt⟩

theorem decodeFrom_more {pos : Nat} {b : UInt8} {p : Pending} (rest : List UInt8)
    (hlow : p.lowest ≤ b.toNat) (hhigh : b.toNat ≤ p.highest) (hm : p.missing ≠ 1) :
    decodeFrom pos (some p) (b :: rest) =
      decodeFrom (pos + 1)
        (some ⟨p.start, p.first, p.missing - 1, 0x80, 0xBF, p.value * 64 + b.toNat % 64⟩) rest := by
  simp [decodeFrom, hlow, hhigh, hm]

theorem decodeFrom_last {pos : Nat} {b : UInt8} {p : Pending} (rest : List UInt8)
    (hlow : p.lowest ≤ b.toNat) (hhigh : b.toNat ≤ p.highest) (hm : p.missing = 1) :
    decodeFrom pos (some p) (b :: rest) =
      (decodeFrom (pos + 1) none rest).map (Char.ofNat (p.value * 64 + b.toNat % 64) :: ·) := by
  simp [decodeFrom, hlow, hhigh, hm]

theorem decodeFrom_one (pos : Nat) {a : UInt8} (rest : List UInt8) (ha : a.toNat < 0x80) :
    decodeFrom pos none (a :: rest) =
      (decodeFrom (pos + 1) none rest).map (Char.ofNat a.toNat :: ·) := by
  simp [decodeFrom, ha]

theorem decodeFrom_two (pos : Nat) {a b : UInt8} {x y : Nat} (rest : List UInt8)
    (ha : a.toNat = 0xC0 + x) (hb : b.toNat = 0x80 + y) (hx : 2 ≤ x ∧ x < 32) (hy : y < 64) :
    decodeFrom pos none (a :: b :: rest) =
      (decodeFrom (pos + 2) none rest).map (Char.ofNat (x * 64 + y) :: ·) := by
  have hn : ¬ a.toNat < 0x80 := by omega
  have hp : begin? pos a = some ⟨pos, a, 1, 0x80, 0xBF, x⟩ := by
    simp only [begin?, ha]
    rw [if_pos (by omega), Nat.add_sub_cancel_left]
  rw [decodeFrom, if_neg hn, hp]
  have hm : b.toNat % 64 = y := by omega
  simp only
  rw [decodeFrom_last _ (by simp only [hb]; omega) (by simp only [hb]; omega) rfl, hm]

theorem decodeFrom_three (pos : Nat) {a b c : UInt8} {x y z : Nat} (rest : List UInt8)
    (ha : a.toNat = 0xE0 + x) (hb : b.toNat = 0x80 + y) (hc : c.toNat = 0x80 + z)
    (hx : x < 16) (hy : y < 64) (hz : z < 64) (hlow : x = 0 → 32 ≤ y) (hhigh : x = 13 → y < 32) :
    decodeFrom pos none (a :: b :: c :: rest) =
      (decodeFrom (pos + 3) none rest).map (Char.ofNat ((x * 64 + y) * 64 + z) :: ·) := by
  have hn : ¬ a.toNat < 0x80 := by omega
  have hp : ∃ low high, begin? pos a = some ⟨pos, a, 2, low, high, x⟩ ∧
      low ≤ b.toNat ∧ b.toNat ≤ high := by
    simp only [begin?, ha, hb]
    rw [if_neg (by omega)]
    by_cases h0 : x = 0
    · exact ⟨0xA0, 0xBF, by simp [h0], by omega, by omega⟩
    by_cases h13 : x = 13
    · exact ⟨0x80, 0x9F, by simp [h13], by omega, by omega⟩
    · refine ⟨0x80, 0xBF, ?_, by omega, by omega⟩
      rw [if_neg (by omega), if_neg (by omega), if_pos (by omega), Nat.add_sub_cancel_left]
  obtain ⟨low, high, hp, hl, hh⟩ := hp
  have hmb : b.toNat % 64 = y := by omega
  have hmc : c.toNat % 64 = z := by omega
  rw [decodeFrom, if_neg hn, hp]
  simp only
  rw [decodeFrom_more _ hl hh (by simp), decodeFrom_last _ (by simp only [hc]; omega)
    (by simp only [hc]; omega) rfl, hmb, hmc]

theorem decodeFrom_four (pos : Nat) {a b c d : UInt8} {w x y z : Nat} (rest : List UInt8)
    (ha : a.toNat = 0xF0 + w) (hb : b.toNat = 0x80 + x) (hc : c.toNat = 0x80 + y)
    (hd : d.toNat = 0x80 + z) (hw : w < 5) (hx : x < 64) (hy : y < 64) (hz : z < 64)
    (hlow : w = 0 → 16 ≤ x) (hhigh : w = 4 → x < 16) :
    decodeFrom pos none (a :: b :: c :: d :: rest) =
      (decodeFrom (pos + 4) none rest).map
        (Char.ofNat (((w * 64 + x) * 64 + y) * 64 + z) :: ·) := by
  have hn : ¬ a.toNat < 0x80 := by omega
  have hp : ∃ low high, begin? pos a = some ⟨pos, a, 3, low, high, w⟩ ∧
      low ≤ b.toNat ∧ b.toNat ≤ high := by
    simp only [begin?, ha, hb]
    rw [if_neg (by omega), if_neg (by omega), if_neg (by omega), if_neg (by omega)]
    by_cases h0 : w = 0
    · exact ⟨0x90, 0xBF, by simp [h0], by omega, by omega⟩
    by_cases h4 : w = 4
    · exact ⟨0x80, 0x8F, by simp [h4], by omega, by omega⟩
    · refine ⟨0x80, 0xBF, ?_, by omega, by omega⟩
      rw [if_neg (by omega), if_pos (by omega), Nat.add_sub_cancel_left]
  obtain ⟨low, high, hp, hl, hh⟩ := hp
  have hmb : b.toNat % 64 = x := by omega
  have hmc : c.toNat % 64 = y := by omega
  have hmd : d.toNat % 64 = z := by omega
  rw [decodeFrom, if_neg hn, hp]
  simp only
  rw [decodeFrom_more _ hl hh (by simp),
    decodeFrom_more _ (by simp only [hc]; omega) (by simp only [hc]; omega) (by simp),
    decodeFrom_last _ (by simp only [hd]; omega) (by simp only [hd]; omega) rfl, hmb, hmc, hmd]

theorem toNat_ofNat {n : Nat} (h : n < 256) : (UInt8.ofNat n).toNat = n := by
  simp [UInt8.toNat_ofNat', Nat.mod_eq_of_lt h]

theorem decodeFrom_char (pos : Nat) (c : Char) (rest : List UInt8) :
    decodeFrom pos none (String.utf8EncodeChar c ++ rest) =
      (decodeFrom (pos + (String.utf8EncodeChar c).length) none rest).map (c :: ·) := by
  have hc : Char.ofNat c.val.toNat = c := Char.ofNat_toNat c
  have hv : c.val.toNat < 0xD800 ∨ (0xDFFF < c.val.toNat ∧ c.val.toNat < 0x110000) := c.valid
  simp only [String.utf8EncodeChar]
  generalize c.val.toNat = n at *
  split
  · have hb : (UInt8.ofNat n).toNat = n := toNat_ofNat (by omega)
    rw [List.singleton_append, decodeFrom_one pos rest (by omega), hb, hc]
    rfl
  split
  · have h := decodeFrom_two pos (x := n / 64) (y := n % 64) rest
      (toNat_ofNat (n := n / 64 % 32 + 192) (by omega) |>.trans (by omega))
      (toNat_ofNat (n := n % 64 + 128) (by omega) |>.trans (by omega)) (by omega) (by omega)
    rwa [show n / 64 * 64 + n % 64 = n by omega, hc] at h
  split
  · have h := decodeFrom_three pos (x := n / 4096) (y := n / 64 % 64) (z := n % 64) rest
      (toNat_ofNat (n := n / 4096 % 16 + 224) (by omega) |>.trans (by omega))
      (toNat_ofNat (n := n / 64 % 64 + 128) (by omega) |>.trans (by omega))
      (toNat_ofNat (n := n % 64 + 128) (by omega) |>.trans (by omega))
      (by omega) (by omega) (by omega) (by omega) (by omega)
    rwa [show (n / 4096 * 64 + n / 64 % 64) * 64 + n % 64 = n by omega, hc] at h
  · have h := decodeFrom_four pos (w := n / 262144) (x := n / 4096 % 64) (y := n / 64 % 64)
      (z := n % 64) rest
      (toNat_ofNat (n := n / 262144 % 8 + 240) (by omega) |>.trans (by omega))
      (toNat_ofNat (n := n / 4096 % 64 + 128) (by omega) |>.trans (by omega))
      (toNat_ofNat (n := n / 64 % 64 + 128) (by omega) |>.trans (by omega))
      (toNat_ofNat (n := n % 64 + 128) (by omega) |>.trans (by omega))
      (by omega) (by omega) (by omega) (by omega) (by omega) (by omega)
    rwa [show ((n / 262144 * 64 + n / 4096 % 64) * 64 + n / 64 % 64) * 64 + n % 64 = n by omega, hc] at h

theorem decodeFrom_encode (pos : Nat) (cs : List Char) : decodeFrom pos none (encode cs) = .ok cs := by
  induction cs generalizing pos with
  | nil => rfl
  | cons c cs ih => rw [encode_cons, decodeFrom_char, ih]; rfl

theorem decode_encode (cs : List Char) : decode (encode cs) = .ok cs := decodeFrom_encode 0 cs

theorem decodeFrom_append {pos : Nat} {pending : Option Pending} {bytes : List UInt8} {cs : List Char}
    (h : decodeFrom pos pending bytes = .ok cs) (rest : List UInt8) :
    decodeFrom pos pending (bytes ++ rest) = (decodeFrom (pos + bytes.length) none rest).map (cs ++ ·) := by
  have hnext (b : UInt8) (bytes : List UInt8) (pos : Nat) : pos + 1 + bytes.length = pos + (b :: bytes).length := by
    rw [List.length_cons, Nat.add_right_comm, Nat.add_assoc]
  have hcons (c : Char) (read : List Char) (later : Except Fault (List Char)) :
      (later.map (read ++ ·)).map (c :: ·) = later.map (c :: read ++ ·) := by
    cases later <;> rfl
  fun_induction decodeFrom pos pending bytes generalizing cs
  case case1 pos =>
    obtain rfl : [] = cs := Except.ok.inj h
    change decodeFrom pos none rest = _
    cases decodeFrom pos none rest <;> rfl
  case case2 pos p => cases h
  case case3 pos b bytes hascii ih =>
    obtain ⟨read, hread, rfl⟩ := map_ok.1 h
    rw [List.cons_append, decodeFrom, if_pos hascii, ih hread, hnext, hcons]
  case case4 pos b bytes hascii p hbegin ih =>
    rw [List.cons_append, decodeFrom, if_neg hascii, hbegin, ← hnext]
    exact ih h
  case case5 pos b bytes hascii hbegin => cases h
  case case6 pos p b bytes hbounds value hlast ih =>
    obtain ⟨read, hread, rfl⟩ := map_ok.1 h
    rw [List.cons_append, decodeFrom, if_pos hbounds]
    simp only [if_pos hlast]
    rw [ih hread, hnext, hcons]
  case case7 pos p b bytes hbounds value hmore ih =>
    rw [List.cons_append, decodeFrom, if_pos hbounds, ← hnext]
    simp only [if_neg hmore]
    exact ih h
  case case8 pos p b bytes hbounds => cases h

theorem decode_append {bytes : List UInt8} {cs : List Char} (h : decode bytes = .ok cs) (more : List Char) :
    decode (bytes ++ encode more) = .ok (cs ++ more) := by
  rw [decode, decodeFrom_append h, decodeFrom_encode]
  rfl

theorem utf8EncodeChar_ascii {c : Char} (h : c.toNat < 0x80) :
    String.utf8EncodeChar c = [UInt8.ofNat c.toNat] := by
  have hv : c.val.toNat = c.toNat := rfl
  have hle : c.toNat ≤ 0x7f := by omega
  simp only [String.utf8EncodeChar, hv]
  rw [if_pos hle]

theorem isContinuation_tail (k : Nat) : isContinuation (UInt8.ofNat (k % 64 + 128)) = true := by
  rw [isContinuation_iff, toNat_ofNat (by omega)]
  omega

theorem isContinuation_first {n : Nat} (hn : n < 256) (h : n / 64 ≠ 2) :
    isContinuation (UInt8.ofNat n) = false := by
  rw [Bool.eq_false_iff, Ne, isContinuation_iff, toNat_ofNat hn]
  exact h

theorem utf8EncodeChar_shape (c : Char) : ∃ first more, String.utf8EncodeChar c = first :: more ∧
    isContinuation first = false ∧ (∀ b ∈ more, isContinuation b = true) ∧
    (0x80 ≤ c.toNat → 0x80 ≤ first.toNat) := by
  have hv : c.val.toNat = c.toNat := rfl
  simp only [String.utf8EncodeChar, hv]
  split
  · exact ⟨_, [], rfl, isContinuation_first (by omega) (by omega), by simp, by omega⟩
  split
  · refine ⟨_, _, rfl, isContinuation_first (by omega) (by omega), ?_, fun _ => ?_⟩
    · exact List.forall_mem_singleton.2 (isContinuation_tail _)
    · rw [toNat_ofNat (by omega)]; omega
  split
  · refine ⟨_, _, rfl, isContinuation_first (by omega) (by omega), ?_, fun _ => ?_⟩
    · simp only [List.forall_mem_cons, isContinuation_tail, List.not_mem_nil, false_implies,
        implies_true, and_self]
    · rw [toNat_ofNat (by omega)]; omega
  · refine ⟨_, _, rfl, isContinuation_first (by omega) (by omega), ?_, fun _ => ?_⟩
    · simp only [List.forall_mem_cons, isContinuation_tail, List.not_mem_nil, false_implies,
        implies_true, and_self]
    · rw [toNat_ofNat (by omega)]; omega

theorem length_utf8EncodeChar_pos (c : Char) : 0 < (String.utf8EncodeChar c).length := by
  simp [Char.utf8Size_pos]

theorem mem_utf8EncodeChar_ascii {c : Char} {b : UInt8} (hb : b.toNat < 0x80)
    (h : b ∈ String.utf8EncodeChar c) : c.toNat < 0x80 ∧ b = UInt8.ofNat c.toNat := by
  obtain ⟨first, more, heq, -, hmore, hfirst⟩ := utf8EncodeChar_shape c
  have hc : c.toNat < 0x80 := by
    refine Nat.lt_of_not_le fun hn => ?_
    rw [heq] at h
    rcases List.mem_cons.1 h with rfl | h
    · exact absurd (hfirst hn) (by omega)
    · have := (isContinuation_iff b).1 (hmore b h)
      omega
  rw [utf8EncodeChar_ascii hc] at h
  exact ⟨hc, List.mem_singleton.1 h⟩

theorem mem_encode_ascii {cs : List Char} {c : Char} (hc : c.toNat < 0x80) :
    UInt8.ofNat c.toNat ∈ encode cs ↔ c ∈ cs := by
  have hb : (UInt8.ofNat c.toNat).toNat = c.toNat := toNat_ofNat (by omega)
  simp only [encode, List.mem_flatMap]
  constructor
  · rintro ⟨d, hd, h⟩
    obtain ⟨hlt, heq⟩ := mem_utf8EncodeChar_ascii (by omega) h
    have hval : c.toNat = d.toNat := by
      rw [← hb, heq, toNat_ofNat (by omega)]
    rwa [Char.toNat_inj.1 hval]
  · intro h
    exact ⟨c, h, by simp [utf8EncodeChar_ascii hc]⟩

def IsBoundary (cs : List Char) (offset : Nat) : Prop := ∃ pre, pre <+: cs ∧ (encode pre).length = offset

theorem isBoundary_zero (cs : List Char) : IsBoundary cs 0 := ⟨[], List.nil_prefix, rfl⟩

theorem isBoundary_le {cs : List Char} {offset : Nat} (h : IsBoundary cs offset) :
    offset ≤ (encode cs).length := by
  obtain ⟨pre, ⟨post, rfl⟩, rfl⟩ := h
  simp

theorem isBoundary_cons {c : Char} {cs : List Char} {offset : Nat} :
    IsBoundary (c :: cs) offset ↔
      offset = 0 ∨ ∃ rest, IsBoundary cs rest ∧ offset = (String.utf8EncodeChar c).length + rest := by
  constructor
  · rintro ⟨pre, hpre, rfl⟩
    cases pre with
    | nil => exact .inl rfl
    | cons d pre =>
      obtain ⟨rfl, htail⟩ := List.cons_prefix_cons.1 hpre
      exact .inr ⟨_, ⟨pre, htail, rfl⟩, by simp⟩
  · rintro (rfl | ⟨rest, ⟨pre, hpre, rfl⟩, rfl⟩)
    · exact isBoundary_zero _
    · exact ⟨c :: pre, List.cons_prefix_cons.2 ⟨rfl, hpre⟩, by simp⟩

instance (cs : List Char) (offset : Nat) : Decidable (IsBoundary cs offset) :=
  decidable_of_iff (∃ k, k < cs.length + 1 ∧ (encode (cs.take k)).length = offset) <| by
    constructor
    · rintro ⟨k, -, h⟩
      have hpre : cs.take k <+: cs := List.take_prefix k cs
      exact ⟨cs.take k, hpre, h⟩
    · rintro ⟨pre, hpre, h⟩
      refine ⟨pre.length, Nat.lt_succ_of_le hpre.length_le, ?_⟩
      rwa [← List.prefix_iff_eq_take.1 hpre]

theorem isBoundary_iff {cs : List Char} {offset : Nat} (h : offset ≤ (encode cs).length) :
    IsBoundary cs offset ↔ ((encode cs)[offset]?).any isContinuation = false := by
  induction cs generalizing offset with
  | nil =>
    obtain rfl : offset = 0 := by simpa using h
    simp [isBoundary_zero]
  | cons c cs ih =>
    obtain ⟨first, more, heq, hfirst, hmore, -⟩ := utf8EncodeChar_shape c
    rw [isBoundary_cons, encode_cons]
    rw [encode_cons, List.length_append] at h
    by_cases hlt : offset < (String.utf8EncodeChar c).length
    · rw [List.getElem?_append_left hlt, heq]
      cases offset with
      | zero => simp [hfirst]
      | succ k =>
        have hk : k < more.length := by simpa [heq] using hlt
        have hcont : isContinuation more[k] = true := hmore _ (List.getElem_mem hk)
        simp only [List.getElem?_cons_succ, List.getElem?_eq_getElem hk, Option.any_some, hcont]
        simp only [Nat.add_one_ne_zero, false_or, Bool.true_eq_false, iff_false]
        rintro ⟨rest, -, hrest⟩
        rw [List.length_cons] at hrest
        omega
    · have hpos := length_utf8EncodeChar_pos c
      rw [List.getElem?_append_right (by omega), ← ih (by omega)]
      constructor
      · rintro (rfl | ⟨rest, hrest, rfl⟩)
        · omega
        · rwa [Nat.add_sub_cancel_left]
      · intro hrest
        exact .inr ⟨_, hrest, by omega⟩

theorem length_encode_mono {a b : List Char} (h : a <+: b) : (encode a).length ≤ (encode b).length := by
  obtain ⟨c, rfl⟩ := h
  rw [encode_append, List.length_append]
  exact Nat.le_add_right ..

theorem length_encode_lt {a b : List Char} (h : a <+: b) (hne : a ≠ b) :
    (encode a).length < (encode b).length := by
  obtain ⟨c, rfl⟩ := h
  cases c with
  | nil => simp at hne
  | cons d c =>
    have := length_utf8EncodeChar_pos d
    simp only [encode_append, encode_cons, List.length_append]
    omega

end Diagnostics.Text.Utf8
