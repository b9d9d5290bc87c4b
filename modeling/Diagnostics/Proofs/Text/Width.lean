import Diagnostics.Drawing.Glyphs
import Diagnostics.Text.Width

namespace Diagnostics

namespace Text

def Narrow (c : Char) : Prop := ∀ tab, charWidth tab c = 1

theorem width_of_narrow (tab : Nat) {cs : List Char} (h : ∀ c ∈ cs, Narrow c) : width tab cs = cs.length := by
  induction cs with
  | nil => rfl
  | cons c cs ih =>
    have hc := h c (List.mem_cons_self ..) tab
    rw [width, hc, ih fun d hd => h d (List.mem_cons_of_mem _ hd), List.length_cons, Nat.add_comm]

theorem narrow_of_charWidth {c : Char} (h : charWidth 0 c = 1) : Narrow c := by
  intro tab
  by_cases hc : c = '\t'
  · rw [charWidth, if_pos hc] at h
    cases h
  · rw [charWidth, if_neg hc] at h ⊢
    exact h

theorem inRanges_of_lt {c : Char} {first last : Nat} (rest : List (Nat × Nat)) (h : c.toNat < first) :
    inRanges c ((first, last) :: rest) = false := by
  rw [inRanges, decide_eq_false (Nat.not_le_of_lt h), Bool.false_and]

theorem narrow_of_toNat_lt {c : Char} (h : c.toNat < 0x300) (hc : c ≠ '\t') : Narrow c := by
  intro tab
  have hcombining : inRanges c combining = false := inRanges_of_lt _ h
  have hwide : inRanges c wide = false := inRanges_of_lt _ (by omega)
  have hunassigned : inRanges c unassigned = false := inRanges_of_lt _ (by omega)
  simp [charWidth, hc, hcombining, hwide, hunassigned]

theorem narrow_space : Narrow ' ' := charWidth_space

theorem bounds_of_mem_toDigits {n : Nat} {c : Char} (h : c ∈ Nat.toDigits 10 n) : 48 ≤ c.toNat ∧ c.toNat ≤ 57 := by
  have hdigit := Nat.isDigit_of_mem_toDigits (by decide) (by decide) h
  rw [Char.isDigit, Bool.and_eq_true, decide_eq_true_iff, decide_eq_true_iff] at hdigit
  exact hdigit

theorem narrow_of_mem_toDigits {n : Nat} {c : Char} (h : c ∈ Nat.toDigits 10 n) : Narrow c := by
  have hdigit := bounds_of_mem_toDigits h
  refine narrow_of_toNat_lt (by omega) ?_
  rintro rfl
  exact absurd hdigit (by decide)

theorem length_toString (n : Nat) : (toString n).length = (Nat.toDigits 10 n).length := by
  have hdigits : (toString n).toList = Nat.toDigits 10 n := Nat.toList_repr
  rw [← hdigits, String.length_toList]

theorem length_toDigits_mono {a b : Nat} (h : a ≤ b) :
    (Nat.toDigits 10 a).length ≤ (Nat.toDigits 10 b).length := by
  have hiff (n : Nat) := Nat.length_toDigits_le_iff (n := n) (by decide : 1 < 10)
    (Nat.length_toDigits_pos (b := 10) (n := b))
  exact (hiff a).2 (Nat.lt_of_le_of_lt h ((hiff b).1 (Nat.le_refl _)))

end Text

namespace Glyphs

open Text (Narrow narrow_of_charWidth)

variable (charset : CharSet)

theorem narrow_border : Narrow (ofCharSet charset).border := by
  cases charset <;> exact narrow_of_charWidth (by decide +kernel)

theorem narrow_railVertical : Narrow (ofCharSet charset).railVertical := by
  cases charset <;> exact narrow_of_charWidth (by decide +kernel)

theorem narrow_caret (kind : Weight) : Narrow ((ofCharSet charset).caret kind) := by
  cases charset <;> cases kind <;> exact narrow_of_charWidth (by decide +kernel)

end Glyphs

end Diagnostics
