import Mathlib.Data.List.DropRight
import Diagnostics.Proofs.Source.Cover

namespace Diagnostics

open Text.Utf8 (encode)

theorem Position.after_eq (cs : List Char) :
    after cs = ⟨cs.count '\n' + 1, (cs.rtakeWhile (· ≠ '\n')).length + 1⟩ := by
  induction cs using List.reverseRecOn with
  | nil => rfl
  | append_singleton cs c ih =>
    rw [after, List.foldl_append, ← after, ih, List.foldl_cons, List.foldl_nil, step, List.count_append]
    by_cases hc : c = '\n'
    · rw [if_pos hc, hc, List.rtakeWhile_concat_neg _ _ _ (by simp)]
      rfl
    · rw [if_neg hc, List.rtakeWhile_concat_pos _ _ _ (by simpa using hc), List.length_append,
        List.count_eq_zero.2 fun h => hc (List.mem_singleton.1 h).symm]
      rfl

namespace Source

theorem lineOf_eq_feedsBefore (s : Source) (offset : Nat) : s.lineOf offset = s.feedsBefore offset + 1 := by
  rcases Nat.le_total offset s.data.length with h | h
  · exact lineOf_eq h
  · -- Every line starts within the content.
    have hall : s.lineOf offset = s.lineCount := by
      rw [lineOf, lineCount, List.countP_eq_length]
      intro start hstart
      rcases List.mem_cons.1 hstart with rfl | hstart
      · simp
      · have := (startsAfter_bounds hstart).2
        simpa using by omega
    rw [hall, feedsBefore, List.take_of_length_le h, lineCount_eq, rows, Text.length_lines, data, count_feed_encode]

theorem lineIndex_natCast (s : Source) (offset : Nat) : s.lineIndex offset = s.feedsBefore offset := by
  have hline := s.lineOf_eq_feedsBefore offset
  simp only [lineIndex, Int.ofNat_le]
  rw [lineOf] at hline
  rw [hline]
  omega

theorem locate_outcome (s : Source) (b : Int) :
    ((b < 0 ∨ (s.data.length : Int) < b) ∧ s.locate b = .error (.offsetTooLarge b s.data.length)) ∨
    (∃ pre, pre <+: s.content.toList ∧ b = (encode pre).length ∧ s.locate b = .ok (Position.after pre)) ∨
    (0 ≤ b ∧ b ≤ s.data.length) ∧ (¬ ∃ pre, pre <+: s.content.toList ∧ b = (encode pre).length) ∧
      s.locate b = .error (.insideCharacter b) := by
  by_cases hneg : b < 0
  · exact .inl ⟨.inl hneg, locate_of_neg hneg⟩
  obtain ⟨n, rfl⟩ := Int.eq_ofNat_of_zero_le (Int.not_lt.1 hneg)
  by_cases hbound : Text.Utf8.IsBoundary s.content.toList n
  · obtain ⟨pre, hpre, rfl⟩ := hbound
    exact .inr (.inl ⟨pre, hpre, rfl, locate_of_isPrefix hpre⟩)
  · have hfault := locate_of_not_isBoundary hbound
    split at hfault
    · rename_i hlt
      exact .inl ⟨.inr (Int.ofNat_lt.2 hlt), hfault⟩
    · rename_i hle
      refine .inr (.inr ⟨⟨Int.natCast_nonneg n, Int.ofNat_le.2 (Nat.not_lt.1 hle)⟩, ?_, hfault⟩)
      rintro ⟨pre, hpre, hlength⟩
      exact hbound ⟨pre, hpre, (Int.ofNat_inj.1 hlength).symm⟩

theorem locate_by_prefixes (s : Source) (b : Int) :
    (∀ p, s.locate b = .ok p ↔
      ∃ pre, pre <+: s.content.toList ∧ b = (encode pre).length ∧
        p = ⟨pre.count '\n' + 1, (pre.rtakeWhile (· ≠ '\n')).length + 1⟩) ∧
    (s.locate b = .error (.offsetTooLarge b s.data.length) ↔ b < 0 ∨ (s.data.length : Int) < b) ∧
    (s.locate b = .error (.insideCharacter b) ↔
      (0 ≤ b ∧ b ≤ s.data.length) ∧ ¬ ∃ pre, pre <+: s.content.toList ∧ b = (encode pre).length) ∧
    ∀ n : Nat, ∃ i : Nat, s.lineIndex n = i ∧ ∀ j, s.LineAt j n ↔ j = i := by
  refine ⟨fun p => ?located, ?outside, ?inside, fun n => ⟨_, s.lineIndex_natCast n, fun _ => lineAt_iff⟩⟩
  case located =>
    simp only [← Position.after_eq]
    exact locate_eq_ok
  case outside =>
    rcases s.locate_outcome b with ⟨hout, h⟩ | ⟨pre, hpre, rfl, h⟩ | ⟨hin, -, h⟩
    · exact ⟨fun _ => hout, fun _ => h⟩
    · have hle := Text.Utf8.isBoundary_le ⟨pre, hpre, rfl⟩
      rw [← data] at hle
      exact ⟨fun heq => by simp [h] at heq, fun hout => by omega⟩
    · exact ⟨fun heq => by simp [h] at heq, fun hout => by omega⟩
  case inside =>
    rcases s.locate_outcome b with ⟨hout, h⟩ | ⟨pre, hpre, rfl, h⟩ | ⟨hin, hnone, h⟩
    · exact ⟨fun heq => by simp [h] at heq, fun hin => by omega⟩
    · exact ⟨fun heq => by simp [h] at heq, fun hin => absurd ⟨pre, hpre, rfl⟩ hin.2⟩
    · exact ⟨fun _ => ⟨hin, hnone⟩, fun _ => h⟩

theorem locate_by_prefixes_return :
    let s : Source := ⟨"a", "é\r\n漢"⟩
    s.locate 3 = .ok ⟨1, 3⟩ ∧ s.locate 8 = .error (.offsetTooLarge 8 s.data.length) ∧
      ∃ i : Nat, s.lineIndex (9 : Nat) = i ∧ s.LineAt i 9 := by
  intro s
  have hfront : ['é', '\r'] <+: s.content.toList := by decide
  obtain ⟨i, hi, hat⟩ := (locate_by_prefixes s 3).2.2.2 9
  exact ⟨((locate_by_prefixes s 3).1 _).2 ⟨_, hfront, rfl, rfl⟩, (locate_by_prefixes s 8).2.1.2 (.inr (by decide)),
    i, hi, (hat i).2 rfl⟩

end Source

end Diagnostics
