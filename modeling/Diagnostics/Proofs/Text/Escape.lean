import Diagnostics.Text.Escape
import Mathlib.Data.List.TakeWhile

namespace Diagnostics.Text

theorem isParameter_iff {c : Char} : isParameter c = true ↔ 48 ≤ c.toNat ∧ c.toNat ≤ 63 := by
  rw [isParameter, Bool.and_eq_true, decide_eq_true_iff, decide_eq_true_iff]
  rfl

theorem isIntermediate_iff {c : Char} : isIntermediate c = true ↔ 32 ≤ c.toNat ∧ c.toNat ≤ 47 := by
  rw [isIntermediate, Bool.and_eq_true, decide_eq_true_iff, decide_eq_true_iff]
  rfl

theorem isFinal_iff {c : Char} : isFinal c = true ↔ 64 ≤ c.toNat ∧ c.toNat ≤ 126 := by
  rw [isFinal, Bool.and_eq_true, decide_eq_true_iff, decide_eq_true_iff]
  rfl

def IsSequence (cs : List Char) : Prop :=
  ∃ parameters intermediates last, cs = '\x1b' :: '[' :: (parameters ++ intermediates ++ [last]) ∧
    (∀ c ∈ parameters, isParameter c) ∧ (∀ c ∈ intermediates, isIntermediate c) ∧ isFinal last

theorem dropWhile_append_stop {p : Char → Bool} {l : List Char} {c : Char} (rest : List Char)
    (hl : ∀ a ∈ l, p a) (hc : ¬ p c) : (l ++ c :: rest).dropWhile p = c :: rest := by
  rw [List.dropWhile_append_of_pos hl, List.dropWhile_cons_of_neg hc]

theorem sequenceTail_eq {parameters intermediates : List Char} {last : Char} (rest : List Char)
    (hparameters : ∀ c ∈ parameters, isParameter c) (hintermediates : ∀ c ∈ intermediates, isIntermediate c)
    (hlast : isFinal last) :
    sequenceTail (parameters ++ intermediates ++ [last] ++ rest) =
      some (parameters ++ intermediates ++ [last]).length := by
  have hnotParameter : ¬ isParameter last := by
    rw [isParameter_iff]
    rw [isFinal_iff] at hlast
    omega
  have hnotIntermediate : ¬ isIntermediate last := by
    rw [isIntermediate_iff]
    rw [isFinal_iff] at hlast
    omega
  have hfirst : (parameters ++ intermediates ++ [last] ++ rest).dropWhile isParameter =
      intermediates ++ last :: rest := by
    simp only [List.append_assoc, List.singleton_append]
    cases intermediates with
    | nil => exact dropWhile_append_stop rest hparameters hnotParameter
    | cons c more =>
      refine dropWhile_append_stop _ hparameters ?_
      have hc := hintermediates c (List.mem_cons_self ..)
      rw [isIntermediate_iff] at hc
      rw [isParameter_iff]
      omega
  have hsecond : (intermediates ++ last :: rest).dropWhile isIntermediate = last :: rest :=
    dropWhile_append_stop rest hintermediates hnotIntermediate
  simp only [sequenceTail, hfirst, hsecond, hlast, if_true, List.length_append]
  exact congrArg some (by omega)

theorem stripFrom_skip (cs rest : List Char) : stripFrom cs.length (cs ++ rest) = stripEscapes rest := by
  induction cs with
  | nil => rfl
  | cons c cs ih => exact ih

theorem escapeLength_sequence {cs : List Char} (h : IsSequence cs) (rest : List Char) :
    escapeLength (cs ++ rest) = some cs.length := by
  obtain ⟨parameters, intermediates, last, rfl, hparameters, hintermediates, hlast⟩ := h
  rw [List.cons_append, List.cons_append, escapeLength, sequenceTail_eq rest hparameters hintermediates hlast]
  rfl

theorem stripEscapes_sequence {cs : List Char} (h : IsSequence cs) (rest : List Char) :
    stripEscapes (cs ++ rest) = stripEscapes rest := by
  have hlength := escapeLength_sequence h rest
  obtain ⟨parameters, intermediates, last, rfl, -⟩ := h
  rw [List.cons_append] at hlength ⊢
  rw [stripEscapes, stripFrom, hlength]
  exact stripFrom_skip ('[' :: (parameters ++ intermediates ++ [last])) rest

theorem stripEscapes_append {cs : List Char} (h : '\x1b' ∉ cs) (rest : List Char) :
    stripEscapes (cs ++ rest) = cs ++ stripEscapes rest := by
  induction cs with
  | nil => rfl
  | cons c cs ih =>
    rw [List.mem_cons, not_or] at h
    have hnone : escapeLength (c :: (cs ++ rest)) = none := by
      rw [escapeLength]
      rintro more heq
      exact absurd (List.cons.inj heq).1 (Ne.symm h.1)
    rw [List.cons_append, stripEscapes, stripFrom, hnone]
    exact congrArg (c :: ·) (ih h.2)

theorem stripEscapes_of_notMem {cs : List Char} (h : '\x1b' ∉ cs) : stripEscapes cs = cs := by
  have happend := stripEscapes_append h []
  rw [List.append_nil] at happend
  rw [happend]
  exact List.append_nil cs

theorem stripFrom_sublist (skip : Nat) (cs : List Char) : (stripFrom skip cs).Sublist cs := by
  induction cs generalizing skip with
  | nil => cases skip <;> exact .slnil
  | cons c rest ih =>
    cases skip with
    | succ skip => exact (ih skip).cons c
    | zero =>
      rw [stripFrom]
      split
      · exact (ih _).cons c
      · exact (ih 0).cons_cons c

def HoldsSequence (cs : List Char) : Prop := ∃ sequence, IsSequence sequence ∧ sequence <:+: cs

theorem exists_sequence_of_escapeLength {cs : List Char} {n : Nat} (h : escapeLength cs = some n) :
    ∃ sequence, IsSequence sequence ∧ sequence <+: cs := by
  unfold escapeLength at h
  split at h
  · rename_i rest
    obtain ⟨k, hk, -⟩ := Option.map_eq_some_iff.1 h
    have hparameters := List.takeWhile_append_dropWhile (p := isParameter) (l := rest)
    have hintermediates := List.takeWhile_append_dropWhile (p := isIntermediate) (l := rest.dropWhile isParameter)
    simp only [sequenceTail] at hk
    split at hk
    · cases hk
    · rename_i last more hlast
      split at hk
      · rename_i hfinal
        refine ⟨_, ⟨rest.takeWhile isParameter, (rest.dropWhile isParameter).takeWhile isIntermediate, last, rfl,
          fun c hc => List.mem_takeWhile_imp hc, fun c hc => List.mem_takeWhile_imp hc, hfinal⟩, more, ?_⟩
        rw [hlast] at hintermediates
        simp only [List.cons_append, List.append_assoc, List.nil_append, hintermediates, hparameters]
      · cases hk
  · cases h

theorem escapeLength_eq_none_iff {cs : List Char} :
    escapeLength cs = none ↔ ¬ ∃ sequence, IsSequence sequence ∧ sequence <+: cs := by
  constructor
  · rintro hnone ⟨sequence, hsequence, rest, rfl⟩
    rw [escapeLength_sequence hsequence] at hnone
    cases hnone
  · intro h
    cases hlength : escapeLength cs with
    | none => rfl
    | some n => exact absurd (exists_sequence_of_escapeLength hlength) h

theorem holdsSequence_cons {c : Char} {cs : List Char} :
    HoldsSequence (c :: cs) ↔ (∃ sequence, IsSequence sequence ∧ sequence <+: c :: cs) ∨ HoldsSequence cs := by
  simp only [HoldsSequence, List.infix_cons_iff, and_or_left, exists_or]

theorem stripEscapes_eq_self_iff {cs : List Char} : stripEscapes cs = cs ↔ ¬ HoldsSequence cs := by
  induction cs with
  | nil =>
    refine iff_of_true rfl ?_
    rintro ⟨_, ⟨_, _, _, rfl, -⟩, hinfix⟩
    exact absurd (List.infix_nil.1 hinfix) (List.cons_ne_nil _ _)
  | cons c cs ih =>
    rw [holdsSequence_cons, not_or, ← escapeLength_eq_none_iff, ← ih, stripEscapes, stripFrom]
    cases hlength : escapeLength (c :: cs) with
    | none =>
      change c :: stripEscapes cs = c :: cs ↔ _
      simp
    | some n =>
      have hlt := (stripFrom_sublist (n - 1) cs).length_le
      refine iff_of_false (fun heq => ?_) (fun h => absurd h.1 (Option.some_ne_none n))
      have hlengths : (stripFrom (n - 1) cs).length = cs.length + 1 := congrArg List.length heq
      omega

end Diagnostics.Text
