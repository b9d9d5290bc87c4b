import Diagnostics.Text.Lines

namespace Diagnostics.Text

theorem lines_of_notMem {l : List Char} (h : '\n' ∉ l) : lines l = [l] := by
  induction l with
  | nil => rfl
  | cons c l ih =>
    rw [List.mem_cons, not_or] at h
    have hl := ih h.2
    simp only [lines, List.cons.injEq] at hl
    simp [lines, splitLines, Ne.symm h.1, hl]

theorem lines_append_feed {l : List Char} (rest : List Char) (h : '\n' ∉ l) :
    lines (l ++ '\n' :: rest) = l :: lines rest := by
  induction l with
  | nil => simp [lines, splitLines]
  | cons c l ih =>
    rw [List.mem_cons, not_or] at h
    have hl := ih h.2
    simp only [lines, List.cons.injEq] at hl ⊢
    simp [splitLines, Ne.symm h.1, hl]

@[elab_as_elim] theorem feedInduction {motive : List Char → Prop}
    (last : ∀ l, '\n' ∉ l → motive l)
    (feed : ∀ l rest, '\n' ∉ l → motive rest → motive (l ++ '\n' :: rest)) (cs : List Char) :
    motive cs := by
  induction hn : cs.count '\n' generalizing cs with
  | zero => exact last cs (List.count_eq_zero.1 hn)
  | succ n ih =>
    have hmem : '\n' ∈ cs := List.count_pos_iff.1 (by omega)
    obtain ⟨l, rest, rfl, hl⟩ := List.eq_append_cons_of_mem hmem
    rw [List.count_append, List.count_cons_self, List.count_eq_zero.2 hl] at hn
    exact feed l rest hl (ih rest (by omega))

theorem length_lines (cs : List Char) : (lines cs).length = cs.count '\n' + 1 := by
  induction cs using feedInduction with
  | last l h => rw [lines_of_notMem h, List.count_eq_zero.2 h]; rfl
  | feed l rest h ih =>
    rw [lines_append_feed rest h, List.length_cons, ih, List.count_append, List.count_cons_self,
      List.count_eq_zero.2 h, Nat.zero_add]

def before (cs : List Char) (i : Nat) : List Char := ((lines cs).take i).flatMap (· ++ ['\n'])

theorem before_zero (cs : List Char) : before cs 0 = [] := rfl

theorem before_succ {cs : List Char} {i : Nat} (h : i < (lines cs).length) :
    before cs (i + 1) = before cs i ++ (lines cs)[i] ++ ['\n'] := by
  rw [before, List.take_succ_eq_append_getElem h, List.flatMap_append, List.flatMap_singleton,
    List.append_assoc, before]

theorem before_append_feed {l : List Char} (rest : List Char) (i : Nat) (h : '\n' ∉ l) :
    before (l ++ '\n' :: rest) (i + 1) = l ++ '\n' :: before rest i := by
  simp [before, lines_append_feed rest h]

theorem feed_notMem_getElem {cs : List Char} {i : Nat} (h : i < (lines cs).length) :
    '\n' ∉ (lines cs)[i] := feed_notMem_lines cs _ (List.getElem_mem h)

theorem count_before {cs : List Char} {i : Nat} (h : i ≤ (lines cs).length) :
    (before cs i).count '\n' = i := by
  induction i with
  | zero => rfl
  | succ i ih =>
    rw [before_succ h, List.count_append, List.count_append, ih (Nat.le_of_succ_le h),
      List.count_eq_zero.2 (feed_notMem_getElem h)]
    rfl

theorem before_append_intercalate {cs : List Char} {i : Nat} (h : i < (lines cs).length) :
    before cs i ++ ['\n'].intercalate ((lines cs).drop i) = cs := by
  induction i with
  | zero => exact intercalate_lines cs
  | succ i ih =>
    have hi := ih (Nat.lt_of_succ_lt h)
    rw [List.drop_eq_getElem_cons (Nat.lt_of_succ_lt h)] at hi
    have hne : (lines cs).drop (i + 1) ≠ [] := by simpa using h
    obtain ⟨l, ls, hls⟩ := List.exists_cons_of_ne_nil hne
    rw [hls, List.intercalate_cons_cons] at hi
    rw [before_succ (Nat.lt_of_succ_lt h), hls, List.append_assoc, List.append_assoc]
    rwa [List.append_assoc] at hi

theorem before_getElem_isPrefix {cs : List Char} {i : Nat} (h : i < (lines cs).length) :
    before cs i ++ (lines cs)[i] <+: cs := by
  have hcs := before_append_intercalate h
  rw [List.drop_eq_getElem_cons h] at hcs
  cases hls : (lines cs).drop (i + 1) with
  | nil =>
    rw [hls, List.intercalate_singleton] at hcs
    exact ⟨[], by rw [List.append_nil, hcs]⟩
  | cons l ls =>
    rw [hls, List.intercalate_cons_cons, List.append_assoc, ← List.append_assoc] at hcs
    exact ⟨_, hcs⟩

theorem before_take_isPrefix {cs : List Char} {i : Nat} (h : i < (lines cs).length) (j : Nat) :
    before cs i ++ (lines cs)[i].take j <+: cs := by
  have htake : (lines cs)[i].take j <+: (lines cs)[i] := List.take_prefix j _
  exact ((List.prefix_append_right_inj _).2 htake).trans (before_getElem_isPrefix h)

theorem mem_of_mem_lines {cs l : List Char} {c : Char} (hl : l ∈ lines cs) (hc : c ∈ l) : c ∈ cs := by
  obtain ⟨i, hi, rfl⟩ := List.mem_iff_getElem.1 hl
  exact (before_getElem_isPrefix hi).subset (List.mem_append_right _ hc)

theorem before_last {cs : List Char} {i : Nat} (h : i + 1 = (lines cs).length) :
    before cs i ++ (lines cs)[i] = cs := by
  have hlt : i < (lines cs).length := by omega
  have hcs := before_append_intercalate hlt
  rwa [List.drop_eq_getElem_cons hlt, List.drop_eq_nil_of_le (by omega),
    List.intercalate_singleton] at hcs

theorem prefix_eq_before {cs pre : List Char} (h : pre <+: cs) :
    ∃ i, ∃ hi : i < (lines cs).length, ∃ j ≤ (lines cs)[i].length,
      pre = before cs i ++ (lines cs)[i].take j := by
  induction cs using feedInduction generalizing pre with
  | last l hl =>
    have hlines := lines_of_notMem hl
    refine ⟨0, by simp [hlines], pre.length, by simpa [hlines] using h.length_le, ?_⟩
    simpa [hlines, before_zero] using List.prefix_iff_eq_take.1 h
  | feed l rest hl ih =>
    have hlines := lines_append_feed rest hl
    by_cases hle : pre.length ≤ l.length
    · have hpre : pre <+: l := List.prefix_of_prefix_length_le h (List.prefix_append l _) hle
      refine ⟨0, by simp [hlines], pre.length, by simpa [hlines] using hle, ?_⟩
      simpa [hlines, before_zero] using List.prefix_iff_eq_take.1 hpre
    · have hl' : l ++ ['\n'] <+: pre := List.prefix_of_prefix_length_le ⟨rest, by simp⟩ h (by simp; omega)
      obtain ⟨more, rfl⟩ := hl'
      have hmore : more <+: rest := by simpa using h
      obtain ⟨i, hi, j, hj, rfl⟩ := ih hmore
      refine ⟨i + 1, by simpa [hlines] using hi, j, by simpa [hlines] using hj, ?_⟩
      simp [before_append_feed rest i hl, hlines]

theorem getLast?_lines_eq_nil {cs : List Char} :
    (lines cs).getLast? = some [] ↔ cs = [] ∨ cs.getLast? = some '\n' := by
  induction cs using feedInduction with
  | last l h =>
    have hlast : l.getLast? ≠ some '\n' := fun hlast => h (List.mem_of_getLast? hlast)
    simp [lines_of_notMem h, hlast]
  | feed l rest h ih =>
    have hne : lines rest ≠ [] := List.ne_nil_of_length_pos (by simp [length_lines])
    rw [lines_append_feed rest h, List.getLast?_cons_of_ne_nil hne, ih, List.getLast?_append, List.getLast?_cons,
      Option.some_or]
    cases hrest : rest.getLast? with
    | none => simp [List.getLast?_eq_none_iff.1 hrest]
    | some c =>
      have hrest' : rest ≠ [] := fun hnil => by simp [hnil] at hrest
      simp [hrest']

def feeds (cs : List Char) : Nat := cs.count '\n'

theorem feeds_append (a b : List Char) : feeds (a ++ b) = feeds a + feeds b := List.count_append

theorem feeds_eq_zero {cs : List Char} : feeds cs = 0 ↔ ∀ c ∈ cs, c ≠ '\n' :=
  List.count_eq_zero.trans ⟨fun h _ hc heq => h (heq ▸ hc), fun h hmem => h _ hmem rfl⟩

theorem lines_ended {ls : List (List Char)} (h : ∀ l ∈ ls, '\n' ∉ l) :
    lines (ls.flatMap (· ++ ['\n'])) = ls ++ [[]] := by
  induction ls with
  | nil => rfl
  | cons l ls ih =>
    obtain ⟨hl, hls⟩ := List.forall_mem_cons.1 h
    rw [List.flatMap_cons, List.append_assoc, List.singleton_append, lines_append_feed _ hl, ih hls, List.cons_append]

end Diagnostics.Text
