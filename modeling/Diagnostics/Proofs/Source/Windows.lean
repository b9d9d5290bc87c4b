import Diagnostics.Proofs.Source.Excerpt
import Diagnostics.Proofs.Source.Runs

namespace Diagnostics

variable {before : Option Nat} {ks : List Nat} {i k : Nat}

theorem getElem?_markGaps_zero (before : Option Nat) (ks : List Nat) :
    (markGaps before ks)[0]? = ks[0]?.map fun k => (k, before.any (· + 1 ≠ k)) := by
  cases ks <;> rfl

theorem getElem?_markGaps_succ (before : Option Nat) (hi : ks[i]? = some k) :
    (markGaps before ks)[i + 1]? = ks[i + 1]?.map fun next => (next, decide (k + 1 ≠ next)) := by
  induction ks generalizing before i with
  | nil => cases hi
  | cons m rest ih =>
    rw [markGaps, List.getElem?_cons_succ, List.getElem?_cons_succ]
    cases i with
    | zero =>
      obtain rfl := Option.some.inj hi
      exact getElem?_markGaps_zero (some m) rest
    | succ i => exact ih (some m) hi

namespace Source

variable {s : Source} {requested : List Int} {context : Nat}

theorem lastContextLine_eq (s : Source) :
    s.lastContextLine =
      if 1 < s.lineCount ∧ s.content.toList.getLast? = some '\n' then s.lineCount - 1 else s.lineCount := by
  have hends : 1 < s.lineCount →
      (s.lineStarts.getLast? = some s.data.length ↔ s.content.toList.getLast? = some '\n') := by
    intro hlines
    rw [getLast?_lineStarts, rows, Text.getLast?_lines_eq_nil, or_iff_right]
    intro hnil
    rw [lineCount_eq, rows, hnil] at hlines
    exact absurd hlines (Nat.lt_irrefl 1)
  simp only [lastContextLine, and_congr_right hends]

theorem exists_missing (h : ∃ r ∈ requested, r < 1 ∨ (s.lineCount : Int) < r) :
    ∃ r ∈ requested, (r < 1 ∨ (s.lineCount : Int) < r) ∧
      (∀ other ∈ requested, (other < 1 ∨ (s.lineCount : Int) < other) → r ≤ other) ∧
      s.excerpt requested context = .error (.lineTooLarge (r - 1) (s.lineCount - 1)) := by
  have hout (r : Int) : (r < 1 || (s.lineCount : Int) - 1 < r - 1) = true ↔ r < 1 ∨ (s.lineCount : Int) < r := by
    rw [Bool.or_eq_true, decide_eq_true_iff, decide_eq_true_iff, Int.sub_lt_sub_right_iff]
  obtain ⟨r, hr, hmissing⟩ := h
  obtain ⟨least, hleast⟩ : ∃ least, s.missingLine? requested = some least := by
    rw [← Option.isSome_iff_exists, missingLine?, List.find?_isSome]
    exact ⟨r, mem_requestedNumbers.2 hr, (hout r).2 hmissing⟩
  obtain ⟨hfirst, before, behind, hsplit, hbefore⟩ := List.find?_eq_some_iff_append.1 hleast
  refine ⟨least, mem_requestedNumbers.1 (hsplit ▸ by simp), (hout least).1 hfirst, fun other ho hother => ?_, ?_⟩
  · -- The numbers before the first missing one exist, and those behind it are not smaller.
    have hsorted := pairwise_requestedNumbers requested
    rw [hsplit] at hsorted
    have hmem := mem_requestedNumbers.2 ho
    rw [hsplit, List.mem_append, List.mem_cons] at hmem
    rcases hmem with hmem | rfl | hmem
    · have hexists := hbefore other hmem
      rw [(hout other).2 hother] at hexists
      cases hexists
    · exact Int.le_refl _
    · exact Int.le_of_lt (List.rel_of_pairwise_cons (List.pairwise_append.1 hsorted).2.1 hmem)
  · rw [excerpt, hleast]
    rfl

theorem shows_iff : s.shows requested context k = true ↔
    (k : Int) ∈ requested ∨ (∃ r ∈ requested, 1 ≤ r - k ∧ r - k ≤ context) ∨
      ∃ r ∈ requested, 1 ≤ k - r ∧ k - r ≤ context ∧ k ≤ s.lastContextLine := by
  rw [shows, List.any_eq_true]
  constructor
  · rintro ⟨r, hr, h⟩
    simp only [Bool.or_eq_true, Bool.and_eq_true, decide_eq_true_eq] at h
    rcases h with (rfl | ⟨hlt, hle⟩) | ⟨⟨hlt, hle⟩, hlast⟩
    · exact .inl hr
    · exact .inr (.inl ⟨r, hr, by omega, hle⟩)
    · exact .inr (.inr ⟨r, hr, by omega, hle, hlast⟩)
  · rintro (hr | ⟨r, hr, hlt, hle⟩ | ⟨r, hr, hlt, hle, hlast⟩)
    · exact ⟨k, hr, by simp⟩
    · refine ⟨r, hr, ?_⟩
      have hbefore : (k : Int) < r := by omega
      simp [hbefore, hle]
    · refine ⟨r, hr, ?_⟩
      have hbehind : r < k := by omega
      simp [hbehind, hle, hlast]

theorem mem_shownLines_iff (h : ∀ r ∈ requested, 1 ≤ r ∧ r ≤ s.lineCount) {line : Int} :
    (∃ k ∈ s.shownLines requested context, (k : Int) = line) ↔
      line ∈ requested ∨ (∃ r ∈ requested, 1 ≤ r - line ∧ r - line ≤ context ∧ 1 ≤ line) ∨
        ∃ r ∈ requested, 1 ≤ line - r ∧ line - r ≤ context ∧ line ≤ s.lastContextLine := by
  simp only [shownLines, List.mem_filter, mem_lineNumbers, shows_iff]
  constructor
  · rintro ⟨k, ⟨⟨hfirst, -⟩, hk | ⟨r, hr, hlt, hle⟩ | ⟨r, hr, hlt, hle, hlast⟩⟩, rfl⟩
    · exact .inl hk
    · exact .inr (.inl ⟨r, hr, hlt, hle, Int.ofNat_le.2 hfirst⟩)
    · exact .inr (.inr ⟨r, hr, hlt, hle, Int.ofNat_le.2 hlast⟩)
  · intro hline
    have hcontext := s.lastContextLine_le
    have hbounds : 1 ≤ line ∧ line ≤ s.lineCount := by
      rcases hline with hline | ⟨r, hr, hlt, -, hfirst⟩ | ⟨r, hr, hlt, -, hlast⟩
      · exact h line hline
      · have := h r hr
        omega
      · have := h r hr
        omega
    obtain ⟨k, rfl⟩ := Int.eq_ofNat_of_zero_le (Int.le_trans Int.one_nonneg hbounds.1)
    refine ⟨k, ⟨by omega, ?_⟩, rfl⟩
    rcases hline with hk | ⟨r, hr, hlt, hle, -⟩ | ⟨r, hr, hlt, hle, hlast⟩
    · exact .inl hk
    · exact .inr (.inl ⟨r, hr, hlt, hle⟩)
    · exact .inr (.inr ⟨r, hr, hlt, hle, Int.ofNat_le.1 hlast⟩)

theorem getElem?_excerptLines (s : Source) (requested : List Int) (context i : Nat) :
    (s.excerptLines requested context)[i]? =
      (markGaps none (s.shownLines requested context))[i]?.map fun (k, gap) => ⟨k, s.shownText k, gap⟩ :=
  List.getElem?_map

theorem gapBefore_zero {l : ExcerptLine} (h : (s.excerptLines requested context)[0]? = some l) :
    l.gapBefore = false := by
  rw [getElem?_excerptLines, getElem?_markGaps_zero, Option.map_map] at h
  obtain ⟨k, -, rfl⟩ := Option.map_eq_some_iff.1 h
  rfl

theorem gapBefore_succ {before l : ExcerptLine} (hbefore : (s.excerptLines requested context)[i]? = some before)
    (h : (s.excerptLines requested context)[i + 1]? = some l) :
    l.gapBefore = true ↔ l.number ≠ before.number + 1 := by
  have hnumber : (s.shownLines requested context)[i]? = some before.number := by
    rw [← excerptLines_number, List.getElem?_map, hbefore]
    rfl
  rw [getElem?_excerptLines, getElem?_markGaps_succ none hnumber, Option.map_map] at h
  obtain ⟨k, -, rfl⟩ := Option.map_eq_some_iff.1 h
  exact decide_eq_true_iff.trans ne_comm

theorem countP_gapBefore (s : Source) (requested : List Int) (context : Nat) :
    (s.excerptLines requested context).countP (·.gapBefore) =
      (markGaps none (s.shownLines requested context)).countP (·.2) := by
  rw [excerptLines, List.countP_map]
  rfl

theorem excerpt_windows (s : Source) (requested : List Int) (context : Nat) :
    let last := if 1 < s.lineCount ∧ s.content.toList.getLast? = some '\n' then s.lineCount - 1 else s.lineCount
    ((∃ r ∈ requested, r < 1 ∨ (s.lineCount : Int) < r) →
      ∃ r ∈ requested, (r < 1 ∨ (s.lineCount : Int) < r) ∧
        (∀ other ∈ requested, (other < 1 ∨ (s.lineCount : Int) < other) → r ≤ other) ∧
        s.excerpt requested context = .error (.lineTooLarge (r - 1) (s.lineCount - 1))) ∧
    ((∀ r ∈ requested, 1 ≤ r ∧ r ≤ s.lineCount) → ∃ lines, s.excerpt requested context = .ok lines ∧
      (lines.map (·.number)).Pairwise (· < ·) ∧
      (∀ line : Int, (∃ l ∈ lines, (l.number : Int) = line) ↔
        line ∈ requested ∨ (∃ r ∈ requested, 1 ≤ r - line ∧ r - line ≤ context ∧ 1 ≤ line) ∨
          ∃ r ∈ requested, 1 ≤ line - r ∧ line - r ≤ context ∧ line ≤ last) ∧
      (∀ l ∈ lines, s.lineText ((l.number : Int) - 1) = .ok l.text) ∧
      (∀ l, lines[0]? = some l → l.gapBefore = false) ∧
      (∀ i before l, lines[i]? = some before → lines[i + 1]? = some l →
        (l.gapBefore = true ↔ l.number ≠ before.number + 1)) ∧
      (lines ≠ [] → ∃ runs : List (Nat × Nat), runs.Nodup ∧
        (∀ first last, (first, last) ∈ runs ↔ MaximalRun (lines.map (·.number)) first last) ∧
        lines.countP (·.gapBefore) + 1 = runs.length)) := by
  intro last
  refine ⟨exists_missing, fun h => ⟨s.excerptLines requested context, excerpt_eq context h, ?ascending, ?shown, ?text,
    fun l => gapBefore_zero, fun i before l => gapBefore_succ, fun hne => ?runs⟩⟩
  case ascending =>
    rw [excerptLines_number]
    exact s.pairwise_shownLines requested context
  case shown =>
    intro line
    have hlast : last = s.lastContextLine := s.lastContextLine_eq.symm
    rw [hlast, ← mem_shownLines_iff h, ← excerptLines_number]
    simp
  case text =>
    intro l hl
    have hnumber : l.number ∈ s.shownLines requested context := by
      rw [← excerptLines_number]
      exact List.mem_map_of_mem hl
    rw [lineText_of_line (mem_shownLines_bounds hnumber), excerptLines_text hl]
  case runs =>
    have hshown : s.shownLines requested context ≠ [] := by
      rwa [← excerptLines_number, Ne, List.map_eq_nil_iff]
    rw [excerptLines_number, countP_gapBefore]
    exact exists_maximalRuns (s.pairwise_shownLines requested context) hshown

theorem excerpt_windows_end :
    let s : Source := ⟨"a", "a\nb\nc\nd\ne\n"⟩
    ((∃ r ∈ [9, 2, 0], r < 1 ∨ (s.lineCount : Int) < r) ∧
      s.excerpt [9, 2, 0] 1 = .error (.lineTooLarge (0 - 1) (s.lineCount - 1))) ∧
    (∀ r ∈ [5, 1, 5], 1 ≤ r ∧ r ≤ (s.lineCount : Int)) ∧ ∃ lines, s.excerpt [5, 1, 5] 1 = .ok lines ∧
      (∃ l ∈ lines, (l.number : Int) = 4) ∧ ¬ ∃ l ∈ lines, (l.number : Int) = 6 := by
  intro s
  have hmissing : ∃ r ∈ [9, 2, 0], r < 1 ∨ (s.lineCount : Int) < r := ⟨9, by decide, by decide⟩
  have hrequested : ∀ r ∈ [5, 1, 5], 1 ≤ r ∧ r ≤ (s.lineCount : Int) := by decide
  obtain ⟨least, hmem, -, hleast, herror⟩ := (excerpt_windows s [9, 2, 0] 1).1 hmissing
  obtain rfl : least = 0 := by
    have hle := hleast 0 (by decide) (by decide)
    simp at hmem
    omega
  obtain ⟨lines, hlines, -, hshown, -⟩ := (excerpt_windows s [5, 1, 5] 1).2 hrequested
  exact ⟨⟨hmissing, herror⟩, hrequested, lines, hlines, (hshown 4).2 (by decide), mt (hshown 6).1 (by decide)⟩

end Source

end Diagnostics
