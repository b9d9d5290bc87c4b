import Diagnostics.Drawing.Mark
import Diagnostics.Proofs.Sorting
import Mathlib.Order.Bounds.Basic

namespace Diagnostics

section Placing

variable {κ : Type} [LE κ] [DecidableLE κ]

theorem placeMark_cases (m : Mark κ) (rows : List (List (Mark κ))) :
    (∃ before row after, rows = before ++ row :: after ∧ fits m row ∧
      placeMark m rows = before ++ (row ++ [m]) :: after) ∨
    (∀ row ∈ rows, ¬ fits m row) ∧ placeMark m rows = rows ++ [[m]] := by
  induction rows with
  | nil => exact .inr ⟨fun row hrow => (List.not_mem_nil hrow).elim, rfl⟩
  | cons row rest ih =>
    rw [placeMark]
    split
    · rename_i hfits
      exact .inl ⟨[], row, rest, rfl, hfits, rfl⟩
    · rename_i hfits
      rcases ih with ⟨before, other, after, hrest, hother, hplace⟩ | ⟨hnone, hplace⟩
      · exact .inl ⟨row :: before, other, after, by rw [hrest]; rfl, hother, by rw [hplace]; rfl⟩
      · exact .inr ⟨List.forall_mem_cons.2 ⟨hfits, hnone⟩, by rw [hplace]; rfl⟩

theorem placeMark_perm (m : Mark κ) (rows : List (List (Mark κ))) :
    (placeMark m rows).flatten.Perm (m :: rows.flatten) := by
  rcases placeMark_cases m rows with ⟨before, row, after, rfl, -, hplace⟩ | ⟨-, hplace⟩
  · rw [hplace]
    simp only [List.flatten_append, List.flatten_cons, List.append_assoc, List.singleton_append]
    rw [← List.append_assoc, ← List.append_assoc]
    exact List.perm_middle
  · rw [hplace, List.flatten_append, List.flatten_singleton]
    exact List.perm_append_singleton m rows.flatten

theorem ne_nil_of_mem_placeMark {m : Mark κ} {rows : List (List (Mark κ))} (h : ∀ row ∈ rows, row ≠ []) :
    ∀ row ∈ placeMark m rows, row ≠ [] := by
  rcases placeMark_cases m rows with ⟨before, row, after, rfl, -, hplace⟩ | ⟨-, hplace⟩
  · rw [hplace]
    intro r hr
    rcases List.mem_append.1 hr with hr | hr
    · exact h r (List.mem_append_left _ hr)
    rcases List.mem_cons.1 hr with rfl | hr
    · exact List.append_ne_nil_of_right_ne_nil row (List.cons_ne_nil m [])
    · exact h r (List.mem_append_right _ (List.mem_cons_of_mem _ hr))
  · rw [hplace]
    intro r hr
    rcases List.mem_append.1 hr with hr | hr
    · exact h r hr
    · rw [List.mem_singleton.1 hr]
      exact List.cons_ne_nil m []

theorem head?_placeMark {m : Mark κ} {rows : List (List (Mark κ))} (h : ∀ row ∈ rows, row ≠ []) :
    (placeMark m rows).head?.bind List.head? = (rows.head?.bind List.head?).or (some m) := by
  cases rows with
  | nil => rfl
  | cons row rest =>
    cases row with
    | nil => exact absurd rfl (h [] (List.mem_cons_self ..))
    | cons n row =>
      rw [placeMark]
      split <;> rfl

theorem head?_foldl_placeMark {ms : List (Mark κ)} {rows : List (List (Mark κ))} (h : ∀ row ∈ rows, row ≠ []) :
    (ms.foldl (fun rows m => placeMark m rows) rows).head?.bind List.head? =
      (rows.head?.bind List.head?).or ms.head? := by
  induction ms generalizing rows with
  | nil => simp
  | cons m ms ih =>
    rw [List.foldl_cons, ih (ne_nil_of_mem_placeMark h), head?_placeMark h, Option.or_assoc]
    rfl

theorem packMarks_perm [LT κ] [DecidableLT κ] [DecidableEq κ] (marks : List (Mark κ)) :
    (packMarks marks).flatten.Perm marks := by
  have hfold (ms : List (Mark κ)) (rows : List (List (Mark κ))) :
      (ms.foldl (fun rows m => placeMark m rows) rows).flatten.Perm (rows.flatten ++ ms) := by
    induction ms generalizing rows with
    | nil => rw [List.append_nil]; exact .refl _
    | cons m ms ih =>
      exact (ih (placeMark m rows)).trans
        (((placeMark_perm m rows).append_right ms).trans List.perm_middle.symm)
  exact (hfold _ []).trans (sortBy_perm Mark.precedes marks)

end Placing

variable {κ : Type} [LinearOrder κ]

namespace Mark

def covers (m : Mark κ) (cell : κ) : Bool := m.start ≤ cell && cell < m.stop

theorem precedes_iff {a b : Mark κ} :
    a.precedes b ↔ a.start < b.start ∨ a.start = b.start ∧ a.order ≤ b.order := by
  simp [precedes]

theorem start_le_of_precedes {a b : Mark κ} (h : a.precedes b) : a.start ≤ b.start := by
  rcases precedes_iff.1 h with h | h
  · exact le_of_lt h
  · exact le_of_eq h.1

theorem precedes_total (a b : Mark κ) : a.precedes b ∨ b.precedes a := by
  rw [precedes_iff, precedes_iff]
  rcases lt_trichotomy a.start b.start with h | h | h
  · exact .inl (.inl h)
  · exact (le_total a.order b.order).imp (fun hle => .inr ⟨h, hle⟩) fun hle => .inr ⟨h.symm, hle⟩
  · exact .inr (.inl h)

theorem precedes_trans (a b c : Mark κ) (hab : a.precedes b) (hbc : b.precedes c) : a.precedes c := by
  rw [precedes_iff] at *
  rcases hab with hab | ⟨hab, hle⟩ <;> rcases hbc with hbc | ⟨hbc, hle'⟩
  · exact .inl (hab.trans hbc)
  · exact .inl (hbc ▸ hab)
  · exact .inl (hab ▸ hbc)
  · exact .inr ⟨hab.trans hbc, hle.trans hle'⟩

end Mark

/-- What packing keeps: no row is empty, each row goes from left to right, and some cell is covered in every row. -/
structure Tight (rows : List (List (Mark κ))) : Prop where
  nonempty : ∀ row ∈ rows, row ≠ []
  spaced : ∀ row ∈ rows, row.Pairwise fun a b => a.stop ≤ b.start
  deep : rows ≠ [] → ∃ cell, rows.length ≤ rows.flatten.countP (·.covers cell)

theorem length_le_countP {rows : List (List (Mark κ))} {cell : κ} (h : ∀ row ∈ rows, ∃ m ∈ row, m.covers cell) :
    rows.length ≤ rows.flatten.countP (·.covers cell) := by
  induction rows with
  | nil => exact Nat.zero_le _
  | cons row rest ih =>
    obtain ⟨hrow, hrest⟩ := List.forall_mem_cons.1 h
    have hpos : 0 < row.countP (·.covers cell) := List.countP_pos_iff.2 hrow
    have hlength := ih hrest
    rw [List.length_cons, List.flatten_cons, List.countP_append]
    omega

theorem countP_row_le_one {row : List (Mark κ)} (cell : κ)
    (h : row.Pairwise fun a b => a.stop ≤ b.start ∨ b.stop ≤ a.start) : row.countP (·.covers cell) ≤ 1 := by
  induction row with
  | nil => exact Nat.zero_le 1
  | cons m rest ih =>
    obtain ⟨hm, hrest⟩ := List.pairwise_cons.1 h
    by_cases hcovers : m.covers cell
    · have hnone : rest.countP (·.covers cell) = 0 := by
        rw [List.countP_eq_zero]
        intro n hn hn'
        simp only [Mark.covers, Bool.and_eq_true, decide_eq_true_iff] at hcovers hn'
        rcases hm n hn with hle | hle
        · exact absurd (hcovers.2.trans_le (hle.trans hn'.1)) (lt_irrefl _)
        · exact absurd (hn'.2.trans_le (hle.trans hcovers.1)) (lt_irrefl _)
      rw [List.countP_cons, if_pos hcovers, hnone]
    · rw [List.countP_cons, if_neg hcovers]
      exact ih hrest

theorem countP_le_length {rows : List (List (Mark κ))} (cell : κ)
    (h : ∀ row ∈ rows, row.Pairwise fun a b => a.stop ≤ b.start ∨ b.stop ≤ a.start) :
    rows.flatten.countP (·.covers cell) ≤ rows.length := by
  induction rows with
  | nil => exact Nat.le_refl 0
  | cons row rest ih =>
    obtain ⟨hrow, hrest⟩ := List.forall_mem_cons.1 h
    have hone := countP_row_le_one cell hrow
    have hlength := ih hrest
    rw [List.length_cons, List.flatten_cons, List.countP_append]
    omega

theorem stop_le_of_fits {m : Mark κ} {row : List (Mark κ)} (hspaced : row.Pairwise fun a b => a.stop ≤ b.start)
    (hproper : ∀ n ∈ row, n.start < n.stop) (h : fits m row) : ∀ n ∈ row, n.stop ≤ m.start := by
  rcases List.eq_nil_or_concat row with rfl | ⟨front, last, rfl⟩
  · exact fun n hn => (List.not_mem_nil hn).elim
  rw [List.concat_eq_append] at *
  have hlast : last.stop ≤ m.start := by simpa [fits] using h
  intro n hn
  rcases List.mem_append.1 hn with hn | hn
  · have hbefore := (List.pairwise_append.1 hspaced).2.2 n hn last (List.mem_singleton_self last)
    have hproper := hproper last (List.mem_append_right _ (List.mem_singleton_self last))
    exact hbefore.trans (hproper.le.trans hlast)
  · obtain rfl := List.mem_singleton.1 hn
    exact hlast

theorem exists_covers_of_not_fits {m : Mark κ} {row : List (Mark κ)} (hstarts : ∀ n ∈ row, n.start ≤ m.start)
    (h : ¬ fits m row) : ∃ n ∈ row, n.covers m.start := by
  rw [fits] at h
  cases hlast : row.getLast? with
  | none => simp [hlast] at h
  | some last =>
    have hmem := List.mem_of_getLast? hlast
    rw [hlast, Option.all_some, decide_eq_true_iff, not_le] at h
    exact ⟨last, hmem, by simp [Mark.covers, hstarts last hmem, h]⟩

theorem tight_placeMark {m : Mark κ} {rows : List (List (Mark κ))} (h : Tight rows) (hlt : m.start < m.stop)
    (hproper : ∀ n ∈ rows.flatten, n.start < n.stop) (hstarts : ∀ n ∈ rows.flatten, n.start ≤ m.start) :
    Tight (placeMark m rows) := by
  have hcount (cell : κ) : (placeMark m rows).flatten.countP (·.covers cell) =
      (m :: rows.flatten).countP (·.covers cell) := (placeMark_perm m rows).countP_eq _
  have hin {row : List (Mark κ)} (hrow : row ∈ rows) {n : Mark κ} (hn : n ∈ row) : n ∈ rows.flatten :=
    List.mem_flatten.2 ⟨row, hrow, hn⟩
  refine ⟨ne_nil_of_mem_placeMark h.nonempty, ?spaced, ?deep⟩
  case spaced =>
    rcases placeMark_cases m rows with ⟨before, row, after, hrows, hfits, hplace⟩ | ⟨-, hplace⟩
    · have hrow : row ∈ rows := hrows ▸ List.mem_append_right _ (List.mem_cons_self ..)
      have hstop := stop_le_of_fits (h.spaced row hrow) (fun n hn => hproper n (hin hrow hn)) hfits
      rw [hplace]
      intro r hr
      rcases List.mem_append.1 hr with hr | hr
      · exact h.spaced r (hrows ▸ List.mem_append_left _ hr)
      rcases List.mem_cons.1 hr with rfl | hr
      · refine List.pairwise_append.2 ⟨h.spaced row hrow, List.pairwise_singleton _ m, fun n hn k hk => ?_⟩
        rw [List.mem_singleton.1 hk]
        exact hstop n hn
      · exact h.spaced r (hrows ▸ List.mem_append_right _ (List.mem_cons_of_mem _ hr))
    · rw [hplace]
      intro r hr
      rcases List.mem_append.1 hr with hr | hr
      · exact h.spaced r hr
      · rw [List.mem_singleton.1 hr]
        exact List.pairwise_singleton _ m
  case deep =>
    intro _
    rcases placeMark_cases m rows with ⟨before, row, after, hrows, -, hplace⟩ | ⟨hnone, hplace⟩
    · obtain ⟨cell, hcell⟩ := h.deep (by simp [hrows])
      refine ⟨cell, ?_⟩
      have hlength : (placeMark m rows).length = rows.length := by rw [hplace, hrows]; simp
      rw [hlength, hcount, List.countP_cons]
      exact hcell.trans (Nat.le_add_right _ _)
    · -- No row takes the mark, so each of them covers the mark's first cell, as the mark does itself.
      refine ⟨m.start, ?_⟩
      have hself : m.covers m.start := by simp [Mark.covers, hlt]
      have hrows : rows.length ≤ rows.flatten.countP (·.covers m.start) := length_le_countP fun row hrow =>
        exists_covers_of_not_fits (fun n hn => hstarts n (hin hrow hn)) (hnone row hrow)
      rw [hcount, List.countP_cons, if_pos hself, hplace, List.length_append, List.length_singleton]
      exact Nat.add_le_add_right hrows 1

theorem tight_foldl_placeMark {ms : List (Mark κ)} {rows : List (List (Mark κ))} (h : Tight rows)
    (hsorted : ms.Pairwise fun a b => a.start ≤ b.start) (hms : ∀ m ∈ ms, m.start < m.stop)
    (hproper : ∀ n ∈ rows.flatten, n.start < n.stop) (hstarts : ∀ n ∈ rows.flatten, ∀ m ∈ ms, n.start ≤ m.start) :
    Tight (ms.foldl (fun rows m => placeMark m rows) rows) := by
  induction ms generalizing rows with
  | nil => exact h
  | cons m ms ih =>
    obtain ⟨hm, hsorted⟩ := List.pairwise_cons.1 hsorted
    obtain ⟨hlt, hms⟩ := List.forall_mem_cons.1 hms
    have hmem {n : Mark κ} : n ∈ (placeMark m rows).flatten ↔ n = m ∨ n ∈ rows.flatten :=
      (placeMark_perm m rows).mem_iff.trans List.mem_cons
    have hplaced := tight_placeMark h hlt hproper fun n hn => hstarts n hn m (List.mem_cons_self ..)
    refine ih hplaced hsorted hms ?_ ?_
    · intro n hn
      rcases hmem.1 hn with rfl | hn
      · exact hlt
      · exact hproper n hn
    · intro n hn k hk
      rcases hmem.1 hn with rfl | hn
      · exact hm k hk
      · exact hstarts n hn k (List.mem_cons_of_mem _ hk)

theorem tight_packMarks {marks : List (Mark κ)} (h : ∀ m ∈ marks, m.start < m.stop) : Tight (packMarks marks) := by
  have hsorted := (pairwise_sortBy Mark.precedes_total Mark.precedes_trans marks).imp Mark.start_le_of_precedes
  have hempty : Tight ([] : List (List (Mark κ))) := ⟨by simp, by simp, fun hne => absurd rfl hne⟩
  refine tight_foldl_placeMark hempty hsorted (fun m hm => ?_) (by simp) (by simp)
  exact h m ((sortBy_perm Mark.precedes marks).subset hm)

theorem Mark.key_eq_of_precedes {a b : Mark κ} (hab : a.precedes b) (hba : b.precedes a) :
    (a.start, a.order) = (b.start, b.order) := by
  have hstart := le_antisymm (start_le_of_precedes hab) (start_le_of_precedes hba)
  have hle := (precedes_iff.1 hab).resolve_left (not_lt.2 hstart.ge)
  have hge := (precedes_iff.1 hba).resolve_left (not_lt.2 hstart.le)
  rw [Prod.mk.injEq]
  exact ⟨hstart, le_antisymm hle.2 hge.2⟩

theorem packMarks_minimal [Inhabited κ] (marks : List (Mark κ)) (h : ∀ m ∈ marks, m.start < m.stop) :
    (packMarks marks).flatten.Perm marks ∧
    (∀ row ∈ packMarks marks, row ≠ [] ∧ row.Pairwise fun a b => a.stop ≤ b.start) ∧
    IsGreatest (Set.range fun cell => marks.countP (·.covers cell)) (packMarks marks).length ∧
    (∀ rows : List (List (Mark κ)), rows.flatten.Perm marks →
      (∀ row ∈ rows, row.Pairwise fun a b => a.stop ≤ b.start ∨ b.stop ≤ a.start) →
      (packMarks marks).length ≤ rows.length) ∧
    (packMarks marks).head?.bind List.head? = marks.find? (fun m => marks.all m.precedes) ∧
    ((marks.map fun m => (m.start, m.order)).Nodup →
      ∀ marks' : List (Mark κ), marks'.Perm marks → packMarks marks' = packMarks marks) := by
  have htight := tight_packMarks h
  have hcount (rows : List (List (Mark κ))) (hrows : rows.flatten.Perm marks) (cell : κ) :
      marks.countP (·.covers cell) = rows.flatten.countP (·.covers cell) := (hrows.countP_eq _).symm
  have hdepth : ∃ cell, (packMarks marks).length ≤ marks.countP (·.covers cell) := by
    by_cases hne : packMarks marks = []
    · exact ⟨default, by simp [hne]⟩
    · obtain ⟨cell, hcell⟩ := htight.deep hne
      exact ⟨cell, hcell.trans (hcount _ (packMarks_perm marks) cell).ge⟩
  have hfewest (rows : List (List (Mark κ))) (hrows : rows.flatten.Perm marks)
      (hdisjoint : ∀ row ∈ rows, row.Pairwise fun a b => a.stop ≤ b.start ∨ b.stop ≤ a.start) (cell : κ) :
      marks.countP (·.covers cell) ≤ rows.length :=
    (hcount rows hrows cell).trans_le (countP_le_length cell hdisjoint)
  have hbound : ∀ cell, marks.countP (·.covers cell) ≤ (packMarks marks).length :=
    hfewest _ (packMarks_perm marks) fun row hrow => (htight.spaced row hrow).imp .inl
  refine ⟨packMarks_perm marks, fun row hrow => ⟨htight.nonempty row hrow, htight.spaced row hrow⟩, ?greatest, ?fewest,
    ?first, ?permuted⟩
  case greatest =>
    obtain ⟨cell, hcell⟩ := hdepth
    refine ⟨⟨cell, le_antisymm (hbound cell) hcell⟩, ?_⟩
    rintro _ ⟨other, rfl⟩
    exact hbound other
  case fewest =>
    intro rows hrows hdisjoint
    obtain ⟨cell, hcell⟩ := hdepth
    exact hcell.trans (hfewest rows hrows hdisjoint cell)
  case first =>
    rw [packMarks, head?_foldl_placeMark (by simp), head?_sortBy Mark.precedes_total Mark.precedes_trans]
    rfl
  case permuted =>
    intro hkeys marks' hperm
    rw [packMarks, packMarks, sortBy_eq_of_perm Mark.precedes_total Mark.precedes_trans
      (fun a b => Mark.key_eq_of_precedes) hkeys hperm]

theorem packMarks_minimal_negative :
    let marks : List (Mark Int) :=
      [⟨2, 5, .primary, none, 0⟩, ⟨-3, 3, .secondary, some "a", 1⟩, ⟨-3, -2, .primary, none, 2⟩]
    (∀ m ∈ marks, m.start < m.stop) ∧ (packMarks marks).flatten.Perm marks ∧
      IsGreatest (Set.range fun cell => marks.countP (·.covers cell)) 2 ∧
      (packMarks marks).head?.bind List.head? = marks[1]? ∧
      ∀ marks' : List (Mark Int), marks'.Perm marks → packMarks marks' = packMarks marks := by
  intro marks
  have hproper : ∀ m ∈ marks, m.start < m.stop := by decide
  have hlength : (packMarks marks).length = 2 := by decide
  obtain ⟨hperm, -, hgreatest, -, hfirst, hsame⟩ := packMarks_minimal marks hproper
  rw [hlength] at hgreatest
  exact ⟨hproper, hperm, hgreatest, hfirst.trans (by decide), hsame (by decide)⟩

end Diagnostics
