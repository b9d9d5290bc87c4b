import Diagnostics.Drawing.Rows
import Diagnostics.Proofs.Drawing.Piece
import Mathlib.Data.List.Chain

namespace Diagnostics

theorem rdropWhile_append {α : Type} (p : α → Bool) (a b : List α) :
    (a ++ b).rdropWhile p = if b.rdropWhile p = [] then a.rdropWhile p else a ++ b.rdropWhile p := by
  simp only [List.rdropWhile, List.reverse_append, List.dropWhile_append, List.isEmpty_iff, List.reverse_eq_nil_iff]
  split
  · rfl
  · rw [List.reverse_append, List.reverse_reverse]

namespace Row

structure Normal (r : Row) : Prop where
  filled : ∀ p ∈ r, p.text ≠ []
  apart : (r.map (·.kind)).IsChain (· ≠ ·)

theorem normal_nil : Normal [] := ⟨nofun, .nil⟩

theorem normal_concat {r : Row} {p : Piece} :
    Normal (r ++ [p]) ↔ Normal r ∧ p.text ≠ [] ∧ ∀ q ∈ r.getLast?, q.kind ≠ p.kind := by
  have hapart : ((r ++ [p]).map (·.kind)).IsChain (· ≠ ·) ↔
      (r.map (·.kind)).IsChain (· ≠ ·) ∧ ∀ q ∈ r.getLast?, q.kind ≠ p.kind := by
    simp [List.isChain_append]
  constructor
  · rintro ⟨hfilled, hkinds⟩
    obtain ⟨hr, hp⟩ := List.forall_mem_append.1 hfilled
    obtain ⟨hrkinds, hlast⟩ := hapart.1 hkinds
    exact ⟨⟨hr, hrkinds⟩, hp p (List.mem_singleton_self p), hlast⟩
  · rintro ⟨⟨hr, hrkinds⟩, hp, hlast⟩
    exact ⟨List.forall_mem_append.2 ⟨hr, List.forall_mem_singleton.2 hp⟩, hapart.2 ⟨hrkinds, hlast⟩⟩

theorem normal_extend {r : Row} (h : Normal r) (p : Piece) : Normal (extend r p) := by
  by_cases htext : p.text = []
  · rwa [extend_of_empty r htext]
  · induction r using List.reverseRecOn with
    | nil =>
      rw [extend_nil htext]
      exact normal_concat.2 ⟨normal_nil, htext, nofun⟩
    | append_singleton front q _ =>
      rw [extend_concat front q htext]
      split
      · rename_i hkind
        obtain ⟨hfront, -, hlast⟩ := normal_concat.1 h
        exact normal_concat.2 ⟨hfront, List.append_ne_nil_of_right_ne_nil _ htext, hkind ▸ hlast⟩
      · rename_i hkind
        refine normal_concat.2 ⟨h, htext, ?_⟩
        rw [List.getLast?_concat]
        rintro _ ⟨⟩
        exact hkind

theorem merge_concat (r : Row) (p : Piece) : merge (r ++ [p]) = extend (merge r) p := List.foldl_concat ..

theorem normal_merge (r : Row) : Normal (merge r) := by
  induction r using List.reverseRecOn with
  | nil => exact normal_nil
  | append_singleton r p ih => exact merge_concat r p ▸ normal_extend ih p

theorem extend_append (r : Row) (a b : List Char) (kind : Option Weight) :
    extend r ⟨a ++ b, kind⟩ = extend (extend r ⟨a, kind⟩) ⟨b, kind⟩ := by
  by_cases ha : a = []
  · rw [ha, extend_of_empty r (p := ⟨[], kind⟩) rfl, List.nil_append]
  by_cases hb : b = []
  · rw [hb, extend_of_empty (extend r _) rfl, List.append_nil]
  have hab : a ++ b ≠ [] := List.append_ne_nil_of_left_ne_nil ha b
  rcases List.eq_nil_or_concat r with rfl | ⟨front, q, rfl⟩
  · have hlast := extend_concat [] ⟨a, kind⟩ (p := ⟨b, kind⟩) hb
    rw [extend_nil hab, extend_nil ha]
    exact (hlast.trans (if_pos rfl)).symm
  · rw [List.concat_eq_append, extend_concat front q hab, extend_concat front q ha]
    split
    · rw [extend_concat front _ hb, if_pos rfl, List.append_assoc]
    · rw [extend_concat (front ++ [q]) _ hb, if_pos rfl]

theorem extend_eq_foldl (r : Row) (p : Piece) : extend r p = (p.cells.map fun c => ⟨[c.1], c.2⟩).foldl extend r := by
  obtain ⟨text, kind⟩ := p
  induction text generalizing r with
  | nil => rfl
  | cons c text ih => exact (extend_append r [c] text kind).trans (ih _)

theorem merge_eq (r : Row) : merge r = ofCells r.cells := by
  induction r using List.reverseRecOn with
  | nil => rfl
  | append_singleton r p ih =>
    rw [merge_concat, ih, extend_eq_foldl, ofCells, ofCells, merge, merge, ← List.foldl_append, ← List.map_append,
      cells_append, cells_singleton]

theorem merge_eq_iff {r s : Row} : merge r = merge s ↔ r.cells = s.cells := by
  constructor
  · intro h
    rw [← cells_merge r, h, cells_merge]
  · intro h
    rw [merge_eq, merge_eq, h]

theorem merge_of_normal {r : Row} (h : Normal r) : merge r = r := by
  induction r using List.reverseRecOn with
  | nil => rfl
  | append_singleton r p ih =>
    obtain ⟨hr, hp, hlast⟩ := normal_concat.1 h
    rw [merge_concat, ih hr]
    rcases List.eq_nil_or_concat r with rfl | ⟨front, q, rfl⟩
    · exact extend_nil hp
    · rw [List.concat_eq_append] at hlast ⊢
      rw [extend_concat front q hp, if_neg (hlast q List.getLast?_concat)]

theorem eq_of_normal {r s : Row} (hr : Normal r) (hs : Normal s) (h : r.cells = s.cells) : r = s := by
  rw [← merge_of_normal hr, ← merge_of_normal hs]
  exact merge_eq_iff.2 h

theorem trim_singleton_cases (p : Piece) :
    trim [p] = [] ∨ ∃ text, trim [p] = [⟨text, p.kind⟩] ∧ (p.text ≠ [] → text ≠ []) := by
  obtain ⟨text, kind⟩ := p
  cases kind with
  | some k => exact .inr ⟨text, rfl, id⟩
  | none =>
    simp only [trim]
    split
    · exact .inl rfl
    · rename_i htext
      exact .inr ⟨_, rfl, fun _ => htext⟩

theorem kinds_trim (r : Row) : (trim r).map (·.kind) <+: r.map (·.kind) := by
  induction r using List.reverseRecOn with
  | nil => exact List.prefix_rfl
  | append_singleton r p ih =>
    rw [trim_concat, List.map_append]
    rcases trim_singleton_cases p with hp | ⟨text, hp, -⟩ <;> rw [hp]
    · exact ih.trans (List.prefix_append ..)
    · rw [if_neg (List.cons_ne_nil _ _), List.map_append]
      exact List.prefix_rfl

theorem filled_trim {r : Row} (h : ∀ p ∈ r, p.text ≠ []) : ∀ p ∈ trim r, p.text ≠ [] := by
  induction r using List.reverseRecOn with
  | nil => exact h
  | append_singleton r p ih =>
    obtain ⟨hr, hp⟩ := List.forall_mem_append.1 h
    rw [trim_concat]
    rcases trim_singleton_cases p with hq | ⟨text, hq, htext⟩ <;> rw [hq]
    · exact ih hr
    · exact List.forall_mem_append.2 ⟨hr, List.forall_mem_singleton.2 (htext (hp p (List.mem_singleton_self p)))⟩

theorem normal_trim {r : Row} (h : Normal r) : Normal (trim r) :=
  ⟨filled_trim h.filled, h.apart.prefix (kinds_trim r)⟩

theorem cells_trim_eq {r : Row} (h : ∀ p ∈ r, p.text ≠ []) :
    (trim r).cells = r.cells.rdropWhile (· = Cell.blank) := by
  induction r using List.reverseRecOn with
  | nil => rfl
  | append_singleton r p ih =>
    obtain ⟨hr, hp⟩ := List.forall_mem_append.1 h
    rw [trim_concat, cells_append, cells_singleton, rdropWhile_append, ← cells_trim_singleton, ← ih hr]
    rcases trim_singleton_cases p with hq | ⟨text, hq, htext⟩ <;> rw [hq]
    · rfl
    · have hne : cells [⟨text, p.kind⟩] ≠ [] := by
        simpa [cells_singleton, Piece.cells] using htext (hp p (List.mem_singleton_self p))
      rw [if_neg (List.cons_ne_nil _ _), if_neg hne, cells_append]

theorem getLast?_cells_trim {r : Row} (h : Normal r) : (trim r).cells.getLast? ≠ some Cell.blank := by
  rw [cells_trim_eq h.filled]
  intro hlast
  have hne : r.cells.rdropWhile (· = Cell.blank) ≠ [] := by
    rintro hnil
    rw [hnil] at hlast
    cases hlast
  rw [List.getLast?_eq_some_getLast hne] at hlast
  exact List.rdropWhile_last_not _ _ hne (decide_eq_true (Option.some.inj hlast))

theorem trim_trim {r : Row} (h : Normal r) : (trim r).trim = trim r := by
  have htrim := normal_trim h
  apply eq_of_normal (normal_trim htrim) htrim
  rw [cells_trim_eq htrim.filled, cells_trim_eq h.filled, List.rdropWhile_idempotent]

end Row

namespace Rows

theorem trimmed_of_mem_below {g : Glyphs} {rails : List Rail} {line : Nat} {ms : List Mark} {row : Row}
    (h : row ∈ below g rails line ms) : ∃ cs, row = (Row.ofCells cs).trim := by
  simp only [below, marks, openings, closings, List.mem_append, List.mem_map] at h
  obtain (⟨canvas, -, rfl⟩ | ⟨⟨r, i⟩, -, rfl⟩) | ⟨⟨r, i⟩, -, rfl⟩ := h
  all_goals exact ⟨_, rfl⟩

theorem normal_form :
    (∀ r : Row, r.merge.cells = r.cells ∧ r.merge.Normal ∧ r.merge.merge = r.merge ∧
      ∀ s : Row, r.merge = s.merge ↔ r.cells = s.cells) ∧
    (∀ r : Row, r.merge.trim.cells = r.merge.cells.rdropWhile (· = Cell.blank) ∧ r.merge.trim.Normal ∧
      r.merge.trim.trim = r.merge.trim) ∧
    ∀ (g : Glyphs) (rails : List Rail) (line : Nat) (ms : List Mark), ∀ row ∈ below g rails line ms,
      row.Normal ∧ row.cells.getLast? ≠ some Cell.blank := by
  refine ⟨fun r => ?merged, fun r => ?trimmed, fun g rails line ms row hrow => ?drawn⟩
  case merged =>
    exact ⟨Row.cells_merge r, Row.normal_merge r, Row.merge_of_normal (Row.normal_merge r), fun s => Row.merge_eq_iff⟩
  case trimmed =>
    have hnormal := Row.normal_merge r
    exact ⟨Row.cells_trim_eq hnormal.filled, Row.normal_trim hnormal, Row.trim_trim hnormal⟩
  case drawn =>
    obtain ⟨cs, rfl⟩ := trimmed_of_mem_below hrow
    have hnormal : (Row.ofCells cs).Normal := Row.normal_merge _
    exact ⟨Row.normal_trim hnormal, Row.getLast?_cells_trim hnormal⟩

theorem normal_form_hanging :
    let row : Row := [⟨[' ', ' '], none⟩, ⟨['|'], some .secondary⟩]
    row ∈ below .ascii [] 3 [.new 0 1 .primary none 0, .new 2 4 .secondary (some "here") 1, .new 5 5 .primary none 2] ∧
      row.Normal ∧ row.cells.getLast? ≠ some Cell.blank := by
  intro row
  have hrow : row ∈ below .ascii [] 3
      [.new 0 1 .primary none 0, .new 2 4 .secondary (some "here") 1, .new 5 5 .primary none 2] := by decide
  exact ⟨hrow, normal_form.2.2 .ascii [] 3 _ row hrow⟩

end Rows

end Diagnostics
