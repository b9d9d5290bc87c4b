import Diagnostics.Proofs.Drawing.Mark

namespace Diagnostics

structure Stroke where
  cell : Nat
  text : List Char
  kind : Weight
  deriving DecidableEq

namespace Stroke

def stop (s : Stroke) : Nat := s.cell + s.text.length

def onto (canvas : Canvas) (s : Stroke) : Canvas := canvas.put s.cell s.text (some s.kind)

def caret (g : Glyphs) (m : Mark) : Stroke := ⟨m.start, List.replicate (m.stop - m.start) (g.caret m.kind), m.kind⟩

def connector (g : Glyphs) (m : Mark) : Stroke := ⟨m.start, [g.connector], m.kind⟩

def below (m : Mark) : Stroke := ⟨m.start, m.labelText, m.kind⟩

def behind (m : Mark) : Stroke := ⟨m.stop + 1, m.labelText, m.kind⟩

end Stroke

def Row.cellAt (r : Row) (j : Nat) : Cell := r.cells.getD j Cell.blank

structure Row.Shows (r : Row) (strokes : List Stroke) : Prop where
  apart : strokes.Pairwise fun a b => a.stop ≤ b.cell
  drawn : ∀ s ∈ strokes, ∀ k c, s.text[k]? = some c → r.cellAt (s.cell + k) = (c, some s.kind)
  blank : ∀ j, (∀ s ∈ strokes, j < s.cell ∨ s.stop ≤ j) → r.cellAt j = Cell.blank

namespace Canvas

variable (canvas : Canvas) {cell j : Nat} {text : List Char} (kind : Option Weight)

theorem getD_foldl_onto_of_out {strokes : List Stroke} (h : ∀ s ∈ strokes, j < s.cell ∨ s.stop ≤ j) :
    (strokes.foldl Stroke.onto canvas).getD j Cell.blank = canvas.getD j Cell.blank := by
  induction strokes generalizing canvas with
  | nil => rfl
  | cons s rest ih =>
    obtain ⟨hs, hrest⟩ := List.forall_mem_cons.1 h
    rw [List.foldl_cons, ih _ hrest, Stroke.onto, getD_put_of_out canvas _ hs]

theorem getD_foldl_onto_of_mem {strokes : List Stroke} {s : Stroke} {k : Nat} {c : Char}
    (h : strokes.Pairwise fun a b => a.stop ≤ b.cell) (hs : s ∈ strokes) (hc : s.text[k]? = some c) :
    (strokes.foldl Stroke.onto canvas).getD (s.cell + k) Cell.blank = (c, some s.kind) := by
  induction strokes generalizing canvas with
  | nil => cases hs
  | cons t rest ih =>
    obtain ⟨ht, hrest⟩ := List.pairwise_cons.1 h
    rw [List.foldl_cons]
    rcases List.mem_cons.1 hs with rfl | hs
    · -- What is drawn later stands behind this stroke.
      obtain ⟨hk, -⟩ := List.getElem?_eq_some_iff.1 hc
      have hout : ∀ u ∈ rest, s.cell + k < u.cell ∨ u.stop ≤ s.cell + k := fun u hu =>
        .inl ((Nat.add_lt_add_left hk s.cell).trans_le (ht u hu))
      rw [getD_foldl_onto_of_out _ hout, Stroke.onto, getD_put_of_lt _ _ hc]
    · exact ih _ hrest hs

theorem shows_foldl_onto {strokes : List Stroke} (h : strokes.Pairwise fun a b => a.stop ≤ b.cell) :
    (Canvas.row (strokes.foldl Stroke.onto [])).Shows strokes := by
  have hcellAt (j : Nat) : (Canvas.row (strokes.foldl Stroke.onto [])).cellAt j =
      (strokes.foldl Stroke.onto []).getD j Cell.blank := by
    rw [Row.cellAt, row, Row.cells_ofCells]
  refine ⟨h, fun s hs k c hc => ?_, fun j hj => ?_⟩
  · rw [hcellAt, getD_foldl_onto_of_mem [] h hs hc]
  · rw [hcellAt, getD_foldl_onto_of_out [] hj]
    rfl

end Canvas

namespace MarkRow

open Stroke

variable (g : Glyphs) {row ms : List Mark}

def Apart (row : List Mark) : Prop := (∀ m ∈ row, m.start < m.stop) ∧ row.Pairwise fun a b => a.stop ≤ b.start

theorem apart_of_sublist (h : Apart row) (hms : ms.Sublist row) : Apart ms :=
  ⟨fun m hm => h.1 m (hms.subset hm), h.2.sublist hms⟩

theorem apart_of_mem_packMarks {marks : List Mark} (h : ∀ m ∈ marks, m.start < m.stop)
    (hrow : row ∈ packMarks marks) : Apart row := by
  refine ⟨fun m hm => h m ?_, (tight_packMarks h).spaced row hrow⟩
  exact (packMarks_perm marks).subset (List.mem_flatten.2 ⟨row, hrow, hm⟩)

theorem stop_caret {m : Mark} (h : m.start < m.stop) : (caret g m).stop = m.stop := by
  rw [Stroke.stop, caret, List.length_replicate, Nat.add_sub_cancel' (Nat.le_of_lt h)]

theorem pairwise_caret (h : Apart row) : (row.map (caret g)).Pairwise fun a b => a.stop ≤ b.cell := by
  rw [List.pairwise_map]
  refine h.2.imp_of_mem fun {a b} ha _ hab => ?_
  rw [stop_caret g (h.1 a ha)]
  exact hab

theorem pairwise_connector (h : Apart ms) : (ms.map (connector g)).Pairwise fun a b => a.stop ≤ b.cell := by
  rw [List.pairwise_map]
  exact h.2.imp_of_mem fun {a b} ha _ hab => (Nat.succ_le_of_lt (h.1 a ha)).trans hab

theorem pairwise_concat {strokes : List Stroke} {s : Stroke} (h : strokes.Pairwise fun a b => a.stop ≤ b.cell)
    (hs : ∀ t ∈ strokes, t.stop ≤ s.cell) : (strokes ++ [s]).Pairwise fun a b => a.stop ≤ b.cell := by
  refine List.pairwise_append.2 ⟨h, List.pairwise_singleton _ s, fun t ht u hu => ?_⟩
  rw [List.mem_singleton.1 hu]
  exact hs t ht

def marking (row : List Mark) (last : Mark) : List Stroke :=
  row.map (caret g) ++ if last.hasLabel then [behind last] else []

/-- The strokes of the row with the label of one hanging mark; those of the marks in `joined` are further down. -/
def labelling (joined : List Mark) (m : Mark) : List Stroke := joined.map (connector g) ++ [below m]

theorem connectors_eq_foldl : connectors g ms = (ms.map (connector g)).foldl onto [] := by
  rw [connectors, List.foldl_map]
  rfl

theorem markers_eq_foldl {last : Mark} (h : Apart row) (hlast : row.getLast? = some last) :
    markers g row = (marking g row last).foldl onto [] := by
  have hfill : row.foldl (fun c m => Canvas.fill c m.start m.stop (g.caret m.kind) (some m.kind)) [] =
      (row.map (caret g)).foldl onto [] := by
    rw [List.foldl_map]
    refine List.foldl_ext _ _ _ fun canvas m hm => ?_
    rw [Canvas.fill, if_pos (h.1 m hm)]
    rfl
  rw [markers, hfill, hlast, marking, List.foldl_append]
  simp only
  split <;> rfl

theorem stop_le_last {last : Mark} (h : Apart row) (hlast : row.getLast? = some last) :
    ∀ m ∈ row, m.stop ≤ last.stop := by
  obtain ⟨front, rfl⟩ := List.getLast?_eq_some_iff.1 hlast
  intro m hm
  rcases List.mem_append.1 hm with hm | hm
  · have hbefore := (List.pairwise_append.1 h.2).2.2 m hm last (List.mem_singleton_self last)
    have hproper := h.1 last (List.mem_append_right _ (List.mem_singleton_self last))
    omega
  · rw [List.mem_singleton.1 hm]

theorem shows_markers {last : Mark} (h : Apart row) (hlast : row.getLast? = some last) :
    (Canvas.row (markers g row)).Shows (marking g row last) := by
  rw [markers_eq_foldl g h hlast]
  apply Canvas.shows_foldl_onto
  rw [marking]
  split
  · refine pairwise_concat (pairwise_caret g h) fun t ht => ?_
    obtain ⟨m, hm, rfl⟩ := List.mem_map.1 ht
    rw [stop_caret g (h.1 m hm)]
    exact (stop_le_last h hlast m hm).trans (Nat.le_succ _)
  · rw [List.append_nil]
    exact pairwise_caret g h

theorem shows_connectors (h : Apart ms) : (Canvas.row (connectors g ms)).Shows (ms.map (connector g)) := by
  rw [connectors_eq_foldl]
  exact Canvas.shows_foldl_onto (pairwise_connector g h)

theorem label_eq_foldl (i : Nat) (m : Mark) :
    (connectors g (ms.take i)).put m.start m.labelText (some m.kind) =
      (labelling g (ms.take i) m).foldl onto [] := by
  rw [labelling, List.foldl_append, ← connectors_eq_foldl]
  rfl

theorem shows_label {i : Nat} {m : Mark} (h : Apart ms) (hi : ms[i]? = some m) :
    (Canvas.row ((connectors g (ms.take i)).put m.start m.labelText (some m.kind))).Shows
      (labelling g (ms.take i) m) := by
  rw [label_eq_foldl]
  apply Canvas.shows_foldl_onto
  refine pairwise_concat (pairwise_connector g (apart_of_sublist h (List.take_sublist i ms))) fun t ht => ?_
  obtain ⟨n, hn, rfl⟩ := List.mem_map.1 ht
  have hsplit : ms = ms.take i ++ m :: ms.drop (i + 1) := by
    obtain ⟨hlt, rfl⟩ := List.getElem?_eq_some_iff.1 hi
    rw [← List.drop_eq_getElem_cons, List.take_append_drop]
  have hbefore : n.stop ≤ m.start := by
    rw [hsplit] at h
    exact (List.pairwise_append.1 h.2).2.2 n hn m (List.mem_cons_self ..)
  exact (Nat.succ_le_of_lt (h.1 n (List.mem_of_mem_take hn))).trans hbefore

theorem getElem?_labels {i : Nat} {m : Mark} (hi : ms[i]? = some m) :
    (labels g ms)[ms.length - 1 - i]? =
      some ((connectors g (ms.take i)).put m.start m.labelText (some m.kind)) := by
  obtain ⟨hlt, -⟩ := List.getElem?_eq_some_iff.1 hi
  rw [labels, List.getElem?_reverse (by simp; omega), List.length_map, List.length_zipIdx,
    show ms.length - 1 - (ms.length - 1 - i) = i by omega, List.getElem?_map, List.getElem?_zipIdx, hi]
  simp

theorem hanging_sublist (row : List Mark) : (hanging row).Sublist row :=
  (List.filter_sublist).trans (List.dropLast_sublist row)

theorem length_draw (row : List Mark) :
    (draw g row).length = if hanging row = [] then 1 else (hanging row).length + 2 := by
  rw [draw, List.length_map, canvases]
  by_cases hnil : hanging row = []
  · rw [if_pos hnil, if_pos (List.isEmpty_iff.2 hnil)]
    rfl
  · rw [if_neg hnil, if_neg (by rwa [List.isEmpty_iff])]
    simp [labels]

theorem getElem?_draw_zero (row : List Mark) : (draw g row)[0]? = some (Canvas.row (markers g row)) := by
  rw [draw, canvases]
  split <;> rfl

theorem draw_of_hanging (h : hanging row ≠ []) :
    draw g row = Canvas.row (markers g row) :: Canvas.row (connectors g (hanging row)) ::
      (labels g (hanging row)).map Canvas.row := by
  rw [draw, canvases, if_neg (by rwa [List.isEmpty_iff])]
  rfl

theorem exists_labelling {i : Nat} {m : Mark} (h : Apart row) (hi : (hanging row)[i]? = some m) :
    ∃ r, (draw g row)[(hanging row).length + 1 - i]? = some r ∧ r.Shows (labelling g ((hanging row).take i) m) := by
  obtain ⟨hlt, -⟩ := List.getElem?_eq_some_iff.1 hi
  have hindex : (hanging row).length + 1 - i = (hanging row).length - 1 - i + 2 := by omega
  refine ⟨_, ?_, shows_label g (apart_of_sublist h (hanging_sublist row)) hi⟩
  rw [draw_of_hanging g (List.ne_nil_of_length_pos (by omega)), hindex, List.getElem?_cons_succ,
    List.getElem?_cons_succ, List.getElem?_map, getElem?_labels g hi]
  rfl

theorem cellAt_connector {r : Row} {strokes : List Stroke} {m : Mark} (h : r.Shows strokes)
    (hm : connector g m ∈ strokes) : r.cellAt m.start = (g.connector, some m.kind) :=
  h.drawn (connector g m) hm 0 g.connector rfl

theorem exists_connected {i t : Nat} {m : Mark} (h : Apart row) (hi : (hanging row)[i]? = some m) (ht : 1 ≤ t)
    (hle : t ≤ (hanging row).length - i) :
    ∃ r, (draw g row)[t]? = some r ∧ r.cellAt m.start = (g.connector, some m.kind) := by
  obtain ⟨hlt, hget⟩ := List.getElem?_eq_some_iff.1 hi
  rcases Nat.eq_or_lt_of_le ht with rfl | ht
  · refine ⟨Canvas.row (connectors g (hanging row)), ?_, ?_⟩
    · rw [draw_of_hanging g (List.ne_nil_of_length_pos (by omega))]
      rfl
    · exact cellAt_connector g (shows_connectors g (apart_of_sublist h (hanging_sublist row)))
        (List.mem_map_of_mem (List.mem_of_getElem? hi))
  · -- A row with the label of a later mark; this mark's connector is to the left of it.
    obtain ⟨k, hk⟩ : ∃ k, t = (hanging row).length + 1 - k ∧ i < k ∧ k < (hanging row).length :=
      ⟨(hanging row).length + 1 - t, by omega, by omega, by omega⟩
    obtain ⟨rfl, hik, hk⟩ := hk
    obtain ⟨r, hr, hshows⟩ := exists_labelling g h (List.getElem?_eq_getElem hk)
    refine ⟨r, hr, cellAt_connector g hshows (List.mem_append_left _ (List.mem_map_of_mem ?_))⟩
    rw [List.mem_take_iff_getElem]
    exact ⟨i, by omega, hget⟩

theorem filter_hasLabel {last : Mark} (hlast : row.getLast? = some last) :
    row.filter (·.hasLabel) = hanging row ++ if last.hasLabel then [last] else [] := by
  obtain ⟨front, rfl⟩ := List.getLast?_eq_some_iff.1 hlast
  rw [hanging, List.dropLast_concat, List.filter_append, List.filter_singleton]
  cases last.hasLabel <;> rfl

theorem draw_shows {marks : List Mark} (h : ∀ m ∈ marks, m.start < m.stop) (hrow : row ∈ packMarks marks) :
    (draw g row).length = (if hanging row = [] then 1 else (hanging row).length + 2) ∧
    (∃ last, row.getLast? = some last ∧
      row.filter (·.hasLabel) = hanging row ++ (if last.hasLabel then [last] else []) ∧
      ∃ first, (draw g row)[0]? = some first ∧ first.Shows (marking g row last)) ∧
    (hanging row ≠ [] →
      ∃ second, (draw g row)[1]? = some second ∧ second.Shows ((hanging row).map (connector g))) ∧
    ∀ i m, (hanging row)[i]? = some m →
      (∃ r, (draw g row)[(hanging row).length + 1 - i]? = some r ∧
        r.Shows (labelling g ((hanging row).take i) m)) ∧
      ∀ t, 1 ≤ t → t ≤ (hanging row).length - i →
        ∃ r, (draw g row)[t]? = some r ∧ r.cellAt m.start = (g.connector, some m.kind) := by
  have hapart := apart_of_mem_packMarks h hrow
  refine ⟨length_draw g row, ?first, fun hne => ?second, fun i m hi => ?labels⟩
  case first =>
    have hne := (tight_packMarks h).nonempty row hrow
    have hlast := List.getLast?_eq_some_getLast hne
    exact ⟨_, hlast, filter_hasLabel hlast, _, getElem?_draw_zero g row, shows_markers g hapart hlast⟩
  case second =>
    refine ⟨_, ?_, shows_connectors g (apart_of_sublist hapart (hanging_sublist row))⟩
    rw [draw_of_hanging g hne]
    rfl
  case labels =>
    exact ⟨exists_labelling g hapart hi, fun t => exists_connected g hapart hi⟩

theorem draw_shows_adjacent :
    let marks : List Mark :=
      [.new 6 6 .primary (some "here") 0, .new 0 2 .secondary (some "defined first") 1, .new 2 3 .primary none 2,
        .new 3 5 .secondary (some "b") 3]
    let row : List Mark :=
      [.new 0 2 .secondary (some "defined first") 1, .new 2 3 .primary none 2, .new 3 5 .secondary (some "b") 3,
        .new 6 6 .primary (some "here") 0]
    (∀ m ∈ marks, m.start < m.stop) ∧ row ∈ packMarks marks ∧ (draw .ascii row).length = 4 ∧
      ∃ r, (draw .ascii row)[3]? = some r ∧ r.Shows [⟨0, "defined first".toList, .secondary⟩] := by
  intro marks row
  have hproper : ∀ m ∈ marks, m.start < m.stop := by decide
  have hrow : row ∈ packMarks marks := by decide
  obtain ⟨hlength, -, -, hlabels⟩ := draw_shows .ascii hproper hrow
  exact ⟨hproper, hrow, hlength, (hlabels 0 _ rfl).1⟩

end MarkRow

end Diagnostics
