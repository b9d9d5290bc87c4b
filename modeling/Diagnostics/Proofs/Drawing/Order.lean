import Diagnostics.Proofs.Drawing.Packing
import Diagnostics.Proofs.Drawing.Rail

namespace Diagnostics

namespace Mark

def unordered (m : Mark) : Mark := { m with order := 0 }

theorem pairwise_unordered {marks : List Mark} (h : (marks.map (·.start)).Nodup) :
    ((sortBy precedes marks).map unordered).Pairwise fun a b => a.start < b.start := by
  refine pairwise_map_sortBy precedes_total precedes_trans (fun a b hab hne => ?_) h
  simp [precedes] at hab
  simp only [unordered]
  omega

end Mark

theorem map_placeMark (m : Mark) (rows : List (List Mark)) :
    (placeMark m rows).map (List.map Mark.unordered) =
      placeMark m.unordered (rows.map (List.map Mark.unordered)) := by
  induction rows with
  | nil => rfl
  | cons row rest ih =>
    have hfits : fits m.unordered (row.map Mark.unordered) = fits m row := by
      rw [fits, fits, List.getLast?_map]
      cases row.getLast? <;> rfl
    rw [List.map_cons, placeMark, placeMark, hfits]
    split
    · rw [List.map_cons, List.map_append]
      rfl
    · rw [List.map_cons, ih]

theorem map_foldl_placeMark (marks : List Mark) (rows : List (List Mark)) :
    (marks.foldl (fun rows m => placeMark m rows) rows).map (List.map Mark.unordered) =
      (marks.map Mark.unordered).foldl (fun rows m => placeMark m rows) (rows.map (List.map Mark.unordered)) := by
  induction marks generalizing rows with
  | nil => rfl
  | cons m marks ih => rw [List.foldl_cons, ih, map_placeMark, List.map_cons, List.foldl_cons]

theorem map_packMarks {marks marks' : List Mark} (hperm : (marks'.map Mark.unordered).Perm (marks.map Mark.unordered))
    (h : (marks.map (·.start)).Nodup) :
    (packMarks marks').map (List.map Mark.unordered) = (packMarks marks).map (List.map Mark.unordered) := by
  have hstarts := hperm.map (·.start)
  rw [List.map_map, List.map_map] at hstarts
  have hsorted : (sortBy Mark.precedes marks').map Mark.unordered = (sortBy Mark.precedes marks).map Mark.unordered :=
    map_sortBy_eq (fun a b => Nat.lt_asymm) hperm (Mark.pairwise_unordered h)
      (Mark.pairwise_unordered (hstarts.nodup_iff.2 h))
  rw [packMarks, packMarks, map_foldl_placeMark, map_foldl_placeMark, hsorted]

namespace MarkRow

variable (g : Glyphs)

theorem hanging_unordered (row : List Mark) : hanging (row.map Mark.unordered) = (hanging row).map Mark.unordered := by
  rw [hanging, hanging, ← List.map_dropLast, List.filter_map]
  rfl

theorem markers_unordered (row : List Mark) : markers g (row.map Mark.unordered) = markers g row := by
  rw [markers, markers, List.foldl_map, List.getLast?_map]
  cases row.getLast? <;> rfl

theorem connectors_unordered (marks : List Mark) : connectors g (marks.map Mark.unordered) = connectors g marks := by
  rw [connectors, connectors, List.foldl_map]
  rfl

theorem labels_unordered (marks : List Mark) : labels g (marks.map Mark.unordered) = labels g marks := by
  rw [labels, labels, List.zipIdx_map, List.map_map]
  congr 2
  funext ⟨m, i⟩
  simp only [Function.comp_apply, Prod.map, id_eq, ← List.map_take, connectors_unordered]
  rfl

theorem canvases_unordered (row : List Mark) : canvases g (row.map Mark.unordered) = canvases g row := by
  rw [canvases, canvases, hanging_unordered, markers_unordered, connectors_unordered, labels_unordered,
    List.isEmpty_map]

end MarkRow

namespace Rail

def unordered (r : Rail) : Rail := { r with order := 0 }

def site (r : Rail) : Nat × Nat := (r.startLine, r.startCell)

def startsBefore (a b : Rail) : Prop :=
  a.startLine < b.startLine ∨ a.startLine = b.startLine ∧ a.startCell < b.startCell

theorem startsBefore_asymm (a b : Rail) (h : a.startsBefore b) : ¬ b.startsBefore a := by
  simp only [startsBefore] at *
  omega

theorem pairwise_unordered {rails : List Rail} (h : (rails.map site).Nodup) :
    ((sortBy precedes rails).map unordered).Pairwise startsBefore := by
  refine pairwise_map_sortBy precedes_total precedes_trans (fun a b hab hne => ?_) h
  simp [precedes] at hab
  simp only [site, ne_eq, Prod.mk.injEq] at hne
  simp only [startsBefore, unordered]
  omega

end Rail

theorem map_arrangeRails {rails rails' : List Rail}
    (hperm : (rails'.map Rail.unordered).Perm (rails.map Rail.unordered)) (h : (rails.map Rail.site).Nodup) :
    (arrangeRails rails').map Rail.unordered = (arrangeRails rails).map Rail.unordered := by
  have hsites := hperm.map Rail.site
  rw [List.map_map, List.map_map] at hsites
  exact map_sortBy_eq Rail.startsBefore_asymm hperm (Rail.pairwise_unordered h)
    (Rail.pairwise_unordered (hsites.nodup_iff.2 h))

namespace Rails

variable (g : Glyphs) (rails : List Rail)

theorem width_unordered : width (rails.map Rail.unordered) = width rails := by
  rw [width, width, List.isEmpty_map, List.length_map]

theorem pass_unordered {draw : Nat → Rail → Option (Char × Weight)} (h : ∀ i r, draw i (Rail.unordered r) = draw i r) :
    pass draw (rails.map Rail.unordered) = pass draw rails := by
  simp only [pass, List.zipIdx_map, List.foldl_map, Prod.map, id_eq, h]

theorem beside_unordered (line : Nat) : beside g (rails.map Rail.unordered) line = beside g rails line := by
  rw [beside, beside, width_unordered, pass_unordered]
  exact fun _ _ => rfl

theorem opening_unordered (i : Nat) (r : Rail) :
    opening g (rails.map Rail.unordered) i r.unordered = opening g rails i r := by
  rw [opening, opening, width_unordered, ← List.map_take, pass_unordered]
  · rfl
  · exact fun _ _ => rfl

theorem closing_unordered (i : Nat) (r : Rail) :
    closing g (rails.map Rail.unordered) i r.unordered = closing g rails i r := by
  rw [closing, closing, closingRun, closingRun, width_unordered, pass_unordered, List.length_map]
  · rfl
  · exact fun _ _ => rfl

end Rails

namespace Rows

variable (g : Glyphs) (rails : List Rail) (line : Nat)

theorem marks_eq {rails rails' : List Rail} {ms ms' : List Mark}
    (hrails : rails'.map Rail.unordered = rails.map Rail.unordered)
    (hmarks : (ms'.map Mark.unordered).Perm (ms.map Mark.unordered)) (hstarts : (ms.map (·.start)).Nodup) :
    marks g rails' line ms' = marks g rails line ms := by
  have hcanvases (rows : List (List Mark)) : rows.flatMap (MarkRow.canvases g) =
      (rows.map (List.map Mark.unordered)).flatMap (MarkRow.canvases g) := by
    simp only [List.flatMap_map, MarkRow.canvases_unordered]
  have hpacked := map_packMarks hmarks hstarts
  rw [marks, marks, hcanvases, hpacked, ← hcanvases, ← Rails.beside_unordered g rails', hrails,
    Rails.beside_unordered]

theorem openings_unordered : openings g (rails.map Rail.unordered) line = openings g rails line := by
  rw [openings, openings, List.zipIdx_map, List.filter_map, List.map_map]
  congr 1
  funext ⟨r, i⟩
  exact congrArg (fun cells => (Row.ofCells cells).trim) (Rails.opening_unordered g rails i r)

theorem closings_unordered : closings g (rails.map Rail.unordered) line = closings g rails line := by
  rw [closings, closings, List.zipIdx_map, List.filter_map, ← List.map_reverse, List.map_map]
  congr 1
  funext ⟨r, i⟩
  exact congrArg (fun cells => (Row.ofCells cells).trim) (Rails.closing_unordered g rails i r)

theorem below_eq {rails rails' : List Rail} {ms ms' : List Mark}
    (hrails : rails'.map Rail.unordered = rails.map Rail.unordered)
    (hmarks : (ms'.map Mark.unordered).Perm (ms.map Mark.unordered)) (hstarts : (ms.map (·.start)).Nodup) :
    below g rails' line ms' = below g rails line ms := by
  rw [below, below, marks_eq g line hrails hmarks hstarts, ← openings_unordered g rails',
    ← closings_unordered g rails', hrails, openings_unordered, closings_unordered]

end Rows

end Diagnostics
