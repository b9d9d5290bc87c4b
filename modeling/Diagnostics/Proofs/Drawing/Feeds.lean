import Diagnostics.Proofs.Drawing.Characters
import Diagnostics.Proofs.Drawing.Rail
import Diagnostics.Proofs.Drawing.Stroke
import Diagnostics.Proofs.Sums
import Diagnostics.Proofs.Text.Lines

namespace Diagnostics

namespace Canvas

def feeds (cells : List Cell) : Nat := Text.feeds (cells.map (·.1))

theorem feeds_append (a b : List Cell) : feeds (a ++ b) = feeds a + feeds b := by
  rw [feeds, List.map_append, Text.feeds_append, feeds, feeds]

theorem feeds_of_over {cells : List Cell} (h : Over (· ≠ '\n') cells) : feeds cells = 0 := by
  rw [feeds, Text.feeds_eq_zero]
  exact List.forall_mem_map.2 h

theorem feeds_text (text : List Char) (kind : Option Weight) : feeds (text.map (·, kind)) = Text.feeds text := by
  rw [feeds, List.map_map]
  exact congrArg Text.feeds (List.map_id text)

theorem feeds_blanks (n : Nat) : feeds (List.replicate n Cell.blank) = 0 :=
  feeds_of_over (over_replicate n none (by decide))

theorem feeds_foldl_onto {canvas : Canvas} {strokes : List Stroke}
    (h : strokes.Pairwise fun a b => a.stop ≤ b.cell) (hfrom : ∀ s ∈ strokes, canvas.length ≤ s.cell) :
    feeds (strokes.foldl Stroke.onto canvas) = feeds canvas + (strokes.map fun s => Text.feeds s.text).sum := by
  induction strokes generalizing canvas with
  | nil => rfl
  | cons s rest ih =>
    obtain ⟨hs, hrest⟩ := List.pairwise_cons.1 h
    have hle := hfrom s (List.mem_cons_self ..)
    have honto : Stroke.onto canvas s =
        canvas ++ List.replicate (s.cell - canvas.length) Cell.blank ++ s.text.map (·, some s.kind) :=
      put_of_length_le hle s.text (some s.kind)
    have hlength : (Stroke.onto canvas s).length = s.stop := by
      rw [honto, List.length_append, List.length_append, List.length_replicate, List.length_map, Stroke.stop,
        Nat.add_sub_cancel' hle]
    have hfeeds : feeds (Stroke.onto canvas s) = feeds canvas + Text.feeds s.text := by
      rw [honto, feeds_append, feeds_append, feeds_blanks, feeds_text, Nat.add_zero]
    rw [List.foldl_cons, ih hrest fun t ht => hlength.trans_le (hs t ht), hfeeds, List.map_cons, List.sum_cons,
      Nat.add_assoc]

end Canvas

def Mark.feeds (m : Mark) : Nat := Text.feeds m.labelText

def Rail.feeds (r : Rail) : Nat := Text.feeds r.labelText

def Row.feeds (r : Row) : Nat := Canvas.feeds r.cells

theorem Mark.feeds_of_not_hasLabel {m : Mark} (h : ¬ m.hasLabel) : m.feeds = 0 := by
  have hempty : m.labelText = [] := by simpa [hasLabel] using h
  rw [feeds, hempty]
  rfl

theorem Row.feeds_ofCells (cells : List Cell) : (ofCells cells).trim.feeds = Canvas.feeds cells := by
  obtain ⟨n, hn⟩ := (ofCells cells).cells_trim
  have hfeeds := congrArg Canvas.feeds hn
  rw [cells_ofCells, Canvas.feeds_append, Canvas.feeds_blanks, Nat.add_zero] at hfeeds
  exact hfeeds.symm

variable {g : Glyphs} (hg : g.Over (· ≠ '\n'))
include hg

namespace MarkRow

variable {row ms : List Mark}

theorem feeds_carets (row : List Mark) : ((row.map (Stroke.caret g)).map fun s => Text.feeds s.text).sum = 0 := by
  rw [List.map_map]
  refine List.sum_eq_zero (List.forall_mem_map.2 fun m _ => Text.feeds_eq_zero.2 fun c hc => ?_)
  rw [List.eq_of_mem_replicate hc]
  exact hg.caret m.kind

theorem feeds_joints (ms : List Mark) : ((ms.map (Stroke.connector g)).map fun s => Text.feeds s.text).sum = 0 := by
  rw [List.map_map]
  refine List.sum_eq_zero (List.forall_mem_map.2 fun m _ => Text.feeds_eq_zero.2 ?_)
  exact List.forall_mem_singleton.2 hg.connector

theorem feeds_markers {last : Mark} (h : Apart row) (hlast : row.getLast? = some last) :
    Canvas.feeds (markers g row) = ((if last.hasLabel then [last] else []).map Mark.feeds).sum := by
  rw [markers_eq_foldl g h hlast,
    Canvas.feeds_foldl_onto (shows_markers g h hlast).apart fun _ _ => Nat.zero_le _, marking, List.map_append,
    List.sum_append, feeds_carets hg, Nat.zero_add]
  cases last.hasLabel with
  | true => exact Nat.zero_add _
  | false => rfl

theorem feeds_label {i : Nat} {m : Mark} (h : Apart ms) (hi : ms[i]? = some m) :
    Canvas.feeds ((connectors g (ms.take i)).put m.start m.labelText (some m.kind)) = m.feeds := by
  rw [label_eq_foldl, Canvas.feeds_foldl_onto (shows_label g h hi).apart fun _ _ => Nat.zero_le _, labelling,
    List.map_append, List.sum_append, feeds_joints hg]
  simp [Canvas.feeds, Text.feeds, Mark.feeds, Stroke.below]

theorem feeds_labels (h : Apart ms) : ((labels g ms).map Canvas.feeds).sum = (ms.map Mark.feeds).sum := by
  rw [labels, List.map_reverse, List.sum_reverse, List.map_map]
  conv_rhs => rw [← List.zipIdx_map_fst 0 ms, List.map_map]
  refine congrArg List.sum (List.map_congr_left fun x hx => ?_)
  exact feeds_label hg h (List.mem_zipIdx_iff_getElem?.1 hx)

theorem feeds_canvases (h : Apart row) (hne : row ≠ []) :
    ((canvases g row).map Canvas.feeds).sum = (row.map Mark.feeds).sum := by
  have hlast := List.getLast?_eq_some_getLast hne
  have hlabelled : (row.map Mark.feeds).sum = ((hanging row).map Mark.feeds).sum +
      ((if (row.getLast hne).hasLabel then [row.getLast hne] else []).map Mark.feeds).sum := by
    rw [← sum_map_filter_of_zero fun m _ => Mark.feeds_of_not_hasLabel (m := m), filter_hasLabel hlast,
      List.map_append, List.sum_append]
  have hconnectors : Canvas.feeds (connectors g (hanging row)) = 0 :=
    Canvas.feeds_of_over (over_connectors hg (hanging row))
  have hlabels := feeds_labels hg (apart_of_sublist h (hanging_sublist row))
  rw [canvases, hlabelled]
  split
  · rename_i hnone
    rw [List.map_singleton, List.sum_singleton, feeds_markers hg h hlast, List.isEmpty_iff.1 hnone]
    exact (Nat.zero_add _).symm
  · rw [List.map_cons, List.map_cons, List.sum_cons, List.sum_cons, feeds_markers hg h hlast, hconnectors, hlabels,
      Nat.zero_add, Nat.add_comm]

end MarkRow

namespace Rows

variable {rails : List Rail} {ms : List Mark} (line : Nat)

theorem feeds_marks (h : ∀ m ∈ ms, m.start < m.stop) :
    ((marks g rails line ms).map Row.feeds).sum = (ms.map Mark.feeds).sum := by
  have hcanvas : (Row.feeds ∘ fun canvas => (Row.ofCells (Rails.beside g rails line ++ canvas)).trim) =
      Canvas.feeds := by
    funext canvas
    rw [Function.comp_apply, Row.feeds_ofCells, Canvas.feeds_append,
      Canvas.feeds_of_over (Rails.over_beside hg rails line), Nat.zero_add]
  have hrow : ∀ row ∈ packMarks ms, ((MarkRow.canvases g row).map Canvas.feeds).sum = (row.map Mark.feeds).sum :=
    fun row hrow => MarkRow.feeds_canvases hg (MarkRow.apart_of_mem_packMarks h hrow)
      ((tight_packMarks h).nonempty row hrow)
  rw [marks, List.map_map, hcanvas, sum_map_flatMap, List.map_congr_left hrow,
    ← ((packMarks_perm ms).map Mark.feeds).sum_eq, List.map_flatten, List.sum_flatten, List.map_map]
  rfl

theorem feeds_openings : ((openings g rails line).map Row.feeds).sum = 0 := by
  rw [openings, List.map_map]
  refine List.sum_eq_zero (List.forall_mem_map.2 fun x _ => ?_)
  exact (Row.feeds_ofCells _).trans (Canvas.feeds_of_over (Rails.over_opening hg rails x.2 x.1))

theorem feeds_closing {i : Nat} {r : Rail} (hr : rails[i]? = some r) :
    Canvas.feeds (Rails.closing g rails i r) = r.feeds := by
  rw [Rails.closing_eq g hr, Canvas.feeds_append, Canvas.feeds_of_over (Rails.over_closingRun hg rails i r),
    Nat.zero_add]
  split
  · rename_i hempty
    rw [Rail.feeds, List.isEmpty_iff.1 hempty]
    rfl
  · have hblank : Canvas.feeds [Cell.blank] = 0 := Canvas.feeds_blanks 1
    rw [← List.singleton_append, Canvas.feeds_append, hblank, Canvas.feeds_text, Nat.zero_add]
    rfl

theorem feeds_closings : ((closings g rails line).map Row.feeds).sum =
    ((rails.filter (·.endLine = line)).map Rail.feeds).sum := by
  rw [closings, List.map_map, List.map_reverse, List.sum_reverse]
  calc (List.map _ (rails.zipIdx.filter (·.1.endLine = line))).sum
      = ((rails.zipIdx.filter (·.1.endLine = line)).map (Rail.feeds ∘ Prod.fst)).sum :=
        congrArg List.sum (List.map_congr_left fun x hx => (Row.feeds_ofCells _).trans
          (feeds_closing hg (List.mem_zipIdx_iff_getElem?.1 (List.mem_of_mem_filter hx))))
    _ = ((rails.filter (·.endLine = line)).map Rail.feeds).sum := by
        rw [← List.map_map]
        conv_rhs => rw [← List.zipIdx_map_fst 0 rails, List.filter_map]
        rfl

theorem feeds_below (h : ∀ m ∈ ms, m.start < m.stop) : ((below g rails line ms).map Row.feeds).sum =
    (ms.map Mark.feeds).sum + ((rails.filter (·.endLine = line)).map Rail.feeds).sum := by
  rw [below, List.map_append, List.map_append, List.sum_append, List.sum_append, feeds_marks hg line h,
    feeds_openings hg, feeds_closings hg, Nat.add_zero]

end Rows

end Diagnostics
