import Diagnostics.Drawing.Rows
import Diagnostics.Proofs.Drawing.Mark
import Diagnostics.Proofs.Drawing.Piece

namespace Diagnostics

def Over {κ : Type} (P : Char → Prop) (cells : List (Char × κ)) : Prop := ∀ cell ∈ cells, P cell.1

section Over

variable {κ : Type} {P : Char → Prop} {a b : List (Char × κ)}

theorem over_append : Over P (a ++ b) ↔ Over P a ∧ Over P b := List.forall_mem_append

theorem over_cons {cell : Char × κ} : Over P (cell :: a) ↔ P cell.1 ∧ Over P a := List.forall_mem_cons

theorem over_text {text : List Char} (k : κ) : Over P (text.map (·, k)) ↔ ∀ c ∈ text, P c := List.forall_mem_map

theorem over_replicate {c : Char} (n : Nat) (k : κ) (h : P c) : Over P (List.replicate n (c, k)) := by
  intro cell hcell
  rw [List.eq_of_mem_replicate hcell]
  exact h

end Over

structure Glyphs.Over (P : Char → Prop) (g : Glyphs) : Prop where
  blank : P ' '
  border : P g.border
  caret : ∀ k, P (g.caret k)
  connector : P g.connector
  railTop : P g.railTop
  railFill : P g.railFill
  railVertical : P g.railVertical
  railBottom : P g.railBottom
  bullet : P g.bullet

variable {P : Char → Prop}

namespace Canvas

variable {canvas : Canvas} (hblank : P ' ')
include hblank

theorem over_padTo (n : Nat) (h : Over P canvas) : Over P (canvas.padTo n) := by
  induction n generalizing canvas with
  | zero => simp [padTo, Over]
  | succ n ih =>
    cases canvas with
    | nil => exact over_cons.2 ⟨hblank, ih h⟩
    | cons cell rest => exact over_cons.2 ⟨(over_cons.1 h).1, ih (over_cons.1 h).2⟩

theorem over_put (cell : Nat) {text : List Char} (kind : Option Weight) (h : Over P canvas)
    (htext : ∀ c ∈ text, P c) : Over P (canvas.put cell text kind) := by
  rw [put, over_append, over_append]
  refine ⟨⟨over_padTo hblank cell h, (over_text kind).2 htext⟩, ?_⟩
  intro c hc
  exact h c (List.mem_of_mem_drop hc)

theorem over_fill (start stop : Nat) {c : Char} (kind : Option Weight) (h : Over P canvas) (hc : P c) :
    Over P (canvas.fill start stop c kind) := by
  rw [fill]
  split
  · apply over_put hblank start kind h
    intro d hd
    rw [List.eq_of_mem_replicate hd]
    exact hc
  · exact h

end Canvas

section Drawing

variable {g : Glyphs} (hg : g.Over P)
include hg

namespace MarkRow

theorem over_markers {row : List Mark} (h : ∀ m ∈ row, ∀ c ∈ m.labelText, P c) : Over P (markers g row) := by
  have hdrawn : Over P (row.foldl (fun canvas m =>
      Canvas.fill canvas m.start m.stop (g.caret m.kind) (some m.kind)) []) := by
    refine List.foldlRecOn (motive := Over P) row _ (by simp [Over]) ?_
    intro canvas hcanvas m _
    exact Canvas.over_fill hg.blank _ _ _ hcanvas (hg.caret m.kind)
  rw [markers]
  cases hlast : row.getLast? with
  | none => exact hdrawn
  | some last =>
    simp only
    split
    · exact Canvas.over_put hg.blank _ _ hdrawn (h last (List.mem_of_getLast? hlast))
    · exact hdrawn

theorem over_connectors (ms : List Mark) : Over P (connectors g ms) := by
  rw [connectors]
  refine List.foldlRecOn (motive := Over P) ms _ (by simp [Over]) ?_
  intro canvas hcanvas m _
  apply Canvas.over_put hg.blank _ _ hcanvas
  intro c hc
  rw [List.mem_singleton.1 hc]
  exact hg.connector

theorem over_canvases {row : List Mark} (h : ∀ m ∈ row, ∀ c ∈ m.labelText, P c) :
    ∀ canvas ∈ canvases g row, Over P canvas := by
  intro canvas hcanvas
  rw [canvases] at hcanvas
  split at hcanvas
  · rw [List.mem_singleton.1 hcanvas]
    exact over_markers hg h
  · rcases List.mem_cons.1 hcanvas with rfl | hcanvas
    · exact over_markers hg h
    rcases List.mem_cons.1 hcanvas with rfl | hcanvas
    · exact over_connectors hg _
    rw [labels, List.mem_reverse, List.mem_map] at hcanvas
    obtain ⟨⟨m, k⟩, hm, rfl⟩ := hcanvas
    have hrow : m ∈ row :=
      List.dropLast_subset row (List.mem_filter.1 (List.fst_mem_of_mem_zipIdx hm)).1
    exact Canvas.over_put hg.blank _ _ (over_connectors hg _) (h m hrow)

end MarkRow

namespace Rails

theorem over_pass {draw : Nat → Rail → Option (Char × Weight)} (rails : List Rail)
    (h : ∀ i r c kind, draw i r = some (c, kind) → P c) : Over P (pass draw rails) := by
  rw [pass]
  refine List.foldlRecOn (motive := Over P) rails.zipIdx _ (by simp [Over]) ?_
  rintro canvas hcanvas ⟨r, i⟩ -
  simp only
  split
  · rename_i c kind hdraw
    exact Canvas.over_put hg.blank i _ hcanvas (List.forall_mem_singleton.2 (h i r c kind hdraw))
  · exact hcanvas

theorem over_verticals (runs : Rail → Bool) (rails : List Rail) :
    Over P (pass (fun _ o => if runs o then some (g.railVertical, o.kind) else none) rails) := by
  refine over_pass hg rails fun i r c kind hdraw => ?_
  obtain ⟨-, hcell⟩ := Option.ite_none_right_eq_some.1 hdraw
  obtain ⟨rfl, rfl⟩ := Prod.mk.inj (Option.some.inj hcell)
  exact hg.railVertical

theorem over_beside (rails : List Rail) (line : Nat) : Over P (beside g rails line) :=
  Canvas.over_put hg.blank _ _ (over_verticals hg _ rails) (by simp)

theorem over_opening (rails : List Rail) (i : Nat) (r : Rail) : Over P (opening g rails i r) := by
  apply Canvas.over_put hg.blank _ _ _ (List.forall_mem_singleton.2 (hg.caret r.kind))
  apply Canvas.over_fill hg.blank _ _ _ _ hg.railFill
  exact Canvas.over_put hg.blank _ _ (over_verticals hg _ _) (List.forall_mem_singleton.2 hg.railTop)

theorem over_crossing (rails : List Rail) (i : Nat) (r : Rail) : Over P (pass (crossing g i r) rails) := by
  refine over_pass hg rails fun j o c kind hdraw => ?_
  rw [crossing] at hdraw
  split at hdraw
  · cases hdraw
  split at hdraw
  · obtain ⟨rfl, rfl⟩ := Prod.mk.inj (Option.some.inj hdraw)
    exact hg.railVertical
  · obtain ⟨-, hcell⟩ := Option.ite_none_right_eq_some.1 hdraw
    obtain ⟨rfl, rfl⟩ := Prod.mk.inj (Option.some.inj hcell)
    exact hg.railFill

theorem over_closingRun (rails : List Rail) (i : Nat) (r : Rail) : Over P (closingRun g rails i r) := by
  apply Canvas.over_put hg.blank _ _ _ (List.forall_mem_singleton.2 (hg.caret r.kind))
  apply Canvas.over_fill hg.blank _ _ _ _ hg.railFill
  exact Canvas.over_put hg.blank _ _ (over_crossing hg rails i r) (List.forall_mem_singleton.2 hg.railBottom)

theorem over_closing (rails : List Rail) (i : Nat) {r : Rail} (h : ∀ c ∈ r.labelText, P c) :
    Over P (closing g rails i r) := by
  rw [closing]
  split
  · exact over_closingRun hg rails i r
  · exact Canvas.over_put hg.blank _ _ (over_closingRun hg rails i r) h

end Rails

omit hg in
theorem Row.over_trim {row : Row} (h : Over P row.cells) : Over P row.trim.cells := by
  obtain ⟨n, hn⟩ := row.cells_trim
  rw [hn, over_append] at h
  exact h.1

theorem Rows.over_below {rails : List Rail} {ms : List Mark} (line : Nat)
    (hmarks : ∀ m ∈ ms, ∀ c ∈ m.labelText, P c) (hrails : ∀ r ∈ rails, ∀ c ∈ r.labelText, P c) :
    ∀ row ∈ below g rails line ms, Over P row.cells := by
  intro row hrow
  rw [below, List.mem_append, List.mem_append] at hrow
  rcases hrow with (hrow | hrow) | hrow
  · obtain ⟨canvas, hcanvas, rfl⟩ := List.mem_map.1 hrow
    obtain ⟨group, hgroup, hcanvas⟩ := List.mem_flatMap.1 hcanvas
    have hlabels : ∀ m ∈ group, ∀ c ∈ m.labelText, P c := fun m hm =>
      hmarks m ((packMarks_perm ms).subset (List.mem_flatten.2 ⟨group, hgroup, hm⟩))
    apply Row.over_trim
    rw [Row.cells_ofCells, over_append]
    exact ⟨Rails.over_beside hg rails line, MarkRow.over_canvases hg hlabels canvas hcanvas⟩
  · obtain ⟨⟨r, i⟩, -, rfl⟩ := List.mem_map.1 hrow
    apply Row.over_trim
    rw [Row.cells_ofCells]
    exact Rails.over_opening hg rails i r
  · obtain ⟨⟨r, i⟩, hr, rfl⟩ := List.mem_map.1 hrow
    have hmem : r ∈ rails := List.fst_mem_of_mem_zipIdx (List.mem_filter.1 (List.mem_reverse.1 hr)).1
    apply Row.over_trim
    rw [Row.cells_ofCells]
    exact Rails.over_closing hg rails i (hrails r hmem)

end Drawing

end Diagnostics
