import Diagnostics.Line
import Diagnostics.Proofs.Drawing.Piece
import Diagnostics.Proofs.Text.Width

namespace Diagnostics

namespace Line

def cells (l : Line) : List (Char × Option Style) := l.flatMap fun s => s.text.toList.map (·, s.style)

def ShowsAt (tab : Nat) (l : Line) (column : Nat) (shown : List (Char × Option Style)) : Prop :=
  ∃ lead tail, l.cells = lead ++ shown ++ tail ∧ Text.width tab (lead.map (·.1)) = column

theorem cells_append (a b : Line) : cells (a ++ b) = cells a ++ cells b := List.flatMap_append

theorem cells_cons (s : Segment) (l : Line) :
    cells (s :: l) = s.text.toList.map (·, s.style) ++ cells l := List.flatMap_cons

def styled (severity : Severity) (c : Cell) : Char × Option Style := (c.1, c.2.map (Style.mark severity))

theorem styled_fst (severity : Severity) (cs : List Cell) :
    (cs.map (styled severity)).map (·.1) = cs.map (·.1) := by
  rw [List.map_map]
  rfl

theorem cells_ofRow (severity : Severity) (row : Row) :
    cells (ofRow severity row) = row.cells.map (styled severity) := by
  induction row with
  | nil => rfl
  | cons p row ih =>
    have hpiece : cells (ofRow severity (p :: row)) =
        (String.ofList p.text).toList.map (·, p.kind.map (Style.mark severity)) ++ cells (ofRow severity row) :=
      cells_cons _ _
    rw [hpiece, ih, Row.cells_cons, List.map_append, String.toList_ofList, Piece.cells, List.map_map]
    rfl

def IsGutter (g : Glyphs) (width : Nat) (l : Line) : Prop :=
  ∃ lead, l.cells = lead ++ [(g.border, some Style.border)]
    ∧ ∀ tab, Text.width tab (lead.map (·.1)) = width + 1

theorem isGutter_gutter (g : Glyphs) (width : Nat) : IsGutter g width (gutter g width) := by
  refine ⟨List.replicate (width + 1) (' ', none), ?_, fun tab => ?_⟩
  · simp [gutter, cells, Segment.plain, Segment.styled, spaces]
  · rw [List.map_replicate, Text.width_replicate_space]

theorem isGutter_numbered (g : Glyphs) {width number : Nat}
    (h : (Nat.toDigits 10 number).length ≤ width) : IsGutter g width (numbered g width number) := by
  have hdigits : (toString number).toList = Nat.toDigits 10 number := Nat.toList_repr
  refine ⟨(List.replicate (width - (toString number).length) ' ' ++ Nat.toDigits 10 number ++ [' ']).map
    (·, some Style.lineNumber), ?_, fun tab => ?_⟩
  · simp [numbered, cells, Segment.styled, spaces]
  · have hnarrow : Text.width tab (Nat.toDigits 10 number) = (Nat.toDigits 10 number).length :=
      Text.width_of_narrow tab fun c hc => Text.narrow_of_mem_toDigits hc
    have hchars (cs : List Char) : (cs.map (·, some Style.lineNumber)).map (·.1) = cs := by
      rw [List.map_map]
      exact List.map_id cs
    rw [hchars, Text.width_append, Text.width_append, Text.width_replicate_space, hnarrow, Text.width,
      Text.charWidth_space, Text.width, Text.length_toString]
    omega

theorem IsGutter.showsAt_border {g : Glyphs} {width : Nat} {l : Line} (h : IsGutter g width l) (tab : Nat)
    (rest : Line) : ShowsAt tab (l ++ rest) (width + 1) [(g.border, some Style.border)] := by
  obtain ⟨lead, hcells, hwidth⟩ := h
  exact ⟨lead, cells rest, by rw [cells_append, hcells], hwidth tab⟩

theorem IsGutter.cells_behind {charset : CharSet} {width : Nat} {l : Line}
    (h : IsGutter (Glyphs.ofCharSet charset) width l) (rest : Line) :
    ∃ lead, cells (l ++ .plain " " :: rest) = lead ++ cells rest
      ∧ ∀ tab, Text.width tab (lead.map (·.1)) = width + 3 := by
  obtain ⟨lead, hcells, hwidth⟩ := h
  refine ⟨lead ++ [((Glyphs.ofCharSet charset).border, some Style.border), (' ', none)], ?_, fun tab => ?_⟩
  · rw [cells_append, hcells, cells_cons]
    simp [Segment.plain]
  · have hborder := Glyphs.narrow_border charset tab
    rw [List.map_append, Text.width_append, hwidth]
    simp [Text.width, hborder, Text.charWidth_space]

end Line

end Diagnostics
