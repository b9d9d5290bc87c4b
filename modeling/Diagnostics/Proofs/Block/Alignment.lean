import Diagnostics.Proofs.Block.Placed
import Diagnostics.Proofs.Drawing.Mark
import Diagnostics.Proofs.Drawing.Rail
import Diagnostics.Proofs.Line

namespace Diagnostics

theorem Rails.width_beside (charset : CharSet) (rails : List Rail) (line tab : Nat) :
    Text.width tab ((beside (Glyphs.ofCharSet charset) rails line).map (·.1)) = width rails := by
  have hnarrow : ∀ c ∈ (beside (Glyphs.ofCharSet charset) rails line).map (·.1), Text.Narrow c := by
    intro c hc
    obtain ⟨cell, hcell, rfl⟩ := List.mem_map.1 hc
    rw [beside_eq] at hcell
    split at hcell
    · cases hcell
    · rcases List.mem_append.1 hcell with hcell | hcell
      · obtain ⟨r, -, rfl⟩ := List.mem_map.1 hcell
        rw [Rail.verticalOr]
        split
        · exact Glyphs.narrow_railVertical charset
        · exact Text.narrow_space
      · obtain rfl := List.mem_singleton.1 hcell
        exact Text.narrow_space
  rw [Text.width_of_narrow tab hnarrow, List.length_map, beside_eq, width]
  split <;> simp

namespace MarkRow

def shown (g : Glyphs) (severity : Severity) (group : List Mark) : List (Char × Option Style) :=
  ((List.range (reach 0 group)).map (cellAt g group) ++ trailing group).map (Line.styled severity)

theorem width_cellAt (charset : CharSet) (severity : Severity) (group : List Mark) (tab j : Nat) :
    Text.width tab ((((List.range j).map (cellAt (Glyphs.ofCharSet charset) group)).map
      (Line.styled severity)).map (·.1)) = j := by
  have hnarrow : ∀ c ∈ ((List.range j).map (cellAt (Glyphs.ofCharSet charset) group)).map (·.1),
      Text.Narrow c := by
    intro c hc
    obtain ⟨cell, hcell, rfl⟩ := List.mem_map.1 hc
    obtain ⟨k, -, rfl⟩ := List.mem_map.1 hcell
    rw [cellAt]
    split
    · exact Glyphs.narrow_caret charset _
    · exact Text.narrow_space
  rw [Line.styled_fst, Text.width_of_narrow tab hnarrow, List.length_map, List.length_map, List.length_range]

theorem showsAt_shown (charset : CharSet) (severity : Severity) {group : List Mark} {j : Nat} {m : Mark}
    (h : Spaced 0 group) (hj : covering group j = some m) :
    ∃ lead tail, shown (Glyphs.ofCharSet charset) severity group =
        lead ++ [((Glyphs.ofCharSet charset).caret m.kind, some (Style.mark severity m.kind))] ++ tail
      ∧ ∀ tab, Text.width tab (lead.map (·.1)) = j := by
  let g := Glyphs.ofCharSet charset
  have hcell : Line.styled severity (cellAt g group j) = (g.caret m.kind, some (Style.mark severity m.kind)) := by
    rw [cellAt, hj]
    rfl
  have hlt := lt_reach_of_covering h hj
  have hcount : reach 0 group - j = reach 0 group - (j + 1) + 1 := by omega
  have hrange : List.range (reach 0 group) =
      List.range j ++ j :: List.range' (j + 1) (reach 0 group - (j + 1)) := by
    rw [List.range_eq_range', List.range_eq_range', ← List.range'_succ, ← hcount]
    exact range'_split (Nat.zero_le j) (Nat.le_of_lt hlt)
  refine ⟨((List.range j).map (cellAt g group)).map (Line.styled severity),
    ((List.range' (j + 1) (reach 0 group - (j + 1))).map (cellAt g group) ++ trailing group).map
      (Line.styled severity), ?_, fun tab => width_cellAt charset severity group tab j⟩
  rw [shown, hrange, ← hcell]
  simp only [List.map_append, List.map_cons, List.append_assoc, List.cons_append, List.nil_append, g]

end MarkRow

namespace Block

def textColumn (width : Nat) (b : Block) : Nat := width + 3 + Rails.width b.rails

def rowUnder (g : Glyphs) (severity : Severity) (width : Nat) (b : Block) (line : Nat) (canvas : Canvas) : Line :=
  markerLine g severity width (Row.ofCells (Rails.beside g b.rails line ++ canvas)).trim

def markRow (g : Glyphs) (severity : Severity) (width : Nat) (b : Block) (line : Nat) (group : List Mark) :
    Line :=
  b.rowUnder g severity width line (MarkRow.markers g group)

def labelRows (g : Glyphs) (severity : Severity) (width : Nat) (b : Block) (line : Nat) (group : List Mark) :
    List Line :=
  ((MarkRow.canvases g group).drop 1).map (b.rowUnder g severity width line)

def railRows (g : Glyphs) (severity : Severity) (width : Nat) (b : Block) (line : Nat) : List Line :=
  (Rows.openings g b.rails line ++ Rows.closings g b.rails line).map (markerLine g severity width)

def groups (b : Block) (line : Nat) : List (List Mark) := packMarks (b.marksOn line)

def rowsBelow (g : Glyphs) (severity : Severity) (width : Nat) (b : Block) (line : Nat) : List Line :=
  (Rows.below g b.rails line (b.marksOn line)).map (markerLine g severity width)

theorem rowsBelow_eq (g : Glyphs) (severity : Severity) (width : Nat) (b : Block) (line : Nat) :
    b.rowsBelow g severity width line =
      ((b.groups line).flatMap fun group =>
          b.markRow g severity width line group :: b.labelRows g severity width line group)
        ++ b.railRows g severity width line := by
  have hgroup (group : List Mark) :
      b.markRow g severity width line group :: b.labelRows g severity width line group =
        (MarkRow.canvases g group).map (b.rowUnder g severity width line) := by
    rw [markRow, labelRows, MarkRow.canvases]
    split <;> rfl
  simp only [hgroup]
  rw [rowsBelow, groups, Rows.below, Rows.marks, railRows, List.append_assoc, List.map_append, List.map_map,
    List.map_flatMap]
  rfl

variable (charset : CharSet) (severity : Severity) {width : Nat} (b : Block)

theorem cells_markerLine (row : Row) :
    ∃ lead, (markerLine (Glyphs.ofCharSet charset) severity width row).cells =
        lead ++ row.cells.map (Line.styled severity)
      ∧ ∀ tab, Text.width tab (lead.map (·.1)) = width + 3 := by
  rw [markerLine, ← Line.cells_ofRow]
  exact (Line.isGutter_gutter (Glyphs.ofCharSet charset) width).cells_behind (Line.ofRow severity row)

theorem showsAt_border_markerLine (tab : Nat) (row : Row) :
    (markerLine (Glyphs.ofCharSet charset) severity width row).ShowsAt tab (width + 1)
      [((Glyphs.ofCharSet charset).border, some Style.border)] :=
  (Line.isGutter_gutter (Glyphs.ofCharSet charset) width).showsAt_border tab _

theorem width_area (line tab : Nat) {lead : List (Char × Option Style)}
    (h : Text.width tab (lead.map (·.1)) = width + 3) :
    Text.width tab ((lead ++ (Rails.beside (Glyphs.ofCharSet charset) b.rails line).map
      (Line.styled severity)).map (·.1)) = b.textColumn width := by
  rw [List.map_append, Text.width_append, h, Line.styled_fst, Rails.width_beside, textColumn]

theorem cells_markRow (line : Nat) {group : List Mark} (h : Spaced 0 group) (hne : group ≠ []) :
    ∃ lead, (b.markRow (Glyphs.ofCharSet charset) severity width line group).cells =
        lead ++ MarkRow.shown (Glyphs.ofCharSet charset) severity group
      ∧ ∀ tab, Text.width tab (lead.map (·.1)) = b.textColumn width := by
  let area := Rails.beside (Glyphs.ofCharSet charset) b.rails line
  obtain ⟨c, k, hlast⟩ := MarkRow.getLast?_markers (Glyphs.ofCharSet charset) h hne
  have hend : (area ++ MarkRow.markers (Glyphs.ofCharSet charset) group).getLast? = some (c, some k) := by
    rw [List.getLast?_append, hlast]
    rfl
  -- A row of markers ends in a marker or a label, so nothing of it is trimmed.
  have htrim : (Row.ofCells (area ++ MarkRow.markers (Glyphs.ofCharSet charset) group)).trim.cells =
      area ++ MarkRow.markers (Glyphs.ofCharSet charset) group := by
    have hne : ((c, some k) : Cell) ≠ Cell.blank := fun heq => by cases congrArg Prod.snd heq
    rw [Row.cells_trim_of_getLast? (by rw [Row.cells_ofCells, hend]) hne, Row.cells_ofCells]
  obtain ⟨lead, hcells, hwidth⟩ := cells_markerLine charset severity
    (Row.ofCells (area ++ MarkRow.markers (Glyphs.ofCharSet charset) group)).trim
  refine ⟨lead ++ area.map (Line.styled severity), ?_,
    fun tab => b.width_area charset severity line tab (hwidth tab)⟩
  rw [markRow, rowUnder, hcells, htrim, MarkRow.shown, ← MarkRow.markers_eq _ h, List.map_append,
    List.append_assoc]

def Draws (tab column : Nat) (g : Glyphs) (severity : Severity) (group : List Mark) (row : Line) : Prop :=
  (∃ lead, row.cells = lead ++ MarkRow.shown g severity group ∧ Text.width tab (lead.map (·.1)) = column) ∧
    ∀ j m, MarkRow.covering group j = some m →
      row.ShowsAt tab (column + j) [(g.caret m.kind, some (Style.mark severity m.kind))]

theorem draws_markRow (tab line : Nat) {group : List Mark} (h : Spaced 0 group) (hne : group ≠ []) :
    Draws tab (b.textColumn width) (Glyphs.ofCharSet charset) severity group
      (b.markRow (Glyphs.ofCharSet charset) severity width line group) := by
  obtain ⟨lead, hcells, hwidth⟩ := b.cells_markRow charset severity line h hne
  refine ⟨⟨lead, hcells, hwidth tab⟩, fun j m hj => ?_⟩
  obtain ⟨before, tail, hshown, hbefore⟩ := MarkRow.showsAt_shown charset severity h hj
  refine ⟨lead ++ before, tail, ?_, ?_⟩
  · rw [hcells, hshown, List.append_assoc, List.append_assoc, List.append_assoc]
  · rw [List.map_append, Text.width_append, hwidth, hbefore]

theorem showsAt_border_sourceLine (config : Config) (g : Glyphs) (tab : Nat) {l : ExcerptLine}
    (h : (Nat.toDigits 10 l.number).length ≤ width) :
    (b.sourceLine config g severity width l).ShowsAt tab (width + 1) [(g.border, some Style.border)] :=
  (Line.isGutter_numbered g h).showsAt_border tab _

theorem showsAt_text_sourceLine (config : Config) (tab : Nat) {l : ExcerptLine}
    (h : (Nat.toDigits 10 l.number).length ≤ width) (hne : l.text ≠ []) :
    (b.sourceLine config (Glyphs.ofCharSet charset) severity width l).ShowsAt tab (b.textColumn width)
      ((Text.expandTabs config.tabWidth l.text).map (·, none)) := by
  let area := Rails.beside (Glyphs.ofCharSet charset) b.rails l.number
  have hbody : b.body config (Glyphs.ofCharSet charset) l =
      Row.ofCells area ++ [Piece.plain (Text.expandTabs config.tabWidth l.text)] := by
    have hempty : ¬ l.text.isEmpty := by simpa using hne
    rw [body, if_neg hempty]
  have hnonempty : ¬ (b.body config (Glyphs.ofCharSet charset) l).isEmpty := by
    rw [hbody]
    simp
  obtain ⟨lead, hcells, hwidth⟩ := (Line.isGutter_numbered (Glyphs.ofCharSet charset) h).cells_behind
    (Line.ofRow severity (b.body config (Glyphs.ofCharSet charset) l))
  refine ⟨lead ++ area.map (Line.styled severity), [], ?_,
    b.width_area charset severity l.number tab (hwidth tab)⟩
  have hcells' : (Row.ofCells area ++ [Piece.plain (Text.expandTabs config.tabWidth l.text)]).cells =
      area ++ (Text.expandTabs config.tabWidth l.text).map (·, none) := by
    rw [Row.cells_append, Row.cells_ofCells, Row.cells_cons]
    exact congrArg (area ++ ·) (List.append_nil _)
  rw [sourceLine, if_neg hnonempty, hcells, Line.cells_ofRow, hbody, hcells', List.map_append, List.map_map,
    List.append_nil, List.append_assoc]
  rfl

end Block

end Diagnostics
