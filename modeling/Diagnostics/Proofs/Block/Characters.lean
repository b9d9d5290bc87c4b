import Diagnostics.Proofs.Block.Placed
import Diagnostics.Proofs.Line.Characters

namespace Diagnostics

variable {P : Char → Prop}

namespace Block

structure Over (P : Char → Prop) (b : Block) : Prop where
  name : Text.Over P b.name
  lines : ∀ l ∈ b.lines, ∀ c ∈ l.text, P c
  marks : ∀ m ∈ b.marks, ∀ c ∈ m.2.labelText, P c
  rails : ∀ r ∈ b.rails, ∀ c ∈ r.labelText, P c

theorem over_ofPlaced (config : Config) (i : Issue) {placed : List Placed} {s : Source} (hname : Text.Over P s.name)
    (htext : ∀ line, ∀ c ∈ s.shownText line, P c)
    (hlabels : ∀ p ∈ placed, ∀ c ∈ (p.subject.label.getD "").toList, P c) :
    (ofPlaced config i placed s).Over P where
  name := hname
  lines := by
    intro l hl
    change l ∈ s.excerptLines (requestedBy (shapesOf config.tabWidth placed s.name)) config.contextLines at hl
    rw [Source.excerptLines_text hl]
    exact htext l.number
  marks := by
    rw [marks_ofPlaced, List.forall_mem_map]
    exact fun p hp => hlabels p (List.mem_of_mem_filter (List.mem_of_mem_filter hp))
  rails := by
    intro r hr
    rw [rails_ofPlaced] at hr
    obtain ⟨p, hp, rfl⟩ := List.mem_map.1 ((sortBy_perm Rail.precedes _).subset hr)
    exact hlabels p (List.mem_of_mem_filter (List.mem_of_mem_filter hp))

variable {b : Block} (hP : ∀ c, isDrawn c → P c)
include hP

theorem over_sourceLine (config : Config) (charset : CharSet) (severity : Severity) (width : Nat) {l : ExcerptLine}
    (hl : ∀ c ∈ l.text, P c) : (b.sourceLine config (Glyphs.ofCharSet charset) severity width l).Over P := by
  have hg := Glyphs.over_ofCharSet hP charset
  have hbody : Diagnostics.Over P (b.body config (Glyphs.ofCharSet charset) l).cells := by
    have hrow : Diagnostics.Over P (Row.ofCells (Rails.beside (Glyphs.ofCharSet charset) b.rails l.number)
        ++ [Piece.plain (Text.expandTabs config.tabWidth l.text)]).cells := by
      rw [Row.cells_append, Row.cells_ofCells, Diagnostics.over_append]
      refine ⟨Rails.over_beside hg b.rails l.number, ?_⟩
      rw [Row.cells_cons, Diagnostics.over_append]
      refine ⟨(over_text none).2 fun c hc => ?_, by simp [Diagnostics.Over, Row.cells]⟩
      rcases Text.mem_expandTabs hc with rfl | hc
      · exact hg.blank
      · exact hl c hc
    rw [body]
    split
    · exact Row.over_trim hrow
    · exact hrow
  rw [sourceLine, Line.over_append]
  refine ⟨Line.over_numbered hP charset width l.number, ?_⟩
  split
  · exact Line.over_nil
  · exact Line.over_cons.2 ⟨Text.over_drawn hP (by decide), Line.over_ofRow severity hbody⟩

variable (h : b.Over P)
include h

theorem over_rowsOf (config : Config) (severity : Severity) (width : Nat) {l : ExcerptLine} (hl : l ∈ b.lines) :
    ∀ line ∈ b.rowsOf config (Glyphs.ofCharSet config.charset) severity width l, Line.Over P line := by
  intro line hline
  rcases List.mem_append.1 hline with hline | hline
  · split at hline
    · rw [List.mem_singleton.1 hline]
      exact Line.over_gap hP config.charset width
    · cases hline
  rcases List.mem_cons.1 hline with rfl | hline
  · exact over_sourceLine hP config config.charset severity width (h.lines l hl)
  · obtain ⟨row, hrow, rfl⟩ := List.mem_map.1 hline
    have hmarks : ∀ m ∈ b.marksOn l.number, ∀ c ∈ m.labelText, P c := by
      intro m hm
      obtain ⟨m', hm', rfl⟩ := List.mem_map.1 hm
      exact h.marks m' (List.mem_filter.1 hm').1
    have hcells := Rows.over_below (Glyphs.over_ofCharSet hP config.charset) l.number hmarks h.rails row hrow
    rw [markerLine, Line.over_append]
    refine ⟨Line.over_gutter hP config.charset width, Line.over_cons.2 ⟨?_, Line.over_ofRow severity hcells⟩⟩
    exact Text.over_drawn hP (by decide)

theorem over_compose (config : Config) (severity : Severity) (width : Nat) (isFirst : Bool) :
    ∀ line ∈ b.compose config (Glyphs.ofCharSet config.charset) severity width isFirst, Line.Over P line := by
  intro line hline
  rcases List.mem_cons.1 hline with rfl | hline
  · apply Line.over_location hP
    rw [place, Text.over_append, Text.over_append]
    exact ⟨⟨h.name, Text.over_drawn hP (by decide)⟩, Text.over_position hP b.location⟩
  rcases List.mem_cons.1 hline with rfl | hline
  · exact Line.over_gutter hP config.charset width
  · obtain ⟨l, hl, hline⟩ := List.mem_flatMap.1 hline
    exact over_rowsOf hP h config severity width hl line hline

end Block

end Diagnostics
