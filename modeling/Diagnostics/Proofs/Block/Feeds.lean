import Diagnostics.Proofs.Block.Alignment
import Diagnostics.Proofs.Block.Characters
import Diagnostics.Proofs.Line.Feeds

namespace Diagnostics

def Annotation.feeds (a : Annotation) : Nat := Text.feeds (a.label.getD "").toList

namespace Block

variable {b : Block} (config : Config) (severity : Severity) (width : Nat)

theorem feeds_markerLine (charset : CharSet) (row : Row) :
    (markerLine (Glyphs.ofCharSet charset) severity width row).feeds = row.feeds := by
  have hgutter := Line.feeds_eq_zero.2 (Line.over_gutter ne_feed_of_isDrawn charset width)
  rw [markerLine, Line.feeds_append, hgutter, Line.feeds_cons, Line.feeds_ofRow, Nat.zero_add]
  exact Nat.zero_add row.feeds

/-- What a block needs for its labels to be shown once each: every mark and every end of a rail has a line of the
excerpt, and no line has two rows of its own. -/
structure Complete (b : Block) : Prop where
  numbers : (b.lines.map (·.number)).Nodup
  text : ∀ l ∈ b.lines, ∀ c ∈ l.text, c ≠ '\n'
  proper : ∀ m ∈ b.marks, m.2.start < m.2.stop
  marks : ∀ m ∈ b.marks, m.1 ∈ b.lines.map (·.number)
  rails : ∀ r ∈ b.rails, r.endLine ∈ b.lines.map (·.number)

theorem feeds_sourceLine (h : b.Complete) {l : ExcerptLine} (hl : l ∈ b.lines) :
    (b.sourceLine config (Glyphs.ofCharSet config.charset) severity width l).feeds = 0 :=
  Line.feeds_eq_zero.2 (over_sourceLine ne_feed_of_isDrawn config config.charset severity width (h.text l hl))

theorem feeds_rowsBelow (charset : CharSet) (h : b.Complete) (line : Nat) :
    ((b.rowsBelow (Glyphs.ofCharSet charset) severity width line).map Line.feeds).sum =
      ((b.marksOn line).map Mark.feeds).sum + ((b.rails.filter (·.endLine = line)).map Rail.feeds).sum := by
  have hproper : ∀ m ∈ b.marksOn line, m.start < m.stop :=
    List.forall_mem_map.2 fun m hm => h.proper m (List.mem_of_mem_filter hm)
  have hmarker : (Line.feeds ∘ markerLine (Glyphs.ofCharSet charset) severity width) = Row.feeds := by
    funext row
    exact feeds_markerLine severity width charset row
  rw [rowsBelow, List.map_map, hmarker,
    Rows.feeds_below (Glyphs.over_ofCharSet ne_feed_of_isDrawn charset) line hproper]

theorem feeds_rowsOf (h : b.Complete) {l : ExcerptLine} (hl : l ∈ b.lines) :
    ((b.rowsOf config (Glyphs.ofCharSet config.charset) severity width l).map Line.feeds).sum =
      ((b.marksOn l.number).map Mark.feeds).sum +
        ((b.rails.filter (·.endLine = l.number)).map Rail.feeds).sum := by
  have hgap : ((if l.gapBefore then [Line.gap config.charset width] else []).map Line.feeds).sum = 0 := by
    split
    · exact Line.feeds_eq_zero.2 (Line.over_gap ne_feed_of_isDrawn config.charset width)
    · rfl
  rw [rowsOf, List.map_append, List.sum_append, hgap, List.map_cons, List.sum_cons,
    feeds_sourceLine config severity width h hl, ← feeds_rowsBelow severity width config.charset h, Nat.zero_add,
    Nat.zero_add]
  rfl

def Guttered (config : Config) (severity : Severity) (width : Nat) (b : Block) : Prop :=
  let g := Glyphs.ofCharSet config.charset
  ∀ l ∈ b.lines,
    (∀ row ∈ b.sourceLine config g severity width l :: b.rowsBelow g severity width l.number,
      ∃ gutter rest, row = gutter ++ rest ∧ Line.IsGutter g width gutter ∧ gutter.feeds = 0) ∧
    (b.sourceLine config g severity width l).feeds = 0 ∧
    ((b.rowsBelow g severity width l.number).map Line.feeds).sum =
      ((b.marksOn l.number).map Mark.feeds).sum + ((b.rails.filter (·.endLine = l.number)).map Rail.feeds).sum

theorem Complete.guttered (h : b.Complete) (hwidth : ∀ l ∈ b.lines, (Nat.toDigits 10 l.number).length ≤ width) :
    b.Guttered config severity width := by
  intro l hl
  refine ⟨fun row hrow => ?_, feeds_sourceLine config severity width h hl,
    feeds_rowsBelow severity width config.charset h l.number⟩
  rcases List.mem_cons.1 hrow with rfl | hrow
  · exact ⟨_, _, rfl, Line.isGutter_numbered _ (hwidth l hl),
      Line.feeds_eq_zero.2 (Line.over_numbered ne_feed_of_isDrawn config.charset width l.number)⟩
  · obtain ⟨drawn, -, rfl⟩ := List.mem_map.1 hrow
    exact ⟨_, _, rfl, Line.isGutter_gutter _ width,
      Line.feeds_eq_zero.2 (Line.over_gutter ne_feed_of_isDrawn config.charset width)⟩

theorem feeds_place (b : Block) : Text.feeds b.place.toList = Text.feeds b.name.toList := by
  have hlocation : Text.feeds b.location.text.toList = 0 :=
    Text.feeds_eq_zero.2 (Text.over_position ne_feed_of_isDrawn b.location)
  rw [place, String.toList_append, String.toList_append, Text.feeds_append, Text.feeds_append, hlocation]
  rfl

theorem feeds_compose (h : b.Complete) (isFirst : Bool) :
    ((b.compose config (Glyphs.ofCharSet config.charset) severity width isFirst).map Line.feeds).sum =
      Text.feeds b.name.toList + ((b.marks.map (·.2.feeds)).sum + (b.rails.map Rail.feeds).sum) := by
  have hgutter := Line.feeds_eq_zero.2 (Line.over_gutter ne_feed_of_isDrawn config.charset width)
  have hmarks := sum_fibers (f := fun m : Nat × Mark => m.1) (·.2.feeds) h.numbers h.marks
  have hrails := sum_fibers (f := fun r : Rail => r.endLine) Rail.feeds h.numbers h.rails
  have hmarksOn (l : ExcerptLine) : ((b.marksOn l.number).map Mark.feeds).sum =
      ((b.marks.filter (·.1 = l.number)).map (·.2.feeds)).sum := by
    rw [marksOn, List.map_map]
    rfl
  have hrows : ((b.lines.flatMap (b.rowsOf config (Glyphs.ofCharSet config.charset) severity width)).map
      Line.feeds).sum = (b.marks.map (·.2.feeds)).sum + (b.rails.map Rail.feeds).sum := by
    rw [sum_map_flatMap, List.map_congr_left fun l hl => feeds_rowsOf config severity width h hl, List.sum_map_add,
      List.map_congr_left fun l _ => hmarksOn l, ← hmarks, ← hrails, List.map_map, List.map_map]
    rfl
  rw [compose, List.map_cons, List.map_cons, List.sum_cons, List.sum_cons, hrows, hgutter, Line.feeds_location,
    feeds_place, Nat.zero_add]

variable {registry : Registry} {placed : List Placed} {s : Source}

theorem complete_ofPlaced (i : Issue) (h : ∀ p ∈ placed, p.IsFrom registry) (hs : registry.lookup s.name = .ok s) :
    (ofPlaced config i placed s).Complete where
  numbers := by
    rw [ofPlaced, Source.excerptLines_number]
    exact s.nodup_shownLines _ _
  text := by
    intro l hl c hc
    have hl : l ∈ s.excerptLines (requestedBy (shapesOf config.tabWidth placed s.name)) config.contextLines := hl
    rw [Source.excerptLines_text hl] at hc
    exact Source.ne_feed_of_mem_shownText hc
  proper := by
    rw [marks_ofPlaced, List.forall_mem_map]
    exact fun p _ => Mark.start_lt_stop_new _ _ _ _ _
  marks := by
    rw [marks_ofPlaced, List.forall_mem_map]
    intro p hp
    obtain ⟨hhere, hsingle⟩ := List.mem_filter.1 hp
    refine mem_numbers_ofPlaced config i h hs (mem_requestedBy hhere ?_)
    rw [Placed.shapeOf, if_neg (by simpa using hsingle)]
    exact List.mem_singleton_self _
  rails := by
    intro r hr
    rw [rails_ofPlaced] at hr
    obtain ⟨p, hp, rfl⟩ := List.mem_map.1 ((sortBy_perm Rail.precedes _).subset hr)
    obtain ⟨hhere, hmulti⟩ := List.mem_filter.1 hp
    refine mem_numbers_ofPlaced config i h hs (mem_requestedBy hhere ?_)
    rw [Placed.shapeOf, if_pos hmulti]
    exact List.mem_cons_of_mem _ (List.mem_singleton_self _)

theorem feeds_ofPlaced (i : Issue) (h : ∀ p ∈ placed, p.IsFrom registry) (hs : registry.lookup s.name = .ok s)
    (isFirst : Bool) :
    (((ofPlaced config i placed s).compose config (Glyphs.ofCharSet config.charset) severity width isFirst).map
      Line.feeds).sum = Text.feeds s.name.toList + ((here placed s.name).map (·.subject.feeds)).sum := by
  have hmarks : ((ofPlaced config i placed s).marks.map (·.2.feeds)).sum =
      (((here placed s.name).filter (!·.span.isMultiline)).map (·.subject.feeds)).sum := by
    rw [marks_ofPlaced, List.map_map]
    rfl
  have hrails : ((ofPlaced config i placed s).rails.map Rail.feeds).sum =
      (((here placed s.name).filter (·.span.isMultiline)).map (·.subject.feeds)).sum := by
    rw [rails_ofPlaced, arrangeRails, ((sortBy_perm Rail.precedes _).map Rail.feeds).sum_eq, List.map_map]
    rfl
  have hsplit := (List.filter_append_perm (fun p : Placed => p.span.isMultiline) (here placed s.name)).map
    (·.subject.feeds)
  rw [feeds_compose config severity width (complete_ofPlaced config i h hs) isFirst, hmarks, hrails, ← hsplit.sum_eq,
    List.map_append, List.sum_append, Nat.add_comm (List.sum _) (List.sum _)]
  rfl

end Block

end Diagnostics
