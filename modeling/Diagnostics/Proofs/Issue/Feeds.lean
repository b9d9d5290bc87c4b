import Diagnostics.Proofs.Block.Feeds
import Diagnostics.Proofs.Issue.Alignment
import Diagnostics.Proofs.Issue.Characters

namespace Diagnostics

namespace Issue

def feeds (style : DisplayStyle) (i : Issue) : Nat :=
  Text.feeds (i.code.getD "").toList + Text.feeds i.message.toList +
    match style with
    | .full => (i.origins.map fun origin => Text.feeds origin.toList).sum + (i.annotations.map Annotation.feeds).sum
    | .comfortable | .compact => Text.feeds (i.primaryOrigin.getD "").toList

variable {registry : Registry} {i : Issue} {placed : List Placed} {out : List Line}

theorem feeds_headerLine (i : Issue) :
    i.headerLine.feeds = Text.feeds (i.code.getD "").toList + Text.feeds i.message.toList := by
  have htag : Text.feeds i.severity.tag.toList = 0 :=
    Text.feeds_eq_zero.2 (Text.over_tag ne_feed_of_isDrawn i.severity)
  have hlabel : Text.feeds i.headerLabel.toList = Text.feeds (i.code.getD "").toList := by
    rw [headerLabel]
    cases i.code with
    | none => exact htag
    | some code =>
      simp only [String.toList_append, Text.feeds_append, htag]
      exact Nat.zero_add _
  rw [headerLine, Line.feeds_header, hlabel]

theorem feeds_locatedHeader (i : Issue) (placed : List Placed) :
    (i.locatedHeader placed).feeds = Text.feeds (i.code.getD "").toList + Text.feeds i.message.toList +
      Text.feeds (i.primaryOrigin.getD "").toList := by
  rw [locatedHeader]
  cases i.primaryOrigin with
  | none => exact feeds_headerLine i
  | some origin =>
    have hlocation : Text.feeds (i.locationIn origin placed).text.toList = 0 :=
      Text.feeds_eq_zero.2 (Text.over_position ne_feed_of_isDrawn _)
    have hcolon : Text.feeds ":".toList = 0 := rfl
    have hend : Text.feeds ": ".toList = 0 := rfl
    simp only [Line.feeds_cons, Segment.styled, String.toList_append, Text.feeds_append, hlocation, hcolon, hend,
      feeds_headerLine, Nat.add_zero, Option.getD_some]
    exact Nat.add_comm _ _

theorem sum_feeds_placed (hplace : i.place registry = .ok placed) :
    (i.origins.map fun origin => ((Block.here placed origin).map (·.subject.feeds)).sum).sum =
      (i.annotations.map Annotation.feeds).sum := by
  obtain ⟨range, -, hsubjects⟩ := allAnnotations_eq_ok.1 (subjects_of_place hplace)
  have hfibers := sum_fibers (f := fun p : Placed => p.subject.span.origin) (·.subject.feeds) i.nodup_origins
    fun p hp => origin_mem_origins hplace hp
  have hall : placed.map (·.subject.feeds) = (placed.map (·.subject)).map Annotation.feeds := by
    rw [List.map_map]
    rfl
  have hprimary : ((range.toList.map fun r => (⟨.primary, r, none⟩ : Annotation)).map Annotation.feeds).sum = 0 := by
    cases range <;> rfl
  rw [hall, hsubjects, List.map_append, List.sum_append, hprimary, Nat.add_zero] at hfibers
  exact hfibers

theorem feeds_blockLines (config : Config) (hplace : i.place registry = .ok placed) {sources : List Source}
    (hsources : List.Forall₂ (fun origin s => registry.lookup origin = .ok s) i.origins sources) :
    ((i.blockLines config (Glyphs.ofCharSet config.charset)
        (sources.map (Block.ofPlaced config i placed))).map Line.feeds).sum =
      (i.origins.map fun origin => Text.feeds origin.toList).sum + (i.annotations.map Annotation.feeds).sum := by
  let shown (origin : String) := Text.feeds origin.toList + ((Block.here placed origin).map (·.subject.feeds)).sum
  let blocks := sources.map (Block.ofPlaced config i placed)
  have hblock : ∀ x ∈ blocks.zipIdx, ((x.1.compose config (Glyphs.ofCharSet config.charset) i.severity
      (numberWidth blocks) (x.2 = 0)).map Line.feeds).sum = shown x.1.name := by
    intro x hx
    obtain ⟨s, hs, heq⟩ := List.mem_map.1 (List.fst_mem_of_mem_zipIdx hx)
    rw [← heq]
    exact Block.feeds_ofPlaced config i.severity _ i (place_eq_ok hplace).2.1
      (Registry.lookup_name_of_mem hsources hs) _
  have hnames : blocks.map (·.name) = i.origins := by
    rw [List.map_map]
    exact Registry.map_name_of_lookups hsources
  calc ((i.blockLines config (Glyphs.ofCharSet config.charset) blocks).map Line.feeds).sum
      = (blocks.zipIdx.map fun x => shown x.1.name).sum := by
        rw [blockLines, sum_map_flatMap]
        exact congrArg List.sum (List.map_congr_left hblock)
    _ = (i.origins.map shown).sum := by
        rw [← hnames, List.map_map, ← List.zipIdx_map_fst 0 blocks, List.map_map, List.zipIdx_map_fst]
        rfl
    _ = _ := by rw [List.sum_map_add, sum_feeds_placed hplace]

theorem feeds_lines (config : Config) (h : i.lines config registry = .ok out) :
    (out.map Line.feeds).sum = i.feeds config.style := by
  obtain ⟨placed, hplace⟩ := exists_place_of_lines h
  cases hstyle : config.style with
  | compact =>
    rw [lines_compact hstyle hplace] at h
    rw [← Except.ok.inj h, List.map_singleton, List.sum_singleton, feeds_locatedHeader, feeds]
  | comfortable =>
    rw [lines_comfortable hstyle hplace] at h
    rw [← Except.ok.inj h, List.map_cons, List.sum_cons, feeds_locatedHeader, noteLines, Line.feeds_notes]
    rfl
  | full =>
    obtain ⟨sources, hsources, hblocks⟩ := blocks_eq_ok config hplace
    have hgutter (width : Nat) : (Line.gutter (Glyphs.ofCharSet config.charset) width).feeds = 0 :=
      Line.feeds_eq_zero.2 (Line.over_gutter ne_feed_of_isDrawn config.charset width)
    rw [lines_full hstyle hplace hblocks] at h
    rw [← Except.ok.inj h, fullLines]
    simp only [List.map_append, List.sum_append, List.map_cons, List.sum_cons, feeds_headerLine,
      feeds_blockLines config hplace hsources, noteLines, Line.feeds_notes]
    split <;> simp [hgutter] <;> rfl

theorem exists_guttered (config : Config) (hstyle : config.style = .full) (hplace : i.place registry = .ok placed) :
    ∃ blocks, i.blocks config registry placed = .ok blocks ∧
      i.lines config registry = .ok (i.fullLines config blocks) ∧
      ∀ b ∈ blocks, b.Guttered config i.severity (numberWidth blocks) := by
  obtain ⟨sources, hsources, hblocks⟩ := blocks_eq_ok config hplace
  refine ⟨_, hblocks, lines_full hstyle hplace hblocks, fun b hb => ?_⟩
  have hwidth : ∀ l ∈ b.lines,
      (Nat.toDigits 10 l.number).length ≤ numberWidth (sources.map (Block.ofPlaced config i placed)) := by
    intro l hl
    rw [numberWidth_eq]
    exact Text.length_toDigits_mono (number_le_lastNumber hb hl)
  obtain ⟨s, hs, rfl⟩ := List.mem_map.1 hb
  have hlookup := Registry.lookup_name_of_mem hsources hs
  have hcomplete := Block.complete_ofPlaced config i (place_eq_ok hplace).2.1 hlookup
  exact hcomplete.guttered config i.severity _ hwidth

end Issue

end Diagnostics
