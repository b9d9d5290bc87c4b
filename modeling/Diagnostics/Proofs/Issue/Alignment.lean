import Diagnostics.Proofs.Block.Alignment
import Diagnostics.Proofs.Issue.Resolution

namespace Diagnostics

namespace Block

def Framed (config : Config) (severity : Severity) (width : Nat) (b : Block) : Prop :=
  let g := Glyphs.ofCharSet config.charset
  let border := [(g.border, some Style.border)]
  (∀ isFirst, b.compose config g severity width isFirst =
    Line.location config.charset width isFirst b.place :: Line.gutter g width :: b.lines.flatMap fun l =>
      (if l.gapBefore then [Line.gap config.charset width] else [])
        ++ b.sourceLine config g severity width l :: b.rowsBelow g severity width l.number) ∧
    (Line.gutter g width).ShowsAt config.tabWidth (width + 1) border ∧
    ∀ l ∈ b.lines,
      (∀ row ∈ b.sourceLine config g severity width l :: b.rowsBelow g severity width l.number,
        Line.ShowsAt config.tabWidth row (width + 1) border) ∧
      (l.text ≠ [] →
        (b.sourceLine config g severity width l).ShowsAt config.tabWidth (b.textColumn width)
          ((Text.expandTabs config.tabWidth l.text).map (·, none)))

def Marked (config : Config) (severity : Severity) (width : Nat) (placed : List Placed) (b : Block) : Prop :=
  let g := Glyphs.ofCharSet config.charset
  ∀ l ∈ b.lines,
    b.rowsBelow g severity width l.number =
      ((b.groups l.number).flatMap fun group =>
          b.markRow g severity width l.number group :: b.labelRows g severity width l.number group)
        ++ b.railRows g severity width l.number ∧
    (b.groups l.number).flatten.Perm ((within placed b.name l.number).map (·.markOf config.tabWidth)) ∧
    ∀ group ∈ b.groups l.number,
      Draws config.tabWidth (b.textColumn width) g severity group (b.markRow g severity width l.number group)

/-- One row of marks below a line shows the markers of an annotation, from the cell of its start up to the cell of
its end and nowhere else; the other rows of marks there show other annotations. -/
def Carets (config : Config) (severity : Severity) (width : Nat) (b : Block) (l : ExcerptLine) (p : Placed) :
    Prop :=
  let g := Glyphs.ofCharSet config.charset
  let first := Text.width config.tabWidth (Text.expandTabs config.tabWidth (l.text.take (p.span.start.column - 1)))
  let last := Text.width config.tabWidth (Text.expandTabs config.tabWidth (l.text.take (p.span.stop.column - 1)))
  ∃ before group after, b.groups l.number = before ++ group :: after ∧
    p.markOf config.tabWidth ∈ group ∧
    (∀ other ∈ before ++ after, ∀ m ∈ other, m.order ≠ p.order) ∧
    (∀ j, MarkRow.covering group j = some (p.markOf config.tabWidth) ↔ first ≤ j ∧ j < max last (first + 1)) ∧
    ∀ j, first ≤ j → j < max last (first + 1) →
      (b.markRow g severity width l.number group).ShowsAt config.tabWidth (b.textColumn width + j)
        [(g.caret p.subject.weight, some (Style.mark severity p.subject.weight))]

theorem framed {config : Config} (severity : Severity) {width : Nat} {b : Block}
    (h : ∀ l ∈ b.lines, (Nat.toDigits 10 l.number).length ≤ width) : b.Framed config severity width := by
  refine ⟨fun isFirst => rfl, ?_, fun l hl => ⟨fun row hrow => ?_, ?_⟩⟩
  · have hborder := (Line.isGutter_gutter (Glyphs.ofCharSet config.charset) width).showsAt_border
      config.tabWidth []
    rw [List.append_nil] at hborder
    exact hborder
  · rcases List.mem_cons.1 hrow with rfl | hrow
    · exact b.showsAt_border_sourceLine severity config _ config.tabWidth (h l hl)
    · obtain ⟨drawn, -, rfl⟩ := List.mem_map.1 hrow
      exact showsAt_border_markerLine config.charset severity config.tabWidth drawn
  · exact b.showsAt_text_sourceLine config.charset severity config config.tabWidth (h l hl)

variable {registry : Registry} {placed : List Placed} {p : Placed}

theorem exists_shownLine (config : Config) (i : Issue) (hfrom : p.IsFrom registry) (hp : p ∈ placed)
    (hsingle : p.span.isMultiline = false) :
    ∃ l, (ofPlaced config i placed p.source).lines.filter (·.number = p.span.start.line) = [l] ∧
      l.number = p.span.start.line ∧ l.text = p.source.shownText p.span.start.line := by
  have hshape : p.shapeOf config.tabWidth = .mark p.span.start.line (p.markOf config.tabWidth) := by
    rw [Placed.shapeOf, if_neg (by simp [hsingle])]
  have hrequested : (p.span.start.line : Int) ∈ requestedBy (shapesOf config.tabWidth placed p.source.name) := by
    refine mem_requestedBy (mem_here hfrom hp) ?_
    rw [hshape]
    exact List.mem_singleton_self _
  have hshown := Source.requested_mem_shownLines config.contextLines hfrom.hasPosition.1.1 hrequested
  have hnodup := p.source.nodup_shownLines (requestedBy (shapesOf config.tabWidth placed p.source.name))
    config.contextLines
  rw [← Source.excerptLines_number] at hshown hnodup
  obtain ⟨l, hl, hnumber, hfilter⟩ := exists_filter_eq_singleton hnodup hshown
  exact ⟨l, hfilter, hnumber, hnumber ▸ Source.excerptLines_text hl⟩

theorem markOf_mem_marksOn (config : Config) (i : Issue) (hfrom : p.IsFrom registry) (hp : p ∈ placed)
    (hsingle : p.span.isMultiline = false) :
    p.markOf config.tabWidth ∈ (ofPlaced config i placed p.source).marksOn p.span.start.line := by
  rw [marksOn_ofPlaced]
  exact List.mem_map_of_mem (List.mem_filter.2 ⟨mem_here hfrom hp, by simp [hsingle]⟩)

theorem packed_groups (config : Config) (i : Issue) (placed : List Placed) (s : Source) (line : Nat) :
    Packed ((ofPlaced config i placed s).groups line) := by
  refine packed_packMarks fun m hm => ?_
  rw [marksOn_ofPlaced] at hm
  obtain ⟨q, -, rfl⟩ := List.mem_map.1 hm
  exact Mark.start_lt_stop_new _ _ _ _ _

theorem marked_ofPlaced (config : Config) (severity : Severity) (width : Nat) (i : Issue) (placed : List Placed)
    (s : Source) : (ofPlaced config i placed s).Marked config severity width placed := by
  intro l _
  refine ⟨rowsBelow_eq _ severity width _ l.number, ?_, fun group hgroup => ?_⟩
  · rw [groups, marksOn_ofPlaced]
    exact packMarks_perm _
  · obtain ⟨hne, hspaced⟩ := packed_groups config i placed s l.number group hgroup
    exact draws_markRow config.charset severity _ config.tabWidth l.number hspaced hne

theorem orders_marksOn (config : Config) (i : Issue) (s : Source) (line : Nat)
    (h : (placed.map (·.order)).Nodup) :
    (((ofPlaced config i placed s).marksOn line).map (·.order)).Nodup := by
  have hsub : (within placed s.name line).Sublist placed :=
    List.filter_sublist.trans List.filter_sublist
  rw [marksOn_ofPlaced, List.map_map]
  exact (hsub.map (·.order)).nodup h

theorem carets_ofPlaced (config : Config) (severity : Severity) (width : Nat) (i : Issue) {l : ExcerptLine}
    (hfrom : p.IsFrom registry) (horders : (placed.map (·.order)).Nodup) (hp : p ∈ placed)
    (hsingle : p.span.isMultiline = false) (hnumber : l.number = p.span.start.line)
    (htext : l.text = p.source.shownText p.span.start.line) :
    (ofPlaced config i placed p.source).Carets config severity width l p := by
  obtain ⟨before, group, after, hrows, hmem, hother⟩ :=
    exists_group (orders_marksOn config i p.source p.span.start.line horders)
      (markOf_mem_marksOn config i hfrom hp hsingle)
  have hgroups : (ofPlaced config i placed p.source).groups l.number = before ++ group :: after := by
    rw [groups, hnumber, hrows]
  obtain ⟨hne, hspaced⟩ := packed_groups config i placed p.source l.number group
    (hgroups ▸ List.mem_append_right _ (List.mem_cons_self ..))
  have hcovering (j : Nat) : MarkRow.covering group j = some (p.markOf config.tabWidth) ↔
      p.cells config.tabWidth p.span.start.line (p.span.start.column - 1) ≤ j ∧
        j < max (p.cells config.tabWidth p.span.start.line (p.span.stop.column - 1))
          (p.cells config.tabWidth p.span.start.line (p.span.start.column - 1) + 1) := by
    rw [MarkRow.covering_eq_some hspaced hmem, Placed.markOf, Mark.stop_new]
    rfl
  have hdraws : Draws config.tabWidth ((ofPlaced config i placed p.source).textColumn width)
      (Glyphs.ofCharSet config.charset) severity group
      ((ofPlaced config i placed p.source).markRow (Glyphs.ofCharSet config.charset) severity width l.number group) :=
    draws_markRow config.charset severity _ config.tabWidth l.number hspaced hne
  rw [Carets, Placed.cells_eq _ _ htext, Placed.cells_eq _ _ htext]
  refine ⟨before, group, after, hgroups, hmem, hother, hcovering, fun j hfirst hlast => ?_⟩
  exact hdraws.2 j _ ((hcovering j).2 ⟨hfirst, hlast⟩)

end Block

theorem foldl_max (l : List Nat) (a : Nat) : l.foldl max a = max a (l.foldl max 0) := by
  induction l generalizing a with
  | nil => simp
  | cons n l ih => rw [List.foldl_cons, List.foldl_cons, ih (max a n), ih (max 0 n), Nat.zero_max, Nat.max_assoc]

theorem le_foldl_max {l : List Nat} {n : Nat} (h : n ∈ l) : n ≤ l.foldl max 0 := by
  induction l with
  | nil => cases h
  | cons m l ih =>
    rw [List.foldl_cons, foldl_max, Nat.zero_max]
    rcases List.mem_cons.1 h with rfl | h
    · exact Nat.le_max_left _ _
    · exact Nat.le_trans (ih h) (Nat.le_max_right _ _)

theorem foldl_max_map {f : Nat → Nat} (hf : ∀ {a b}, a ≤ b → f a ≤ f b) (l : List Nat) (a : Nat) :
    (l.map f).foldl max (f a) = f (l.foldl max a) := by
  induction l generalizing a with
  | nil => rfl
  | cons n l ih =>
    have hmax : max (f a) (f n) = f (max a n) := by
      rcases Nat.le_total a n with h | h
      · rw [Nat.max_eq_right h, Nat.max_eq_right (hf h)]
      · rw [Nat.max_eq_left h, Nat.max_eq_left (hf h)]
    rw [List.map_cons, List.foldl_cons, hmax, ih, List.foldl_cons]

namespace Issue

def lastNumber (blocks : List Block) : Nat := (blocks.flatMap fun b => b.lines.map (·.number)).foldl max 0

theorem lastNumber_eq (blocks : List Block) : lastNumber blocks = (blocks.map Block.lastNumber).foldl max 0 := by
  induction blocks with
  | nil => rfl
  | cons b blocks ih =>
    rw [lastNumber] at ih ⊢
    rw [List.flatMap_cons, List.foldl_append, foldl_max, ih, List.map_cons, List.foldl_cons,
      foldl_max _ (max 0 _), Nat.zero_max]
    rfl

theorem numberWidth_eq (blocks : List Block) :
    numberWidth blocks = (Nat.toDigits 10 (lastNumber blocks)).length := by
  have hwidths : blocks.map Block.numberWidth =
      (blocks.map Block.lastNumber).map fun n => (Nat.toDigits 10 n).length := by
    rw [List.map_map]
    exact List.map_congr_left fun b _ => Text.length_toString b.lastNumber
  rw [numberWidth, hwidths, lastNumber_eq]
  exact foldl_max_map Text.length_toDigits_mono (blocks.map Block.lastNumber) 0

theorem number_le_lastNumber {blocks : List Block} {b : Block} {l : ExcerptLine} (hb : b ∈ blocks)
    (hl : l ∈ b.lines) : l.number ≤ lastNumber blocks :=
  le_foldl_max (List.mem_flatMap.2 ⟨b, hb, List.mem_map_of_mem hl⟩)

theorem orders_of_place {registry : Registry} {i : Issue} {placed : List Placed}
    (h : i.place registry = .ok placed) : (placed.map (·.order)).Nodup := by
  obtain ⟨-, -, as, -, horders⟩ := place_eq_ok h
  have hsnd := congrArg (List.map Prod.snd) horders
  rw [List.map_map, List.zipIdx_map_snd] at hsnd
  have hnodup : (List.range' 0 as.length).Nodup := List.nodup_range'
  rw [← hsnd] at hnodup
  exact hnodup

theorem exists_fullLines (config : Config) (i : Issue) (blocks : List Block) :
    ∃ rest, i.fullLines config blocks = i.headerLine ::
      (blocks.zipIdx.flatMap fun (b, k) =>
        b.compose config (Glyphs.ofCharSet config.charset) i.severity (numberWidth blocks) (k = 0)) ++ rest := by
  rw [fullLines, blockLines]
  simp only [List.append_assoc, List.cons_append]
  exact ⟨_, rfl⟩

theorem filter_blocks (config : Config) {registry : Registry} {i : Issue} {placed : List Placed}
    {sources : List Source} (hplace : i.place registry = .ok placed)
    (hsources : List.Forall₂ (fun origin s => registry.lookup origin = .ok s) i.origins sources) {p : Placed}
    (hp : p ∈ placed) :
    (sources.map (Block.ofPlaced config i placed)).filter (·.name = p.subject.span.origin) =
      [Block.ofPlaced config i placed p.source] := by
  have hnames : (sources.map (Block.ofPlaced config i placed)).map (·.name) = i.origins := by
    rw [List.map_map]
    exact Registry.map_name_of_lookups hsources
  have hmem := origin_mem_origins hplace hp
  have hnodup := i.nodup_origins
  rw [← hnames] at hmem hnodup
  obtain ⟨b, hb, hname, hfilter⟩ := exists_filter_eq_singleton hnodup hmem
  obtain ⟨s, hs, rfl⟩ := List.mem_map.1 hb
  obtain ⟨origin, -, hlookup⟩ := exists_of_mem_right hsources hs
  have horigin : origin = p.subject.span.origin := (Registry.name_of_lookup hlookup).symm.trans hname
  have hsource := ((place_eq_ok hplace).2.1 p hp).lookup
  rw [← horigin, hlookup] at hsource
  rw [hfilter, Except.ok.inj hsource]

end Issue

end Diagnostics
