import Diagnostics.Proofs.Issue.Placement
import Diagnostics.Proofs.Source.Excerpt

namespace Diagnostics

namespace Placed

variable {registry : Registry} {p : Placed}

theorem IsFrom.hasPosition (h : p.IsFrom registry) :
    p.source.HasPosition p.span.start ∧ p.source.HasPosition p.span.stop
      ∧ p.span.start.line ≤ p.span.stop.line :=
  Source.hasPosition_of_resolve p.subject.span.ordered h.resolve

def cells (p : Placed) (tab line chars : Nat) : Nat := Text.width tab ((p.source.shownText line).take chars)

theorem cells_eq (tab chars : Nat) {line : Nat} {text : List Char} (h : text = p.source.shownText line) :
    Text.width tab (Text.expandTabs tab (text.take chars)) = p.cells tab line chars := by
  rw [Text.width_expandTabs, h, cells]

theorem cellsBefore_eq (tab chars : Nat) {line : Nat} (h : 1 ≤ line ∧ line ≤ p.source.lineCount) :
    p.cellsBefore tab line chars = .ok (p.cells tab line chars) := by
  rw [cellsBefore, Source.lineText_of_line h]
  rfl

def markOf (tab : Nat) (p : Placed) : Mark :=
  .new (p.cells tab p.span.start.line (p.span.start.column - 1))
    (p.cells tab p.span.start.line (p.span.stop.column - 1)) p.subject.weight p.subject.label p.order

def railOf (tab : Nat) (p : Placed) : Rail :=
  ⟨p.span.start.line, p.cells tab p.span.start.line (p.span.start.column - 1), p.span.stop.line,
    p.cells tab p.span.stop.line (p.span.stop.column - 2), p.subject.weight, p.subject.label, p.order⟩

def shapeOf (tab : Nat) (p : Placed) : Shape :=
  if p.span.isMultiline then .rail (p.railOf tab) else .mark p.span.start.line (p.markOf tab)

theorem shape_of_resolve (h : p.source.resolve p.subject.span.start p.subject.span.stop = .ok p.span) (tab : Nat) :
    p.shape tab = .ok (p.shapeOf tab) := by
  obtain ⟨hstart, hstop, -⟩ := Source.hasPosition_of_resolve p.subject.span.ordered h
  have hfirst := cellsBefore_eq tab (p.span.start.column - 1) hstart.1
  rw [shape, hfirst, shapeOf]
  split
  · rw [cellsBefore_eq tab _ hstop.1]
    rfl
  · rw [cellsBefore_eq tab _ hstart.1]
    rfl

theorem IsFrom.shape_eq (h : p.IsFrom registry) (tab : Nat) : p.shape tab = .ok (p.shapeOf tab) :=
  shape_of_resolve h.resolve tab

theorem IsFrom.mem_lines (h : p.IsFrom registry) {tab line : Nat} (hline : line ∈ (p.shapeOf tab).lines) :
    1 ≤ line ∧ line ≤ p.source.lineCount := by
  obtain ⟨hstart, hstop, -⟩ := h.hasPosition
  rw [shapeOf] at hline
  split at hline
  · rcases List.mem_cons.1 hline with rfl | hline
    · exact hstart.1
    · obtain rfl := List.mem_singleton.1 hline
      exact hstop.1
  · obtain rfl := List.mem_singleton.1 hline
    exact hstart.1

end Placed

namespace Block

def here (placed : List Placed) (origin : String) : List Placed :=
  placed.filter (·.subject.span.origin = origin)

def shapesOf (tab : Nat) (placed : List Placed) (origin : String) : List Shape :=
  (here placed origin).map (·.shapeOf tab)

def requestedBy (shapes : List Shape) : List Int := (shapes.flatMap Shape.lines).map fun n : Nat => (n : Int)

def ofPlaced (config : Config) (i : Issue) (placed : List Placed) (s : Source) : Block :=
  let shapes := shapesOf config.tabWidth placed s.name
  { name := s.name
    location := i.locationIn s.name placed
    requested := requestedLines (requestedBy shapes)
    lines := s.excerptLines (requestedBy shapes) config.contextLines
    marks := shapes.filterMap Shape.mark?
    rails := arrangeRails (shapes.filterMap Shape.rail?) }

variable {registry : Registry} {placed : List Placed} {origin : String} {s : Source}

theorem source_of_mem_here (h : ∀ p ∈ placed, p.IsFrom registry) (hs : registry.lookup origin = .ok s)
    {p : Placed} (hp : p ∈ here placed origin) : p.source = s := by
  obtain ⟨hmem, horigin⟩ := List.mem_filter.1 hp
  have hlookup := (h p hmem).lookup
  rw [of_decide_eq_true horigin, hs] at hlookup
  exact (Except.ok.inj hlookup).symm

theorem mem_here {p : Placed} (hfrom : p.IsFrom registry) (hp : p ∈ placed) : p ∈ here placed p.source.name :=
  List.mem_filter.2 ⟨hp, decide_eq_true (Registry.name_of_lookup hfrom.lookup).symm⟩

theorem mem_requestedBy {p : Placed} {tab line : Nat} (hp : p ∈ here placed origin)
    (hline : line ∈ (p.shapeOf tab).lines) : (line : Int) ∈ requestedBy (shapesOf tab placed origin) :=
  List.mem_map_of_mem (List.mem_flatMap.2 ⟨_, List.mem_map_of_mem hp, hline⟩)

theorem requestedBy_bounds (h : ∀ p ∈ placed, p.IsFrom registry) (hs : registry.lookup origin = .ok s)
    (tab : Nat) : ∀ r ∈ requestedBy (shapesOf tab placed origin), 1 ≤ r ∧ r ≤ s.lineCount := by
  intro r hr
  obtain ⟨line, hline, rfl⟩ := List.mem_map.1 hr
  obtain ⟨shape, hshape, hline⟩ := List.mem_flatMap.1 hline
  obtain ⟨p, hp, rfl⟩ := List.mem_map.1 hshape
  have hbounds := (h p (List.mem_of_mem_filter hp)).mem_lines hline
  rw [source_of_mem_here h hs hp] at hbounds
  omega

theorem ofOrigin_eq (config : Config) (i : Issue) (h : ∀ p ∈ placed, p.IsFrom registry)
    (hs : registry.lookup origin = .ok s) :
    ofOrigin config registry i placed origin = .ok (ofPlaced config i placed s) := by
  obtain rfl := Registry.name_of_lookup hs
  have hshapes : (here placed s.name).mapM (·.shape config.tabWidth) =
      .ok (shapesOf config.tabWidth placed s.name) :=
    mapM_eq_map fun p hp => (h p (List.mem_of_mem_filter hp)).shape_eq config.tabWidth
  have hexcerpt := Source.excerpt_eq config.contextLines (requestedBy_bounds h hs config.tabWidth)
  rw [here] at hshapes
  rw [ofOrigin, hs]
  simp only [bind, Except.bind, hshapes]
  rw [requestedBy] at hexcerpt
  rw [hexcerpt]
  rfl

theorem mem_numbers_ofPlaced (config : Config) (i : Issue) (h : ∀ p ∈ placed, p.IsFrom registry)
    (hs : registry.lookup s.name = .ok s) {line : Nat}
    (hline : (line : Int) ∈ requestedBy (shapesOf config.tabWidth placed s.name)) :
    line ∈ (ofPlaced config i placed s).lines.map (·.number) := by
  have hbounds := requestedBy_bounds h hs config.tabWidth line hline
  rw [ofPlaced, Source.excerptLines_number]
  exact Source.requested_mem_shownLines config.contextLines (by omega) hline

theorem marks_ofPlaced (config : Config) (i : Issue) (placed : List Placed) (s : Source) :
    (ofPlaced config i placed s).marks = ((here placed s.name).filter (!·.span.isMultiline)).map
      fun p => (p.span.start.line, p.markOf config.tabWidth) := by
  rw [ofPlaced]
  simp only [shapesOf]
  induction here placed s.name with
  | nil => rfl
  | cons p ps ih =>
    rw [List.map_cons, Placed.shapeOf]
    split
    · rename_i hmulti
      rw [List.filterMap_cons_none rfl, ih, List.filter_cons_of_neg (by simp [hmulti])]
    · rename_i hsingle
      have hmark : (Shape.mark p.span.start.line (p.markOf config.tabWidth)).mark? =
          some (p.span.start.line, p.markOf config.tabWidth) := rfl
      rw [List.filterMap_cons_some hmark, ih, List.filter_cons_of_pos (by simp [hsingle]), List.map_cons]

def across (placed : List Placed) (origin : String) : List Placed := (here placed origin).filter (·.span.isMultiline)

theorem rails_ofPlaced (config : Config) (i : Issue) (placed : List Placed) (s : Source) :
    (ofPlaced config i placed s).rails = arrangeRails ((across placed s.name).map (·.railOf config.tabWidth)) := by
  have hrails (ps : List Placed) : (ps.map (·.shapeOf config.tabWidth)).filterMap Shape.rail? =
      (ps.filter (·.span.isMultiline)).map (·.railOf config.tabWidth) := by
    induction ps with
    | nil => rfl
    | cons p ps ih =>
      rw [List.map_cons, Placed.shapeOf]
      split
      · rename_i hmulti
        have hrail : (Shape.rail (p.railOf config.tabWidth)).rail? = some (p.railOf config.tabWidth) := rfl
        rw [List.filterMap_cons_some hrail, ih, List.filter_cons_of_pos (by simp [hmulti]), List.map_cons]
      · rename_i hsingle
        rw [List.filterMap_cons_none rfl, ih, List.filter_cons_of_neg (by simp [hsingle])]
  exact congrArg arrangeRails (hrails (here placed s.name))

def within (placed : List Placed) (origin : String) (line : Nat) : List Placed :=
  (here placed origin).filter fun p => !p.span.isMultiline && p.span.start.line = line

theorem marksOn_ofPlaced (config : Config) (i : Issue) (placed : List Placed) (s : Source) (line : Nat) :
    (ofPlaced config i placed s).marksOn line =
      (within placed s.name line).map (·.markOf config.tabWidth) := by
  rw [marksOn, marks_ofPlaced, List.filter_map, List.map_map, List.filter_filter, within]
  refine congrArg _ (List.filter_congr fun p _ => ?_)
  exact Bool.and_comm _ _

end Block

end Diagnostics
