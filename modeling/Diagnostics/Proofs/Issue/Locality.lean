import Diagnostics.Proofs.Issue.Likeness
import Diagnostics.Proofs.Source.Agreement

namespace Diagnostics

namespace Placed

variable {registry : Registry} {p : Placed}

theorem lines_shapeOf (p : Placed) (tab tab' : Nat) : (p.shapeOf tab).lines = (p.shapeOf tab').lines := by
  rw [shapeOf, shapeOf]
  split
  · rfl
  · rfl

theorem start_line_mem (p : Placed) (tab : Nat) : p.span.start.line ∈ (p.shapeOf tab).lines := by
  rw [shapeOf]
  split
  · simp [Shape.lines, railOf]
  · simp [Shape.lines]

theorem IsFrom.stop_line_mem (h : p.IsFrom registry) (tab : Nat) : p.span.stop.line ∈ (p.shapeOf tab).lines := by
  obtain ⟨-, -, hle⟩ := h.hasPosition
  rw [shapeOf]
  split
  · simp [Shape.lines, railOf]
  · rename_i hsingle
    simp only [ResolvedSpan.isMultiline, decide_eq_true_eq] at hsingle
    simp only [Shape.lines, List.mem_singleton]
    omega

theorem shapeOf_source {s : Source} (tab : Nat)
    (hstart : s.shownText p.span.start.line = p.source.shownText p.span.start.line)
    (hstop : s.shownText p.span.stop.line = p.source.shownText p.span.stop.line) :
    ({ p with source := s } : Placed).shapeOf tab = p.shapeOf tab := by
  simp only [shapeOf, markOf, railOf, cells, hstart, hstop]

end Placed

namespace Block

theorem requestedBy_tab (tab tab' : Nat) (placed : List Placed) (origin : String) :
    requestedBy (shapesOf tab placed origin) = requestedBy (shapesOf tab' placed origin) := by
  rw [requestedBy, requestedBy, shapesOf, shapesOf, List.flatMap_map, List.flatMap_map]
  congr 2
  funext p
  exact p.lines_shapeOf tab tab'

end Block

namespace Issue

variable {registry registry' : Registry} {i : Issue} {placed : List Placed}

def shownOf (context : Nat) (placed : List Placed) (s : Source) : List Nat :=
  s.shownLines (Block.requestedBy (Block.shapesOf 1 placed s.name)) context

theorem shownOf_eq (config : Config) (placed : List Placed) (s : Source) :
    s.shownLines (Block.requestedBy (Block.shapesOf config.tabWidth placed s.name)) config.contextLines =
      shownOf config.contextLines placed s := by
  rw [shownOf, Block.requestedBy_tab config.tabWidth 1]

theorem numbers_ofOrigin (config : Config) (hplace : i.place registry = .ok placed) {origin : String} {s : Source}
    {b : Block} (hs : registry.lookup origin = .ok s) (hb : Block.ofOrigin config registry i placed origin = .ok b) :
    b.lines.map (·.number) = shownOf config.contextLines placed s := by
  rw [Block.ofOrigin_eq config i (place_eq_ok hplace).2.1 hs] at hb
  rw [← Except.ok.inj hb, ← shownOf_eq]
  exact Source.excerptLines_number _ _ _

theorem mem_shownOf (context : Nat) {p : Placed} (hfrom : p.IsFrom registry) (hp : p ∈ placed) :
    p.span.start.line ∈ shownOf context placed p.source ∧ p.span.stop.line ∈ shownOf context placed p.source := by
  obtain ⟨hstart, hstop, -⟩ := hfrom.hasPosition
  have hhere := Block.mem_here hfrom hp
  constructor
  · exact Source.requested_mem_shownLines context hstart.1 (Block.mem_requestedBy hhere (p.start_line_mem 1))
  · exact Source.requested_mem_shownLines context hstop.1 (Block.mem_requestedBy hhere (hfrom.stop_line_mem 1))

theorem exists_place_of_agreeOn (context : Nat) (hplace : i.place registry = .ok placed)
    (h : ∀ origin ∈ i.origins, ∃ s s', registry.lookup origin = .ok s ∧ registry'.lookup origin = .ok s' ∧
      s.AgreeOn (shownOf context placed s) s') :
    ∃ placed', i.place registry' = .ok placed' ∧
      List.Forall₂ (fun p p' => p'.subject = p.subject ∧ p'.span = p.span ∧ ∀ tab, p'.shapeOf tab = p.shapeOf tab)
        placed placed' := by
  rw [← mapRanges_id i]
  apply exists_place_mapRanges hplace
  intro p hp
  have hfrom := (place_eq_ok hplace).2.1 p hp
  have horigin := origin_mem_origins hplace hp
  obtain ⟨s, s', hs, hs', hagree⟩ := h _ horigin
  obtain rfl : p.source = s := Except.ok.inj (hfrom.lookup.symm.trans hs)
  obtain ⟨hstart, hstop⟩ := mem_shownOf context hfrom hp
  have hname : s'.name = p.source.name :=
    (Registry.name_of_lookup hs').trans (Registry.name_of_lookup hs).symm
  refine ⟨{ p with source := s' }, rfl, rfl, ⟨hs', ?_⟩, rfl, rfl, fun tab => ?_⟩
  · exact hagree.resolve hname p.subject.span.ordered hfrom.resolve hstart hstop
  · exact Placed.shapeOf_source tab (hagree.similar.shownText _ hstart) (hagree.similar.shownText _ hstop)

theorem lines_eq_of_agreeOn (config : Config) (hplace : i.place registry = .ok placed)
    (h : ∀ origin ∈ i.origins, ∃ s s', registry.lookup origin = .ok s ∧ registry'.lookup origin = .ok s' ∧
      s.AgreeOn (shownOf config.contextLines placed s) s') :
    i.lines config registry' = i.lines config registry := by
  obtain ⟨placed', hplace', halike⟩ := exists_place_of_agreeOn config.contextLines hplace h
  have hsites : placed'.map Placed.site = placed.map Placed.site :=
    map_eq_of_forall₂ (halike.imp fun p p' hp => by rw [Placed.site, Placed.site, hp.1, hp.2.1])
  have hid : ∀ range : ByteRange, (id range).origin = range.origin := fun _ => rfl
  rw [← mapRanges_id i] at hplace'
  have hlines := lines_mapRanges config hid hplace hplace' hsites
  have hblocks := blocks_mapRanges config hid hplace hplace' hsites
  rw [mapRanges_id] at hlines hblocks
  apply hlines
  intro _
  apply hblocks
  · intro origin _
    exact Block.shapesOf_eq (halike.imp fun p p' hp => ⟨by rw [hp.1], hp.2.2 _⟩) origin
  · intro origin ho
    obtain ⟨s, s', hs, hs', hagree⟩ := h origin ho
    refine ⟨s, s', hs, hs', ?_⟩
    rw [← Registry.name_of_lookup hs, shownOf_eq]
    exact hagree.similar

theorem lines_eq_of_shown (registry registry' : Registry) (i : Issue) (placed : List Placed) (shown : Config)
    (hplace : i.place registry = .ok placed)
    (hshown : ∀ origin ∈ i.origins, ∃ s s' b,
      registry.lookup origin = .ok s ∧ registry'.lookup origin = .ok s' ∧
      Block.ofOrigin shown registry i placed origin = .ok b ∧ s.AgreeOn (b.lines.map (·.number)) s') :
    (∃ placed', i.place registry' = .ok placed') ∧
      ∀ config : Config, config.contextLines = shown.contextLines →
        ∃ out, i.lines config registry = .ok out ∧ i.lines config registry' = .ok out := by
  have hagree : ∀ origin ∈ i.origins, ∃ s s',
      registry.lookup origin = .ok s ∧ registry'.lookup origin = .ok s' ∧
      s.AgreeOn (shownOf shown.contextLines placed s) s' := by
    intro origin ho
    obtain ⟨s, s', b, hs, hs', hb, hlines⟩ := hshown origin ho
    rw [numbers_ofOrigin shown hplace hs hb] at hlines
    exact ⟨s, s', hs, hs', hlines⟩
  constructor
  · obtain ⟨placed', hplace', -⟩ := exists_place_of_agreeOn shown.contextLines hplace hagree
    exact ⟨placed', hplace'⟩
  · intro config hcontext
    obtain ⟨out, hout⟩ := exists_lines config hplace
    rw [← hcontext] at hagree
    exact ⟨out, hout, by rw [lines_eq_of_agreeOn config hplace hagree, hout]⟩

theorem lines_eq_of_shown_feed :
    let registry : Registry := ⟨[⟨"a", "ab\ncd\n"⟩], List.nodup_singleton _⟩
    let registry' : Registry := ⟨[⟨"b", "x"⟩, ⟨"a", "ab\nef\n"⟩], by decide⟩
    let i : Issue := ⟨.error, "", none, some ⟨"a", 0, 3⟩, [], []⟩
    let config : Config := { Config.initial with context := .int 0, context_nonneg := Int.le_refl 0 }
    ∃ placed, i.place registry = .ok placed ∧
      ∃ out, i.lines config registry = .ok out ∧ i.lines config registry' = .ok out := by
  intro registry registry' i config
  refine ⟨_, rfl, (lines_eq_of_shown registry registry' i _ config rfl ?_).2 _ rfl⟩
  intro origin ho
  obtain rfl : origin = "a" := List.mem_singleton.1 ho
  refine ⟨⟨"a", "ab\ncd\n"⟩, ⟨"a", "ab\nef\n"⟩,
    ⟨"a", ⟨1, 1⟩, [1], [⟨1, ['a', 'b'], false⟩], [(1, ⟨0, 2, .primary, none, 0⟩)], []⟩, rfl, rfl, rfl, ?_⟩
  exact ⟨by decide, by decide, by decide⟩

end Issue

end Diagnostics
