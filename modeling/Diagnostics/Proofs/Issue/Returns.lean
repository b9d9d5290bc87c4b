import Diagnostics.Proofs.Issue.Likeness
import Diagnostics.Proofs.Source.Returns

namespace Diagnostics

namespace Registry

def withReturns (r : Registry) : Registry where
  sources := r.sources.map (·.withReturns)
  distinct := by
    rw [List.map_map]
    exact r.distinct

theorem lookup_withReturns {r : Registry} {origin : String} {s : Source} (h : r.lookup origin = .ok s) :
    r.withReturns.lookup origin = .ok s.withReturns := by
  rw [lookup_eq_ok, get?] at h ⊢
  have hname : ((·.name = origin) ∘ Source.withReturns) = fun s : Source => s.name = origin := rfl
  simp only [withReturns, List.find?_map]
  exact congrArg (Option.map Source.withReturns) h

def shiftRange (r : Registry) (range : ByteRange) : ByteRange :=
  match r.get? range.origin with
  | some s => ⟨range.origin, s.shift range.start, s.shift range.stop, s.shift_mono range.ordered⟩
  | none => range

theorem origin_shiftRange (r : Registry) (range : ByteRange) : (r.shiftRange range).origin = range.origin := by
  rw [shiftRange]
  split
  · rfl
  · rfl

theorem shiftRange_of_lookup {r : Registry} {range : ByteRange} {s : Source} (h : r.lookup range.origin = .ok s) :
    r.shiftRange range = ⟨range.origin, s.shift range.start, s.shift range.stop, s.shift_mono range.ordered⟩ := by
  rw [shiftRange, lookup_eq_ok.1 h]

end Registry

namespace Placed

variable {p p' : Placed}

def EndsBehindFeed (p : Placed) : Prop := p.source.EndsBehindFeed p.subject.span.start p.subject.span.stop

instance (p : Placed) : Decidable p.EndsBehindFeed :=
  inferInstanceAs (Decidable (p.source.EndsBehindFeed _ _))

structure Returned (p p' : Placed) : Prop where
  origin : p'.subject.span.origin = p.subject.span.origin
  weight : p'.subject.weight = p.subject.weight
  label : p'.subject.label = p.subject.label
  order : p'.order = p.order
  source : p'.source = p.source.withReturns
  start : p'.span.start = p.span.start
  stop : p'.span.stop = if p.EndsBehindFeed then ⟨p.span.stop.line, p.span.stop.column + 1⟩ else p.span.stop

theorem Returned.site (h : Returned p p') : p'.site = p.site := by
  rw [Placed.site, Placed.site, h.origin, h.weight, h.start]

theorem Returned.line (h : Returned p p') : p'.span.stop.line = p.span.stop.line := by
  rw [h.stop]
  split
  · rfl
  · rfl

def returnedShape (tab : Nat) (p : Placed) : Shape :=
  if p.span.isMultiline ∧ p.EndsBehindFeed then
    .rail { p.railOf tab with endCell := p.cells tab p.span.stop.line (p.span.stop.column - 1) }
  else p.shapeOf tab

theorem Returned.shapeOf_eq (h : Returned p p') (hreturn : '\r' ∉ p.source.content.toList)
    (hcolumn : p.EndsBehindFeed → p.span.stop.column = (p.source.shownText p.span.stop.line).length + 1)
    (hle : p.span.start.line ≤ p.span.stop.line) (tab : Nat) : p'.shapeOf tab = p.returnedShape tab := by
  have hcells (line chars : Nat) : p'.cells tab line chars = p.cells tab line chars := by
    rw [cells, cells, h.source, Source.shownText_withReturns hreturn]
  have hmulti : p'.span.isMultiline = p.span.isMultiline := by
    rw [ResolvedSpan.isMultiline, ResolvedSpan.isMultiline, h.start, h.line]
  rw [shapeOf, returnedShape, shapeOf, hmulti]
  by_cases hfeed : p.EndsBehindFeed
  · have hstop : p'.span.stop.column = p.span.stop.column + 1 := by rw [h.stop, if_pos hfeed]
    by_cases hm : p.span.isMultiline
    · rw [if_pos hm, if_pos ⟨hm, hfeed⟩, railOf, railOf, h.start, h.line, h.weight, h.label, h.order, hcells, hcells,
        hstop]
      rfl
    · have hline : p.span.stop.line = p.span.start.line := by
        simp only [ResolvedSpan.isMultiline, decide_eq_true_eq] at hm
        omega
      have hlast := hcolumn hfeed
      rw [hline] at hlast
      -- A mark that reaches the end of its line covers no more cells if it ends behind that.
      have hend : p.cells tab p.span.start.line (p.span.stop.column + 1 - 1) =
          p.cells tab p.span.start.line (p.span.stop.column - 1) := by
        rw [cells, cells, List.take_of_length_le (by omega), List.take_of_length_le (by omega)]
      rw [if_neg hm, if_neg fun hboth => hm hboth.1, if_neg hm, markOf, markOf, h.start, h.weight, h.label, h.order,
        hcells, hcells, hstop, hend]
  · have hboth : ¬ (p.span.isMultiline ∧ p.EndsBehindFeed) := fun hboth => hfeed hboth.2
    have hstop : p'.span.stop = p.span.stop := by rw [h.stop, if_neg hfeed]
    simp only [if_neg hboth, railOf, markOf, h.start, hstop, h.weight, h.label, h.order, hcells]

/-- The last character of a rail takes no cell of its own, so that it closes on one cell in both sources. -/
def ClosesAlike (tab : Nat) (p : Placed) : Prop :=
  p.span.isMultiline → p.EndsBehindFeed →
    p.cells tab p.span.stop.line (p.span.stop.column - 1) = p.cells tab p.span.stop.line (p.span.stop.column - 2)

theorem returnedShape_eq {tab : Nat} (h : p.ClosesAlike tab) : p.returnedShape tab = p.shapeOf tab := by
  rw [returnedShape]
  split
  · rename_i hboth
    rw [shapeOf, if_pos hboth.1, h hboth.1 hboth.2]
    rfl
  · rfl

end Placed

namespace Issue

variable {registry : Registry} {i : Issue} {placed : List Placed}

def withReturns (registry : Registry) (i : Issue) : Issue := i.mapRanges registry.shiftRange

theorem return_notMem {p : Placed} (hreturn : ∀ s ∈ registry.sources, '\r' ∉ s.content.toList)
    (hfrom : p.IsFrom registry) : '\r' ∉ p.source.content.toList :=
  hreturn _ (List.mem_of_find?_eq_some (Registry.lookup_eq_ok.1 hfrom.lookup))

theorem exists_place_withReturns (hreturn : ∀ s ∈ registry.sources, '\r' ∉ s.content.toList)
    (hplace : i.place registry = .ok placed) :
    ∃ placed', (i.withReturns registry).place registry.withReturns = .ok placed' ∧
      List.Forall₂ (fun p p' => p.Returned p' ∧ ∀ tab, p'.shapeOf tab = p.returnedShape tab) placed placed' := by
  apply exists_place_mapRanges hplace
  intro p hp
  have hfrom := (place_eq_ok hplace).2.1 p hp
  have hsource := return_notMem hreturn hfrom
  obtain ⟨hcolumn, r', hr', hstart, hstop⟩ :=
    Source.resolve_withReturns hsource p.subject.span.ordered hfrom.resolve
  have hspan : (p.subject.mapRange registry.shiftRange).span = ⟨p.subject.span.origin,
      p.source.shift p.subject.span.start, p.source.shift p.subject.span.stop, _⟩ :=
    Registry.shiftRange_of_lookup hfrom.lookup
  have horigin := registry.origin_shiftRange p.subject.span
  have hreturned : p.Returned ⟨p.subject.mapRange registry.shiftRange, p.source.withReturns, r', p.order⟩ :=
    ⟨horigin, rfl, rfl, rfl, rfl, hstart, hstop⟩
  refine ⟨⟨p.subject.mapRange registry.shiftRange, p.source.withReturns, r', p.order⟩, rfl, rfl, ⟨?_, ?_⟩,
    hreturned, ?_⟩
  · rw [hspan]
    exact Registry.lookup_withReturns hfrom.lookup
  · rw [hspan]
    exact hr'
  · exact hreturned.shapeOf_eq hsource hcolumn hfrom.hasPosition.2.2

theorem lines_withReturns (registry : Registry) (i : Issue) (placed : List Placed)
    (hreturn : ∀ s ∈ registry.sources, '\r' ∉ s.content.toList) (hplace : i.place registry = .ok placed) :
    (∃ placed', (i.withReturns registry).place registry.withReturns = .ok placed' ∧
      List.Forall₂ (fun p p' => p.Returned p' ∧ ∀ tab, p'.shapeOf tab = p.returnedShape tab) placed placed') ∧
    ∀ config : Config, (config.style = .full → ∀ p ∈ placed, p.ClosesAlike config.tabWidth) →
      ∃ out, i.lines config registry = .ok out ∧
        (i.withReturns registry).lines config registry.withReturns = .ok out := by
  obtain ⟨placed', hplace', hreturned⟩ := exists_place_withReturns hreturn hplace
  refine ⟨⟨placed', hplace', hreturned⟩, fun config hclose => ?_⟩
  obtain ⟨out, hout⟩ := exists_lines config hplace
  refine ⟨out, hout, ?_⟩
  have horigin := registry.origin_shiftRange
  have hsites : placed'.map Placed.site = placed.map Placed.site :=
    map_eq_of_forall₂ (hreturned.imp fun p p' hp => hp.1.site)
  rw [← hout]
  apply lines_mapRanges config horigin hplace hplace' hsites
  intro hstyle
  apply blocks_mapRanges config horigin hplace hplace' hsites
  · intro origin _
    have hclosing := (List.forall₂_and_left _ _).2 ⟨hclose hstyle, hreturned⟩
    apply Block.shapesOf_eq
    apply hclosing.imp
    rintro p p' ⟨hp, hp', hshape⟩
    exact ⟨hp'.origin, by rw [hshape, Placed.returnedShape_eq hp]⟩
  · intro origin ho
    obtain ⟨s, hs⟩ := Registry.exists_lookup ((place_eq_ok hplace).1 origin ho)
    have hmem := List.mem_of_find?_eq_some (Registry.lookup_eq_ok.1 hs)
    exact ⟨s, s.withReturns, hs, Registry.lookup_withReturns hs, Source.similar_withReturns (hreturn s hmem) _⟩

theorem lines_withReturns_inside :
    (∀ s ∈ [(⟨"a", "ab\ncd\n"⟩ : Source)], '\r' ∉ s.content.toList) ∧
    ∃ placed, (Issue.mk .error "m" none (some ⟨"a", 0, 5⟩) [] []).place
        ⟨[⟨"a", "ab\ncd\n"⟩], List.nodup_singleton _⟩ = .ok placed ∧
      (∀ p ∈ placed, p.ClosesAlike 2) ∧
      ∃ out, (Issue.mk .error "m" none (some ⟨"a", 0, 5⟩) [] []).lines Config.initial
          ⟨[⟨"a", "ab\ncd\n"⟩], List.nodup_singleton _⟩ = .ok out ∧
        ((Issue.mk .error "m" none (some ⟨"a", 0, 5⟩) [] []).withReturns
          ⟨[⟨"a", "ab\ncd\n"⟩], List.nodup_singleton _⟩).lines Config.initial
          (Registry.withReturns ⟨[⟨"a", "ab\ncd\n"⟩], List.nodup_singleton _⟩) = .ok out := by
  have hreturn : ∀ s ∈ [(⟨"a", "ab\ncd\n"⟩ : Source)], '\r' ∉ s.content.toList := by decide
  have hclose : ∀ p ∈ [(⟨⟨.primary, ⟨"a", 0, 5, by decide⟩, none⟩, ⟨"a", "ab\ncd\n"⟩,
      ⟨"a", ⟨1, 1⟩, ⟨2, 3⟩, 0, 5, 0, 5⟩, 0⟩ : Placed)], p.ClosesAlike 2 := by
    intro p hp _ hfeed
    obtain rfl := List.mem_singleton.1 hp
    exact absurd hfeed (by decide)
  have hlines := (lines_withReturns ⟨[⟨"a", "ab\ncd\n"⟩], List.nodup_singleton _⟩
    ⟨.error, "m", none, some ⟨"a", 0, 5⟩, [], []⟩ _ hreturn rfl).2 Config.initial fun _ => hclose
  exact ⟨hreturn, _, rfl, hclose, hlines⟩

theorem lines_withReturns_feed :
    (∀ s ∈ [(⟨"a", "ab\ncd\n"⟩ : Source)], '\r' ∉ s.content.toList) ∧
    (∃ placed, (Issue.mk .error "m" none (some ⟨"a", 0, 6⟩) [] []).place
        ⟨[⟨"a", "ab\ncd\n"⟩], List.nodup_singleton _⟩ = .ok placed) ∧
    ((Issue.mk .error "m" none (some ⟨"a", 0, 6⟩) [] []).withReturns
        ⟨[⟨"a", "ab\ncd\n"⟩], List.nodup_singleton _⟩).lines Config.initial
          (Registry.withReturns ⟨[⟨"a", "ab\ncd\n"⟩], List.nodup_singleton _⟩) ≠
      (Issue.mk .error "m" none (some ⟨"a", 0, 6⟩) [] []).lines Config.initial
        ⟨[⟨"a", "ab\ncd\n"⟩], List.nodup_singleton _⟩ := by
  refine ⟨by decide, ⟨_, rfl⟩, ?_⟩
  intro h
  have hsome := congrArg Except.toOption h
  revert hsome
  decide +kernel

end Issue

end Diagnostics
