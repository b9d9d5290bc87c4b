import Diagnostics.Issue.Composition
import Diagnostics.Proofs.Block.Placed

namespace Diagnostics

def Source.Legible (s : Source) : Prop :=
  ∀ line : Nat, 1 ≤ line → line ≤ s.lineCount →
    ∃ start stop text, s.lineRange ((line : Int) - 1) = .ok (start, stop)
      ∧ Text.Utf8.decode (slice start stop s.data) = .ok text

theorem Source.legible (s : Source) : s.Legible := by
  intro line hfirst hlast
  obtain ⟨hi, hline⟩ := index_of_line ⟨hfirst, hlast⟩
  refine ⟨_, _, dropReturn s.rows[line - 1], hline ▸ lineRange_eq hi, ?_⟩
  rw [slice_line hi (dropReturn_isPrefix _), Text.Utf8.decode_encode]

theorem Registry.map_name_of_lookups {registry : Registry} {origins : List String} {sources : List Source}
    (h : List.Forall₂ (fun origin s => registry.lookup origin = .ok s) origins sources) :
    sources.map (·.name) = origins := by
  have hname := h.imp (S := fun origin s => origin = s.name) fun origin s hs => (name_of_lookup hs).symm
  rw [← List.forall₂_map_right_iff (f := fun s : Source => s.name), List.forall₂_eq_eq_eq] at hname
  exact hname.symm

theorem Registry.lookup_name_of_mem {registry : Registry} {origins : List String} {sources : List Source}
    (h : List.Forall₂ (fun origin s => registry.lookup origin = .ok s) origins sources) {s : Source}
    (hs : s ∈ sources) : registry.lookup s.name = .ok s := by
  obtain ⟨origin, -, hlookup⟩ := exists_of_mem_right h hs
  rwa [name_of_lookup hlookup]

namespace Issue

variable {registry : Registry} {i : Issue} {placed : List Placed}

theorem blocks_eq_ok (config : Config) (h : i.place registry = .ok placed) :
    ∃ sources, List.Forall₂ (fun origin s => registry.lookup origin = .ok s) i.origins sources
      ∧ i.blocks config registry placed = .ok (sources.map (Block.ofPlaced config i placed)) := by
  obtain ⟨sources, hsources, -⟩ := bind_ok.1 h
  rw [mapM_eq_ok] at hsources
  refine ⟨sources, hsources, mapM_eq_ok.2 ?_⟩
  rw [List.forall₂_map_right_iff]
  exact hsources.imp fun origin s hs => Block.ofOrigin_eq config i (place_eq_ok h).2.1 hs

theorem subjects_of_place (h : i.place registry = .ok placed) : i.allAnnotations = .ok (placed.map (·.subject)) := by
  obtain ⟨-, -, as, has, horders⟩ := place_eq_ok h
  have hfst := congrArg (List.map Prod.fst) horders
  rw [List.map_map, List.zipIdx_map_fst] at hfst
  exact has.trans (congrArg _ hfst.symm)

theorem origin_mem_origins (h : i.place registry = .ok placed) {p : Placed} (hp : p ∈ placed) :
    p.subject.span.origin ∈ i.origins := by
  exact (mem_origins_of_allAnnotations (subjects_of_place h)).2 ⟨p.subject, List.mem_map_of_mem hp, rfl⟩

theorem here_ne_nil (h : i.place registry = .ok placed) {origin : String} (ho : origin ∈ i.origins) :
    Block.here placed origin ≠ [] := by
  obtain ⟨a, ha, horigin⟩ := (mem_origins_of_allAnnotations (subjects_of_place h)).1 ho
  obtain ⟨p, hp, rfl⟩ := List.mem_map.1 ha
  exact List.ne_nil_of_mem (List.mem_filter.2 ⟨hp, decide_eq_true horigin⟩)

theorem anchor_of_mem_origins (h : i.place registry = .ok placed) {origin : String} (ho : origin ∈ i.origins) :
    ∃ p, i.anchor origin placed = some p ∧ p ∈ Block.here placed origin := by
  have hne := here_ne_nil h ho
  rw [Block.here] at hne ⊢
  rw [anchor]
  generalize placed.filter (·.subject.span.origin = origin) = here at hne ⊢
  split
  · exact ⟨_, List.getLast?_eq_some_getLast hne, List.getLast_mem hne⟩
  · cases hfind : here.find? (·.subject.isPrimary) with
    | some p => exact ⟨p, rfl, List.mem_of_find?_eq_some hfind⟩
    | none => exact ⟨here.head hne, List.head?_eq_some_head hne, List.head_mem hne⟩

theorem lines_compact {config : Config} (hstyle : config.style = .compact) (h : i.place registry = .ok placed) :
    i.lines config registry = .ok [i.locatedHeader placed] := by
  rw [lines, h]
  simp only [bind, Except.bind, hstyle]

theorem lines_comfortable {config : Config} (hstyle : config.style = .comfortable)
    (h : i.place registry = .ok placed) :
    i.lines config registry =
      .ok (i.locatedHeader placed :: i.noteLines (Glyphs.ofCharSet config.charset) 2) := by
  rw [lines, h]
  simp only [bind, Except.bind, hstyle]

theorem lines_full {config : Config} (hstyle : config.style = .full) {bs : List Block}
    (h : i.place registry = .ok placed) (hblocks : i.blocks config registry placed = .ok bs) :
    i.lines config registry = .ok (i.fullLines config bs) := by
  rw [lines, h]
  simp only [bind, Except.bind, hstyle, hblocks]

theorem exists_lines (config : Config) (h : i.place registry = .ok placed) :
    ∃ out, i.lines config registry = .ok out := by
  obtain ⟨sources, -, hblocks⟩ := blocks_eq_ok config h
  cases hstyle : config.style with
  | compact => exact ⟨_, lines_compact hstyle h⟩
  | comfortable => exact ⟨_, lines_comfortable hstyle h⟩
  | full => exact ⟨_, lines_full hstyle h hblocks⟩

theorem faultOf_lines_eq_place (config : Config) (registry : Registry) (i : Issue) :
    faultOf (i.lines config registry) = faultOf (i.place registry) := by
  cases hplace : i.place registry with
  | error e =>
    rw [lines, hplace]
    rfl
  | ok placed =>
    obtain ⟨out, hout⟩ := exists_lines config hplace
    rw [hout, faultOf_ok, faultOf_ok]

theorem exists_place_of_lines {config : Config} {out : List Line} (h : i.lines config registry = .ok out) :
    ∃ placed, i.place registry = .ok placed := by
  rw [← faultOf_eq_none, ← faultOf_lines_eq_place config, h, faultOf_ok]

theorem faultOf_lines (config : Config) (registry : Registry) (i : Issue) :
    faultOf (i.lines config registry) = i.fault? registry ∧
      ∀ placed, i.place registry = .ok placed →
        i.allAnnotations = .ok (placed.map (·.subject)) ∧
        (∀ origin ∈ i.origins, ∃ p, i.anchor origin placed = some p ∧ p.subject.span.origin = origin) ∧
        ∀ p ∈ placed, p.subject.span.origin ∈ i.origins ∧ p.source.HasPosition p.span.start ∧
          p.source.HasPosition p.span.stop ∧ p.span.start.line ≤ p.span.stop.line ∧ p.source.Legible := by
  refine ⟨by rw [faultOf_lines_eq_place, faultOf_place], ?_⟩
  intro placed h
  refine ⟨subjects_of_place h, fun origin ho => ?_, fun p hp => ?_⟩
  · obtain ⟨p, hanchor, hp⟩ := anchor_of_mem_origins h ho
    exact ⟨p, hanchor, of_decide_eq_true (List.mem_filter.1 hp).2⟩
  · obtain ⟨hstart, hstop, hle⟩ := ((place_eq_ok h).2.1 p hp).hasPosition
    exact ⟨origin_mem_origins h hp, hstart, hstop, hle, p.source.legible⟩

theorem faultOf_lines_accented :
    ∃ placed, (Issue.mk .error "" none (some ⟨"a", 0, 2⟩) [] []).place
        ⟨[⟨"a", "é\n"⟩], List.nodup_singleton _⟩ = .ok placed ∧
      (Issue.mk .error "" none (some ⟨"a", 0, 2⟩) [] []).allAnnotations = .ok (placed.map (·.subject)) :=
  ⟨_, rfl, ((faultOf_lines Config.initial ⟨[⟨"a", "é\n"⟩], List.nodup_singleton _⟩
    ⟨.error, "", none, some ⟨"a", 0, 2⟩, [], []⟩).2 _ rfl).1⟩

theorem faultOf_lines_reversed :
    let registry : Registry := ⟨[⟨"a", "abc"⟩], List.nodup_singleton _⟩
    let i : Issue := ⟨.error, "m", none, some ⟨"a", 2, 1⟩, [], []⟩
    (∀ origin ∈ i.origins, origin ∈ registry.names) ∧
      i.offsets.findSome? (fun (origin, offset) => (registry.get? origin).bind (·.offsetFault offset)) = none ∧
      i.lines Config.initial registry = .error (.rejected (.reversedOffsets 2 1)) := by
  refine ⟨?_, ?_, rfl⟩
  · decide
  · decide

end Issue

end Diagnostics
