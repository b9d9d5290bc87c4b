import Diagnostics.Proofs.Block.Characters
import Diagnostics.Proofs.Issue.Resolution

namespace Diagnostics

variable {P : Char → Prop}

namespace Issue

structure Over (P : Char → Prop) (i : Issue) : Prop where
  message : Text.Over P i.message
  code : ∀ code ∈ i.code, Text.Over P code
  labels : ∀ a ∈ i.annotations, ∀ label ∈ a.label, Text.Over P label
  notes : ∀ note ∈ i.notes, ∀ l ∈ Text.lines note.toList, ∀ c ∈ l, P c

variable {registry : Registry} {i : Issue} {placed : List Placed}

theorem Over.label_holds (h : i.Over P) (hplace : i.place registry = .ok placed) :
    ∀ p ∈ placed, ∀ c ∈ (p.subject.label.getD "").toList, P c := by
  intro p hp
  obtain ⟨range, -, hsubjects⟩ := allAnnotations_eq_ok.1 (subjects_of_place hplace)
  have hsubject : p.subject ∈ placed.map (·.subject) := List.mem_map_of_mem hp
  cases hlabel : p.subject.label with
  | none => simp
  | some label =>
    rcases List.mem_append.1 (hsubjects ▸ hsubject) with hmem | hmem
    · exact h.labels _ hmem label hlabel
    · obtain ⟨r, -, heq⟩ := List.mem_map.1 hmem
      rw [← heq] at hlabel
      cases hlabel

variable (hP : ∀ c, isDrawn c → P c) (h : i.Over P)
include hP h

theorem over_headerLine : Line.Over P i.headerLine := by
  apply Line.over_header hP _ _ h.message
  rw [headerLabel]
  cases hcode : i.code with
  | none => exact Text.over_tag hP i.severity
  | some code =>
    simp only [Text.over_append]
    exact ⟨⟨⟨Text.over_tag hP i.severity, Text.over_drawn hP (by decide)⟩, h.code code hcode⟩,
      Text.over_drawn hP (by decide)⟩

theorem over_noteLines (charset : CharSet) (indent : Nat) :
    ∀ line ∈ i.noteLines (Glyphs.ofCharSet charset) indent, Line.Over P line := by
  intro line hline
  obtain ⟨note, hnote, hline⟩ := List.mem_flatMap.1 hline
  exact Line.over_note hP charset indent (Text.over_drawn hP (by decide)) (h.notes note hnote) line hline

theorem over_locatedHeader (hnames : ∀ s ∈ registry.sources, Text.Over P s.name)
    (hplace : i.place registry = .ok placed) : Line.Over P (i.locatedHeader placed) := by
  have hheader := over_headerLine hP h
  rw [locatedHeader]
  split
  · exact hheader
  · rename_i origin horigin
    obtain ⟨a, ha, ho⟩ := exists_of_primaryOrigin horigin
    obtain ⟨s, hs⟩ := Registry.exists_lookup ((place_eq_ok hplace).1 origin (mem_origins.2 ⟨a, ha, ho⟩))
    have hname := hnames s (List.mem_of_find?_eq_some (Registry.lookup_eq_ok.1 hs))
    rw [Registry.name_of_lookup hs] at hname
    refine Line.over_cons.2 ⟨?_, hheader⟩
    simp only [Segment.styled, Text.over_append]
    exact ⟨⟨⟨hname, Text.over_drawn hP (by decide)⟩, Text.over_position hP _⟩, Text.over_drawn hP (by decide)⟩

theorem over_fullLines (config : Config) {blocks : List Block} (hblocks : ∀ b ∈ blocks, b.Over P) :
    ∀ line ∈ i.fullLines config blocks, Line.Over P line := by
  intro line hline
  simp only [fullLines, List.mem_append] at hline
  rcases hline with ((hline | hline) | hline) | hline
  · rcases List.mem_cons.1 hline with rfl | hline
    · exact over_headerLine hP h
    · obtain ⟨⟨b, k⟩, hb, hline⟩ := List.mem_flatMap.1 hline
      exact Block.over_compose hP (hblocks b (List.fst_mem_of_mem_zipIdx hb)) config _ _ _ line hline
  · split at hline
    · cases hline
    · rw [List.mem_singleton.1 hline]
      exact Line.over_gutter hP config.charset _
  · exact over_noteLines hP h config.charset _ line hline
  · rw [List.mem_singleton.1 hline]
    exact Line.over_nil

theorem over_lines (config : Config) {out : List Line}
    (hsources : ∀ s ∈ registry.sources, Text.Over P s.name ∧ ∀ line, ∀ c ∈ s.shownText line, P c)
    (hlines : i.lines config registry = .ok out) : ∀ line ∈ out, Line.Over P line := by
  obtain ⟨placed, hplace⟩ := exists_place_of_lines hlines
  have hlocated := over_locatedHeader hP h (fun s hs => (hsources s hs).1) hplace
  obtain ⟨sources, hfound, hblocks⟩ := blocks_eq_ok config hplace
  cases hstyle : config.style with
  | compact =>
    rw [lines_compact hstyle hplace] at hlines
    rw [← Except.ok.inj hlines]
    exact List.forall_mem_singleton.2 hlocated
  | comfortable =>
    rw [lines_comfortable hstyle hplace] at hlines
    rw [← Except.ok.inj hlines]
    exact List.forall_mem_cons.2 ⟨hlocated, over_noteLines hP h config.charset 2⟩
  | full =>
    rw [lines_full hstyle hplace hblocks] at hlines
    rw [← Except.ok.inj hlines]
    apply over_fullLines hP h config
    intro b hb
    obtain ⟨s, hs, rfl⟩ := List.mem_map.1 hb
    have hlookup := Registry.lookup_name_of_mem hfound hs
    obtain ⟨hname, htext⟩ := hsources s (List.mem_of_find?_eq_some (Registry.lookup_eq_ok.1 hlookup))
    exact Block.over_ofPlaced config i hname htext (h.label_holds hplace)

end Issue

end Diagnostics
