import Diagnostics.Proofs.Issue.Characters
import Diagnostics.Script

namespace Diagnostics

variable {P : Char → Prop}

theorem Line.over_steps (hfeed : P '\n') {l : Line} (h : l.Over P) {s : Segment} (hs : .write s ∈ l.steps) :
    Text.Over P s.text := by
  rcases List.mem_append.1 hs with hs | hs
  · obtain ⟨t, ht, heq⟩ := List.mem_map.1 hs
    rw [← Step.write.inj heq]
    exact h t ht
  · rw [Step.write.inj (List.mem_singleton.1 hs)]
    exact List.forall_mem_singleton.2 hfeed

structure Footer.Over (P : Char → Prop) (f : Footer) : Prop where
  message : Text.Over P f.message
  notes : ∀ note ∈ f.notes, ∀ l ∈ Text.lines note.toList, ∀ c ∈ l, P c

namespace Report

variable (hP : ∀ c, isDrawn c → P c)
include hP

theorem over_summaryText (r : Report) : Text.Over P r.summaryText := by
  apply Text.over_intercalate (Text.over_drawn hP (by decide))
  intro s hs
  obtain ⟨⟨severity, n⟩, -, rfl⟩ := List.mem_map.1 hs
  simp only [Text.over_append]
  exact ⟨⟨⟨Text.over_number hP n, Text.over_drawn hP (by decide)⟩, Text.over_tag hP severity⟩,
    Text.over_drawn hP (by decide)⟩

theorem over_footerLines (config : Config) {r : Report} (h : ∀ f ∈ r.footer, f.Over P) :
    ∀ line ∈ r.footerLines config, Line.Over P line := by
  intro line hline
  rw [footerLines] at hline
  cases hfooter : r.footer with
  | none =>
    rw [hfooter] at hline
    cases hline
  | some footer =>
    have hf := h footer hfooter
    simp only [hfooter, List.mem_append] at hline
    rcases hline with (hline | hline) | hline
    · rcases List.mem_cons.1 hline with rfl | hline
      · exact Line.over_header hP _ (Text.over_tag hP _) hf.message
      · split at hline
        · cases hline
        · obtain ⟨note, hnote, hline⟩ := List.mem_flatMap.1 hline
          exact Line.over_note hP _ 2 (Text.over_drawn hP (by decide)) (hf.notes note hnote) line hline
    · split at hline
      · refine Line.over_note hP _ 2 (Text.over_drawn hP (by decide)) ?_ line hline
        intro l hl c hc
        exact over_summaryText hP r c (Text.mem_of_mem_lines hl hc)
      · cases hline
    · split at hline
      · rw [List.mem_singleton.1 hline]
        exact Line.over_nil
      · cases hline

theorem over_script (hfeed : P '\n') (config : Config) {registry : Registry} {reports : List Report}
    (hsources : ∀ s ∈ registry.sources, Text.Over P s.name ∧ ∀ line, ∀ c ∈ s.shownText line, P c)
    (hissues : ∀ r ∈ reports, ∀ i ∈ r.issues, i.Over P) (hfooters : ∀ r ∈ reports, ∀ f ∈ r.footer, f.Over P) :
    ∀ s, .write s ∈ script config registry reports → Text.Over P s.text := by
  intro s hs
  obtain ⟨⟨r, k⟩, hr, hs⟩ := List.mem_flatMap.1 hs
  have hreport : r ∈ reports := List.fst_mem_of_mem_zipIdx hr
  rcases List.mem_append.1 hs with hs | hs
  · rcases List.mem_cons.1 hs with hs | hs
    · cases hs
    obtain ⟨i, hi, hs⟩ := List.mem_flatMap.1 hs
    rw [Issue.steps] at hs
    cases hlines : i.lines config registry with
    | error f => simp [hlines] at hs
    | ok out =>
      simp only [hlines] at hs
      rcases List.mem_append.1 hs with hs | hs
      · obtain ⟨_, _, heq⟩ := List.mem_map.1 hs
        cases heq
      · obtain ⟨line, hline, hs⟩ := List.mem_flatMap.1 hs
        have hover := Issue.over_lines hP (hissues r hreport i hi) config hsources hlines line hline
        exact Line.over_steps hfeed hover hs
  · obtain ⟨line, hline, hs⟩ := List.mem_flatMap.1 hs
    exact Line.over_steps hfeed (over_footerLines hP config (hfooters r hreport) line hline) hs

end Report

end Diagnostics
