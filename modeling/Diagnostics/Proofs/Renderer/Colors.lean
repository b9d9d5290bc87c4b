import Diagnostics.Proofs.Renderer.Streams
import Diagnostics.Proofs.Report.Characters

namespace Diagnostics

def Registry.texts (registry : Registry) : List String := registry.sources.flatMap fun s => [s.name, s.content]

def Issue.texts (i : Issue) : List String :=
  i.message :: i.code.toList ++ i.annotations.filterMap (·.label) ++ i.notes

def Footer.texts (f : Footer) : List String := f.message :: f.notes

def Report.texts (r : Report) : List String :=
  r.issues.flatMap Issue.texts ++ r.footer.toList.flatMap Footer.texts

variable {P : Char → Prop}

theorem Source.shownText_subset (s : Source) (line : Nat) : s.shownText line ⊆ s.content.toList := by
  intro c hc
  rw [shownText, List.getD_eq_getElem?_getD] at hc
  have hrow := (dropReturn_isPrefix _).subset hc
  cases h : s.rows[line - 1]? with
  | none => simp [h] at hrow
  | some row =>
    rw [h, Option.getD_some] at hrow
    exact Text.mem_of_mem_lines (List.mem_of_getElem? h) hrow

theorem Issue.over_of_texts {i : Issue} (h : ∀ text ∈ i.texts, Text.Over P text) : i.Over P where
  message := h _ (by simp [texts])
  code code hcode := h code (by simp [texts, Option.mem_def.1 hcode])
  labels a ha label hlabel := by
    have hmem : label ∈ i.annotations.filterMap (·.label) := List.mem_filterMap.2 ⟨a, ha, hlabel⟩
    exact h label (by simp [texts, hmem])
  notes note hnote l hl c hc := h note (by simp [texts, hnote]) c (Text.mem_of_mem_lines hl hc)

theorem Footer.over_of_texts {f : Footer} (h : ∀ text ∈ f.texts, Text.Over P text) : f.Over P where
  message := h _ (by simp [texts])
  notes note hnote l hl c hc := h note (by simp [texts, hnote]) c (Text.mem_of_mem_lines hl hc)

theorem isDrawn_ne_escape {c : Char} (h : isDrawn c) : c ≠ '\x1b' := by
  rintro rfl
  revert h
  decide

theorem unescaped_script (registry : Registry) (config : Config) {reports : List Report}
    (h : ∀ text ∈ registry.texts ++ reports.flatMap Report.texts, '\x1b' ∉ text.toList) :
    Unescaped (Report.script config registry reports) := by
  have hover : ∀ text ∈ registry.texts ++ reports.flatMap Report.texts, Text.Over (· ≠ '\x1b') text := by
    rintro text htext c hc rfl
    exact h text htext hc
  rw [List.forall_mem_append, Registry.texts, List.forall_mem_flatMap, List.forall_mem_flatMap] at hover
  obtain ⟨hsources, hreports⟩ := hover
  have hregistry : ∀ s ∈ registry.sources,
      Text.Over (· ≠ '\x1b') s.name ∧ ∀ line, ∀ c ∈ s.shownText line, c ≠ '\x1b' := by
    intro s hs
    have hcontent := hsources s hs s.content (by simp)
    exact ⟨hsources s hs s.name (by simp), fun line c hc => hcontent c (s.shownText_subset line hc)⟩
  have hissues : ∀ r ∈ reports, ∀ i ∈ r.issues, i.Over (· ≠ '\x1b') := by
    intro r hr i hi
    apply Issue.over_of_texts
    intro text htext
    exact hreports r hr text (List.mem_append_left _ (List.mem_flatMap.2 ⟨i, hi, htext⟩))
  have hfooters : ∀ r ∈ reports, ∀ f ∈ r.footer, f.Over (· ≠ '\x1b') := by
    intro r hr f hf
    apply Footer.over_of_texts
    intro text htext
    exact hreports r hr text (List.mem_append_right _ (List.mem_flatMap.2 ⟨f, Option.mem_toList.2 hf, htext⟩))
  intro s hs hmem
  exact Report.over_script (fun c => isDrawn_ne_escape) (by decide) config hregistry hissues hfooters s hs _ hmem rfl

def Rendering.Strips (colored plain : Rendering) : Prop :=
  colored.ending = .completed ∧ plain.ending = .completed ∧
    ∃ shown, colored.sink.Receives shown ∧ plain.sink.Receives (Text.stripEscapes shown)

namespace Renderer

variable (r : Renderer) (env : Environment)

theorem failure_script {reports : List Report} (colored : Bool)
    (h : ∀ report ∈ reports, ∀ i ∈ report.issues, i.fault? r.registry = none) :
    (Output.ofSteps colored (Report.script r.config r.registry reports)).failure = none := by
  rw [Report.ofSteps_script, Part.ofSteps_parts]
  exact List.findSome?_eq_none_iff.2 (r.fault?_parts h)

theorem render_unescaped (content : Content) (t : Terminal) {input : Reportable} {reports : List Report}
    (hinput : input.reports = .ok reports) (hclean : Unescaped (Report.script r.config r.registry reports))
    (hresolve : ∀ report ∈ reports, ∀ i ∈ report.issues, i.fault? r.registry = none) :
    let colored := r.config.colors.resolve env t
    (r.render env (.stream (.opened content) t) input).sink =
        .stream colored (.opened (content.append
          (Output.ofSteps colored (Report.script r.config r.registry reports)).text)) ∧
      (r.render env (.stream (.opened content) t) input).ending = .completed := by
  intro colored
  obtain ⟨hsink, hending⟩ := r.render_opened env t content hinput
  rw [List.findSome?_eq_none_iff.2 (r.fault?_parts hresolve)] at hending
  rw [Segment.shown_of_unescaped _ hclean] at hsink
  exact ⟨hsink, hending⟩

theorem colors_decorate (registry : Registry) (config : Config) (env : Environment) (input : Reportable)
    (reports : List Report) (hinput : input.reports = .ok reports)
    (htexts : ∀ text ∈ registry.texts ++ reports.flatMap Report.texts, '\x1b' ∉ text.toList)
    (hresolve : ∀ report ∈ reports, ∀ i ∈ report.issues, i.fault? registry = none) :
    let always : Renderer := ⟨registry, config.withColors .always⟩
    let never : Renderer := ⟨registry, config.withColors .never⟩
    (always.renderText env input).Strips (never.renderText env input) ∧
      ∀ (content : Content) (t : Terminal), content = .text "" ∨ content = .bytes [] →
        (always.render env (.stream (.opened content) t) input).Strips
          (never.render env (.stream (.opened content) t) input) := by
  intro always never
  have hclean := unescaped_script registry config htexts
  obtain ⟨hstrip, -⟩ := Output.stripEscapes_ofSteps hclean
  refine ⟨?_, fun content t hcontent => ?_⟩
  · have halways := always.failure_script true hresolve
    have hnever := never.failure_script false hresolve
    obtain ⟨hsink, hending⟩ := always.render_memory env true "" hinput
    obtain ⟨hsink', hending'⟩ := never.render_memory env false "" hinput
    rw [halways] at hending
    rw [hnever] at hending'
    refine ⟨hending, hending', (Output.ofSteps true (Report.script config registry reports)).text.toList, ?_, ?_⟩
    · change (always.render env (.sink (.memory true "")) input).sink.Receives _
      rw [hsink, String.empty_append]
      rfl
    · change (never.render env (.sink (.memory false "")) input).sink.Receives _
      rw [hsink', String.empty_append, hstrip]
      rfl
  · obtain ⟨hsink, hending⟩ := always.render_unescaped env content t hinput hclean hresolve
    obtain ⟨hsink', hending'⟩ := never.render_unescaped env content t hinput hclean hresolve
    refine ⟨hending, hending', (Output.ofSteps true (Report.script config registry reports)).text.toList, ?_, ?_⟩
    · rw [hsink]
      exact Content.holds_append (Content.holds_nil hcontent) _
    · rw [hsink', hstrip]
      exact Content.holds_append (Content.holds_nil hcontent) _

theorem colors_decorate_tab :
    let registry : Registry := ⟨[⟨"a", "\tx\n"⟩], List.nodup_singleton _⟩
    let report : Report := ⟨[⟨.error, "m", some "E1", some ⟨"a", 1, 2⟩, [], ["n"]⟩], some ⟨"f", [], true⟩⟩
    let always : Renderer := ⟨registry, Config.initial.withColors .always⟩
    let never : Renderer := ⟨registry, Config.initial.withColors .never⟩
    (∀ text ∈ registry.texts ++ [report].flatMap Report.texts, '\x1b' ∉ text.toList) ∧
      (∀ i ∈ report.issues, i.fault? registry = none) ∧
      (always.renderText ⟨none, none, none⟩ (.single report)).Strips
        (never.renderText ⟨none, none, none⟩ (.single report)) := by
  intro registry report always never
  have htexts : ∀ text ∈ registry.texts ++ [report].flatMap Report.texts, '\x1b' ∉ text.toList := by decide
  have hresolve : ∀ r ∈ [report], ∀ i ∈ r.issues, i.fault? registry = none := by
    intro r hr i hi
    obtain rfl := List.mem_singleton.1 hr
    obtain rfl := List.mem_singleton.1 hi
    rw [← Issue.faultOf_place, faultOf_eq_none]
    exact ⟨_, rfl⟩
  exact ⟨htexts, hresolve report (List.mem_singleton_self _),
    (colors_decorate registry Config.initial ⟨none, none, none⟩ (.single report) [report] rfl htexts hresolve).1⟩

end Renderer

end Diagnostics
