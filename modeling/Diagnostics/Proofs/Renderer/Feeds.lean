import Diagnostics.Proofs.Issue.Feeds
import Diagnostics.Proofs.Renderer.Modes

namespace Diagnostics

theorem Text.feeds_ended (ls : List (List Char)) :
    feeds (ls.flatMap (· ++ ['\n'])) = ls.length + (ls.map feeds).sum := by
  induction ls with
  | nil => rfl
  | cons l ls ih =>
    have hfeed : feeds ['\n'] = 1 := rfl
    rw [List.flatMap_cons, feeds_append, feeds_append, ih, hfeed, List.length_cons, List.map_cons, List.sum_cons]
    omega

theorem Text.lines_ended_iff (ls : List (List Char)) :
    lines (ls.flatMap (· ++ ['\n'])) = ls ++ [[]] ↔ (ls.map feeds).sum = 0 := by
  constructor
  · intro h
    have hlength := congrArg List.length h
    have hfeeds := feeds_ended ls
    rw [feeds] at hfeeds
    rw [length_lines, hfeeds, List.length_append, List.length_singleton] at hlength
    omega
  · intro h
    apply lines_ended
    intro l hl hfeed
    have hzero := List.sum_eq_zero_iff_forall_eq_nat.1 h _ (List.mem_map_of_mem hl)
    exact feeds_eq_zero.1 hzero _ hfeed rfl

theorem Report.feeds_footerLines (config : Config) (r : Report) :
    ((r.footerLines config).map Line.feeds).sum =
      Text.feeds ((r.footer.map (·.message)).getD "").toList := by
  rw [footerLines]
  cases r.footer with
  | none => rfl
  | some footer =>
    have htag : Text.feeds (r.severity.getD .error).tag.toList = 0 :=
      Text.feeds_eq_zero.2 (Text.over_tag ne_feed_of_isDrawn _)
    have hsummary : ((Line.note (Glyphs.ofCharSet config.charset) "summary" r.summaryText 2).map Line.feeds).sum = 0 :=
      Line.feeds_note config.charset _ 2 (Text.over_drawn ne_feed_of_isDrawn (by decide))
    simp only [List.map_append, List.sum_append, List.map_cons, List.sum_cons, Line.feeds_header, htag]
    split <;> split <;> split <;> simp [Line.feeds_notes, hsummary] <;> rfl

namespace Part

def lines (config : Config) (registry : Registry) : Part → Except Failure (List Line)
  | .issue i => i.lines config registry
  | .footer r => .ok (r.footerLines config)

def feeds (style : DisplayStyle) : Part → Nat
  | .issue i => i.feeds style
  | .footer r => Text.feeds ((r.footer.map (·.message)).getD "").toList

variable {config : Config} {registry : Registry} {p : Part} {out : List Line}

theorem written_steps (h : p.lines config registry = .ok out) :
    Step.written (p.steps config registry) = out.flatMap (· ++ [.newline]) := by
  cases p with
  | issue i =>
    have hlines : i.lines config registry = .ok out := h
    rw [steps, Issue.steps, hlines]
    simp only
    rw [Step.written_records, Step.written_lines]
  | footer r =>
    rw [← Except.ok.inj h]
    exact Step.written_lines _

theorem exists_lines (h : p.fault? registry = none) : ∃ out, p.lines config registry = .ok out := by
  cases p with
  | issue i =>
    have hfault : i.fault? registry = none := h
    rw [← Issue.faultOf_place, ← Issue.faultOf_lines_eq_place config] at hfault
    exact faultOf_eq_none.1 hfault
  | footer r => exact ⟨_, rfl⟩

theorem feeds_lines (h : p.lines config registry = .ok out) : (out.map Line.feeds).sum = p.feeds config.style := by
  cases p with
  | issue i => exact Issue.feeds_lines config h
  | footer r =>
    rw [← Except.ok.inj h]
    exact r.feeds_footerLines config

theorem toList_pieces_steps (h : p.lines config registry = .ok out) :
    (Segment.pieces false (Step.written (p.steps config registry))).toList =
      (out.map Line.chars).flatMap (· ++ ['\n']) := by
  rw [written_steps h, Segment.toList_pieces_false, List.flatMap_assoc, List.flatMap_map]
  refine List.flatMap_congr fun line _ => ?_
  rw [List.flatMap_append]
  rfl

theorem toList_pieces_parts {parts : List Part} {composed : List (List Line)}
    (h : List.Forall₂ (fun (p : Part) out => p.lines config registry = .ok out) parts composed) :
    (Segment.pieces false (parts.flatMap fun p => Step.written (p.steps config registry))).toList =
      (composed.flatten.map Line.chars).flatMap (· ++ ['\n']) := by
  induction h with
  | nil => rfl
  | cons hp _ ih =>
    rw [Segment.toList_pieces_false] at ih ⊢
    rw [List.flatMap_cons, List.flatMap_append, ih, ← Segment.toList_pieces_false, toList_pieces_steps hp,
      List.flatten_cons, List.map_append, List.flatMap_append]

end Part

namespace Renderer

variable (r : Renderer) (env : Environment) {input : Reportable} {reports : List Report}

theorem lines_renderText (hinput : input.reports = .ok reports)
    (hresolve : ∀ report ∈ reports, ∀ i ∈ report.issues, i.fault? r.registry = none)
    (hplain : r.config.colors.resolve env .missing = false) :
    let parts := reports.flatMap Report.parts
    let text := (r.renderText env input).sink.received.toList
    (r.renderText env input).ending = .completed ∧
    ∃ composed : List (List Line),
      parts.mapM (Part.lines r.config r.registry) = .ok composed ∧
      composed.map (fun lines => (lines.map Line.feeds).sum) = parts.map (Part.feeds r.config.style) ∧
      text = (composed.flatten.map Line.chars).flatMap (· ++ ['\n']) ∧
      Text.feeds text = composed.flatten.length + (parts.map (Part.feeds r.config.style)).sum ∧
      (Text.lines text = composed.flatten.map Line.chars ++ [[]] ↔ ∀ p ∈ parts, p.feeds r.config.style = 0) ∧
      ∀ i, .issue i ∈ parts →
        (r.config.style = .compact → ∃ head, i.lines r.config r.registry = .ok [head]) ∧
        (r.config.style = .full → ∃ placed blocks, i.place r.registry = .ok placed ∧
          i.blocks r.config r.registry placed = .ok blocks ∧
          i.lines r.config r.registry = .ok (i.fullLines r.config blocks) ∧
          ∀ b ∈ blocks, b.Guttered r.config i.severity (Issue.numberWidth blocks)) := by
  intro parts text
  have hfaults := r.fault?_parts hresolve
  obtain ⟨hending, hsink⟩ := r.renderText_pieces env hinput hresolve
  have hlines : ∀ p ∈ parts, ∃ out, p.lines r.config r.registry = .ok out := fun p hp =>
    Part.exists_lines (hfaults p hp)
  obtain ⟨composed, hcomposed⟩ := exists_forall₂ hlines
  have hall : parts.takeWhile (fun p => decide (p.fault? r.registry = none)) = parts :=
    List.takeWhile_eq_self_iff.2 fun p hp => decide_eq_true (hfaults p hp)
  have htext : text = (composed.flatten.map Line.chars).flatMap (· ++ ['\n']) := by
    simp only [text, hsink, hplain, Sink.received]
    rw [Report.written_script, Part.written_parts, hall, Part.toList_pieces_parts hcomposed]
  have hfeeds : composed.map (fun lines => (lines.map Line.feeds).sum) = parts.map (Part.feeds r.config.style) :=
    map_eq_of_forall₂ (hcomposed.imp fun _ _ hp => Part.feeds_lines hp)
  have htotal : ((composed.flatten.map Line.chars).map Text.feeds).sum =
      (parts.map (Part.feeds r.config.style)).sum := by
    rw [← hfeeds, List.map_map, List.map_flatten, List.sum_flatten, List.map_map]
    rfl
  refine ⟨hending, composed, mapM_eq_ok.2 hcomposed, hfeeds, htext, ?feeds, ?lines, fun i hi => ?parts⟩
  case feeds => rw [htext, Text.feeds_ended, List.length_map, htotal]
  case lines => rw [htext, Text.lines_ended_iff, htotal, List.sum_eq_zero_iff_forall_eq_nat, List.forall_mem_map]
  case parts =>
    obtain ⟨placed, hplace⟩ : ∃ placed, i.place r.registry = .ok placed := by
      rw [← faultOf_eq_none, Issue.faultOf_place]
      exact hfaults _ hi
    refine ⟨fun hstyle => ⟨_, Issue.lines_compact hstyle hplace⟩, fun hstyle => ?_⟩
    obtain ⟨blocks, hblocks, hlines, hguttered⟩ := Issue.exists_guttered r.config hstyle hplace
    exact ⟨placed, blocks, hplace, hblocks, hlines, hguttered⟩

theorem lines_renderText_label :
    let r : Renderer := ⟨⟨[⟨"a", "x\n"⟩], by decide⟩, Config.initial.withColors .never⟩
    let env : Environment := ⟨none, none, none⟩
    let label : Annotation := ⟨.secondary, ⟨"a", 0, 1, by decide⟩, some "first\nsecond"⟩
    let report : Report := .ofIssue ⟨.error, "m", none, none, [label], ["one\ntwo"]⟩
    (∀ i ∈ report.issues, i.fault? r.registry = none) ∧ r.config.colors.resolve env .missing = false ∧
      ∃ composed, report.parts.mapM (Part.lines r.config r.registry) = .ok composed ∧
        Text.feeds (r.renderText env (.single report)).sink.received.toList = composed.flatten.length + 1 := by
  intro r env label report
  have hinput : (Reportable.single report).reports = .ok [report] := rfl
  have hresolve : ∀ other ∈ [report], ∀ i ∈ other.issues, i.fault? r.registry = none := by decide
  have hlabel : ([report].flatMap Report.parts |>.map (Part.feeds .full)).sum = 1 := by decide
  obtain ⟨-, composed, hcomposed, -, -, hfeeds, -⟩ := r.lines_renderText env hinput hresolve rfl
  exact ⟨hresolve report (List.mem_singleton_self _), rfl, composed, hcomposed, hfeeds.trans (congrArg _ hlabel)⟩

theorem lines_renderText_compact :
    let r : Renderer := ⟨Registry.empty, (Config.initial.withColors .never).withStyle .compact⟩
    let env : Environment := ⟨none, none, none⟩
    let i : Issue := .ofMessage "disk full\n"
    let head : Line := [.styled "error" Severity.error.style, .styled ": disk full\n" .message]
    i.fault? r.registry = none ∧ i.lines r.config r.registry = .ok [head] ∧
      (∃ s ∈ head, '\n' ∈ s.text.toList) ∧
      (r.renderText env (.single (.ofIssue i))).sink.received = "error: disk full\n\n" := by
  decide

end Renderer

end Diagnostics
