import Diagnostics.Proofs.Renderer
import Diagnostics.Proofs.Sink

namespace Diagnostics

def Part.streamed (r : Renderer) (env : Environment) (t : Terminal) : Part → String
  | .issue i => (r.render env (.stream (.opened (.text "")) t) (.single (Report.ofIssue i))).sink.received
  | .footer report =>
      let sink : Sink := .stream (r.config.colors.resolve env t) (.opened (.text ""))
      (sink.run ((report.footerLines r.config).flatMap Line.steps)).sink.received

namespace Renderer

variable (r : Renderer) (env : Environment) (t : Terminal) {input : Reportable} {reports : List Report}

theorem render_takes {stream kept : Stream} (hinput : input.reports = .ok reports) :
    let colored := r.config.colors.resolve env t
    let parts := reports.flatMap Report.parts
    let segments := Step.written (Report.script r.config r.registry reports)
    let out := r.render env (.stream stream t) input
    stream.Takes colored segments kept →
      out.sink = .stream colored { stream with content := stream.content.append (Segment.shown colored segments) } ∧
        out.ending = (((parts.findSome? (·.fault? r.registry)).or
          ((faultOf stream.flush).map .refused)).map Ending.failed).getD .completed := by
  intro colored parts segments out h
  obtain ⟨hsink, hfailure⟩ := Sink.run_takes h
  rw [Report.ofSteps_script, Part.ofSteps_parts] at hfailure
  simp only [out, render, hinput, Target.settle]
  refine ⟨h.eq ▸ hsink, ?_⟩
  rw [ending, hfailure, hsink, Sink.flush, h.flush]
  cases parts.findSome? (·.fault? r.registry) with
  | some f => rfl
  | none => cases stream.flush <;> rfl

theorem render_refuses {stream kept : Stream} {done : List Segment} {refusal : Refusal}
    (hinput : input.reports = .ok reports) :
    let colored := r.config.colors.resolve env t
    let segments := Step.written (Report.script r.config r.registry reports)
    let out := r.render env (.stream stream t) input
    stream.Refuses colored segments done kept refusal →
      done <+: segments ∧
        out.sink = .stream colored { stream with content := stream.content.append (Segment.shown colored done) } ∧
        out.ending = .failed (.refused refusal) := by
  intro colored segments out h
  obtain ⟨hsink, hfailure⟩ := Sink.run_refuses h
  obtain ⟨seg, later, hsegments, hdone, -⟩ := h
  simp only [out, render, hinput, Target.settle]
  refine ⟨⟨seg :: later, hsegments.symm⟩, hdone.eq ▸ hsink, ?_⟩
  rw [ending, hfailure]

theorem render_opened (content : Content) (hinput : input.reports = .ok reports) :
    let colored := r.config.colors.resolve env t
    let segments := Step.written (Report.script r.config r.registry reports)
    let out := r.render env (.stream (.opened content) t) input
    out.sink = .stream colored (.opened (content.append (Segment.shown colored segments))) ∧
      out.ending = (((reports.flatMap Report.parts).findSome? (·.fault? r.registry)).map Ending.failed).getD
        .completed := by
  intro colored segments out
  obtain ⟨hsink, hending⟩ := r.render_takes env t hinput (Stream.takes_opened colored content segments)
  have hflush : faultOf (Stream.opened content).flush = none := by cases content <;> rfl
  rw [hflush, Option.map_none, Option.or_none] at hending
  exact ⟨hsink, hending⟩

theorem exists_render_shown (stream : Stream) (hinput : input.reports = .ok reports) :
    let colored := r.config.colors.resolve env t
    ∃ done, done <+: Step.written (Report.script r.config r.registry reports) ∧
      (r.render env (.stream stream t) input).sink =
        .stream colored { stream with content := stream.content.append (Segment.shown colored done) } := by
  intro colored
  rcases stream.takes_or_refuses colored (Step.written (Report.script r.config r.registry reports)) with
    ⟨kept, h⟩ | ⟨done, kept, refusal, h⟩
  · exact ⟨_, List.prefix_refl _, (r.render_takes env t hinput h).1⟩
  · obtain ⟨hfront, hsink, -⟩ := r.render_refuses env t hinput h
    exact ⟨done, hfront, hsink⟩

theorem streamed_part (p : Part) : p.streamed r env t =
    Segment.shown (r.config.colors.resolve env t) (Step.written (p.steps r.config r.registry)) := by
  cases p with
  | issue i =>
    have hreports : (Reportable.single (Report.ofIssue i)).reports = .ok [Report.ofIssue i] := rfl
    obtain ⟨hsink, -⟩ := r.render_opened env t (.text "") hreports
    rw [Part.streamed, hsink, Report.written_script]
    simp [Report.parts, Report.ofIssue, Sink.received, Stream.opened, Content.append, Content.read]
  | footer report =>
    obtain ⟨hsink, -⟩ := Sink.run_takes (Stream.takes_opened (r.config.colors.resolve env t) (.text "")
      (Step.written ((report.footerLines r.config).flatMap Line.steps)))
    simp only [Part.streamed, hsink, Part.steps]
    simp [Sink.received, Stream.opened, Content.append, Content.read]

theorem shown_parts : Segment.shown (r.config.colors.resolve env t)
      (Step.written (Report.script r.config r.registry reports)) =
    String.join (((reports.flatMap Report.parts).takeWhile (·.fault? r.registry = none)).map
      (·.streamed r env t)) := by
  rw [Report.written_script, Part.written_parts]
  induction (reports.flatMap Report.parts).takeWhile (·.fault? r.registry = none) with
  | nil => rfl
  | cons p parts ih =>
    rw [List.flatMap_cons, Segment.shown_append, ih, List.map_cons, String.join_cons, streamed_part]

theorem stream_keeps_prefix (stream : Stream) (hinput : input.reports = .ok reports) :
    let colored := r.config.colors.resolve env t
    let parts := reports.flatMap Report.parts
    let segments := Step.written (Report.script r.config r.registry reports)
    let unlimited := r.render env (.stream (.opened stream.content) t) input
    let out := r.render env (.stream stream t) input
    let holding := fun text => Sink.stream colored { stream with content := stream.content.append text }
    unlimited.sink = .stream colored (.opened (stream.content.append (Segment.shown colored segments))) ∧
    ((∃ kept, stream.Takes colored segments kept) ∨
      ∃ done kept refusal, stream.Refuses colored segments done kept refusal) ∧
    (∀ done kept refusal, stream.Refuses colored segments done kept refusal →
      done <+: segments ∧ out.sink = holding (Segment.shown colored done) ∧
        out.ending = .failed (.refused refusal)) ∧
    (∀ kept, stream.Takes colored segments kept →
      out.sink = holding (Segment.shown colored segments) ∧
        Segment.shown colored segments =
          String.join ((parts.takeWhile (·.fault? r.registry = none)).map (·.streamed r env t)) ∧
        out.ending = (((parts.findSome? (·.fault? r.registry)).or
          ((faultOf stream.flush).map .refused)).map Ending.failed).getD .completed) ∧
    (∀ before, stream.content.Holds before → ∃ shown later,
      out.sink.Receives (before ++ shown) ∧ unlimited.sink.Receives (before ++ shown ++ later)) := by
  intro colored parts segments unlimited out holding
  obtain ⟨hunlimited, -⟩ := r.render_opened env t stream.content hinput
  refine ⟨hunlimited, stream.takes_or_refuses colored segments, fun done kept refusal h => ?_, fun kept h => ?_,
    fun before hbefore => ?_⟩
  · exact r.render_refuses env t hinput h
  · obtain ⟨hsink, hending⟩ := r.render_takes env t hinput h
    exact ⟨hsink, r.shown_parts env t, hending⟩
  · obtain ⟨done, ⟨later, hlater⟩, hsink⟩ := r.exists_render_shown env t stream hinput
    refine ⟨(Segment.shown colored done).toList, (Segment.shown colored later).toList, ?_, ?_⟩
    · rw [hsink]
      exact Content.holds_append hbefore _
    · rw [hunlimited, List.append_assoc, ← String.toList_append, ← Segment.shown_append, hlater]
      exact Content.holds_append hbefore _

theorem stream_keeps_prefix_limit :
    let r : Renderer := ⟨Registry.empty, Config.initial.withColors .never⟩
    let env : Environment := ⟨none, none, none⟩
    let known : Report := .ofIssue (.ofMessage "é")
    let lost : Report := .ofIssue ⟨.error, "n", none, some ⟨"a", 0, 0⟩, [], []⟩
    let input : Reportable := .collection [.report known, .report lost]
    let stream := fun limit : Nat => (⟨.bytes [], some limit, false⟩ : Stream)
    let holding := fun (limit : Nat) (text : String) =>
      Sink.stream false ⟨.bytes (Text.Utf8.encode text.toList), some limit, false⟩
    input.reports = .ok [known, lost] ∧
      (r.render env (.stream (stream 8) .no) input).sink = holding 8 "error" ∧
      (r.render env (.stream (stream 8) .no) input).ending = .failed (.refused .full) ∧
      (r.render env (.stream (stream 11) .no) input).sink = holding 11 "error: é\n\n" ∧
      (r.render env (.stream (stream 11) .no) input).ending = .failed (.sourceMissing "a") := by
  intro r env known lost input stream holding
  have hinput : input.reports = .ok [known, lost] := rfl
  have hsegments : Step.written (Report.script r.config r.registry [known, lost]) =
      [⟨"error", some (.boldColored .red)⟩, ⟨": é", some .message⟩, .newline, .newline] := by decide
  have hrefuses : (stream 8).Refuses false (Step.written (Report.script r.config r.registry [known, lost]))
      [⟨"error", some (.boldColored .red)⟩] ⟨.bytes (Text.Utf8.encode "error".toList), some 8, false⟩ .full :=
    ⟨⟨": é", some .message⟩, [.newline, .newline], hsegments, .cons (by decide) (.nil _), by decide⟩
  have htakes : (stream 11).Takes false (Step.written (Report.script r.config r.registry [known, lost]))
      ⟨.bytes (Text.Utf8.encode "error: é\n\n".toList), some 11, false⟩ := by
    rw [hsegments]
    exact .cons rfl (.cons rfl (.cons rfl (.cons rfl (.nil _))))
  have hfault : ([known, lost].flatMap Report.parts).findSome? (·.fault? r.registry) = some (.sourceMissing "a") :=
    rfl
  have hpart : Segment.shown false [⟨"error", some (.boldColored .red)⟩] = "error" := by decide
  have hwhole : Segment.shown false [⟨"error", some (.boldColored .red)⟩, ⟨": é", some .message⟩, .newline, .newline] =
      "error: é\n\n" := by decide
  obtain ⟨-, hsink, hending⟩ := (r.stream_keeps_prefix env .no (stream 8) hinput).2.2.1 _ _ _ hrefuses
  obtain ⟨hsink', -, hending'⟩ := (r.stream_keeps_prefix env .no (stream 11) hinput).2.2.2.1 _ htakes
  rw [hsegments] at hsink'
  rw [hfault] at hending'
  exact ⟨hinput, hsink.trans (congrArg (holding 8) hpart), hending,
    hsink'.trans (congrArg (holding 11) hwhole), hending'⟩

end Renderer

end Diagnostics
