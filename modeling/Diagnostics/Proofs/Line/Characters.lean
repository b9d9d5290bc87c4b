import Diagnostics.Line
import Diagnostics.Proofs.Drawing.Characters
import Diagnostics.Proofs.Text.Width
import Diagnostics.Source.Position

namespace Diagnostics

def isDrawn (c : Char) : Bool := (32 ≤ c.toNat && c.toNat ≤ 126) || ['│', '╭', '─', '╰', '·', '┌'].contains c

def Text.Over (P : Char → Prop) (s : String) : Prop := ∀ c ∈ s.toList, P c

def Line.Over (P : Char → Prop) (l : Line) : Prop := ∀ s ∈ l, Text.Over P s.text

variable {P : Char → Prop}

theorem Glyphs.over_ofCharSet (hP : ∀ c, isDrawn c → P c) (charset : CharSet) : (ofCharSet charset).Over P := by
  have hcaret : ∀ k, P ((ofCharSet charset).caret k) := by
    intro k
    apply hP
    cases charset <;> cases k <;> decide
  cases charset with
  | ascii =>
    exact ⟨hP _ (by decide), hP _ (by decide), hcaret, hP _ (by decide), hP _ (by decide), hP _ (by decide),
      hP _ (by decide), hP _ (by decide), hP _ (by decide)⟩
  | unicode =>
    exact ⟨hP _ (by decide), hP _ (by decide), hcaret, hP _ (by decide), hP _ (by decide), hP _ (by decide),
      hP _ (by decide), hP _ (by decide), hP _ (by decide)⟩

namespace Text

theorem over_append {a b : String} : Over P (a ++ b) ↔ Over P a ∧ Over P b := by
  rw [Over, String.toList_append, List.forall_mem_append]
  rfl

theorem over_ofList {cs : List Char} : Over P (String.ofList cs) ↔ ∀ c ∈ cs, P c := by
  rw [Over, String.toList_ofList]

theorem over_intercalate {sep : String} {l : List String} (hsep : Over P sep) (h : ∀ s ∈ l, Over P s) :
    Over P (sep.intercalate l) := by
  induction l with
  | nil => simp [Over]
  | cons s l ih =>
    have hrest := ih fun t ht => h t (List.mem_cons_of_mem _ ht)
    cases l with
    | nil => simpa using h s (List.mem_cons_self ..)
    | cons t l =>
      rw [String.intercalate_cons_cons, over_append, over_append]
      exact ⟨⟨h s (List.mem_cons_self ..), hsep⟩, hrest⟩

theorem mem_expandTabs {tab : Nat} {cs : List Char} {c : Char} (h : c ∈ expandTabs tab cs) : c = ' ' ∨ c ∈ cs := by
  induction cs with
  | nil => cases h
  | cons d cs ih =>
    rcases List.mem_append.1 h with h | h
    · split at h
      · exact .inl (List.eq_of_mem_replicate h)
      · exact .inr (List.mem_cons.2 (.inl (List.mem_singleton.1 h)))
    · rcases ih h with h | h
      · exact .inl h
      · exact .inr (List.mem_cons_of_mem _ h)

section Drawn

variable (hP : ∀ c, isDrawn c → P c)
include hP

theorem over_drawn {s : String} (h : s.toList.all isDrawn) : Over P s :=
  fun c hc => hP c (List.all_eq_true.1 h c hc)

theorem over_spaces (n : Nat) : Over P (spaces n) := by
  rw [spaces, over_ofList]
  intro c hc
  rw [List.eq_of_mem_replicate hc]
  exact hP _ (by decide)

theorem over_number (n : Nat) : Over P (toString n) := by
  intro c hc
  have hdigits : (toString n).toList = Nat.toDigits 10 n := Nat.toList_repr
  rw [hdigits] at hc
  have hdigit := bounds_of_mem_toDigits hc
  apply hP
  simp only [isDrawn, Bool.or_eq_true, Bool.and_eq_true, decide_eq_true_iff]
  exact .inl ⟨by omega, by omega⟩

theorem over_position (p : Position) : Over P p.text := by
  rw [Position.text, over_append, over_append]
  exact ⟨⟨over_number hP p.line, over_drawn hP (by decide)⟩, over_number hP p.column⟩

theorem over_tag (severity : Severity) : Over P severity.tag := by
  cases severity <;> exact over_drawn hP (by decide)

end Drawn

end Text

namespace Line

theorem over_nil : Over P [] := by simp [Over]

theorem over_cons {s : Segment} {l : Line} : Over P (s :: l) ↔ Text.Over P s.text ∧ Over P l := List.forall_mem_cons

theorem over_append {a b : Line} : Over P (a ++ b) ↔ Over P a ∧ Over P b := List.forall_mem_append

theorem over_ofRow (severity : Severity) {row : Row} (h : Diagnostics.Over P row.cells) :
    Over P (ofRow severity row) := by
  intro s hs
  obtain ⟨p, hp, rfl⟩ := List.mem_map.1 hs
  rw [Text.over_ofList]
  intro c hc
  exact h (c, p.kind) (List.mem_flatMap.2 ⟨p, hp, List.mem_map_of_mem hc⟩)

section Drawn

variable (hP : ∀ c, isDrawn c → P c)
include hP

theorem over_header (severity : Severity) {label message : String} (hlabel : Text.Over P label)
    (hmessage : Text.Over P message) : Over P (header severity label message) := by
  refine over_cons.2 ⟨hlabel, over_cons.2 ⟨?_, over_nil⟩⟩
  exact Text.over_append.2 ⟨Text.over_drawn hP (by decide), hmessage⟩

theorem over_note (charset : CharSet) {label text : String} (indent : Nat) (hlabel : Text.Over P label)
    (htext : ∀ l ∈ Text.lines text.toList, ∀ c ∈ l, P c) :
    ∀ l ∈ note (Glyphs.ofCharSet charset) label text indent, Over P l := by
  have hg := Glyphs.over_ofCharSet hP charset
  have hlead : Text.Over P (spaces indent ++ String.ofList [(Glyphs.ofCharSet charset).bullet, ' ']) := by
    refine Text.over_append.2 ⟨Text.over_spaces hP indent, Text.over_ofList.2 ?_⟩
    exact List.forall_mem_cons.2 ⟨hg.bullet, List.forall_mem_singleton.2 hg.blank⟩
  intro l hl
  rcases List.mem_cons.1 hl with rfl | hl
  · refine over_cons.2 ⟨hlead, over_cons.2 ⟨?_, over_cons.2 ⟨?_, over_nil⟩⟩⟩
    · exact Text.over_append.2 ⟨hlabel, Text.over_drawn hP (by decide)⟩
    · refine Text.over_append.2 ⟨Text.over_drawn hP (by decide), Text.over_ofList.2 ?_⟩
      exact htext _ (List.mem_cons_self ..)
  · obtain ⟨part, hpart, rfl⟩ := List.mem_map.1 hl
    refine over_cons.2 ⟨Text.over_append.2 ⟨Text.over_spaces hP _, Text.over_ofList.2 ?_⟩, over_nil⟩
    exact htext _ (List.mem_cons_of_mem _ hpart)

variable (charset : CharSet) (width : Nat)

theorem over_gutter : Over P (gutter (Glyphs.ofCharSet charset) width) := by
  have hborder := (Glyphs.over_ofCharSet hP charset).border
  refine over_cons.2 ⟨Text.over_spaces hP _, over_cons.2 ⟨Text.over_ofList.2 ?_, over_nil⟩⟩
  exact List.forall_mem_singleton.2 hborder

theorem over_gap : Over P (gap charset width) := by
  cases charset with
  | ascii => exact over_cons.2 ⟨Text.over_drawn hP (by decide), over_nil⟩
  | unicode => exact over_cons.2 ⟨Text.over_spaces hP _, over_cons.2 ⟨Text.over_drawn hP (by decide), over_nil⟩⟩

theorem over_location (isFirst : Bool) {place : String} (h : Text.Over P place) :
    Over P (location charset width isFirst place) := by
  have hplace : Text.Over P (" " ++ place) := Text.over_append.2 ⟨Text.over_drawn hP (by decide), h⟩
  cases charset with
  | ascii =>
    refine over_cons.2 ⟨Text.over_spaces hP _, over_cons.2 ⟨?_, over_cons.2 ⟨hplace, over_nil⟩⟩⟩
    cases isFirst <;> exact Text.over_drawn hP (by decide)
  | unicode =>
    refine over_cons.2 ⟨Text.over_spaces hP _, over_cons.2 ⟨?_, over_cons.2 ⟨hplace, over_nil⟩⟩⟩
    exact Text.over_drawn hP (by decide)

theorem over_numbered (number : Nat) : Over P (numbered (Glyphs.ofCharSet charset) width number) := by
  have hborder := (Glyphs.over_ofCharSet hP charset).border
  refine over_cons.2 ⟨?_, over_cons.2 ⟨Text.over_ofList.2 (List.forall_mem_singleton.2 hborder), over_nil⟩⟩
  refine Text.over_append.2 ⟨Text.over_append.2 ⟨Text.over_spaces hP _, Text.over_number hP number⟩, ?_⟩
  exact Text.over_drawn hP (by decide)

end Drawn

end Line

end Diagnostics
