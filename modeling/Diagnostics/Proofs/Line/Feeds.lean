import Diagnostics.Proofs.Drawing.Feeds
import Diagnostics.Proofs.Line
import Diagnostics.Proofs.Line.Characters

namespace Diagnostics

theorem ne_feed_of_isDrawn : ∀ c, isDrawn c → c ≠ '\n' := by
  rintro c h rfl
  exact absurd h (by decide)

namespace Line

def chars (l : Line) : List Char := l.flatMap (·.text.toList)

def feeds (l : Line) : Nat := Text.feeds l.chars

theorem chars_eq (l : Line) : l.chars = l.cells.map (·.1) := by
  rw [chars, cells, List.map_flatMap]
  refine List.flatMap_congr fun s _ => ?_
  rw [List.map_map]
  exact (List.map_id s.text.toList).symm

theorem feeds_append (a b : Line) : feeds (a ++ b) = feeds a + feeds b := by
  rw [feeds, chars, List.flatMap_append, Text.feeds_append]
  rfl

theorem feeds_cons (s : Segment) (l : Line) : feeds (s :: l) = Text.feeds s.text.toList + feeds l := by
  rw [feeds, chars, List.flatMap_cons, Text.feeds_append]
  rfl

theorem feeds_eq_zero {l : Line} : feeds l = 0 ↔ l.Over (· ≠ '\n') := by
  induction l with
  | nil => exact iff_of_true rfl over_nil
  | cons s l ih => rw [feeds_cons, Nat.add_eq_zero_iff, ih, over_cons, Text.feeds_eq_zero, Text.Over]

theorem feeds_ofRow (severity : Severity) (row : Row) : feeds (ofRow severity row) = row.feeds := by
  rw [feeds, chars_eq, cells_ofRow, styled_fst]
  rfl

theorem feeds_location (charset : CharSet) (width : Nat) (isFirst : Bool) (place : String) :
    (location charset width isFirst place).feeds = Text.feeds place.toList := by
  have hsplit : location charset width isFirst place =
      (location charset width isFirst "").dropLast ++ [.plain (" " ++ place)] := by cases charset <;> rfl
  have hempty : Text.Over (· ≠ '\n') "" := by simp [Text.Over]
  have hover := over_location ne_feed_of_isDrawn charset width isFirst hempty
  have hfront : feeds (location charset width isFirst "").dropLast = 0 :=
    feeds_eq_zero.2 fun s hs => hover s (List.dropLast_subset _ hs)
  have hplace : Text.feeds (" " ++ place).toList = Text.feeds place.toList := by
    rw [String.toList_append, Text.feeds_append]
    exact Nat.zero_add _
  rw [hsplit, feeds_append, hfront, feeds_cons, Segment.plain, hplace, Nat.zero_add]
  rfl

theorem feeds_header (severity : Severity) (label message : String) :
    (header severity label message).feeds = Text.feeds label.toList + Text.feeds message.toList := by
  have hmessage : Text.feeds (": " ++ message).toList = Text.feeds message.toList := by
    rw [String.toList_append, Text.feeds_append]
    exact Nat.zero_add _
  rw [header, Segment.styled, Segment.styled, feeds_cons, feeds_cons, hmessage]
  rfl

theorem feeds_note (charset : CharSet) {label : String} (text : String) (indent : Nat)
    (hlabel : Text.Over (· ≠ '\n') label) :
    ((note (Glyphs.ofCharSet charset) label text indent).map feeds).sum = 0 := by
  refine List.sum_eq_zero (List.forall_mem_map.2 fun l hl => feeds_eq_zero.2 ?_)
  refine over_note ne_feed_of_isDrawn charset indent hlabel (fun part hpart c hc => ?_) l hl
  rintro rfl
  exact Text.feed_notMem_lines text.toList part hpart hc

theorem feeds_notes (charset : CharSet) (notes : List String) (indent : Nat) :
    ((notes.flatMap fun text => note (Glyphs.ofCharSet charset) "note" text indent).map feeds).sum = 0 := by
  rw [sum_map_flatMap]
  exact List.sum_eq_zero (List.forall_mem_map.2 fun text _ =>
    feeds_note charset text indent (Text.over_drawn ne_feed_of_isDrawn (by decide)))

end Line

end Diagnostics
