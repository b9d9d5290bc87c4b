import Diagnostics.Text.Range
import Diagnostics.Text.Combining
import Diagnostics.Text.Wide
import Diagnostics.Text.Unassigned

namespace Diagnostics.Text

def charWidth (tab : Nat) (c : Char) : Nat :=
  if c = '\t' then tab
  else if inRanges c combining then 0
  else if inRanges c wide || inRanges c unassigned then 2
  else 1

def width (tab : Nat) : List Char → Nat
  | [] => 0
  | c :: rest => charWidth tab c + width tab rest

def expandTabs (tab : Nat) : List Char → List Char
  | [] => []
  | c :: rest => (if c = '\t' then List.replicate tab ' ' else [c]) ++ expandTabs tab rest

theorem width_append (tab : Nat) (a b : List Char) :
    width tab (a ++ b) = width tab a + width tab b := by
  induction a with
  | nil => simp [width]
  | cons c rest ih => simp [width, ih, Nat.add_assoc]

theorem charWidth_space (tab : Nat) : charWidth tab ' ' = 1 := by simp [charWidth]; decide

theorem width_replicate_space (tab n : Nat) : width tab (List.replicate n ' ') = n := by
  induction n with
  | zero => rfl
  | succ n ih => simp [List.replicate_succ, width, charWidth_space, ih, Nat.add_comm]

theorem width_expandTabs (tab : Nat) (cs : List Char) :
    width tab (expandTabs tab cs) = width tab cs := by
  induction cs with
  | nil => rfl
  | cons c rest ih =>
      by_cases h : c = '\t'
      · simp [expandTabs, width, h, width_append, width_replicate_space, ih, charWidth]
      · simp [expandTabs, width, h, ih]

end Diagnostics.Text
