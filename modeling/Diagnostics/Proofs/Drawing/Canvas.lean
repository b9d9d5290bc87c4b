import Diagnostics.Drawing.Canvas
import Mathlib.Data.List.GetD

namespace Diagnostics

namespace Canvas

theorem padTo_of_length_le {canvas : Canvas} {n : Nat} (h : canvas.length ≤ n) :
    canvas.padTo n = canvas ++ List.replicate (n - canvas.length) Cell.blank := by
  induction n generalizing canvas with
  | zero =>
    obtain rfl := List.eq_nil_of_length_eq_zero (Nat.le_zero.1 h)
    rfl
  | succ n ih =>
    cases canvas with
    | nil => exact congrArg (Cell.blank :: ·) (ih (Nat.zero_le n))
    | cons c rest =>
      rw [padTo, ih (Nat.le_of_succ_le_succ h), List.length_cons, Nat.succ_sub_succ, List.cons_append]

theorem put_of_length_le {canvas : Canvas} {cell : Nat} (h : canvas.length ≤ cell) (text : List Char)
    (kind : Option Weight) :
    canvas.put cell text kind =
      canvas ++ List.replicate (cell - canvas.length) Cell.blank ++ text.map (·, kind) := by
  have hdrop : canvas.drop (cell + text.length) = [] := List.drop_eq_nil_of_le (by omega)
  rw [put, padTo_of_length_le h, hdrop, List.append_nil]

variable (canvas : Canvas) {front : List Cell} {cell n j : Nat} {text : List Char} (kind : Option Weight)

theorem padTo_of_length_eq {canvas : Canvas} (h : canvas.length = n) : canvas.padTo n = canvas := by
  rw [padTo_of_length_le (Nat.le_of_eq h), h, Nat.sub_self, List.replicate_zero, List.append_nil]

theorem padTo_succ {canvas : Canvas} (h : canvas.length ≤ n) :
    canvas.padTo (n + 1) = canvas.padTo n ++ [Cell.blank] := by
  rw [padTo_of_length_le h, padTo_of_length_le (Nat.le_succ_of_le h), Nat.succ_sub h, List.replicate_succ',
    List.append_assoc]

theorem put_of_le {canvas : Canvas} (h : canvas.length ≤ cell) (text : List Char) (kind : Option Weight) :
    canvas.put cell text kind = canvas.padTo cell ++ text.map (·, kind) := by
  rw [put_of_length_le h, padTo_of_length_le h]

theorem put_of_eq {canvas : Canvas} (h : canvas.length = cell) (text : List Char) (kind : Option Weight) :
    canvas.put cell text kind = canvas ++ text.map (·, kind) := by
  rw [put_of_le (Nat.le_of_eq h), padTo_of_length_eq h]

theorem length_put_le {canvas : Canvas} (h : canvas.length ≤ n) (text : List Char) (hcell : cell + text.length ≤ n)
    (kind : Option Weight) : (canvas.put cell text kind).length ≤ n := by
  simp only [put, List.length_append, List.length_map, List.length_drop, length_padTo]
  omega

theorem put_fill {canvas : Canvas} {start stop : Nat} (h : canvas.padTo start = front) (hlength : canvas.length ≤ start)
    (hstop : start < stop) (run last : Char) (kind : Option Weight) :
    (canvas.fill start stop run kind).put stop [last] kind =
      front ++ List.replicate (stop - start) (run, kind) ++ [(last, kind)] := by
  have hfront : front.length = start := by rw [← h, length_padTo]
  rw [fill, if_pos hstop, put_of_le hlength, h, List.map_replicate, put_of_eq]
  · rfl
  · rw [List.length_append, List.length_replicate, hfront, Nat.add_sub_cancel' (Nat.le_of_lt hstop)]

theorem getD_padTo (n : Nat) :
    (canvas.padTo n).getD j Cell.blank = if j < n then canvas.getD j Cell.blank else Cell.blank := by
  induction n generalizing canvas j with
  | zero => rfl
  | succ n ih =>
    cases canvas <;> cases j <;> simp only [padTo, List.getD_cons_zero, List.getD_cons_succ, ih]
    all_goals simp

theorem getD_put_of_lt {k : Nat} {c : Char} (h : text[k]? = some c) :
    (canvas.put cell text kind).getD (cell + k) Cell.blank = (c, kind) := by
  obtain ⟨hk, -⟩ := List.getElem?_eq_some_iff.1 h
  rw [put, List.append_assoc, List.getD_append_right _ _ _ _ (by simp [length_padTo]), length_padTo,
    Nat.add_sub_cancel_left, List.getD_append _ _ _ _ (by simpa using hk), List.getD_eq_getElem?_getD,
    List.getElem?_map, h]
  rfl

theorem getD_put_of_out (h : j < cell ∨ cell + text.length ≤ j) :
    (canvas.put cell text kind).getD j Cell.blank = canvas.getD j Cell.blank := by
  rw [put, List.append_assoc]
  rcases h with h | h
  · rw [List.getD_append _ _ _ _ (by rwa [length_padTo]), getD_padTo, if_pos h]
  · have hskip : cell + text.length + (j - cell - text.length) = j := by omega
    rw [List.getD_append_right _ _ _ _ (by rw [length_padTo]; omega), length_padTo,
      List.getD_append_right _ _ _ _ (by rw [List.length_map]; omega), List.length_map, List.getD_eq_getElem?_getD,
      List.getElem?_drop, hskip, ← List.getD_eq_getElem?_getD]

theorem getElem?_padTo (n j : Nat) :
    (canvas.padTo n)[j]? = if j < n then some (canvas.getD j Cell.blank) else none := by
  split
  · rename_i hj
    have hlength : j < (canvas.padTo n).length := by rwa [length_padTo]
    rw [List.getElem?_eq_getElem hlength, ← List.getD_eq_getElem _ Cell.blank hlength, getD_padTo, if_pos hj]
  · rename_i hj
    exact List.getElem?_eq_none (by rw [length_padTo]; omega)

theorem padTo_put_singleton {cell : Nat} (h : cell < n) (c : Char) :
    (canvas.put cell [c] kind).padTo n = (canvas.padTo n).set cell (c, kind) := by
  apply List.ext_getElem?
  intro j
  rw [getElem?_padTo, List.getElem?_set, length_padTo, getElem?_padTo, if_pos h]
  by_cases hj : cell = j
  · subst hj
    rw [if_pos rfl, if_pos h]
    have hfirst : [c][0]? = some c := rfl
    exact congrArg some (getD_put_of_lt canvas kind hfirst)
  · rw [if_neg hj, getD_put_of_out canvas kind (by rw [List.length_singleton]; omega)]

end Canvas

end Diagnostics
