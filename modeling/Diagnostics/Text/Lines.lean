namespace Diagnostics.Text

def unifyFeeds : List Char → List Char
  | [] => []
  | '\r' :: '\n' :: rest => '\n' :: unifyFeeds rest
  | '\r' :: rest => '\n' :: unifyFeeds rest
  | c :: rest => c :: unifyFeeds rest

def splitLines : List Char → List Char × List (List Char)
  | [] => ([], [])
  | c :: rest =>
      let (first, others) := splitLines rest
      if c = '\n' then ([], first :: others) else (c :: first, others)

def lines (cs : List Char) : List (List Char) := (splitLines cs).1 :: (splitLines cs).2

theorem intercalate_lines (cs : List Char) : ['\n'].intercalate (lines cs) = cs := by
  induction cs with
  | nil => rfl
  | cons c rest ih =>
      simp only [lines] at ih ⊢
      by_cases h : c = '\n'
      · simp_all [splitLines, List.intercalate]
      · cases hs : (splitLines rest).2 <;> simp_all [splitLines, List.intercalate]

theorem feed_notMem_lines (cs : List Char) : ∀ l ∈ lines cs, '\n' ∉ l := by
  induction cs with
  | nil => simp [lines, splitLines]
  | cons c rest ih =>
      simp only [lines] at ih ⊢
      by_cases h : c = '\n'
      · simp_all [splitLines]
      · simp_all [splitLines, Ne.symm h]

end Diagnostics.Text
