import Mathlib.Data.List.Infix
import Diagnostics.Proofs.Config.Loading

namespace Diagnostics.ConfigFile

section Directories

variable {d e start : FilePath} {before after : List FilePath}

theorem mem_upwards : d ∈ upwards start ↔ d <+: start := by
  rw [upwards, List.mem_map]
  constructor
  · rintro ⟨n, -, rfl⟩
    exact List.take_prefix _ _
  · intro h
    have hlength := h.length_le
    refine ⟨start.length - d.length, List.mem_range.2 (by omega), ?_⟩
    rw [Nat.sub_sub_self hlength]
    exact (List.prefix_iff_eq_take.1 h).symm

theorem pairwise_upwards (start : FilePath) : (upwards start).Pairwise fun d above => above <+: d := by
  rw [upwards, List.pairwise_map]
  refine List.pairwise_lt_range.imp fun {m n} hmn => ?_
  exact List.take_prefix_take_left (by omega)

theorem prefix_of_upwards (h : upwards start = before ++ d :: after) :
    (∀ e ∈ before, d <+: e) ∧ ∀ e, e <+: start → e ∉ before → e <+: d := by
  have hpairs := h ▸ pairwise_upwards start
  rw [List.pairwise_append, List.pairwise_cons] at hpairs
  refine ⟨fun e he => hpairs.2.2 e he d (List.mem_cons_self ..), fun e he hnot => ?_⟩
  rcases List.mem_append.1 (h ▸ mem_upwards.2 he) with hbefore | hrest
  · exact absurd hbefore hnot
  rcases List.mem_cons.1 hrest with rfl | hafter
  · exact List.prefix_rfl
  · exact hpairs.2.1.1 e hafter

end Directories

theorem getLast?_own (d : FilePath) : (d ++ [optionsName]).getLast? ≠ some projectName := by
  rw [List.getLast?_concat]
  decide

theorem getLast?_project (d : FilePath) : (d ++ [projectName]).getLast? = some projectName := List.getLast?_concat

def Holds (tree : FileTree) (d : FilePath) : Prop :=
  tree.isFile (d ++ [optionsName]) = true ∨ ∃ t o, Document tree (d ++ [projectName]) t ∧ Section t o

def fileIn (tree : FileTree) (d : FilePath) : FilePath :=
  if tree.isFile (d ++ [optionsName]) then d ++ [optionsName] else d ++ [projectName]

def Fails (tree : FileTree) (d : FilePath) (fault : FileFault) : Prop :=
  tree.isFile (d ++ [optionsName]) = false ∧ HasFault tree (d ++ [projectName]) fault

def Stops (tree : FileTree) (d : FilePath) : Prop := Holds tree d ∨ ∃ fault, Fails tree d fault

variable {tree tree' : FileTree} {path d : FilePath} {t : Table} {fault : FileFault} {dirs more : List FilePath}

theorem isFile_of_read? {bytes : List UInt8} (h : tree.read? path = some bytes) : tree.isFile path = true := by
  rw [FileTree.isFile, h, Option.isSome_some]

theorem isFile_of_document (h : Document tree path t) : tree.isFile path = true := by
  obtain ⟨cs, hread, -⟩ := h
  exact isFile_of_read? hread

theorem isFile_of_hasFault (h : HasFault tree path fault) : tree.isFile path = true := by
  cases fault with
  | undecodable fault =>
    obtain ⟨bytes, hread, -⟩ := h
    exact isFile_of_read? hread
  | conflict c =>
    obtain ⟨cs, hread, -⟩ := h
    exact isFile_of_read? hread

theorem not_fails_of_holds (h : Holds tree d) : ¬ Fails tree d fault := by
  rintro ⟨hown, hfault⟩
  rcases h with hfile | ⟨t, o, hdocument, -⟩
  · rw [hown] at hfile
    cases hfile
  · cases (load_of_document hdocument).symm.trans (load_of_hasFault hfault)

theorem not_stops_of_not_isFile (hown : ¬ tree.isFile (d ++ [optionsName]) = true)
    (hproject : ¬ tree.isFile (d ++ [projectName]) = true) : ¬ Stops tree d := by
  rintro ((hheld | ⟨t, o, ht, -⟩) | ⟨fault, -, hfault⟩)
  · exact hown hheld
  · exact hproject (isFile_of_document ht)
  · exact hproject (isFile_of_hasFault hfault)

theorem inDirectory_outcome (tree : FileTree) (d : FilePath) :
    (Holds tree d ∧ (inDirectory tree d).2 = .ok (some (fileIn tree d))) ∨
    (∃ fault, Fails tree d fault ∧ (inDirectory tree d).2 = .error fault) ∨
    ¬ Stops tree d ∧ (inDirectory tree d).2 = .ok none := by
  by_cases hown : tree.isFile (d ++ [optionsName]) = true
  · exact .inl ⟨.inl hown, by simp only [inDirectory, fileIn, hown, if_true]⟩
  have hfile : fileIn tree d = d ++ [projectName] := if_neg hown
  by_cases hproject : tree.isFile (d ++ [projectName]) = true
  · cases hload : loadOptions tree (d ++ [projectName]) with
    | error fault =>
      have hfails : Fails tree d fault := ⟨Bool.eq_false_iff.2 hown, loadOptions_eq_error.1 hload⟩
      exact .inr (.inl ⟨fault, hfails, by simp only [inDirectory, hown, hproject, hload, if_true]; rfl⟩)
    | ok found =>
      cases found with
      | some o =>
        obtain ⟨t, ht⟩ := (loadOptions_eq_some (getLast?_project d)).1 hload
        exact .inl ⟨.inr ⟨t, o, ht⟩, by simp only [inDirectory, hown, hproject, hload, hfile, if_true]; rfl⟩
      | none =>
        refine .inr (.inr ⟨?_, by simp only [inDirectory, hown, hproject, hload, if_true]; rfl⟩)
        rintro ((hheld | ⟨t, o, ht⟩) | ⟨fault, -, hfault⟩)
        · exact hown hheld
        · cases hload.symm.trans ((loadOptions_eq_some (getLast?_project d)).2 ⟨t, ht⟩)
        · cases hload.symm.trans (loadOptions_eq_error.2 hfault)
  · exact .inr (.inr ⟨not_stops_of_not_isFile hown hproject, by simp only [inDirectory, hown, hproject]; rfl⟩)

theorem search_cons_of_none (h : (inDirectory tree d).2 = .ok none) :
    (search tree (d :: dirs)).2 = (search tree dirs).2 := by
  rw [search]
  split
  · rfl
  · rename_i hne
    exact (hne (inDirectory tree d).1 (Prod.ext rfl h)).elim

theorem search_cons_of_ne (dirs : List FilePath) (h : (inDirectory tree d).2 ≠ .ok none) :
    search tree (d :: dirs) = inDirectory tree d := by
  rw [search]
  split
  · rename_i records heq
    exact absurd (congrArg Prod.snd heq) h
  · rfl

theorem search_append (h : (search tree dirs).2 ≠ .ok none) : search tree (dirs ++ more) = search tree dirs := by
  induction dirs with
  | nil => exact absurd rfl h
  | cons d dirs ih =>
    by_cases hd : (inDirectory tree d).2 = .ok none
    · rw [search_cons_of_none hd] at h
      rw [List.cons_append, search, search, ih h]
    · rw [List.cons_append, search_cons_of_ne _ hd, search_cons_of_ne _ hd]

theorem open?_congr (h : tree'.read? path = tree.read? path) : open? tree' path = open? tree path := by
  simp only [open?, h]

theorem inDirectory_congr
    (h : ∀ name ∈ [optionsName, projectName], tree'.read? (d ++ [name]) = tree.read? (d ++ [name])) :
    inDirectory tree' d = inDirectory tree d := by
  have hproject := h projectName (by simp)
  have hown : tree'.isFile (d ++ [optionsName]) = tree.isFile (d ++ [optionsName]) := by
    rw [FileTree.isFile, FileTree.isFile, h optionsName (by simp)]
  have hfile : tree'.isFile (d ++ [projectName]) = tree.isFile (d ++ [projectName]) := by
    rw [FileTree.isFile, FileTree.isFile, hproject]
  have hload : loadOptions tree' (d ++ [projectName]) = loadOptions tree (d ++ [projectName]) := by
    rw [loadOptions, loadOptions, load, load, open?_congr hproject]
  have hrecords : loadRecords tree' (d ++ [projectName]) = loadRecords tree (d ++ [projectName]) := by
    rw [loadRecords, loadRecords, open?_congr hproject]
  rw [inDirectory, inDirectory, hown, hfile, hload, hrecords]

theorem search_congr (h : ∀ d ∈ dirs, inDirectory tree' d = inDirectory tree d) :
    search tree' dirs = search tree dirs := by
  induction dirs with
  | nil => rfl
  | cons d dirs ih =>
    rw [search, search, h d (List.mem_cons_self ..), ih fun e he => h e (List.mem_cons_of_mem _ he)]

theorem search_outcome (tree : FileTree) (dirs : List FilePath) :
    ((∀ d ∈ dirs, ¬ Stops tree d) ∧ (search tree dirs).2 = .ok none) ∨
    ∃ before d after, dirs = before ++ d :: after ∧ (∀ e ∈ before, ¬ Stops tree e) ∧
      ((Holds tree d ∧ (search tree dirs).2 = .ok (some (fileIn tree d))) ∨
        ∃ fault, Fails tree d fault ∧ (search tree dirs).2 = .error fault) := by
  -- The first directory either ends the search or hands it on with the same result.
  induction dirs with
  | nil => exact .inl ⟨by simp, rfl⟩
  | cons d dirs ih =>
    rcases inDirectory_outcome tree d with ⟨hholds, hd⟩ | ⟨fault, hfails, hd⟩ | ⟨hnot, hd⟩
    · have hsearch := search_cons_of_ne dirs (by rw [hd]; nofun)
      exact .inr ⟨[], d, dirs, rfl, by simp, .inl ⟨hholds, by rw [hsearch, hd]⟩⟩
    · have hsearch := search_cons_of_ne dirs (by rw [hd]; nofun)
      exact .inr ⟨[], d, dirs, rfl, by simp, .inr ⟨fault, hfails, by rw [hsearch, hd]⟩⟩
    · rw [search_cons_of_none hd]
      rcases ih with ⟨hall, hsearch⟩ | ⟨before, e, after, rfl, hbefore, he⟩
      · exact .inl ⟨List.forall_mem_cons.2 ⟨hnot, hall⟩, hsearch⟩
      · exact .inr ⟨d :: before, e, after, rfl, List.forall_mem_cons.2 ⟨hnot, hbefore⟩, he⟩

end Diagnostics.ConfigFile
