import Diagnostics.Proofs.Config.Search

namespace Diagnostics.ConfigFile

open Text.Utf8 (encode)

def directoryOf (tree : FileTree) (path : FilePath) : FilePath := if tree.isFile path then path.dropLast else path

def Searched (tree : FileTree) (start d : FilePath) : Prop := d <+: directoryOf tree start.resolve

structure Nearest (tree : FileTree) (start : FilePath) (P : FilePath → Prop) (d : FilePath) : Prop where
  searched : Searched tree start d
  has : P d
  above : ∀ e, Searched tree start e → P e → e <+: d

def OptionsIn (tree : FileTree) (d : FilePath) (o : Table) : Prop :=
  if tree.isFile (d ++ [optionsName]) then Gives tree (d ++ [optionsName]) o
  else ∃ t, Document tree (d ++ [projectName]) t ∧ Section t o

variable {tree tree' : FileTree} {start d e path : FilePath} {P : FilePath → Prop} {fault : FileFault}

namespace Nearest

theorem unique (h : Nearest tree start P d) (h' : Nearest tree start P e) : d = e :=
  (h'.above d h.searched h.has).eq_of_length_le (h.above e h'.searched h'.has).length_le

theorem of_stops (h : Nearest tree start (Stops tree) d) (hd : Holds tree d) : Nearest tree start (Holds tree) d :=
  ⟨h.searched, hd, fun e he hheld => h.above e he (.inl hheld)⟩

end Nearest

theorem fails_unique {fault' : FileFault} (h : Fails tree d fault) (h' : Fails tree d fault') : fault = fault' :=
  Except.error.inj ((load_of_hasFault h.2).symm.trans (load_of_hasFault h'.2))

theorem discover_eq (tree : FileTree) (start : FilePath) :
    discover tree start = search tree (upwards (directoryOf tree start.resolve)) := rfl

theorem discover_outcome (tree : FileTree) (start : FilePath) :
    ((∀ d, Searched tree start d → ¬ Stops tree d) ∧ (discover tree start).2 = .ok none) ∨
    ∃ d, Nearest tree start (Stops tree) d ∧
      ((Holds tree d ∧ (discover tree start).2 = .ok (some (fileIn tree d))) ∨
        ∃ fault, Fails tree d fault ∧ (discover tree start).2 = .error fault) := by
  rw [discover_eq]
  rcases search_outcome tree (upwards (directoryOf tree start.resolve)) with
    ⟨hall, h⟩ | ⟨before, d, after, hdirs, hbefore, h⟩
  · exact .inl ⟨fun d hd => hall d (mem_upwards.2 hd), h⟩
  · have hd : Searched tree start d := mem_upwards.1 (by rw [hdirs]; simp)
    have hstops : Stops tree d := h.imp And.left fun ⟨fault, hfault, _⟩ => ⟨fault, hfault⟩
    refine .inr ⟨d, ⟨hd, hstops, fun e he hstop => ?_⟩, h⟩
    exact (prefix_of_upwards hdirs).2 e he fun hmem => hbefore e hmem hstop

theorem discover_eq_none : (discover tree start).2 = .ok none ↔ ∀ d, Searched tree start d → ¬ Stops tree d := by
  rcases discover_outcome tree start with ⟨hall, h⟩ | ⟨d, hd, hfound⟩
  · exact ⟨fun _ => hall, fun _ => h⟩
  · refine ⟨fun hnone => ?_, fun hall => absurd hd.has (hall d hd.searched)⟩
    rcases hfound with ⟨-, h⟩ | ⟨fault, -, h⟩
    · cases h.symm.trans hnone
    · cases h.symm.trans hnone

theorem discover_eq_some :
    (discover tree start).2 = .ok (some path) ↔
      ∃ d, Nearest tree start (Holds tree) d ∧ path = fileIn tree d ∧
        ∀ e fault, Searched tree start e → d <+: e → ¬ Fails tree e fault := by
  constructor
  · intro hsome
    rcases discover_outcome tree start with ⟨-, h⟩ | ⟨d, hd, ⟨hholds, h⟩ | ⟨fault, -, h⟩⟩
    · cases h.symm.trans hsome
    · obtain rfl : fileIn tree d = path := Option.some.inj (Except.ok.inj (h.symm.trans hsome))
      refine ⟨d, hd.of_stops hholds, rfl, fun e fault he hbelow hfails => ?_⟩
      obtain rfl : d = e := hbelow.eq_of_length_le (hd.above e he (.inr ⟨fault, hfails⟩)).length_le
      exact not_fails_of_holds hholds hfails
    · cases h.symm.trans hsome
  · rintro ⟨d, hd, rfl, hfree⟩
    rcases discover_outcome tree start with ⟨hall, -⟩ | ⟨e, he, ⟨hholds, h⟩ | ⟨fault, hfails, -⟩⟩
    · exact absurd (.inl hd.has) (hall d hd.searched)
    · rw [hd.unique (he.of_stops hholds), h]
    · exact absurd hfails (hfree e fault he.searched (he.above d hd.searched (.inl hd.has)))

theorem discover_eq_error :
    (discover tree start).2 = .error fault ↔ ∃ d, Nearest tree start (Stops tree) d ∧ Fails tree d fault := by
  constructor
  · intro herror
    rcases discover_outcome tree start with ⟨-, h⟩ | ⟨d, hd, ⟨-, h⟩ | ⟨found, hfails, h⟩⟩
    · cases h.symm.trans herror
    · cases h.symm.trans herror
    · exact ⟨d, hd, Except.error.inj (h.symm.trans herror) ▸ hfails⟩
  · rintro ⟨d, hd, hfails⟩
    rcases discover_outcome tree start with ⟨hall, -⟩ | ⟨e, he, ⟨hholds, -⟩ | ⟨found, hfound, h⟩⟩
    · exact absurd hd.has (hall d hd.searched)
    · exact absurd (hd.unique he ▸ hfails) (not_fails_of_holds hholds)
    · rw [h, fails_unique hfound (hd.unique he ▸ hfails)]

theorem discover_congr (hd : Searched tree start d) (hstops : Stops tree d)
    (hstart : tree'.isFile start.resolve = tree.isFile start.resolve)
    (hfiles : ∀ e, Searched tree start e → d <+: e →
      ∀ name ∈ [optionsName, projectName], tree'.read? (e ++ [name]) = tree.read? (e ++ [name])) :
    discover tree' start = discover tree start := by
  have hdirectory : directoryOf tree' start.resolve = directoryOf tree start.resolve := by
    rw [directoryOf, directoryOf, hstart]
  obtain ⟨before, after, hdirs⟩ := List.append_of_mem (mem_upwards.2 hd)
  -- Both searches end at `d` at the latest, so neither reaches the directories behind it.
  have hends : (search tree (before ++ [d])).2 ≠ .ok none := by
    intro hnone
    rcases search_outcome tree (before ++ [d]) with ⟨hall, -⟩ | ⟨_, e, _, _, -, ⟨-, h⟩ | ⟨fault, -, h⟩⟩
    · exact hall d (by simp) hstops
    · cases h.symm.trans hnone
    · cases h.symm.trans hnone
  have hsame : search tree' (before ++ [d]) = search tree (before ++ [d]) := by
    refine search_congr fun e he => inDirectory_congr ?_
    have hmem : e ∈ upwards (directoryOf tree start.resolve) := by
      rw [hdirs, List.append_cons]
      exact List.mem_append_left after he
    have hbelow : d <+: e := by
      rcases List.mem_append.1 he with hbefore | hlast
      · exact (prefix_of_upwards hdirs).1 e hbefore
      · exact List.mem_singleton.1 hlast ▸ List.prefix_rfl
    exact hfiles e (mem_upwards.1 hmem) hbelow
  rw [discover_eq, discover_eq, hdirectory, hdirs, List.append_cons, search_append (hsame ▸ hends),
    search_append hends, hsame]

theorem loadConfig_of_options {o : Table} (h : loadOptions tree path = .ok (some o)) :
    loadConfig tree path = (Config.ofTable o).mapError .option := by
  rw [loadConfig, h]

theorem loadOptions_fileIn (h : Holds tree d) :
    (∃ o, OptionsIn tree d o ∧ loadOptions tree (fileIn tree d) = .ok (some o)) ∨
    ∃ fault, fileIn tree d = d ++ [optionsName] ∧ HasFault tree (fileIn tree d) fault := by
  by_cases hown : tree.isFile (d ++ [optionsName]) = true
  · rw [fileIn, if_pos hown]
    cases hload : load tree (d ++ [optionsName]) with
    | error fault => exact .inr ⟨fault, rfl, load_eq_error.1 hload⟩
    | ok t =>
      refine .inl ⟨t, ?_, map_ok.2 ⟨t, hload, options_of_ne (getLast?_own d)⟩⟩
      rw [OptionsIn, if_pos hown]
      exact (load_eq_ok.1 hload).2
  · obtain ⟨t, o, ht⟩ := h.resolve_left hown
    rw [fileIn, if_neg hown]
    refine .inl ⟨o, ?_, (loadOptions_eq_some (getLast?_project d)).2 ⟨t, ht⟩⟩
    rw [OptionsIn, if_neg hown]
    exact ⟨t, ht⟩

theorem load_faults (tree : FileTree) (path : FilePath) :
    (tree.read? path = none → load tree path = .ok []) ∧
    (∀ t, load tree path = .ok t ↔ (∀ fault, ¬ HasFault tree path fault) ∧ Gives tree path t) ∧
    (∀ fault, load tree path = .error fault ↔ HasFault tree path fault) ∧
    ((∃ fault, HasFault tree path fault) ↔ ∃ bytes, tree.read? path = some bytes ∧
      ∀ cs, bytes = encode cs → ∃ c, Toml.parse (Text.unifyFeeds cs) = .error (.conflict c)) ∧
    (∀ fault, loadConfig tree path = .error fault ↔ (∃ f, HasFault tree path f ∧ fault = .file f) ∨
      ∃ t o f, load tree path = .ok t ∧ options path t = some o ∧ Config.ofTable o = .error f ∧ fault = .option f) ∧
    ∀ start fault, (discover tree start).2 = .error fault ↔
      ∃ d, Nearest tree start (Stops tree) d ∧ Fails tree d fault :=
  ⟨load_of_not_read, fun _ => load_eq_ok, fun _ => load_eq_error, exists_hasFault, fun _ => loadConfig_eq_error,
    fun _ _ => discover_eq_error⟩

theorem load_faults_truncated :
    let tree : FileTree := [(["a", "pyproject.toml"], .file [0x61, 0xC3]), (["arareport.toml"], .directory)]
    let fault : FileFault := .undecodable ⟨.unexpectedEnd, 0xC3, 1, 2⟩
    (tree.read? ["arareport.toml"] = none ∧ load tree ["arareport.toml"] = .ok []) ∧
      load tree ["a", "pyproject.toml"] = .error fault ∧
      loadConfig tree ["a", "pyproject.toml"] = .error (.file fault) ∧ (discover tree ["a"]).2 = .error fault := by
  intro tree fault
  have hdirectory : tree.read? ["arareport.toml"] = none := rfl
  have hfault : HasFault tree ["a", "pyproject.toml"] fault := load_eq_error.1 rfl
  have hfails : Fails tree ["a"] fault := ⟨rfl, hfault⟩
  have hnearest : Nearest tree ["a"] (Stops tree) ["a"] := by
    exact ⟨List.prefix_rfl, .inr ⟨fault, hfails⟩, fun e he _ => he⟩
  obtain ⟨hmissing, -, -, -, -, -⟩ := load_faults tree ["arareport.toml"]
  obtain ⟨-, -, hload, -, hconfig, hdiscover⟩ := load_faults tree ["a", "pyproject.toml"]
  exact ⟨⟨hdirectory, hmissing hdirectory⟩, (hload fault).2 hfault, (hconfig _).2 (.inl ⟨fault, hfault, rfl⟩),
    (hdiscover _ fault).2 ⟨["a"], hnearest, hfails⟩⟩

theorem load_stray_byte :
    let tree : FileTree := [(["pyproject.toml"], .file [0xFF])]
    let fault : FileFault := .undecodable ⟨.invalidStart, 0xFF, 0, 1⟩
    load tree ["pyproject.toml"] = .error fault ∧ loadConfig tree ["pyproject.toml"] = .error (.file fault) ∧
      (discover tree []).2 = .error fault :=
  ⟨rfl, rfl, rfl⟩

theorem discover_nearest (tree : FileTree) (start : FilePath) :
    ((discover tree start).2 = .ok none ↔
      (∀ d, Searched tree start d → ¬ Holds tree d) ∧ ∀ d fault, Searched tree start d → ¬ Fails tree d fault) ∧
    (∀ path, (discover tree start).2 = .ok (some path) ↔
      ∃ d, Nearest tree start (Holds tree) d ∧ path = fileIn tree d ∧
        ∀ e fault, Searched tree start e → d <+: e → ¬ Fails tree e fault) ∧
    (∀ fault, (discover tree start).2 = .error fault ↔ ∃ d, Nearest tree start (Stops tree) d ∧ Fails tree d fault) ∧
    (∀ d tree', Searched tree start d → Stops tree d →
      tree'.isFile start.resolve = tree.isFile start.resolve →
      (∀ e, Searched tree start e → d <+: e →
        ∀ name ∈ [optionsName, projectName], tree'.read? (e ++ [name]) = tree.read? (e ++ [name])) →
      discover tree' start = discover tree start) ∧
    ∀ d, Nearest tree start (Holds tree) d → loadOptions tree (fileIn tree d) ≠ .ok none ∧
      ((∃ o, OptionsIn tree d o ∧ loadConfig tree (fileIn tree d) = (Config.ofTable o).mapError .option) ∨
        ∃ fault, fileIn tree d = d ++ [optionsName] ∧ HasFault tree (fileIn tree d) fault ∧
          loadConfig tree (fileIn tree d) = .error (.file fault)) := by
  refine ⟨?none, fun _ => discover_eq_some, fun _ => discover_eq_error,
    fun _ _ hd hstops hstart hfiles => discover_congr hd hstops hstart hfiles, fun d hd => ?options⟩
  case none =>
    simp only [discover_eq_none, Stops, not_or, not_exists]
    exact ⟨fun h => ⟨fun d hd => (h d hd).1, fun d fault hd => (h d hd).2 fault⟩,
      fun h d hd => ⟨h.1 d hd, fun fault => h.2 d fault hd⟩⟩
  case options =>
    rcases loadOptions_fileIn hd.has with ⟨o, ho, hload⟩ | ⟨fault, hfile, hfault⟩
    · exact ⟨by rw [hload]; nofun, .inl ⟨o, ho, loadConfig_of_options hload⟩⟩
    · have hload := loadOptions_eq_error.2 hfault
      exact ⟨by rw [hload]; nofun, .inr ⟨fault, hfile, hfault, by rw [loadConfig, hload]⟩⟩

theorem discover_nearest_section :
    let tree : FileTree := [(["a", "b", "arareport.toml"], .directory),
      (["a", "pyproject.toml"], .file (encode "[tool.arareport]".toList)), (["arareport.toml"], .file [])]
    let tree' : FileTree := tree.take 2
    Nearest tree ["a", "b"] (Holds tree) ["a"] ∧
      (discover tree ["a", "b"]).2 = .ok (some ["a", "pyproject.toml"]) ∧
      discover tree' ["a", "b"] = discover tree ["a", "b"] ∧
      loadOptions tree ["a", "pyproject.toml"] ≠ .ok none := by
  intro tree tree'
  have hsearched {e : FilePath} (he : Searched tree ["a", "b"] e) : e = ["a", "b"] ∨ e <+: ["a"] := by
    have hprefix : e <+: ["a"] ++ ["b"] := he
    exact List.prefix_concat_iff.1 hprefix
  have hsection : ((Toml.parse (Text.unifyFeeds "[tool.arareport]".toList)).toOption.bind
      (options (["a"] ++ [projectName]))).isSome := by decide +kernel
  obtain ⟨o, ho⟩ := Option.isSome_iff_exists.1 hsection
  obtain ⟨t, hparse, hoptions⟩ := Option.bind_eq_some_iff.1 ho
  have hdocument : Document tree (["a"] ++ [projectName]) t := ⟨_, rfl, toOption_eq_some.1 hparse⟩
  have hholds : Holds tree ["a"] := .inr ⟨t, o, hdocument, (options_eq_some (getLast?_project ["a"])).1 hoptions⟩
  have hlow : ¬ Stops tree ["a", "b"] := not_stops_of_not_isFile nofun nofun
  have hnearest : Nearest tree ["a", "b"] (Holds tree) ["a"] := by
    refine ⟨⟨["b"], rfl⟩, hholds, fun e he hheld => ?_⟩
    rcases hsearched he with rfl | hprefix
    · exact absurd (.inl hheld) hlow
    · exact hprefix
  obtain ⟨-, hfound, -, habove, hload⟩ := discover_nearest tree ["a", "b"]
  refine ⟨hnearest, (hfound _).2 ⟨["a"], hnearest, rfl, fun e fault he hbelow hfails => ?_⟩, ?_, (hload _ hnearest).1⟩
  · rcases hsearched he with rfl | hprefix
    · exact hlow (.inr ⟨fault, hfails⟩)
    · obtain rfl := hbelow.eq_of_length_le hprefix.length_le
      exact not_fails_of_holds hholds hfails
  · refine habove ["a"] tree' hnearest.searched (.inl hholds) rfl fun e he hbelow => ?_
    simp only [List.forall_mem_cons, List.not_mem_nil, false_implies, implies_true, and_true]
    rcases hsearched he with rfl | hprefix
    · exact ⟨rfl, rfl⟩
    · obtain rfl := hbelow.eq_of_length_le hprefix.length_le
      exact ⟨rfl, rfl⟩

theorem discover_conflict :
    let tree : FileTree :=
      [(["a", "pyproject.toml"], .file (encode "[a]\nb=1\nb=1\n".toList)), (["arareport.toml"], .file [])]
    Nearest tree ["a"] (Holds tree) [] ∧ fileIn tree [] = ["arareport.toml"] ∧
      (discover tree ["a"]).2 = .error (.conflict (.present "b")) := by
  intro tree
  have hfault : faultOf (Toml.parse (Text.unifyFeeds "[a]\nb=1\nb=1\n".toList)) = some (.conflict (.present "b")) := by
    decide +kernel
  have hfails : Fails tree ["a"] (.conflict (.present "b")) := ⟨rfl, _, rfl, faultOf_eq_some.1 hfault⟩
  refine ⟨⟨⟨["a"], rfl⟩, .inl rfl, fun e he hheld => ?_⟩, rfl, ?_⟩
  · have hprefix : e <+: [] ++ ["a"] := he
    rcases List.prefix_concat_iff.1 hprefix with rfl | hprefix
    · exact absurd hfails (not_fails_of_holds hheld)
    · exact hprefix
  · exact discover_eq_error.2 ⟨["a"], ⟨List.prefix_rfl, .inr ⟨_, hfails⟩, fun e he _ => he⟩, hfails⟩

end Diagnostics.ConfigFile
