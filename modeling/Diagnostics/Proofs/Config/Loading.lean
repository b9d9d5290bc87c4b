import Diagnostics.Config.Files
import Diagnostics.Proofs.Outcome
import Diagnostics.Proofs.Text.Decoding

namespace Diagnostics.ConfigFile

open Text.Utf8 (encode)

def Document (tree : FileTree) (path : FilePath) (t : Table) : Prop :=
  ∃ cs, tree.read? path = some (encode cs) ∧ Toml.parse (Text.unifyFeeds cs) = .ok t

def HasFault (tree : FileTree) (path : FilePath) : FileFault → Prop
  | .undecodable fault => ∃ bytes, tree.read? path = some bytes ∧ (¬ ∃ cs, bytes = encode cs) ∧
      Text.Utf8.decode bytes = .error fault
  | .conflict c => ∃ cs, tree.read? path = some (encode cs) ∧ Toml.parse (Text.unifyFeeds cs) = .error (.conflict c)

def Gives (tree : FileTree) (path : FilePath) (t : Table) : Prop :=
  Document tree path t ∨ (∀ other, ¬ Document tree path other) ∧ t = []

def Section (t o : Table) : Prop :=
  ∃ tool : Table, t.get? "tool" = some (.table tool) ∧ tool.get? sectionName = some (.table o)

variable {tree : FileTree} {path : FilePath} {t o : Table} {fault : FileFault}

theorem open?_of_text {cs : List Char} (h : tree.read? path = some (encode cs)) :
    open? tree path =
      match Toml.parse (Text.unifyFeeds cs) with
      | .ok t => .ok (.table t)
      | .error .invalid => .ok .invalid
      | .error (.conflict c) => .error (.conflict c) := by
  cases hparse : Toml.parse (Text.unifyFeeds cs) with
  | ok t => simp only [open?, h, Text.Utf8.decode_encode, hparse]
  | error fault =>
    cases fault with
    | invalid => simp only [open?, h, Text.Utf8.decode_encode, hparse]
    | conflict c => simp only [open?, h, Text.Utf8.decode_encode, hparse]

theorem load_of_document (h : Document tree path t) : load tree path = .ok t := by
  obtain ⟨cs, hread, hparse⟩ := h
  rw [load, open?_of_text hread, hparse]
  rfl

theorem load_of_hasFault (h : HasFault tree path fault) : load tree path = .error fault := by
  cases fault with
  | undecodable fault =>
    obtain ⟨bytes, hread, -, hdecode⟩ := h
    simp only [load, open?, hread, hdecode]
    rfl
  | conflict c =>
    obtain ⟨cs, hread, hparse⟩ := h
    rw [load, open?_of_text hread, hparse]
    rfl

theorem load_of_not_read (h : tree.read? path = none) : load tree path = .ok [] := by
  rw [load, open?, h]
  rfl

theorem load_outcome (tree : FileTree) (path : FilePath) :
    (∃ t, Document tree path t ∧ load tree path = .ok t) ∨
    (∃ fault, HasFault tree path fault ∧ load tree path = .error fault) ∨
    (∀ t, ¬ Document tree path t) ∧ (∀ fault, ¬ HasFault tree path fault) ∧ load tree path = .ok [] := by
  cases hread : tree.read? path with
  | none =>
    refine .inr (.inr ⟨?_, ?_, load_of_not_read hread⟩)
    · rintro t ⟨cs, hcs, -⟩
      simp [hread] at hcs
    · rintro (fault | c)
      · rintro ⟨bytes, hbytes, -⟩
        simp [hread] at hbytes
      · rintro ⟨cs, hcs, -⟩
        simp [hread] at hcs
  | some bytes =>
    cases hdecode : Text.Utf8.decode bytes with
    | error fault =>
      have hnot : ¬ ∃ cs, bytes = encode cs := by
        rintro ⟨cs, rfl⟩
        simp [Text.Utf8.decode_encode] at hdecode
      have hfault : HasFault tree path (.undecodable fault) := ⟨bytes, hread, hnot, hdecode⟩
      exact .inr (.inl ⟨_, hfault, load_of_hasFault hfault⟩)
    | ok cs =>
      obtain rfl := Text.Utf8.decode_eq_ok.1 hdecode
      cases hparse : Toml.parse (Text.unifyFeeds cs) with
      | ok t => exact .inl ⟨t, ⟨cs, hread, hparse⟩, load_of_document ⟨cs, hread, hparse⟩⟩
      | error fault =>
        cases fault with
        | conflict c =>
          have hfault : HasFault tree path (.conflict c) := ⟨cs, hread, hparse⟩
          exact .inr (.inl ⟨_, hfault, load_of_hasFault hfault⟩)
        | invalid =>
          have htext {more : List Char} (h : tree.read? path = some (encode more)) : more = cs :=
            Text.Utf8.encode_injective (Option.some.inj (h.symm.trans hread))
          refine .inr (.inr ⟨?_, ?_, by rw [load, open?_of_text hread, hparse]; rfl⟩)
          · rintro t ⟨more, hmore, ht⟩
            rw [htext hmore, hparse] at ht
            cases ht
          · rintro (fault | c)
            · rintro ⟨bytes, hbytes, hnot, -⟩
              exact hnot ⟨cs, Option.some.inj (hbytes.symm.trans hread)⟩
            · rintro ⟨more, hmore, hc⟩
              rw [htext hmore, hparse] at hc
              cases hc

theorem load_eq_error : load tree path = .error fault ↔ HasFault tree path fault := by
  refine ⟨fun h => ?_, load_of_hasFault⟩
  rcases load_outcome tree path with ⟨t, -, hload⟩ | ⟨other, hother, hload⟩ | ⟨-, -, hload⟩
  · cases h.symm.trans hload
  · exact Except.error.inj (h.symm.trans hload) ▸ hother
  · cases h.symm.trans hload

theorem load_eq_ok : load tree path = .ok t ↔ (∀ fault, ¬ HasFault tree path fault) ∧ Gives tree path t := by
  constructor
  · intro h
    have hfaults (fault : FileFault) (hfault : HasFault tree path fault) : False := by
      cases h.symm.trans (load_of_hasFault hfault)
    refine ⟨hfaults, ?_⟩
    rcases load_outcome tree path with ⟨other, hother, hload⟩ | ⟨fault, -, hload⟩ | ⟨hnone, -, hload⟩
    · exact .inl (Except.ok.inj (hload.symm.trans h) ▸ hother)
    · cases h.symm.trans hload
    · exact .inr ⟨hnone, Except.ok.inj (h.symm.trans hload)⟩
  · rintro ⟨hfaults, hdocument | ⟨hnone, rfl⟩⟩
    · exact load_of_document hdocument
    · rcases load_outcome tree path with ⟨other, hother, -⟩ | ⟨fault, hfault, -⟩ | ⟨-, -, hload⟩
      · exact absurd hother (hnone other)
      · exact absurd hfault (hfaults fault)
      · exact hload

theorem exists_hasFault :
    (∃ fault, HasFault tree path fault) ↔ ∃ bytes, tree.read? path = some bytes ∧
      ∀ cs, bytes = encode cs → ∃ c, Toml.parse (Text.unifyFeeds cs) = .error (.conflict c) := by
  constructor
  · rintro ⟨fault | c, hfault⟩
    · obtain ⟨bytes, hread, hnot, -⟩ := hfault
      exact ⟨bytes, hread, fun cs hcs => absurd ⟨cs, hcs⟩ hnot⟩
    · obtain ⟨cs, hread, hc⟩ := hfault
      exact ⟨_, hread, fun other hother => ⟨c, Text.Utf8.encode_injective hother ▸ hc⟩⟩
  · rintro ⟨bytes, hread, hall⟩
    cases hdecode : Text.Utf8.decode bytes with
    | ok cs =>
      obtain rfl := Text.Utf8.decode_eq_ok.1 hdecode
      obtain ⟨c, hc⟩ := hall cs rfl
      exact ⟨.conflict c, cs, hread, hc⟩
    | error fault =>
      refine ⟨.undecodable fault, bytes, hread, ?_, hdecode⟩
      rintro ⟨cs, rfl⟩
      simp [Text.Utf8.decode_encode] at hdecode

theorem options_of_ne (h : path.getLast? ≠ some projectName) : options path t = some t := if_neg h

theorem options_eq_some (h : path.getLast? = some projectName) : options path t = some o ↔ Section t o := by
  rw [options, if_pos h, Section]
  constructor
  · intro heq
    split at heq
    · rename_i tool htool
      split at heq
      · rename_i found hfound
        exact ⟨tool, htool, hfound.trans (congrArg (some ∘ Value.table) (Option.some.inj heq))⟩
      · cases heq
    · cases heq
  · rintro ⟨tool, htool, hfound⟩
    simp only [htool, hfound]

theorem loadOptions_eq_error : loadOptions tree path = .error fault ↔ HasFault tree path fault := by
  rw [loadOptions, ← load_eq_error]
  cases load tree path <;> simp [Except.map]

theorem loadOptions_eq_some (h : path.getLast? = some projectName) :
    loadOptions tree path = .ok (some o) ↔ ∃ t, Document tree path t ∧ Section t o := by
  rw [loadOptions, map_ok]
  constructor
  · rintro ⟨t, hload, hoptions⟩
    have hsection := (options_eq_some h).1 hoptions
    rcases (load_eq_ok.1 hload).2 with hdocument | ⟨-, rfl⟩
    · exact ⟨t, hdocument, hsection⟩
    · -- The empty table of a file without a document has no section.
      obtain ⟨tool, htool, -⟩ := hsection
      cases htool
  · rintro ⟨t, hdocument, hsection⟩
    exact ⟨t, load_of_document hdocument, (options_eq_some h).2 hsection⟩

theorem loadConfig_eq_error {fault : ConfigFault} :
    loadConfig tree path = .error fault ↔ (∃ f, HasFault tree path f ∧ fault = .file f) ∨
      ∃ t o f, load tree path = .ok t ∧ options path t = some o ∧ Config.ofTable o = .error f ∧ fault = .option f := by
  simp only [loadConfig, loadOptions, ← load_eq_error]
  cases load tree path with
  | error f => simp [Except.map, eq_comm]
  | ok t =>
    cases hoptions : options path t with
    | none => simp [Except.map, hoptions]
    | some o => cases hread : Config.ofTable o <;> simp [Except.map, Except.mapError, hoptions, hread, eq_comm]

end Diagnostics.ConfigFile
