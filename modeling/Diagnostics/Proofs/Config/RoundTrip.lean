import Diagnostics.Proofs.Config.Table
import Diagnostics.Renderer

namespace Diagnostics

def Count.booleanFault? (key : String) (least : Int) : Count → Option OptionFault
  | .bool b => some (.count key (.bool b) least)
  | .int _ => none

namespace Config

def booleanFault? (c : Config) : Option OptionFault :=
  (c.context.booleanFault? "context_lines" 0).or (c.tab.booleanFault? "tab_width" 1)

variable {c d : Config} {x : Change}

theorem booleanFault?_eq_none : c.booleanFault? = none ↔ c.asInts = c := by
  obtain ⟨colors, charset, style, context, tab, hcontext, htab⟩ := c
  cases context <;> cases tab <;> simp [booleanFault?, Count.booleanFault?, asInts, Count.toInt]

theorem faultIn_choice_toTable (c : Config) {α : Type} [Choice α] (key : String) (a : α)
    (h : c.toTable.get? key = some (.text (Choice.value a))) : (OptionRule.choice α key).faultIn c.toTable = none :=
  OptionRule.faultIn_of_admits h ⟨_, rfl, a, Choice.spells_value a⟩

theorem faultIn_count_toTable (c : Config) (key : String) {least : Nat} {count : Count}
    (hleast : (least : Int) ≤ count.toInt) (h : c.toTable.get? key = some (.ofCount count)) :
    (OptionRule.count key least).faultIn c.toTable = count.booleanFault? key least := by
  cases count with
  | bool b => exact OptionRule.faultIn_of_not_admits h fun ⟨_, hint, _⟩ => nomatch hint
  | int n => exact OptionRule.faultIn_of_admits h ⟨n, rfl, hleast⟩

theorem faultOf_toTable (c : Config) : faultOf (ofTable c.toTable) = c.booleanFault? := by
  simp only [faultOf_ofTable, rules, List.findSome?_cons, List.findSome?_nil,
    faultIn_choice_toTable c "colors" c.colors rfl,
    faultIn_choice_toTable c "charset" c.charset rfl,
    faultIn_choice_toTable c "style" c.style rfl,
    faultIn_count_toTable c "context_lines" c.context_nonneg rfl,
    faultIn_count_toTable c "tab_width" c.tab_pos rfl, booleanFault?]
  cases c.context.booleanFault? "context_lines" 0 <;> cases c.tab.booleanFault? "tab_width" 1 <;> rfl

theorem ofTable_toTable_of_asInts (h : c.asInts = c) : ofTable c.toTable = .ok c := by
  obtain ⟨hcontext, htab⟩ := eq_int_of_asInts h
  have hchoice {α : Type} [Choice α] {key : String} {missing a : α}
      (h : c.toTable.get? key = some (.text (Choice.value a))) : Chooses c.toTable key missing a :=
    ⟨fun hnone => by simp [h] at hnone, fun v hv => ⟨_, Option.some.inj (hv.symm.trans h), Choice.spells_value a⟩⟩
  have hcount {key : String} {missing n : Nat} {count : Count} (hint : count = .int n)
      (h : c.toTable.get? key = some (.ofCount count)) : Counts c.toTable key missing n := by
    rw [hint] at h
    exact ⟨fun hnone => by simp [h] at hnone, fun v hv => Option.some.inj (hv.symm.trans h)⟩
  exact ofTable_eq_ok.2 ⟨h, hchoice rfl, hchoice rfl, hchoice rfl, hcount hcontext rfl, hcount htab rfl⟩

theorem ofTable_toTable : ofTable c.toTable = .ok d ↔ c.asInts = c ∧ d = c := by
  constructor
  · intro h
    have hints : c.asInts = c := by rw [← booleanFault?_eq_none, ← faultOf_toTable, h, faultOf_ok]
    rw [ofTable_toTable_of_asInts hints] at h
    exact ⟨hints, (Except.ok.inj h).symm⟩
  · rintro ⟨hints, rfl⟩
    exact ofTable_toTable_of_asInts hints

theorem withContextLines_eq_ok {lines : Count} : c.withContextLines lines = .ok d ↔
    ∃ h : 0 ≤ lines.toInt, d = { c with context := lines, context_nonneg := h } := by
  rw [withContextLines]
  split
  · rename_i hlines
    constructor
    · intro h
      cases h
    · rintro ⟨h, -⟩
      exact absurd h (Int.not_le.2 hlines)
  · rename_i hlines
    rw [Except.ok.injEq, eq_comm, exists_prop_of_true (Int.not_lt.1 hlines)]

theorem withTabWidth_eq_ok {width : Count} : c.withTabWidth width = .ok d ↔
    ∃ h : 1 ≤ width.toInt, d = { c with tab := width, tab_pos := h } := by
  rw [withTabWidth]
  split
  · rename_i hwidth
    constructor
    · intro h
      cases h
    · rintro ⟨h, -⟩
      exact absurd h (Int.not_le.2 hwidth)
  · rename_i hwidth
    rw [Except.ok.injEq, eq_comm, exists_prop_of_true (Int.not_lt.1 hwidth)]

theorem ofOptions_of_config (c : Config) :
    ofOptions c.colors c.charset c.style c.context c.tab = .ok c := by
  rw [ofOptions, bind_ok]
  exact ⟨_, withContextLines_eq_ok.2 ⟨c.context_nonneg, rfl⟩, withTabWidth_eq_ok.2 ⟨c.tab_pos, rfl⟩⟩

def Change.entry : Change → String × Value
  | .colors a => ("colors", .text (Choice.value a))
  | .charset a => ("charset", .text (Choice.value a))
  | .style a => ("style", .text (Choice.value a))
  | .contextLines n => ("context_lines", .ofCount n)
  | .tabWidth n => ("tab_width", .ofCount n)

def Change.asInt : Change → Change
  | .colors a => .colors a
  | .charset a => .charset a
  | .style a => .style a
  | .contextLines n => .contextLines (.int n.toInt)
  | .tabWidth n => .tabWidth (.int n.toInt)

theorem set_entry_of_change (h : c.change x = .ok d) : c.toTable.set x.entry.1 x.entry.2 = d.toTable := by
  cases x with
  | colors | charset | style =>
    obtain rfl := Except.ok.inj h
    rfl
  | contextLines lines =>
    obtain ⟨-, rfl⟩ := withContextLines_eq_ok.1 h
    rfl
  | tabWidth width =>
    obtain ⟨-, rfl⟩ := withTabWidth_eq_ok.1 h
    rfl

theorem not_admits_of_change {f : Rejection} (h : c.change x = .error f) :
    ∃ r ∈ rules, r.key = x.asInt.entry.1 ∧ ¬ r.Admits x.asInt.entry.2 := by
  cases x with
  | colors | charset | style => cases h
  | contextLines lines =>
    refine ⟨.count "context_lines" 0, by simp [rules], rfl, ?_⟩
    rintro ⟨n, hn, hle⟩
    rw [← Value.int.inj hn] at hle
    cases h.symm.trans (withContextLines_eq_ok.2 ⟨hle, rfl⟩)
  | tabWidth width =>
    refine ⟨.count "tab_width" 1, by simp [rules], rfl, ?_⟩
    rintro ⟨n, hn, hle⟩
    rw [← Value.int.inj hn] at hle
    cases h.symm.trans (withTabWidth_eq_ok.2 ⟨hle, rfl⟩)

theorem change_asInts (h : c.change x = .ok d) : c.asInts.change x.asInt = .ok d.asInts := by
  cases x with
  | colors | charset | style =>
    obtain rfl := Except.ok.inj h
    rfl
  | contextLines lines =>
    obtain ⟨hlines, rfl⟩ := withContextLines_eq_ok.1 h
    exact withContextLines_eq_ok.2 ⟨hlines, rfl⟩
  | tabWidth width =>
    obtain ⟨hwidth, rfl⟩ := withTabWidth_eq_ok.1 h
    exact withTabWidth_eq_ok.2 ⟨hwidth, rfl⟩

theorem change_eq_ok : (∃ e, c.change x = .ok e ∧ e.asInts = d) ↔
    ofTable (c.asInts.toTable.set x.asInt.entry.1 x.asInt.entry.2) = .ok d := by
  cases h : c.change x with
  | ok e =>
    rw [set_entry_of_change (change_asInts h), ofTable_toTable]
    simp only [Except.ok.injEq, exists_eq_left', eq_comm (a := d)]
    exact (and_iff_right rfl).symm
  | error f =>
    obtain ⟨r, hr, hkey, hnot⟩ := not_admits_of_change h
    refine ⟨nofun, fun hok => absurd ?_ hnot⟩
    exact exists_ofTable_iff.1 ⟨d, hok⟩ r hr _ (hkey ▸ Table.get?_set_self _ _ _)

end Config

namespace Renderer

theorem ofConfig_eq (registry : Registry) (c : Config) : ofConfig registry c = .ok ⟨registry, c⟩ := by
  rw [ofConfig, Config.ofOptions_of_config]
  rfl

def after : Renderer → List Config.Change → Renderer
  | r, [] => r
  | r, x :: xs =>
      match r.change x with
      | .ok next => next.after xs
      | .error _ => r.after xs

theorem registry_of_change {r next : Renderer} {x : Config.Change} (h : r.change x = .ok next) :
    next.registry = r.registry := by
  obtain ⟨c, -, rfl⟩ := map_ok.1 h
  rfl

theorem registry_after (r : Renderer) (xs : List Config.Change) : (r.after xs).registry = r.registry := by
  induction xs generalizing r with
  | nil => rfl
  | cons x xs ih =>
    rw [after]
    split
    · rename_i next h
      rw [ih, registry_of_change h]
    · exact ih r

end Renderer

namespace Config

theorem asInts_after {r : Renderer} (h : r.config.asInts = r.config) {xs : List Change}
    (hxs : ∀ x ∈ xs, x.asInt = x) : (r.after xs).config.asInts = (r.after xs).config := by
  induction xs generalizing r with
  | nil => exact h
  | cons x xs ih =>
    obtain ⟨hx, hxs⟩ := List.forall_mem_cons.1 hxs
    rw [Renderer.after]
    split
    · rename_i next hnext
      obtain ⟨d, hd, rfl⟩ := map_ok.1 hnext
      refine ih ?_ hxs
      have hsame := change_asInts hd
      rw [h, hx, hd] at hsame
      exact (Except.ok.inj hsame).symm
    · exact ih h hxs

theorem ofTable_exact (t : Table) (r : Renderer) :
    (((∃ c, ofTable t = .ok c) ↔ ∀ rule ∈ rules, ∀ v, t.get? rule.key = some v → rule.Admits v) ∧
      (∀ before rule after v, rules = before ++ rule :: after →
        (∀ earlier ∈ before, ∀ w, t.get? earlier.key = some w → earlier.Admits w) →
        t.get? rule.key = some v → ¬ rule.Admits v → ofTable t = .error (rule.fault v)) ∧
      (∀ t' : Table, (∀ key ∈ keys, t'.get? key = t.get? key) → ofTable t' = ofTable t) ∧
      (∀ t' : Table, (t'.map (·.1)).Nodup → t'.Perm t → ofTable t' = ofTable t) ∧
      ∀ c, ofTable t = .ok c → ReadFrom t c ∧ (0 : Int) ≤ c.contextLines ∧ (1 : Int) ≤ c.tabWidth ∧
        ofTable c.toTable = .ok c ∧
        ∀ registry, ∃ built, Renderer.ofConfig registry c = .ok built ∧ built.registry = registry ∧ built.config = c) ∧
    (∀ x d, (∃ next, r.change x = .ok next ∧ next.config.asInts = d) ↔
      ofTable (r.config.asInts.toTable.set x.asInt.entry.1 x.asInt.entry.2) = .ok d) ∧
    ∀ xs, let c := (r.after xs).config
      (r.after xs).registry = r.registry ∧
      (∀ d, ofTable c.toTable = .ok d ↔ c.asInts = c ∧ d = c) ∧
      (∀ f, ofTable c.toTable = .error f ↔ c.booleanFault? = some f) ∧
      (r.config.asInts = r.config → (∀ x ∈ xs, x.asInt = x) → ofTable c.toTable = .ok c) := by
  refine ⟨⟨exists_ofTable_iff, ?first, fun t' h => ofTable_congr h, ?order, fun c hc => ?read⟩,
    fun x d => ?change, fun xs => ⟨r.registry_after xs, fun d => ofTable_toTable, fun f => ?refused,
      fun h hxs => ofTable_toTable_of_asInts (asInts_after h hxs)⟩⟩
  case first => exact fun before rule after v hrules hbefore hget hv => ofTable_of_first hrules hbefore hget hv
  case order => exact fun t' hnodup hperm => ofTable_congr fun key _ => Table.get?_perm hnodup hperm key
  case read =>
    have hwidth : (1 : Int) ≤ c.tabWidth := Int.ofNat_le.2 c.tabWidth_pos
    have hread := ofTable_eq_ok.1 hc
    exact ⟨hread, Int.natCast_nonneg _, hwidth, ofTable_toTable_of_asInts hread.ints,
      fun registry => ⟨_, Renderer.ofConfig_eq registry c, rfl, rfl⟩⟩
  case refused => rw [← faultOf_toTable, faultOf_eq_some]
  case change =>
    rw [← change_eq_ok, Renderer.change]
    constructor
    · rintro ⟨next, hnext, rfl⟩
      obtain ⟨e, he, rfl⟩ := map_ok.1 hnext
      exact ⟨e, he, rfl⟩
    · rintro ⟨e, he, rfl⟩
      exact ⟨_, map_ok.2 ⟨e, he, rfl⟩, rfl⟩

theorem ofTable_boolean :
    let r : Renderer := ⟨.empty, .initial⟩
    let c := (r.after [.tabWidth (.bool true)]).config
    c.tab = .bool true ∧ ofTable c.toTable = .error (.count "tab_width" (.bool true) 1) :=
  ⟨rfl, rfl⟩

theorem ofTable_exact_spellings :
    let t : Table := [("tab_width", .int 0), ("x", .null), ("style", .bool true), ("charset", .text " Utf 8 ")]
    let t' : Table := [("style", .bool true), ("charset", .text " Utf 8 "), ("tab_width", .int 0), ("x", .null)]
    let u : Table := [("charset", .text " Utf 8 "), ("context_lines", .int 0)]
    let r : OptionRule := .choice DisplayStyle "style"
    ((∀ earlier ∈ rules.take 2, ∀ w, t.get? earlier.key = some w → earlier.Admits w) ∧
      t.get? r.key = some (.bool true) ∧ ¬ r.Admits (.bool true) ∧ ofTable t = .error (r.fault (.bool true))) ∧
    ((t'.map (·.1)).Nodup ∧ t'.Perm t ∧ ofTable t' = ofTable t) ∧
    ((∀ key ∈ keys, Table.get? (("x", .null) :: u) key = u.get? key) ∧ ofTable (("x", .null) :: u) = ofTable u) ∧
    ∃ c, ofTable u = .ok c ∧ ReadFrom u c ∧ ofTable c.toTable = .ok c ∧
      let wide := (Renderer.after ⟨.empty, c⟩ [.tabWidth (.int 4)]).config
      ofTable wide.toTable = .ok wide := by
  intro t t' u r
  have hutf : (OptionRule.choice CharSet "charset").Admits (.text " Utf 8 ") :=
    ⟨_, rfl, CharSet.unicode, "utf-8", by decide, by decide +kernel⟩
  have hearlier : ∀ earlier ∈ rules.take 2, ∀ w, t.get? earlier.key = some w → earlier.Admits w := by
    intro earlier hmem w hw
    rcases List.mem_cons.1 hmem with rfl | hmem
    · cases hw
    · obtain rfl := List.mem_singleton.1 hmem
      obtain rfl := Option.some.inj hw
      exact hutf
  have hbool : ¬ r.Admits (.bool true) := fun ⟨_, htext, _⟩ => nomatch htext
  have hnodup : (t'.map (·.1)).Nodup := by decide
  have hperm : (t'.take 2 ++ t'.drop 2).Perm t := List.perm_append_comm
  have hkeys : ∀ key ∈ keys, Table.get? (("x", .null) :: u) key = u.get? key := by
    intro key hkey
    have hne : (key == "x") = false := by
      rw [beq_eq_false_iff_ne]
      rintro rfl
      exact absurd hkey (by decide)
    rw [Table.get?, List.lookup_cons, hne]
    rfl
  have hadmits : ∀ r ∈ rules, ∀ v, u.get? r.key = some v → r.Admits v := by
    intro r hr v hv
    simp only [rules, List.mem_cons, List.not_mem_nil, or_false] at hr
    rcases hr with rfl | rfl | rfl | rfl | rfl
    · cases hv
    · exact Option.some.inj hv ▸ hutf
    · cases hv
    · exact ⟨0, (Option.some.inj hv).symm, Int.le_refl _⟩
    · cases hv
  obtain ⟨-, hfirst, -, horder, -⟩ := (ofTable_exact t ⟨.empty, .initial⟩).1
  obtain ⟨haccepted, -, hothers, -, hresult⟩ := (ofTable_exact u ⟨.empty, .initial⟩).1
  obtain ⟨c, hc⟩ := haccepted.2 hadmits
  exact ⟨⟨hearlier, rfl, hbool, hfirst _ r _ _ rfl hearlier rfl hbool⟩, ⟨hnodup, hperm, horder t' hnodup hperm⟩,
    ⟨hkeys, hothers _ hkeys⟩, c, hc, (hresult c hc).1, (hresult c hc).2.2.2.1,
    ((ofTable_exact u ⟨.empty, c⟩).2.2 [.tabWidth (.int 4)]).2.2.2 (hresult c hc).1.ints
      (by simp [Change.asInt, Count.toInt])⟩

end Config

end Diagnostics
