import PluginReadme.Proofs.Settings.WellFormed

/-!
# Contents that settings can be read from

Loading answers with settings or says what is wrong with them (`IsAnswered`) unless the content is
no text, has an integer of too many digits, or has, in a project file, a value of another kind where
a table on the way to the settings should be. This is an equivalence (`isAnswered_load_iff`):
nothing else in a content, whatever its names and values are, keeps loading from an answer.
-/

namespace PluginReadme.Settings

variable {tree : Tree} {path source : Path} {content : Bytes} {document : Toml.Table}

/-- The settings, or a fault that says which of them is wrong. -/
def IsAnswered : Except LoadFault Settings → Prop
  | .ok _ => True
  | .error (.invalid _) => True
  | .error _ => False

/-! ## Files -/

/-- The file that the settings for a path are loaded from, if there is one, with its content. -/
def loadedFile? (tree : Tree) (path : Path) : Option (Path × Bytes) :=
  (if tree.hasFolder path then file? tree path else some path).bind fun source ↦
    ((tree.find? source).bind Entry.content?).map (source, ·)

theorem load_of_loadedFile? (h : loadedFile? tree path = some (source, content)) :
    load tree path = ofContent source content := by
  unfold load
  dsimp only
  rw [show Option.bind _ _ = some (source, content) from h]

theorem load_of_loadedFile?_eq_none (h : loadedFile? tree path = none) :
    load tree path = .ok {} := by
  unfold load
  dsimp only
  rw [show Option.bind _ _ = none from h]

/-! ## Contents -/

/-- On the way to the settings of a project file there are tables, as far as there is anything. -/
structure HasTables (document : Toml.Table) : Prop where
  tools : ∀ value, document.lookup toolTable = some value → ∃ tools, value = .table tools
  own : ∀ tools value, document.lookup toolTable = some (.table tools) →
    tools.lookup ownTable = some value → ∃ table, value = .table table

/-- The content is text, no integer in it has too many digits, and the settings of a project file
are reached through tables. -/
structure IsReadable (source : Path) (content : Bytes) : Prop where
  text : ∃ t, Utf8.decode content = .ok t
  integers : ∀ t fault, Utf8.decode content = .ok t →
    Toml.Table.ofText (Text.unifyLineEnds t) = .error fault →
      ∀ digits, fault.cause ≠ .tooLong digits
  tables : ∀ t document, Utf8.decode content = .ok t →
    Toml.Table.ofText (Text.unifyLineEnds t) = .ok document → source.name = projectFile →
      HasTables document

/-- A table is answered with settings, or with the setting that is wrong in it. -/
theorem isAnswered_ofTable (source : Path) (table : Toml.Table) :
    IsAnswered ((ofTable source table).mapError .invalid) := by
  cases ofTable source table <;> trivial

section Tools

variable {tools table : Toml.Table} {value : Toml.Value}

theorem toolSettings_of_none (h : document.lookup toolTable = none) :
    toolSettings document = .ok [] := by
  rw [toolSettings, h]
  rfl

theorem exists_toolSettings_of_value (h : document.lookup toolTable = some value)
    (hvalue : ∀ tools, value ≠ .table tools) :
    ∃ kind, toolSettings document = .error (.notTools kind) := by
  rw [toolSettings, h]
  cases value with
  | table tools => exact absurd rfl (hvalue tools)
  | _ => exact ⟨_, rfl⟩

theorem toolSettings_of_own_none (h : document.lookup toolTable = some (.table tools))
    (hown : tools.lookup ownTable = none) : toolSettings document = .ok [] := by
  rw [toolSettings, h]
  dsimp only
  rw [pure_bind, hown]
  rfl

theorem toolSettings_of_own (h : document.lookup toolTable = some (.table tools))
    (hown : tools.lookup ownTable = some (.table table)) : toolSettings document = .ok table := by
  rw [toolSettings, h]
  dsimp only
  rw [pure_bind, hown]
  rfl

theorem exists_toolSettings_of_own_value (h : document.lookup toolTable = some (.table tools))
    (hown : tools.lookup ownTable = some value) (hvalue : ∀ table, value ≠ .table table) :
    ∃ kind, toolSettings document = .error (.notTable kind) := by
  rw [toolSettings, h]
  dsimp only
  rw [pure_bind, hown]
  cases value with
  | table table => exact absurd rfl (hvalue table)
  | _ => exact ⟨_, rfl⟩

/-- The table of the settings, or an empty one, is found where there are tables on the way, and only
there. -/
theorem toolSettings_cases (document : Toml.Table) :
    (HasTables document ∧ ∃ table, toolSettings document = .ok table) ∨
      ¬HasTables document ∧ ∃ fault, toolSettings document = .error fault ∧
        ¬IsAnswered (.error fault) := by
  cases htool : document.lookup toolTable with
  | none =>
    refine Or.inl ⟨⟨fun value h ↦ ?_, fun tools value h ↦ ?_⟩, [], toolSettings_of_none htool⟩
    · rw [htool] at h
      cases h
    · rw [htool] at h
      cases h
  | some value =>
    by_cases htable : ∃ tools, value = .table tools
    · obtain ⟨tools, rfl⟩ := htable
      have hsame {others : Toml.Table} (h : document.lookup toolTable = some (.table others)) :
          others = tools := Toml.Value.table.inj (Option.some.inj (h.symm.trans htool))
      have htools (value : Toml.Value) (h : document.lookup toolTable = some value) :
          ∃ tools, value = .table tools := ⟨tools, Option.some.inj (h.symm.trans htool)⟩
      cases hown : tools.lookup ownTable with
      | none =>
        refine Or.inl ⟨⟨htools, fun others value h hvalue ↦ ?_⟩, [],
          toolSettings_of_own_none htool hown⟩
        rw [hsame h, hown] at hvalue
        cases hvalue
      | some value =>
        by_cases htable : ∃ table, value = .table table
        · obtain ⟨table, rfl⟩ := htable
          refine Or.inl ⟨⟨htools, fun others value h hvalue ↦ ⟨table, ?_⟩⟩, table,
            toolSettings_of_own htool hown⟩
          rw [hsame h] at hvalue
          exact Option.some.inj (hvalue.symm.trans hown)
        · obtain ⟨kind, hkind⟩ :=
            exists_toolSettings_of_own_value htool hown (not_exists.mp htable)
          exact Or.inr ⟨fun h ↦ htable (h.own tools value htool hown), _, hkind, id⟩
    · obtain ⟨kind, hkind⟩ := exists_toolSettings_of_value htool (not_exists.mp htable)
      exact Or.inr ⟨fun h ↦ htable (h.tools value htool), _, hkind, id⟩

end Tools

/-- A fault of a document is answered unless it is an integer of too many digits. -/
theorem isAnswered_ofDocument_iff {fault : Toml.Fault} :
    IsAnswered (.error (LoadFault.ofDocument source fault)) ↔
      ∀ digits, fault.cause ≠ .tooLong digits := by
  unfold LoadFault.ofDocument
  split
  · next digits hcause => exact iff_of_false id fun h ↦ h digits hcause
  · next hcause => exact iff_of_true trivial hcause

/-- Loading from a text that holds a document. -/
theorem ofContent_of_document {t : Text} (ht : Utf8.decode content = .ok t)
    (hdocument : Toml.Table.ofText (Text.unifyLineEnds t) = .ok document) :
    ofContent source content =
      settingsTable source document >>= fun table ↦ (ofTable source table).mapError .invalid := by
  rw [ofContent_eq, ht]
  change (Toml.Table.ofText (Text.unifyLineEnds t)).mapError _ >>= _ = _
  rw [hdocument]
  rfl

theorem ofContent_of_fault {t : Text} {fault : Toml.Fault} (ht : Utf8.decode content = .ok t)
    (hfault : Toml.Table.ofText (Text.unifyLineEnds t) = .error fault) :
    ofContent source content = .error (LoadFault.ofDocument source fault) := by
  rw [ofContent_eq, ht]
  change (Toml.Table.ofText (Text.unifyLineEnds t)).mapError _ >>= _ = _
  rw [hfault]
  rfl

/-- The settings of a document are answered exactly if tables lead to them. -/
theorem isAnswered_settingsTable_iff (source : Path) (document : Toml.Table) :
    IsAnswered (settingsTable source document >>= fun table ↦
        (ofTable source table).mapError .invalid) ↔
      (source.name = projectFile → HasTables document) := by
  unfold settingsTable
  split_ifs with hname
  · rcases toolSettings_cases document with ⟨htables, table, hrun⟩ | ⟨hnot, fault, hrun, hfault⟩
    · rw [hrun]
      exact iff_of_true (isAnswered_ofTable source table) fun _ ↦ htables
    · rw [hrun]
      exact iff_of_false hfault fun h ↦ hnot (h hname)
  · exact iff_of_true (isAnswered_ofTable source document) fun h ↦ absurd h hname

/-- Loading answers if and only if the content can be read. -/
theorem isAnswered_ofContent_iff :
    IsAnswered (ofContent source content) ↔ IsReadable source content := by
  cases ht : Utf8.decode content with
  | error fault =>
    have hrun : ofContent source content = .error (.notText fault) := by
      rw [ofContent_eq, ht]
      rfl
    rw [hrun]
    refine iff_of_false id fun h ↦ ?_
    obtain ⟨t, hdecode⟩ := h.text
    rw [ht] at hdecode
    cases hdecode
  | ok t =>
    have hsame {u : Text} (hu : Utf8.decode content = .ok u) : u = t :=
      Except.ok.inj (hu.symm.trans ht)
    cases hdocument : Toml.Table.ofText (Text.unifyLineEnds t) with
    | error fault =>
      rw [ofContent_of_fault ht hdocument, isAnswered_ofDocument_iff]
      constructor
      · refine fun hdigits ↦ ⟨⟨t, ht⟩, fun u other hu hother ↦ ?_, fun u document hu hok ↦ ?_⟩
        · rw [hsame hu, hdocument] at hother
          exact Except.error.inj hother ▸ hdigits
        · rw [hsame hu, hdocument] at hok
          cases hok
      · exact fun h ↦ h.integers t fault ht hdocument
    | ok document =>
      rw [ofContent_of_document ht hdocument, isAnswered_settingsTable_iff]
      constructor
      · refine fun htables ↦ ⟨⟨t, ht⟩, fun u fault hu herror ↦ ?_, fun u other hu hok ↦ ?_⟩
        · rw [hsame hu, hdocument] at herror
          cases herror
        · rw [hsame hu, hdocument] at hok
          exact Except.ok.inj hok ▸ htables
      · exact fun h ↦ h.tables t document ht hdocument

/-- Loading is answered exactly if the file that it reads, if any, is readable. -/
theorem isAnswered_load_iff :
    IsAnswered (load tree path) ↔
      ∀ source content, loadedFile? tree path = some (source, content) →
        IsReadable source content := by
  cases hfile : loadedFile? tree path with
  | none =>
    rw [load_of_loadedFile?_eq_none hfile]
    exact iff_of_true trivial fun _ _ h ↦ by cases h
  | some file =>
    obtain ⟨source, content⟩ := file
    rw [load_of_loadedFile? hfile, isAnswered_ofContent_iff]
    constructor
    · rintro h _ _ heq
      cases heq
      exact h
    · exact fun h ↦ h source content rfl

end PluginReadme.Settings
