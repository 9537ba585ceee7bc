import Mathlib.Data.List.Nodup
import PluginReadme.Proofs.Outcome
import PluginReadme.Proofs.Text.Upper
import PluginReadme.Settings.File

/-!
# Well-formed settings

Every setting has a kind of values (`Settings.kinds`), and entries are well-formed if they give each
setting a value of its kind (`IsWellFormed`). A table that is accepted knows all its names, and each
setting has what the last spelling of its name says, read by the kind, or its default value
(`isReadFrom_of_ofTable`); all this is of the kind (`Kind.allows_of_read?`), hence whatever is
loaded is well-formed (`isWellFormed_of_load`). Overrides with values of the right kinds keep it so
and change nothing else (`overridden_eq_ok`), and the overrides of the command line are such
overrides (`overridden_byName`).
-/

namespace PluginReadme.Settings

/-! ## Kinds -/

/-- What a setting may be. -/
inductive Kind where
  | choice (names : List Text)
  | trueOrFalse
  | optionalText
  | score
  | codes
  | texts
  deriving DecidableEq, Repr

/-- The value is of the kind. Codes are in upper case. -/
def Kind.Allows : Kind → Json → Prop
  | .choice names, value => ∃ name ∈ names, value = .text name
  | .trueOrFalse, value => ∃ b, value = .bool b
  | .optionalText, value => value = .null ∨ ∃ t, value = .text t
  | .score, value => ∃ n : Int, 0 ≤ n ∧ n ≤ 100 ∧ value = .integer n
  | .codes, value => ∃ ts : List Text, (∀ t ∈ ts, Text.upper t = t) ∧ value = .list (ts.map .text)
  | .texts, value => ∃ ts : List Text, value = .list (ts.map .text)

def kinds : List (Text × Kind) :=
  [("multi_line_style", .choice ["indented", "fenced"]),
    ("allow_videos", .trueOrFalse),
    ("allow_html", .trueOrFalse),
    ("base_url", .optionalText),
    ("theme", .choice ["default", "wordpress-org"]),
    ("output_format", .choice ["rich", "json"]),
    ("fail_on", .choice ["error", "warning"]),
    ("min_score", .score),
    ("ignore", .codes),
    ("exclude", .texts),
    ("source", .optionalText)]

/-- The entries are the settings in their order, each with a value of its kind. -/
structure IsWellFormed (entries : List (Text × Json)) : Prop where
  names : entries.map (·.1) = kinds.map (·.1)
  allowed : ∀ setting ∈ kinds,
    ∃ value, entries.lookup setting.1 = some value ∧ setting.2.Allows value

variable {settings : Settings} {tree : Tree} {path source : Path}
  {entries overrides : List (Text × Json)} {table values : Toml.Table} {name : Text}

theorem Kind.allows_ofText? (t : Option Text) : Kind.optionalText.Allows (Json.ofText? t) := by
  cases t with
  | none => exact Or.inl rfl
  | some t => exact Or.inr ⟨t, rfl⟩

/-- The score and the codes are what the types leave open. -/
theorem isWellFormed_entries_iff :
    IsWellFormed settings.entries ↔
      settings.leastScore ≤ 100 ∧ ∀ t ∈ settings.ignored, Text.upper t = t := by
  constructor
  · intro h
    have hallowed := h.allowed
    simp only [kinds, List.forall_mem_cons] at hallowed
    obtain ⟨-, -, -, -, -, -, -, ⟨score, hscore, n, -, hn, rfl⟩,
      ⟨codes, hcodes, ts, hts, rfl⟩, -⟩ := hallowed
    have hleast : (settings.leastScore : Int) = n := Json.integer.inj (Option.some.inj hscore)
    have hignored : settings.ignored = ts :=
      List.map_injective_iff.mpr (fun _ _ ↦ Json.text.inj)
        (Json.list.inj (Option.some.inj hcodes))
    exact ⟨by omega, hignored ▸ hts⟩
  · rintro ⟨hscore, hcodes⟩
    refine ⟨rfl, ?_⟩
    simp only [kinds, List.forall_mem_cons]
    refine ⟨⟨_, rfl, settings.style.name, ?_, rfl⟩, ⟨_, rfl, _, rfl⟩, ⟨_, rfl, _, rfl⟩,
      ⟨_, rfl, Kind.allows_ofText? _⟩, ⟨_, rfl, settings.theme.name, ?_, rfl⟩,
      ⟨_, rfl, settings.format.name, ?_, rfl⟩, ⟨_, rfl, settings.failOn.name, ?_, rfl⟩,
      ⟨_, rfl, settings.leastScore, by omega, by omega, rfl⟩, ⟨_, rfl, _, hcodes, rfl⟩,
      ⟨_, rfl, _, rfl⟩, ⟨_, rfl, Kind.allows_ofText? _⟩, List.forall_mem_nil _⟩
    · cases settings.style <;> decide
    · cases settings.theme <;> decide
    · cases settings.format <;> decide
    · cases settings.failOn <;> decide

/-! ## Tables -/

def underscored (key : Text) : Text := key.map fun c ↦ if c == '-' then '_' else c

def latest? (table : Toml.Table) (name : Text) : Option Toml.Value :=
  (table.reverse.find? fun entry ↦ underscored entry.1 == name).map (·.2)

/-- A later spelling of a name counts before an earlier one. -/
theorem latest?_cons (key : Text) (value : Toml.Value) (rest : Toml.Table) (name : Text) :
    latest? ((key, value) :: rest) name =
      (latest? rest name <|> if underscored key = name then some value else none) := by
  rw [latest?, latest?, List.reverse_cons, List.find?_append]
  cases rest.reverse.find? fun entry ↦ underscored entry.1 == name with
  | some entry => rfl
  | none =>
    by_cases h : underscored key = name
    · simp [h]
    · simp [h]

/-- The names of a table that is accepted are known, and the last spelling counts. -/
theorem named_eq_ok (h : named source table = .ok values) :
    (∀ entry ∈ table, underscored entry.1 ∈ names) ∧
      ∀ name, values.lookup name = latest? table name := by
  induction table generalizing values with
  | nil =>
    obtain rfl := Except.ok.inj h
    exact ⟨List.forall_mem_nil _, fun _ ↦ rfl⟩
  | cons entry rest ih =>
    obtain ⟨key, value⟩ := entry
    unfold named at h
    dsimp only at h
    split_ifs at h with hunknown
    · cases h
    · have hknown : underscored key ∈ names := by
        simpa [underscored] using hunknown
      obtain ⟨more, hmore, h⟩ := bind_eq_ok.mp h
      obtain ⟨hrest, hlatest⟩ := ih hmore
      refine ⟨List.forall_mem_cons.mpr ⟨hknown, hrest⟩, fun name ↦ ?_⟩
      rw [latest?_cons, ← hlatest, ← Except.ok.inj h, ← underscored]
      by_cases hname : underscored key = name
      · subst hname
        cases hmem : more.lookup (underscored key) with
        | some newer => simp [hmem]
        | none => simp
      · have hne : (name == underscored key) = false := beq_eq_false_iff_ne.mpr (Ne.symm hname)
        rw [if_neg hname]
        split
        · simp
        · simp [List.lookup_cons, hne]

/-- What a value of a table means for a setting of a kind. -/
def Kind.read? : Kind → Toml.Value → Option Json
  | .choice names, .text t => if t ∈ names then some (.text t) else none
  | .trueOrFalse, .bool b => some (.bool b)
  | .optionalText, .text t => some (.text t)
  | .score, .integer n => if 0 ≤ n ∧ n ≤ 100 then some (.integer n) else none
  | .codes, .list items =>
    (items.mapM Toml.Value.text?).map fun ts ↦ .list ((ts.map Text.upper).map .text)
  | .texts, .list items => (items.mapM Toml.Value.text?).map fun ts ↦ .list (ts.map .text)
  | _, _ => none

/-- What is read by a kind is of the kind. -/
theorem Kind.allows_of_read? {kind : Kind} {value : Toml.Value} {read : Json}
    (h : kind.read? value = some read) : kind.Allows read := by
  unfold Kind.read? at h
  split at h
  · next names t =>
    split_ifs at h with hmem
    exact ⟨t, hmem, (Option.some.inj h).symm⟩
  · next b => exact ⟨b, (Option.some.inj h).symm⟩
  · next t => exact Or.inr ⟨t, (Option.some.inj h).symm⟩
  · next n =>
    split_ifs at h with hn
    exact ⟨n, hn.1, hn.2, (Option.some.inj h).symm⟩
  · next items =>
    obtain ⟨ts, -, rfl⟩ := Option.map_eq_some_iff.mp h
    refine ⟨ts.map Text.upper, fun t ht ↦ ?_, rfl⟩
    obtain ⟨u, -, rfl⟩ := List.mem_map.mp ht
    exact Text.upper_upper u
  · next items =>
    obtain ⟨ts, -, rfl⟩ := Option.map_eq_some_iff.mp h
    exact ⟨ts, rfl⟩
  · exact absurd h (by simp)

/-- The entries are what a table of a file says: its names are known, and each setting has what the
last spelling of its name means, or its default value. -/
structure IsReadFrom (source : Path) (table : Toml.Table) (entries : List (Text × Json)) :
    Prop where
  known : ∀ entry ∈ table, underscored entry.1 ∈ names
  values : ∀ setting ∈ kinds, setting.1 ≠ "source".toList →
    entries.lookup setting.1 =
      match latest? table setting.1 with
      | none => (Settings.entries {}).lookup setting.1
      | some value => setting.2.read? value
  source : entries.lookup "source".toList = some (.text source.text)

section Given

variable {α : Type} {cause : Cause} {read : Toml.Value → Option α} {default a : α} {kind : Kind}

/-- A setting that was read by its kind is what the value of its name means, or the default. -/
theorem lookup_of_given (write : α → Json)
    (hread : ∀ value a, read value = some a → kind.read? value = some (write a))
    (h : given values source name cause read default = .ok a) :
    some (write a) =
      match values.lookup name with
      | none => some (write default)
      | some value => kind.read? value := by
  rw [given] at h
  cases hlookup : values.lookup name with
  | none =>
    rw [hlookup] at h
    rw [Except.ok.inj h]
  | some value =>
    rw [hlookup] at h
    dsimp only at h ⊢
    cases hvalue : read value with
    | none =>
      rw [hvalue] at h
      cases h
    | some b =>
      rw [hvalue] at h
      rw [hread value b hvalue, Except.ok.inj h]

theorem eq_text_of_text? {value : Toml.Value} {t : Text} (h : value.text? = some t) :
    value = .text t := by
  cases value with
  | text u => rw [Option.some.inj h]
  | _ => cases h

theorem read?_of_choice? (nameOf : α → Text) (all : List α) (value : Toml.Value) (a : α)
    (h : choice? (all.map fun a ↦ (nameOf a, a)) value = some a) :
    (Kind.choice (all.map nameOf)).read? value = some (.text (nameOf a)) := by
  obtain ⟨t, ht, hlookup⟩ := Option.bind_eq_some_iff.mp h
  obtain rfl := eq_text_of_text? ht
  obtain ⟨before, after, hall, -⟩ := List.lookup_eq_some_iff.mp hlookup
  have hmem : (t, a) ∈ all.map fun a ↦ (nameOf a, a) := by
    rw [hall]
    exact List.mem_append_right _ List.mem_cons_self
  obtain ⟨b, hb, heq⟩ := List.mem_map.mp hmem
  obtain ⟨rfl, rfl⟩ := Prod.mk.inj heq
  rw [Kind.read?, if_pos (List.mem_map_of_mem hb)]

theorem read?_of_bool? (value : Toml.Value) (b : Bool) (h : bool? value = some b) :
    Kind.trueOrFalse.read? value = some (.bool b) := by
  unfold bool? at h
  split at h
  · rw [← Option.some.inj h, Kind.read?]
  · exact absurd h (by simp)

theorem read?_of_text? (value : Toml.Value) (t : Option Text) (h : value.text?.map some = some t) :
    Kind.optionalText.read? value = some (Json.ofText? t) := by
  obtain ⟨u, hu, rfl⟩ := Option.map_eq_some_iff.mp h
  rw [eq_text_of_text? hu]
  rfl

theorem read?_of_score? (value : Toml.Value) (n : Nat) (h : score? value = some n) :
    Kind.score.read? value = some (.integer n) := by
  unfold score? at h
  split at h
  · next m =>
    split_ifs at h with hm
    simp only [Bool.and_eq_true, decide_eq_true_eq] at hm
    have hn : m = n := by
      have hnat := Option.some.inj h
      omega
    rw [Kind.read?, if_pos hm, hn]
  · exact absurd h (by simp)

theorem read?_of_texts? (value : Toml.Value) (ts : List Text) (h : texts? value = some ts) :
    Kind.texts.read? value = some (.list (ts.map .text)) ∧
      Kind.codes.read? value = some (.list ((ts.map Text.upper).map .text)) := by
  unfold texts? at h
  split at h
  · rw [Kind.read?, Kind.read?, h]
    exact ⟨rfl, rfl⟩
  · exact absurd h (by simp)

end Given

/-- Settings that a table holds are read from it. -/
theorem isReadFrom_of_ofTable (h : ofTable source table = .ok settings) :
    IsReadFrom source table settings.entries := by
  obtain ⟨values, hnamed, h⟩ := bind_eq_ok.mp h
  obtain ⟨hknown, hlatest⟩ := named_eq_ok hnamed
  obtain ⟨style, hstyle, h⟩ := bind_eq_ok.mp h
  obtain ⟨theme, htheme, h⟩ := bind_eq_ok.mp h
  obtain ⟨format, hformat, h⟩ := bind_eq_ok.mp h
  obtain ⟨failOn, hfailOn, h⟩ := bind_eq_ok.mp h
  obtain ⟨allowVideos, hvideos, h⟩ := bind_eq_ok.mp h
  obtain ⟨allowHtml, hhtml, h⟩ := bind_eq_ok.mp h
  obtain ⟨base, hbase, h⟩ := bind_eq_ok.mp h
  obtain ⟨leastScore, hscore, h⟩ := bind_eq_ok.mp h
  obtain ⟨ignored, hignored, h⟩ := bind_eq_ok.mp h
  obtain ⟨excluded, hexcluded, h⟩ := bind_eq_ok.mp h
  obtain rfl := Except.ok.inj h
  refine ⟨hknown, ?_, rfl⟩
  simp only [← hlatest, kinds, List.forall_mem_cons]
  exact ⟨fun _ ↦ lookup_of_given (fun style : Repair.Style ↦ Json.text style.name)
      (read?_of_choice? Repair.Style.name [.indented, .fenced]) hstyle,
    fun _ ↦ lookup_of_given .bool read?_of_bool? hvideos,
    fun _ ↦ lookup_of_given .bool read?_of_bool? hhtml,
    fun _ ↦ lookup_of_given Json.ofText? read?_of_text? hbase,
    fun _ ↦ lookup_of_given (fun theme : Page.Theme ↦ Json.text theme.name)
      (read?_of_choice? Page.Theme.name [.plain, .directory]) htheme,
    fun _ ↦ lookup_of_given (fun format : ReportFormat ↦ Json.text format.name)
      (read?_of_choice? ReportFormat.name [.overview, .json]) hformat,
    fun _ ↦ lookup_of_given (fun level : FailLevel ↦ Json.text level.name)
      (read?_of_choice? FailLevel.name [.error, .warning]) hfailOn,
    fun _ ↦ lookup_of_given (fun n : Nat ↦ .integer n) read?_of_score? hscore,
    fun _ ↦ lookup_of_given (fun ts : List Text ↦ Json.list ((ts.map Text.upper).map .text))
      (fun value ts hts ↦ (read?_of_texts? value ts hts).2) hignored,
    fun _ ↦ lookup_of_given (fun ts : List Text ↦ Json.list (ts.map .text))
      (fun value ts hts ↦ (read?_of_texts? value ts hts).1) hexcluded,
    fun hsource ↦ absurd rfl hsource, List.forall_mem_nil _⟩

theorem isSome_lookup (h : name ∈ entries.map (·.1)) : (entries.lookup name).isSome = true := by
  rw [Option.isSome_iff_ne_none, Ne, List.lookup_eq_none_iff]
  intro hnone
  obtain ⟨entry, hentry, rfl⟩ := List.mem_map.mp h
  exact absurd (hnone entry hentry) (by simp)

/-- What is read from a table, with the default values for the rest, is well-formed. -/
theorem IsReadFrom.isWellFormed (h : IsReadFrom source table entries)
    (hnames : entries.map (·.1) = kinds.map (·.1)) : IsWellFormed entries := by
  refine ⟨hnames, fun setting hsetting ↦ ?_⟩
  by_cases hsource : setting.1 = "source".toList
  · have hkind : ∀ setting ∈ kinds, setting.1 = "source".toList → setting.2 = .optionalText := by
      decide
    rw [hsource, hkind setting hsetting hsource]
    exact ⟨_, h.source, Or.inr ⟨_, rfl⟩⟩
  · have hvalue := h.values setting hsetting hsource
    cases hlatest : latest? table setting.1 with
    | none =>
      rw [hlatest] at hvalue
      have hdefault : IsWellFormed (Settings.entries {}) :=
        isWellFormed_entries_iff.mpr ⟨Nat.zero_le _, List.forall_mem_nil _⟩
      rw [hvalue]
      exact hdefault.allowed setting hsetting
    | some value =>
      rw [hlatest] at hvalue
      have hname : setting.1 ∈ entries.map (·.1) := hnames ▸ List.mem_map_of_mem hsetting
      obtain ⟨read, hread⟩ := Option.isSome_iff_exists.mp (isSome_lookup hname)
      exact ⟨read, hread, Kind.allows_of_read? (hvalue.symm.trans hread)⟩

/-- The settings that a table holds are well-formed. -/
theorem isWellFormed_of_ofTable (h : ofTable source table = .ok settings) :
    IsWellFormed settings.entries :=
  (isReadFrom_of_ofTable h).isWellFormed rfl

/-! ## Files -/

def settingsTable (source : Path) (document : Toml.Table) : Except LoadFault Toml.Table :=
  if source.name = projectFile then toolSettings document else pure document

/-- Content is decoded, read as a document and reduced to the settings in it. -/
theorem ofContent_eq (source : Path) (content : Bytes) :
    ofContent source content = (do
      let t ← (Utf8.decode content).mapError .notText
      let document ←
        (Toml.Table.ofText (Text.unifyLineEnds t)).mapError (LoadFault.ofDocument source)
      let table ← settingsTable source document
      (ofTable source table).mapError .invalid) := by
  rw [ofContent]
  refine bind_congr fun t ↦ bind_congr fun document ↦ ?_
  rw [settingsTable]
  split <;> rfl

/-- Settings that are loaded are the default ones or those of a table. -/
theorem exists_of_load (h : load tree path = .ok settings) :
    settings = {} ∨ ∃ source table, ofTable source table = .ok settings := by
  unfold load at h
  dsimp only at h
  split at h
  · rw [ofContent_eq] at h
    obtain ⟨t, -, h⟩ := bind_eq_ok.mp h
    obtain ⟨document, -, h⟩ := bind_eq_ok.mp h
    obtain ⟨table, -, h⟩ := bind_eq_ok.mp h
    exact Or.inr ⟨_, table, mapError_eq_ok.mp h⟩
  · exact Or.inl (Except.ok.inj h).symm

/-- Settings that are loaded are well-formed, wherever they come from. -/
theorem isWellFormed_of_load (h : load tree path = .ok settings) :
    IsWellFormed settings.entries := by
  rcases exists_of_load h with rfl | ⟨source, table, hof⟩
  · exact isWellFormed_entries_iff.mpr ⟨Nat.zero_le _, List.forall_mem_nil _⟩
  · exact isWellFormed_of_ofTable hof

/-! ## Overrides -/

/-- The overrides are settings, each named once, with a value of the kind or null. -/
structure AreAllowed (overrides : List (Text × Json)) : Prop where
  nodup : (overrides.map (·.1)).Nodup
  allowed : ∀ entry ∈ overrides, ∃ setting ∈ kinds,
    setting.1 = entry.1 ∧ (entry.2 = .null ∨ setting.2.Allows entry.2)

theorem map_fst_replaced (name : Text) (value : Json) (entries : List (Text × Json)) :
    (replaced name value entries).map (·.1) = entries.map (·.1) := by
  rw [replaced, List.map_map]
  rfl

theorem lookup_replaced (name other : Text) (value : Json) (entries : List (Text × Json)) :
    (replaced name value entries).lookup other =
      if other = name then (entries.lookup other).map fun _ ↦ value else entries.lookup other := by
  induction entries with
  | nil => simp [replaced]
  | cons entry rest ih =>
    obtain ⟨key, old⟩ := entry
    have hcons : replaced name value ((key, old) :: rest) =
        (key, if key = name then value else old) :: replaced name value rest := rfl
    rw [hcons, List.lookup_cons, List.lookup_cons]
    by_cases hkey : other = key
    · subst hkey
      by_cases hname : other = name <;> simp [hname]
    · rw [beq_eq_false_iff_ne.mpr hkey]
      exact ih

/-- The entries after overrides: these take the place of what they name, unless they are null, and
the rest stays. -/
structure IsOverridden (entries overrides merged : List (Text × Json)) : Prop where
  names : merged.map (·.1) = entries.map (·.1)
  taken : ∀ entry ∈ overrides, entry.2 ≠ .null → merged.lookup entry.1 = some entry.2
  stayed : ∀ name, (∀ entry ∈ overrides, entry.1 = name → entry.2 = .null) →
    merged.lookup name = entries.lookup name

theorem replacedAll_cons {value : Json} (hvalue : value ≠ .null)
    (hname : (entries.lookup name).isSome = true) (rest : List (Text × Json)) :
    replacedAll entries ((name, value) :: rest) =
      replacedAll (replaced name value entries) rest := by
  cases value with
  | null => exact absurd rfl hvalue
  | _ =>
    rw [replacedAll, if_pos hname]
    exact fun h ↦ Json.noConfusion h

/-- Overrides of known names, each given once, take the place of what they name. -/
theorem replacedAll_eq_ok (hnodup : (overrides.map (·.1)).Nodup)
    (hnames : ∀ entry ∈ overrides, entry.1 ∈ entries.map (·.1)) :
    ∃ merged, replacedAll entries overrides = .ok merged ∧
      IsOverridden entries overrides merged := by
  induction overrides generalizing entries with
  | nil => exact ⟨entries, rfl, rfl, List.forall_mem_nil _, fun _ _ ↦ rfl⟩
  | cons entry rest ih =>
    obtain ⟨name, value⟩ := entry
    obtain ⟨hnew, hrest⟩ := List.nodup_cons.mp hnodup
    obtain ⟨hname, hmore⟩ := List.forall_mem_cons.mp hnames
    have habsent : ∀ entry ∈ rest, entry.1 ≠ name :=
      fun entry hentry heq ↦ hnew (List.mem_map.mpr ⟨entry, hentry, heq⟩)
    by_cases hvalue : value = .null
    · subst hvalue
      obtain ⟨merged, hmerged, hover⟩ := ih hrest hmore
      refine ⟨merged, hmerged, hover.names, ?_, fun other hother ↦ ?_⟩
      · exact List.forall_mem_cons.mpr ⟨fun h ↦ absurd rfl h, hover.taken⟩
      · exact hover.stayed other (List.forall_mem_cons.mp hother).2
    · have hkeys := map_fst_replaced name value entries
      have hlater : ∀ entry ∈ rest, entry.1 ∈ (replaced name value entries).map (·.1) :=
        hkeys ▸ hmore
      obtain ⟨merged, hmerged, hover⟩ := ih hrest hlater
      refine ⟨merged, ?_, hover.names.trans hkeys, ?_, fun other hother ↦ ?_⟩
      · rw [replacedAll_cons hvalue (isSome_lookup hname), hmerged]
      · refine List.forall_mem_cons.mpr ⟨fun _ ↦ ?_, hover.taken⟩
        have hlookup := hover.stayed name fun entry hentry heq ↦ absurd heq (habsent entry hentry)
        obtain ⟨old, hold⟩ := Option.isSome_iff_exists.mp (isSome_lookup hname)
        rw [hlookup, lookup_replaced, if_pos rfl, hold]
        rfl
      · obtain ⟨hfirst, hothers⟩ := List.forall_mem_cons.mp hother
        have hne : other ≠ name := fun h ↦ hvalue (hfirst h.symm)
        rw [hover.stayed other hothers, lookup_replaced, if_neg hne]

/-- Overrides with allowed values are accepted, and keep the entries well-formed. -/
theorem overridden_eq_ok (h : IsWellFormed entries) (hallowed : AreAllowed overrides) :
    ∃ merged, overridden entries overrides = .ok merged ∧ IsWellFormed merged ∧
      IsOverridden entries overrides merged := by
  have hknown : ∀ entry ∈ overrides, entry.1 ∈ entries.map (·.1) := fun entry hentry ↦ by
    obtain ⟨setting, hsetting, hname, -⟩ := hallowed.allowed entry hentry
    rw [h.names, ← hname]
    exact List.mem_map_of_mem hsetting
  have hown : (overrides.lookup ownName).isSome = false := by
    rw [Option.isSome_eq_false_iff, Option.isNone_iff_eq_none, List.lookup_eq_none_iff]
    intro entry hentry
    have hmem : entry.1 ∈ kinds.map (·.1) := h.names ▸ hknown entry hentry
    have hnot : ownName ∉ kinds.map (·.1) := by decide
    exact bne_iff_ne.mpr fun heq ↦ hnot (heq ▸ hmem)
  obtain ⟨merged, hmerged, hover⟩ := replacedAll_eq_ok hallowed.nodup hknown
  refine ⟨merged, ?_, ⟨hover.names.trans h.names, fun setting hsetting ↦ ?_⟩, hover⟩
  · rw [overridden, hown]
    exact hmerged
  · by_cases hgiven : ∃ entry ∈ overrides, entry.1 = setting.1 ∧ entry.2 ≠ .null
    · obtain ⟨entry, hentry, hname, hvalue⟩ := hgiven
      obtain ⟨same, hsame, hsameName, hallows⟩ := hallowed.allowed entry hentry
      have hnodup : (kinds.map (·.1)).Nodup := by decide
      obtain rfl := List.inj_on_of_nodup_map hnodup hsame hsetting (hsameName.trans hname)
      exact ⟨entry.2, hname ▸ hover.taken entry hentry hvalue, hallows.resolve_left hvalue⟩
    · rw [hover.stayed setting.1 fun entry hentry hname ↦ by_contra fun hvalue ↦
        hgiven ⟨entry, hentry, hname, hvalue⟩]
      exact h.allowed setting hsetting

/-! ## Overrides of the command line -/

def Overrides.byName (given : Overrides) : List (Text × Json) :=
  [("multi_line_style", Json.ofText? (given.style.map Repair.Style.name)),
    ("base_url", Json.ofText? given.base),
    ("theme", Json.ofText? (given.theme.map Page.Theme.name)),
    ("output_format", Json.ofText? (given.format.map ReportFormat.name)),
    ("fail_on", Json.ofText? (given.failOn.map FailLevel.name)),
    ("min_score", Json.ofInt? (given.leastScore.map Int.ofNat))]

/-- What the command line can give is allowed, apart from a score above a hundred. -/
theorem areAllowed_byName {given : Overrides} (h : ∀ n, given.leastScore = some n → n ≤ 100) :
    AreAllowed given.byName := by
  have hnodup : (["multi_line_style", "base_url", "theme", "output_format", "fail_on",
      "min_score"].map String.toList).Nodup := by decide
  have choice {α : Type} (nameOf : α → Text) (names : List Text) (hnames : ∀ a, nameOf a ∈ names)
      (a : Option α) : Json.ofText? (a.map nameOf) = .null ∨
        (Kind.choice names).Allows (Json.ofText? (a.map nameOf)) := by
    cases a with
    | none => exact Or.inl rfl
    | some a => exact Or.inr ⟨nameOf a, hnames a, rfl⟩
  refine ⟨hnodup, ?_⟩
  simp only [Overrides.byName, List.forall_mem_cons]
  refine ⟨⟨("multi_line_style", .choice ["indented", "fenced"]), by decide, rfl, ?_⟩,
    ⟨("base_url", .optionalText), by decide, rfl, Or.inr (Kind.allows_ofText? _)⟩,
    ⟨("theme", .choice ["default", "wordpress-org"]), by decide, rfl, ?_⟩,
    ⟨("output_format", .choice ["rich", "json"]), by decide, rfl, ?_⟩,
    ⟨("fail_on", .choice ["error", "warning"]), by decide, rfl, ?_⟩,
    ⟨("min_score", .score), by decide, rfl, ?_⟩, List.forall_mem_nil _⟩
  · exact choice _ _ (fun style ↦ by cases style <;> decide) _
  · exact choice _ _ (fun theme ↦ by cases theme <;> decide) _
  · exact choice _ _ (fun format ↦ by cases format <;> decide) _
  · exact choice _ _ (fun level ↦ by cases level <;> decide) _
  · cases hscore : given.leastScore with
    | none => exact Or.inl rfl
    | some n =>
      have hn := h n hscore
      exact Or.inr ⟨n, by omega, by omega, rfl⟩

/-- Merging settings is merging their values by name. -/
theorem overridden_byName (settings : Settings) (given : Overrides) :
    overridden settings.entries given.byName = .ok (settings.merged given).entries := by
  obtain ⟨style, base, theme, format, failOn, leastScore⟩ := given
  cases style <;> cases base <;> cases theme <;> cases format <;> cases failOn <;>
    cases leastScore <;> rfl

/-- What the command line gives leaves settings well-formed. -/
theorem isWellFormed_merged {given : Overrides} (h : IsWellFormed settings.entries)
    (hscore : ∀ n, given.leastScore = some n → n ≤ 100) :
    IsWellFormed (settings.merged given).entries := by
  obtain ⟨merged, hmerged, hwell, -⟩ := overridden_eq_ok h (areAllowed_byName hscore)
  rw [overridden_byName] at hmerged
  exact Except.ok.inj hmerged ▸ hwell

end PluginReadme.Settings
