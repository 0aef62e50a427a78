import Mathlib.Data.List.Nodup
import RankTrace.Config.Settings

/-!
# What a key has under several layers

The last layer that sets a key decides about it, up to the rows of a table (`shapeAt_overlay`). A
key that one variable of the environment reaches has the value of this variable
(`shapeAt_environmentLayer`), so the highest source that sets a key decides about it
(`Setting.WellKeyed.load_eq`).
-/

namespace RankTrace

namespace ConfigValue

/-- What a reader of single values can tell: of a table only that it is one. -/
def shape : ConfigValue → ConfigValue
  | .table _ => .table []
  | v => v

def shapeAt (v : ConfigValue) (key : String) : Option ConfigValue := (v.get? key).map shape

/-- A table with ascending keys. -/
def IsTable (v : ConfigValue) : Prop := ∃ rows, v = .table rows ∧ Table.Ascending rows

theorem isTable_nil : IsTable (.table []) := ⟨[], rfl, List.Pairwise.nil⟩

theorem shape_overlay (lower upper : ConfigValue) : (lower.overlay upper).shape = upper.shape := by
  cases upper with
  | table => cases lower <;> simp [overlay, shape]
  | _ => simp [overlay]

theorem ascending_overlayRows {lower : List (String × ConfigValue)} (h : Table.Ascending lower)
    (upper : List (String × ConfigValue)) : Table.Ascending (overlayRows lower upper) := by
  induction upper generalizing lower with
  | nil => rwa [overlayRows]
  | cons row upper ih =>
    rw [overlayRows]
    exact ih (h.alter _ _)

theorem lookup_overlayRows {lower upper : List (String × ConfigValue)}
    (hlower : Table.Ascending lower) (hupper : (upper.map Prod.fst).Nodup) (key : String) :
    (overlayRows lower upper).lookup key =
      match upper.lookup key with
      | some v => some (overlay ((lower.lookup key).getD .unit) v)
      | none => lower.lookup key := by
  induction upper generalizing lower with
  | nil => simp [overlayRows]
  | cons row upper ih =>
    obtain ⟨k, v⟩ := row
    obtain ⟨hk, hrest⟩ := List.nodup_cons.mp hupper
    rw [overlayRows, ih (hlower.alter _ _) hrest, hlower.lookup_alter]
    by_cases hkey : key = k
    · subst hkey
      have hnone : upper.lookup key = none := by
        refine List.lookup_eq_none_iff.mpr fun row hrow => ?_
        rw [bne_iff_ne]
        exact fun heq => hk (List.mem_map.mpr ⟨row, hrow, heq.symm⟩)
      simp [hnone]
    · have hne : (key == k) = false := by simpa using hkey
      simp [List.lookup_cons, hne]

/-- For two tables the upper one decides about its keys. -/
theorem shapeAt_overlay {lower upper : ConfigValue} (hlower : lower.IsTable)
    (hupper : upper.IsTable) (key : String) :
    (lower.overlay upper).shapeAt key = (upper.shapeAt key).or (lower.shapeAt key) := by
  obtain ⟨rows, rfl, hrows⟩ := hlower
  obtain ⟨rows', rfl, hrows'⟩ := hupper
  simp only [shapeAt, get?, overlay, lookup_overlayRows hrows hrows'.nodup_keys]
  cases rows'.lookup key with
  | none => rfl
  | some v => simp [shape_overlay]

theorem isTable_overlay {lower upper : ConfigValue} (hlower : lower.IsTable)
    (hupper : upper.IsTable) : (lower.overlay upper).IsTable := by
  obtain ⟨rows, rfl, hrows⟩ := hlower
  obtain ⟨rows', rfl, -⟩ := hupper
  exact ⟨_, by rw [overlay], ascending_overlayRows hrows _⟩

theorem isTable_singleton (key : String) (v : ConfigValue) : (table [(key, v)]).IsTable :=
  ⟨_, rfl, List.pairwise_singleton _ _⟩

theorem shapeAt_singleton (key k : String) (v : ConfigValue) :
    (table [(k, v)]).shapeAt key = if key = k then some v.shape else none := by
  by_cases h : key = k
  · simp [shapeAt, get?, h]
  · have hne : (key == k) = false := by simpa using h
    simp [shapeAt, get?, h, hne, List.lookup_cons]

theorem keysOf_ofList (cs : List Char) :
    keysOf (String.ofList cs) = (cs.splitOn '.').map String.ofList := by
  rw [keysOf]
  exact String.toList_split_char.trans (by rw [String.toList_ofList])

end ConfigValue

namespace Config

open ConfigValue

def firstKey? (start name : String) : Option String := (key? start name).bind List.head?

theorem toList_toLower (s : String) : s.toLower.toList = s.toList.map Char.toLower :=
  String.toList_map

theorem afterStart?_eq (start name : String) : afterStart? start name =
    if ((Scan.trim name.toList).take start.length).map Char.toLower = start.toList.map Char.toLower
    then some (String.ofList ((Scan.trim name.toList).drop start.length)) else none := by
  simp only [afterStart?, ← String.toList_inj, toList_toLower, String.toList_ofList]

/-- The keys of a variable whose name begins with the common start. -/
theorem key?_of_start {start name : String}
    (h : ((Scan.trim name.toList).take start.length).map Char.toLower =
      start.toList.map Char.toLower) :
    key? start name =
      let key := (Scan.trim ((Scan.trim name.toList).drop start.length)).map lowerCase
      let keys := (key.splitOn '.').map String.ofList
      if String.ofList key = pathKey || keys.contains "" then none else some keys := by
  rw [key?, afterStart?_eq, if_pos h]
  simp only [String.toList_ofList, keysOf_ofList]

/-- A variable with another start, in letters of any case, sets nothing. -/
theorem firstKey?_eq_none {start name : String}
    (h : ((Scan.trim name.toList).take start.length).map Char.toLower ≠
      start.toList.map Char.toLower) : firstKey? start name = none := by
  rw [firstKey?, key?, afterStart?_eq, if_neg h]
  rfl

theorem exists_key_of_key? {start name : String} {keys : List String}
    (h : key? start name = some keys) : ∃ key rest, keys = key :: rest ∧ key ≠ "" := by
  rw [key?] at h
  split at h
  · dsimp only at h
    split at h
    · cases h
    · rename_i hkey
      simp only [Option.some.injEq, keysOf_ofList] at h
      rw [keysOf_ofList, h] at hkey
      cases keys with
      | nil => simp at h
      | cons key keys => exact ⟨key, keys, rfl, by rintro rfl; simp at hkey⟩
  · cases h

def withVariable (start : String) (layer : ConfigValue) (row : String × String) : ConfigValue :=
  match key? start row.1 with
  | some parts => layer.overlay (ConfigValue.nested parts (Literal.parse row.2))
  | none => layer

theorem environmentLayer_eq (start : String) (env : Environment) :
    environmentLayer start env = env.foldl (withVariable start) (.table []) := rfl

theorem isTable_withVariable {start : String} {layer : ConfigValue} (h : layer.IsTable)
    (row : String × String) : (withVariable start layer row).IsTable := by
  rw [withVariable]
  split
  · rename_i keys hkeys
    obtain ⟨key, rest, rfl, hne⟩ := exists_key_of_key? hkeys
    rw [nested, if_neg (by simpa using hne)]
    exact isTable_overlay h (isTable_singleton _ _)
  · exact h

theorem shapeAt_withVariable {start key : String} {layer : ConfigValue} (h : layer.IsTable)
    {row : String × String} (hrow : firstKey? start row.1 ≠ some key) :
    (withVariable start layer row).shapeAt key = layer.shapeAt key := by
  rw [withVariable]
  split
  · rename_i keys hkeys
    obtain ⟨k, rest, rfl, hne⟩ := exists_key_of_key? hkeys
    have hother : key ≠ k := by
      rintro rfl
      exact hrow (by rw [firstKey?, hkeys]; rfl)
    rw [nested, if_neg (by simpa using hne), shapeAt_overlay h (isTable_singleton _ _),
      shapeAt_singleton, if_neg hother]
    rfl
  · rfl

theorem shapeAt_withVariable_self {start key : String} {layer : ConfigValue} (h : layer.IsTable)
    {row : String × String} (hrow : key? start row.1 = some [key]) :
    (withVariable start layer row).shapeAt key = some (Literal.parse row.2).shape := by
  obtain ⟨k, rest, hkeys, hne⟩ := exists_key_of_key? hrow
  obtain ⟨rfl, rfl⟩ := List.cons.inj hkeys
  simp only [withVariable, hrow]
  rw [nested, if_neg (by simpa using hne), shapeAt_overlay h (isTable_singleton _ _),
    shapeAt_singleton, if_pos rfl, nested]
  rfl

theorem shapeAt_foldl {start key name : String} (hname : key? start name = some [key])
    {rows : List (String × String)} (hnames : (rows.map Prod.fst).Nodup)
    (honly : ∀ row ∈ rows, firstKey? start row.1 = some key → row.1 = name)
    {layer : ConfigValue} (h : layer.IsTable) :
    (rows.foldl (withVariable start) layer).shapeAt key =
      ((rows.lookup name).map fun text => (Literal.parse text).shape).or (layer.shapeAt key) := by
  induction rows generalizing layer with
  | nil => rfl
  | cons row rows ih =>
    obtain ⟨hnew, hrest⟩ := List.nodup_cons.mp hnames
    rw [List.foldl_cons, ih hrest (fun r hr => honly r (List.mem_cons_of_mem row hr))
      (isTable_withVariable h row)]
    by_cases hrow : row.1 = name
    · -- no later variable has this name
      have hnone : rows.lookup name = none := by
        refine List.lookup_eq_none_iff.mpr fun r hr => ?_
        rw [bne_iff_ne, ← hrow]
        exact fun heq => hnew (List.mem_map.mpr ⟨r, hr, heq.symm⟩)
      have hself : (row :: rows).lookup name = some row.2 := by
        rw [← hrow]
        exact List.lookup_cons_self
      rw [hnone, hself, shapeAt_withVariable_self h (by rw [hrow, hname])]
      rfl
    · have hskip : (row :: rows).lookup name = rows.lookup name := by
        have hne : (name == row.1) = false := by simpa using Ne.symm hrow
        rw [List.lookup_cons, hne]
      rw [hskip, shapeAt_withVariable h fun hfirst =>
        hrow (honly row List.mem_cons_self hfirst)]

theorem isTable_environmentLayer (start : String) (env : Environment) :
    (environmentLayer start env).IsTable := by
  have hfold : ∀ (rows : List (String × String)) {layer : ConfigValue}, layer.IsTable →
      (rows.foldl (withVariable start) layer).IsTable := by
    intro rows
    induction rows with
    | nil => exact fun h => h
    | cons row rows ih => exact fun h => ih (isTable_withVariable h row)
  exact hfold env isTable_nil

/-- A key that only one variable reaches has its value. -/
theorem shapeAt_environmentLayer {start key name : String} (hname : key? start name = some [key])
    {env : Environment} (hnames : (env.map Prod.fst).Nodup)
    (honly : ∀ row ∈ env, firstKey? start row.1 = some key → row.1 = name) :
    (environmentLayer start env).shapeAt key =
      (env.get? name).map fun text => (Literal.parse text).shape := by
  rw [environmentLayer_eq, shapeAt_foldl hname hnames honly isTable_nil]
  exact Option.or_none

theorem isTable_parse {text : String} {v : ConfigValue} (h : Toml.parse text = .ok v) :
    v.IsTable := by
  simp only [Toml.parse] at h
  cases hlines : Toml.lines ((Toml.skipMark text.toList).length + 1) [] []
      (Toml.skipMark text.toList) with
  | error fault =>
    rw [hlines] at h
    cases h
  | ok rows =>
    rw [hlines] at h
    cases h
    exact ⟨_, by rw [Toml.Node.ofRows, Toml.Node.value], Table.ascending_ofRows _⟩

/-- A path that names a text gives the parsed text. -/
theorem fileLayer_of_text {files : FileTexts} {path text : String}
    (h : files.lookup (resolvePath path) = some text) :
    fileLayer files (some path) = (Toml.parse text).mapError (·.text text) := by
  rw [fileLayer, Option.bind_some, h]

theorem fileLayer_of_missing {files : FileTexts} {path : String}
    (h : files.lookup (resolvePath path) = none) :
    fileLayer files (some path) = .ok (.table []) := by
  rw [fileLayer, Option.bind_some, h]

theorem isTable_fileLayer {files : FileTexts} {path : Option String} {file : ConfigValue}
    (h : fileLayer files path = .ok file) : file.IsTable := by
  cases path with
  | none =>
    cases h
    exact isTable_nil
  | some path =>
    cases htext : files.lookup (resolvePath path) with
    | none =>
      rw [fileLayer_of_missing htext] at h
      cases h
      exact isTable_nil
    | some text =>
      rw [fileLayer_of_text htext] at h
      cases hparse : Toml.parse text with
      | error fault => simp [hparse, Except.mapError] at h
      | ok v =>
        rw [hparse] at h
        cases h
        exact isTable_parse hparse

theorem fileLayer_eq_ok {files : FileTexts} {path : Option String}
    (h : (fileLayer files path).isOk) :
    fileLayer files path = .ok ((fileLayer files path).toOption.getD .unit) := by
  cases hlayer : fileLayer files path with
  | error message =>
    rw [hlayer] at h
    cases h
  | ok file => rfl

/-- No variable with another name reaches one of these keys. -/
def SetByName (start : String) (named : List (String × String)) (env : Environment) : Prop :=
  ∀ row ∈ env, ∀ v ∈ named, firstKey? start row.1 = some v.2 → row.1 = v.1

/-- The value of a key in the highest of its sources: the variable of this name, or else the file,
or else the default. -/
def topValue (name key : String) (env : Environment) (file default : ConfigValue) :
    ConfigValue :=
  (((env.get? name).map Literal.parse).or (file.get? key)).getD default

theorem load_eq_stack {start : String} {env : Environment} {files : FileTexts}
    {file : ConfigValue} (defaults : ConfigValue)
    (hfile : fileLayer files (env.get? (start ++ pathKey.toUpper)) = .ok file) :
    ConfigSources.load start defaults { environment := env, files } =
      .ok (stack [defaults, file, environmentLayer start env]) := by
  rw [ConfigSources.load, ConfigSources.layers]
  dsimp only
  rw [hfile]
  rfl

theorem shapeAt_stack_singleton {v : ConfigValue} (h : v.IsTable) (key : String) :
    (stack [v]).shapeAt key = v.shapeAt key :=
  (shapeAt_overlay isTable_nil h key).trans Option.or_none

/-- A key has the value of its highest source. -/
theorem shapeAt_stack {start key name : String} {env : Environment}
    {defaults file default : ConfigValue} {named : List (String × String)}
    (hdefaults : defaults.IsTable) (hfile : file.IsTable)
    (hdefault : defaults.shapeAt key = some default.shape) (hname : key? start name = some [key])
    (hnames : (env.map Prod.fst).Nodup) (hset : SetByName start named env)
    (hnamed : (name, key) ∈ named) :
    (stack [defaults, file, environmentLayer start env]).shapeAt key =
      some (topValue name key env file default).shape := by
  have hbase := isTable_overlay isTable_nil hdefaults
  have hfiled := isTable_overlay hbase hfile
  rw [stack, List.foldl_cons, List.foldl_cons, List.foldl_cons, List.foldl_nil,
    shapeAt_overlay hfiled (isTable_environmentLayer start env),
    shapeAt_overlay hbase hfile, shapeAt_overlay isTable_nil hdefaults,
    shapeAt_environmentLayer hname hnames fun row hrow => hset row hrow (name, key) hnamed,
    hdefault, topValue, shapeAt]
  cases env.get? name with
  | some text => rfl
  | none =>
    cases file.get? key with
    | some v => rfl
    | none => rfl

structure Setting where
  name : String
  key : String
  default : ConfigValue

namespace Setting

variable {start : String} {settings : List Setting} {env : Environment} {files : FileTexts}
  {file : ConfigValue}

def named (settings : List Setting) : List (String × String) :=
  settings.map fun s => (s.name, s.key)

def rows (value : Setting → ConfigValue) (settings : List Setting) : ConfigValue :=
  .table (settings.map fun s => (s.key, value s))

structure WellKeyed (start : String) (settings : List Setting) : Prop where
  ascending : settings.Pairwise fun s t => Table.before s.key t.key = true
  reached : ∀ s ∈ settings, key? start s.name = some [s.key]

theorem WellKeyed.isTable (h : WellKeyed start settings) {fields : List (String × ConfigValue)}
    (hkeys : fields.map Prod.fst = settings.map (·.key)) : (table fields).IsTable := by
  have hpairs : (fields.map Prod.fst).Pairwise fun a b => Table.before a b = true := by
    rw [hkeys]
    exact List.pairwise_map.mpr h.ascending
  exact ⟨fields, rfl, List.pairwise_map.mp hpairs⟩

theorem WellKeyed.isTable_rows (h : WellKeyed start settings) (value : Setting → ConfigValue) :
    (rows value settings).IsTable := h.isTable (List.map_map ..)

theorem WellKeyed.shapeAt_rows (h : WellKeyed start settings) (value : Setting → ConfigValue)
    {s : Setting} (hs : s ∈ settings) :
    (rows value settings).shapeAt s.key = some (value s).shape := by
  obtain ⟨_, hrows, hascending⟩ := h.isTable_rows value
  cases hrows
  have hlookup := Table.lookup_of_mem hascending.nodup_keys
    (List.mem_map.mpr ⟨s, hs, rfl⟩ : (s.key, value s) ∈ _)
  rw [shapeAt, rows, get?, hlookup]
  rfl

theorem WellKeyed.firstKey? (h : WellKeyed start settings) {s : Setting} (hs : s ∈ settings) :
    firstKey? start s.name = some s.key := by
  rw [Config.firstKey?, h.reached s hs]
  rfl

/-- If every variable is that of the file or of a setting, or sets nothing, each setting is set by
its own variable only. -/
theorem WellKeyed.setByName (h : WellKeyed start settings) {fileVariable : String}
    (hfile : Config.firstKey? start fileVariable = none)
    (henv : ∀ row ∈ env, row.1 ∈ fileVariable :: settings.map (·.name) ∨
      Config.firstKey? start row.1 = none) :
    SetByName start (named settings) env := by
  intro row hrow v hv hfirst
  obtain ⟨s, hs, rfl⟩ := List.mem_map.mp hv
  have hreached : Config.firstKey? start row.1 ≠ none := by
    rw [hfirst]
    nofun
  rcases List.mem_cons.mp ((henv row hrow).resolve_right hreached) with hname | hname
  · rw [hname] at hreached
    exact absurd hfile hreached
  · obtain ⟨t, ht, hname⟩ := List.mem_map.mp hname
    rw [← hname, h.firstKey? ht] at hfirst
    have hkeys : (settings.map (·.key)).Nodup :=
      List.pairwise_map.mpr (h.ascending.imp Table.ne_of_before)
    obtain rfl := List.inj_on_of_nodup_map hkeys ht hs (Option.some.inj hfirst)
    exact hname.symm

/-- Settings that depend on the values of their keys are those of the highest sources. -/
theorem WellKeyed.load_eq {α : Type} {ofConfig : ConfigValue → Except ConfigFault α}
    (h : WellKeyed start settings)
    (hofConfig : ∀ {v v' : ConfigValue}, (∀ s ∈ settings, v.shapeAt s.key = v'.shapeAt s.key) →
      ofConfig v = ofConfig v')
    (hfile : fileLayer files (env.get? (start ++ pathKey.toUpper)) = .ok file)
    (hnames : (env.map Prod.fst).Nodup) (hset : SetByName start (named settings) env) :
    (ConfigSources.load start (rows (·.default) settings) { environment := env, files }).bind
        ofConfig =
      ofConfig (rows (fun s => topValue s.name s.key env file s.default) settings) := by
  rw [load_eq_stack _ hfile, Except.bind]
  apply hofConfig
  intro s hs
  rw [h.shapeAt_rows _ hs]
  exact shapeAt_stack (h.isTable_rows _) (isTable_fileLayer hfile) (h.shapeAt_rows _ hs)
    (h.reached s hs) hnames hset (List.mem_map.mpr ⟨s, hs, rfl⟩)

end Setting

end Config

end RankTrace
