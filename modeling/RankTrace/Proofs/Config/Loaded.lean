import RankTrace.Proofs.Config.Layers

/-!
# Settings from the environment

Loaded settings have the value of the highest source of every key, so a value that a higher source
replaces has no effect, be it of the wrong type or out of bounds. Settings that were read satisfy
the rules of their fields and are read back from their own table (`settings_from_highest_sources`).
-/

namespace RankTrace

open ConfigValue Config

namespace ValueReader

variable {α : Type}

/-- A reader that does not look inside tables. -/
def Shallow (read : ValueReader α) : Prop := ∀ path v, read path v.shape = read path v

theorem shallow_bool : Shallow bool := by
  intro path v
  cases v <;> rfl

theorem shallow_text : Shallow text := by
  intro path v
  cases v <;> rfl

theorem shallow_word (wanted : String) : Shallow (word wanted) := by
  intro path v
  cases v <;> rfl

theorem Shallow.optional {read : ValueReader α} (h : Shallow read) : Shallow (optional read) := by
  intro path v
  cases v with
  | table rows => exact congrArg (Except.map some) (h path (.table rows))
  | _ => rfl

theorem Shallow.field_congr {read : ValueReader α} (h : Shallow read) {key : String} {default : α}
    {v v' : ConfigValue} (hshape : v.shapeAt key = v'.shapeAt key) :
    field read key default v = field read key default v' := by
  rw [shapeAt, shapeAt] at hshape
  rw [field, field]
  cases hv : v.get? key <;> cases hv' : v'.get? key <;> rw [hv, hv'] at hshape
  · cases hshape
  · cases hshape
  · rename_i w w'
    have hw : w.shape = w'.shape := Option.some.inj hshape
    change read [key] w = read [key] w'
    rw [← h, hw, h]

end ValueReader

theorem checked_eq_ok {α : Type} {violations : α → List (String × String)} {settings s : α} :
    checked violations settings = .ok s ↔ violations settings = [] ∧ settings = s := by
  rw [checked]
  cases violations settings <;> simp

namespace CommSettings

def fileVariable : String := "DYN_COMM_CONFIG_PATH"

def modeVariable : String := "DYN_COMM_NONBLOCKING"

def timeoutVariable : String := "DYN_COMM_NONBLOCKING_TIMEOUT_SECS"

def keyVariables : List (String × String) :=
  [(modeVariable, modeKey), (timeoutVariable, timeoutKey)]

def keySettings : List Setting :=
  [⟨modeVariable, modeKey, .bool false⟩, ⟨timeoutVariable, timeoutKey, .unit⟩]

theorem wellKeyed : Setting.WellKeyed variableStart keySettings where
  ascending := List.pairwise_pair.mpr (by decide)
  reached := by
    rintro s hs
    rcases List.mem_pair.mp hs with rfl | rfl
    all_goals exact (key?_of_start (by decide)).trans rfl

theorem variableStart_append_pathKey : variableStart ++ Config.pathKey.toUpper = fileVariable := by
  decide +kernel

theorem firstKey?_fileVariable : firstKey? variableStart fileVariable = none := by
  rw [firstKey?, key?_of_start (by decide)]
  rfl

theorem ofConfig_congr {v v' : ConfigValue}
    (h : ∀ s ∈ keySettings, v.shapeAt s.key = v'.shapeAt s.key) : ofConfig v = ofConfig v' := by
  have hmode : v.shapeAt modeKey = v'.shapeAt modeKey := h _ List.mem_cons_self
  have htimeout : v.shapeAt timeoutKey = v'.shapeAt timeoutKey := h _ (.tail _ (.head _))
  have hread : read v = read v' := by
    rw [read, read, ValueReader.shallow_bool.field_congr hmode,
      (ValueReader.shallow_word "u64").optional.field_congr htimeout]
  rw [ofConfig, ofConfig, hread]

theorem load_eq_bind (sources : ConfigSources) :
    load sources = (sources.load variableStart (toConfig {})).bind ofConfig := by
  rw [load]
  cases sources.load variableStart (toConfig {}) <;> rfl

theorem read_toConfig (s : CommSettings) : read s.toConfig = .ok s := by
  obtain ⟨nonblocking, _ | secs⟩ := s <;> rfl

theorem violations_eq_nil {s : CommSettings} : violations s = [] ↔ s.timeoutSecs ≠ some 0 := by
  rw [violations]
  split <;> simp_all

theorem ofConfig_eq_ok {v : ConfigValue} {s : CommSettings} :
    ofConfig v = .ok s ↔ ∃ t, read v = .ok t ∧ violations t = [] ∧ normalize t = s := by
  rw [ofConfig]
  cases read v with
  | error m => simp
  | ok t =>
    cases hvalid : violations t <;> simp [checked, hvalid, Except.map]

/-- Settings that were read satisfy the rules of their fields. -/
theorem rules_of_ofConfig {v : ConfigValue} {s : CommSettings} (h : ofConfig v = .ok s) :
    (s.timeoutSecs.isSome → s.nonblocking) ∧ ∀ secs, s.timeoutSecs = some secs → 1 ≤ secs := by
  obtain ⟨t, -, hvalid, rfl⟩ := ofConfig_eq_ok.mp h
  rw [violations_eq_nil] at hvalid
  rw [normalize]
  split
  · rename_i hmode
    refine ⟨fun _ => hmode, fun secs hsecs => ?_⟩
    have hne : secs.toNat ≠ 0 := by
      intro hzero
      rw [show secs = 0 from UInt64.toNat_inj.mp hzero] at hsecs
      exact hvalid hsecs
    exact UInt64.le_iff_toNat_le.mpr (Nat.one_le_iff_ne_zero.mpr hne)
  · simp

/-- Settings that satisfy their rules are read back from their own table. -/
theorem ofConfig_toConfig {s : CommSettings} (hmode : s.timeoutSecs.isSome → s.nonblocking)
    (hsecs : ∀ secs, s.timeoutSecs = some secs → 1 ≤ secs) :
    ofConfig (stack [s.toConfig]) = .ok s := by
  have htable : s.toConfig.IsTable := wellKeyed.isTable rfl
  rw [ofConfig_congr fun t _ => shapeAt_stack_singleton htable t.key]
  refine ofConfig_eq_ok.mpr ⟨s, read_toConfig s, ?_, ?_⟩
  · rw [violations_eq_nil]
    intro hzero
    exact absurd (hsecs 0 hzero) (by decide)
  · rw [normalize]
    split
    · rfl
    · rename_i hblocking
      obtain ⟨nonblocking, timeoutSecs⟩ := s
      cases timeoutSecs with
      | none => rfl
      | some secs => exact absurd (hmode rfl) hblocking

end CommSettings

namespace RecorderSettings

def fileVariable : String := "DYN_FR_CONFIG_PATH"

def sizeVariable : String := "DYN_FR_BUFFER_SIZE"

def captureVariable : String := "DYN_FR_CAPTURE_NATIVE_STACK"

def pathVariable : String := "DYN_FR_DUMP_PATH_PREFIX"

def keyVariables : List (String × String) :=
  [(sizeVariable, sizeKey), (captureVariable, captureKey), (pathVariable, pathKey)]

def keySettings : List Setting :=
  [⟨sizeVariable, sizeKey, .unsigned 0⟩, ⟨captureVariable, captureKey, .bool false⟩,
    ⟨pathVariable, pathKey, .text "/tmp/fr_trace_rank_"⟩]

theorem wellKeyed : Setting.WellKeyed variableStart keySettings where
  ascending := by decide
  reached := by
    rintro s hs
    rcases List.mem_cons.mp hs with rfl | hs
    · exact (key?_of_start (by decide)).trans rfl
    · rcases List.mem_pair.mp hs with rfl | rfl
      all_goals exact (key?_of_start (by decide)).trans rfl

theorem variableStart_append_pathKey : variableStart ++ Config.pathKey.toUpper = fileVariable := by
  decide +kernel

theorem firstKey?_fileVariable : firstKey? variableStart fileVariable = none := by
  rw [firstKey?, key?_of_start (by decide)]
  rfl

theorem ofConfig_congr {v v' : ConfigValue}
    (h : ∀ s ∈ keySettings, v.shapeAt s.key = v'.shapeAt s.key) : ofConfig v = ofConfig v' := by
  have hsize : v.shapeAt sizeKey = v'.shapeAt sizeKey := h _ List.mem_cons_self
  have hcapture : v.shapeAt captureKey = v'.shapeAt captureKey := h _ (.tail _ (.head _))
  have hpath : v.shapeAt pathKey = v'.shapeAt pathKey := h _ (.tail _ (.tail _ (.head _)))
  have hread : read v = read v' := by
    rw [read, read, (ValueReader.shallow_word "usize").field_congr hsize,
      ValueReader.shallow_bool.field_congr hcapture, ValueReader.shallow_text.field_congr hpath]
  rw [ofConfig, ofConfig, hread]

theorem load_eq_bind (sources : ConfigSources) :
    load sources = (sources.load variableStart (toConfig {})).bind ofConfig := by
  rw [load]
  cases sources.load variableStart (toConfig {}) <;> rfl

theorem read_toConfig (s : RecorderSettings) : read s.toConfig = .ok s := rfl

theorem violations_eq_nil {s : RecorderSettings} : violations s = [] ↔ s.dumpPathStart ≠ "" := by
  rw [violations]
  split <;> simp_all

theorem ofConfig_eq_ok {v : ConfigValue} {s : RecorderSettings} :
    ofConfig v = .ok s ↔ read v = .ok s ∧ violations s = [] := by
  rw [ofConfig]
  cases read v with
  | error m => simp
  | ok t =>
    simp only [checked_eq_ok, Except.ok.injEq]
    constructor
    · rintro ⟨hvalid, rfl⟩
      exact ⟨rfl, hvalid⟩
    · rintro ⟨rfl, hvalid⟩
      exact ⟨hvalid, rfl⟩

theorem ofConfig_toConfig {s : RecorderSettings} (hpath : s.dumpPathStart ≠ "") :
    ofConfig (stack [s.toConfig]) = .ok s := by
  have htable : s.toConfig.IsTable := wellKeyed.isTable rfl
  rw [ofConfig_congr fun t _ => shapeAt_stack_singleton htable t.key]
  exact ofConfig_eq_ok.mpr ⟨read_toConfig s, violations_eq_nil.mpr hpath⟩

end RecorderSettings

theorem CommSettings.load_eq {env : Environment} {files : FileTexts} {file : ConfigValue}
    (hnames : (env.map Prod.fst).Nodup) (hset : SetByName variableStart keyVariables env)
    (hfile : fileLayer files (env.get? fileVariable) = .ok file) :
    load { environment := env, files } = ofConfig (Setting.rows
      (fun s => topValue s.name s.key env file s.default) keySettings) := by
  rw [load_eq_bind]
  exact wellKeyed.load_eq ofConfig_congr (by rwa [variableStart_append_pathKey]) hnames hset

theorem RecorderSettings.load_eq {env : Environment} {files : FileTexts} {file : ConfigValue}
    (hnames : (env.map Prod.fst).Nodup) (hset : SetByName variableStart keyVariables env)
    (hfile : fileLayer files (env.get? fileVariable) = .ok file) :
    load { environment := env, files } = ofConfig (Setting.rows
      (fun s => topValue s.name s.key env file s.default) keySettings) := by
  rw [load_eq_bind]
  exact wellKeyed.load_eq ofConfig_congr (by rwa [variableStart_append_pathKey]) hnames hset

def CommSettings.variables : List String :=
  CommSettings.fileVariable :: CommSettings.keySettings.map (·.name)

def RecorderSettings.variables : List String :=
  RecorderSettings.fileVariable :: RecorderSettings.keySettings.map (·.name)

theorem CommSettings.foreign {name : String} (h : name ∈ RecorderSettings.variables) :
    firstKey? CommSettings.variableStart name = none := by
  simp only [RecorderSettings.variables, RecorderSettings.keySettings, List.map_cons, List.map_nil,
    List.mem_cons, List.not_mem_nil, or_false] at h
  rcases h with rfl | rfl | rfl | rfl
  all_goals exact firstKey?_eq_none (by decide)

theorem RecorderSettings.foreign {name : String} (h : name ∈ CommSettings.variables) :
    firstKey? RecorderSettings.variableStart name = none := by
  simp only [CommSettings.variables, CommSettings.keySettings, List.map_cons, List.map_nil,
    List.mem_cons, List.not_mem_nil, or_false] at h
  rcases h with rfl | rfl | rfl
  all_goals exact firstKey?_eq_none (by decide)

/-- In an environment of documented variables, every key is set by its own variable only. -/
theorem setByName_of_documented {env : Environment}
    (h : ∀ row ∈ env, row.1 ∈ CommSettings.variables ∨ row.1 ∈ RecorderSettings.variables) :
    SetByName CommSettings.variableStart CommSettings.keyVariables env ∧
      SetByName RecorderSettings.variableStart RecorderSettings.keyVariables env := by
  constructor
  · apply CommSettings.wellKeyed.setByName CommSettings.firstKey?_fileVariable
    intro row hrow
    exact (h row hrow).imp_right CommSettings.foreign
  · apply RecorderSettings.wellKeyed.setByName RecorderSettings.firstKey?_fileVariable
    intro row hrow
    exact (h row hrow).symm.imp_right RecorderSettings.foreign

/-- Settings loaded from the environment and the files that it names take every key from its highest
source. Settings that were read satisfy the rules of their fields and are read back from their own
table. -/
theorem settings_from_highest_sources {env : Environment} {files : FileTexts}
    (hnames : (env.map Prod.fst).Nodup)
    (hcomm : SetByName CommSettings.variableStart CommSettings.keyVariables env)
    (hrecorder : SetByName RecorderSettings.variableStart RecorderSettings.keyVariables env) :
    (∀ file, fileLayer files (env.get? CommSettings.fileVariable) = .ok file →
      CommSettings.load { environment := env, files } = CommSettings.ofConfig (.table [
        (CommSettings.modeKey, topValue CommSettings.modeVariable CommSettings.modeKey env file
          (.bool false)),
        (CommSettings.timeoutKey, topValue CommSettings.timeoutVariable CommSettings.timeoutKey env
          file .unit)])) ∧
    (∀ file, fileLayer files (env.get? RecorderSettings.fileVariable) = .ok file →
      RecorderSettings.load { environment := env, files } = RecorderSettings.ofConfig (.table [
        (RecorderSettings.sizeKey, topValue RecorderSettings.sizeVariable RecorderSettings.sizeKey
          env file (.unsigned 0)),
        (RecorderSettings.captureKey, topValue RecorderSettings.captureVariable
          RecorderSettings.captureKey env file (.bool false)),
        (RecorderSettings.pathKey, topValue RecorderSettings.pathVariable RecorderSettings.pathKey
          env file (.text "/tmp/fr_trace_rank_"))])) ∧
    (∀ v s, CommSettings.ofConfig v = .ok s →
      (s.timeoutSecs.isSome → s.nonblocking) ∧ (∀ secs, s.timeoutSecs = some secs → 1 ≤ secs) ∧
        CommSettings.ofConfig (stack [s.toConfig]) = .ok s) ∧
    ∀ v s, RecorderSettings.ofConfig v = .ok s →
      s.dumpPathStart ≠ "" ∧ RecorderSettings.ofConfig (stack [s.toConfig]) = .ok s := by
  refine ⟨fun file hfile => CommSettings.load_eq hnames hcomm hfile,
    fun file hfile => RecorderSettings.load_eq hnames hrecorder hfile, fun v s h => ?_,
    fun v s h => ?_⟩
  · obtain ⟨hmode, hsecs⟩ := CommSettings.rules_of_ofConfig h
    exact ⟨hmode, hsecs, CommSettings.ofConfig_toConfig hmode hsecs⟩
  · have hpath := RecorderSettings.violations_eq_nil.mp (RecorderSettings.ofConfig_eq_ok.mp h).2
    exact ⟨hpath, RecorderSettings.ofConfig_toConfig hpath⟩

/-- Files with values that are replaced, one of the wrong type and one empty, and a value that is
not. -/
def maskedFiles : FileTexts :=
  [("comm.toml", "nonblocking = \"yes\"\n"),
    ("recorder.toml", "buffer_size = 16\ndump_path_prefix = \"\"\n")]

def maskingEnvironment : Environment :=
  [("DYN_COMM_CONFIG_PATH", "comm.toml"), ("DYN_COMM_NONBLOCKING", "true"),
    ("DYN_COMM_NONBLOCKING_TIMEOUT_SECS", "45"), ("DYN_FR_CONFIG_PATH", "recorder.toml"),
    ("DYN_FR_DUMP_PATH_PREFIX", "/var/dump_")]

theorem masked_values_unseen :
    CommSettings.load { environment := maskingEnvironment, files := maskedFiles } =
        .ok { nonblocking := true, timeoutSecs := some 45 } ∧
      RecorderSettings.load { environment := maskingEnvironment, files := maskedFiles } =
        .ok { bufferSize := 16, dumpPathStart := "/var/dump_" } := by
  have hdocumented : ∀ row ∈ maskingEnvironment,
      row.1 ∈ CommSettings.variables ∨ row.1 ∈ RecorderSettings.variables := by decide
  obtain ⟨hcomm, hrecorder⟩ := setByName_of_documented hdocumented
  obtain ⟨hload, hload', -⟩ := settings_from_highest_sources (by decide) hcomm hrecorder
  have hcommFile : fileLayer maskedFiles (maskingEnvironment.get? CommSettings.fileVariable) = _ :=
    fileLayer_eq_ok (by decide +kernel)
  have hrecorderFile :
      fileLayer maskedFiles (maskingEnvironment.get? RecorderSettings.fileVariable) = _ :=
    fileLayer_eq_ok (by decide +kernel)
  constructor
  · rw [hload _ hcommFile]
    decide +kernel
  · rw [hload' _ hrecorderFile]
    decide +kernel

end RankTrace
