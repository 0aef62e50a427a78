import RankTrace.Proofs.Logging.Plain
import RankTrace.Proofs.Logging.Rules

/-!
# Priority between the variable and the settings

The directives of the variable and the filters of the settings are added to one filter, the
variable's first. A filter of the settings, built-in or from the file, therefore replaces a
directive of the variable for the same target, and the variable decides about the targets it names
only where no filter is about them (`maxLevel_of_named`).
-/

namespace RankTrace

open FilterRule (ofDirective? names)

namespace PlainDirective

def lastLevel? (target : String) (ps : List PlainDirective) : Option Level :=
  (ps.reverse.find? (·.target = target)).map (·.level)

def rule (p : PlainDirective) : FilterRule := ⟨some p.target, [], p.level⟩

@[simp] theorem ofDirective?_directive (p : PlainDirective) :
    ofDirective? p.directive = some p.rule := rfl

theorem names_rule (target : String) (p : PlainDirective) :
    p.rule.names target = decide (p.target = target) := by
  simp [names, rule]

theorem filterMap_directive (ps : List PlainDirective) :
    (ps.map directive).filterMap ofDirective? = ps.map rule := by
  induction ps with
  | nil => rfl
  | cons p ps ih => simp [ih]

/-- Among the rules of the variable, the last one for a target prevails. -/
theorem prevails_lastLevel {target : String} {ps : List PlainDirective}
    (hnamed : ∃ p ∈ ps, p.target = target) :
    ∃ r, Prevails (names target) (ps.map rule) r ∧ lastLevel? target ps = some r.level := by
  obtain ⟨p, hp⟩ : ∃ p, ps.reverse.find? (·.target = target) = some p := by
    rw [← Option.isSome_iff_exists, List.find?_isSome]
    simpa using hnamed
  refine ⟨p.rule, ?_, by rw [lastLevel?, hp]; rfl⟩
  obtain ⟨htarget, later, earlier, hsplit, hlater⟩ := List.find?_eq_some_iff_append.mp hp
  have hps : ps = earlier.reverse ++ p :: later.reverse := by
    rw [← List.reverse_reverse ps, hsplit]
    simp
  rw [hps, List.map_append, List.map_cons]
  refine Prevails.of_last (by rwa [names_rule]) ?_ ?_
  · intro x hx
    obtain ⟨y, -, rfl⟩ := List.mem_map.mp hx
    rfl
  · intro x hx
    obtain ⟨y, hy, rfl⟩ := List.mem_map.mp hx
    rw [names_rule]
    simpa using hlater y (List.mem_reverse.mp hy)

end PlainDirective

namespace LogFilter

theorem addTogether_plain (f : LogFilter) (p : PlainDirective) :
    f.addTogether p.directive = f.add p.directive := rfl

theorem ofDirectives_plain (default : Directive) {ps : List PlainDirective} (hps : ps ≠ []) :
    ofDirectives default (ps.map (·.directive)) = addAll {} (ps.map (·.directive)) := by
  have hstatic : ∀ d ∈ ps.map (·.directive), d.isDynamic = false := by
    intro d hd
    obtain ⟨p, -, rfl⟩ := List.mem_map.mp hd
    rfl
  have hfold : ∀ f : LogFilter, (ps.map (·.directive)).foldl addTogether f =
      addAll f (ps.map (·.directive)) := by
    intro f
    simp only [addAll, List.foldl_map, addTogether_plain]
  have hrules : (addAll {} (ps.map (·.directive))).rules.isEmpty = false := by
    rw [rules_addAll, PlainDirective.filterMap_directive, List.isEmpty_eq_false_iff]
    exact addRules_ne_nil (by simpa using hps)
  have hstatics : (ps.map (·.directive)).filter (!·.isDynamic) = ps.map (·.directive) :=
    List.filter_eq_self.mpr fun d hd => by simp [hstatic d hd]
  have hdynamics : (ps.map (·.directive)).filter (·.isDynamic) = [] :=
    List.filter_eq_nil_iff.mpr fun d hd => by simp [hstatic d hd]
  simp only [ofDirectives, hstatics, hdynamics, List.append_nil, hfold, hrules]
  rfl

variable {ps : List PlainDirective} {added : List Directive} {target : String}

theorem rules_addAll_plain : (addAll {} (ps.map (·.directive) ++ added)).rules =
    addRules (ps.map (·.rule) ++ added.filterMap ofDirective?) [] := by
  rw [rules_addAll, List.filterMap_append, PlainDirective.filterMap_directive]

theorem hasDynamic_addAll_plain :
    (addAll {} (ps.map (·.directive) ++ added)).hasDynamic = added.any (!·.isStatic) := by
  have hplain : (ps.map (·.directive)).any (!·.isStatic) = false := by
    simp [PlainDirective.directive, Directive.isStatic]
  rw [hasDynamic_addAll, List.any_append, hplain, Bool.false_or]
  rfl

/-- If all directives are static, the level is that of the prevailing rule. -/
theorem maxLevel_of_static (hstatic : ∀ d ∈ added, d.isStatic) {r : FilterRule}
    (hr : Prevails (names target) (ps.map (·.rule) ++ added.filterMap ofDirective?) r) :
    (addAll {} (ps.map (·.directive) ++ added)).maxLevel target = r.level := by
  have hdynamic : (addAll {} (ps.map (·.directive) ++ added)).hasDynamic = false := by
    rw [hasDynamic_addAll_plain, List.any_eq_false]
    exact fun d hd => by simp [hstatic d hd]
  rw [maxLevel, hdynamic, if_neg Bool.false_ne_true, level_of_prevails rules_addAll_plain hr]

/-- With a dynamic directive, every target has the highest level. -/
theorem maxLevel_of_dynamic (h : ∃ d ∈ added, ¬ d.isStatic) :
    (addAll {} (ps.map (·.directive) ++ added)).maxLevel target =
      (addAll {} (ps.map (·.directive) ++ added)).highest := by
  obtain ⟨d, hd, hspan⟩ := h
  have hdynamic : (addAll {} (ps.map (·.directive) ++ added)).hasDynamic = true := by
    rw [hasDynamic_addAll_plain, List.any_eq_true]
    exact ⟨d, hd, by simpa using hspan⟩
  rw [maxLevel, hdynamic, if_pos rfl]

end LogFilter

namespace LogSetup

def filterDirectives (filters : List (String × String)) : List Directive :=
  filters.filterMap fun row => (Directive.parse s!"{row.1}={row.2}").toOption

theorem addFilters_fst (filters : List (String × String)) (f : LogFilter) :
    (addFilters filters f).1 = f.addAll (filterDirectives filters) := by
  induction filters generalizing f with
  | nil => rfl
  | cons row filters ih =>
    obtain ⟨target, level⟩ := row
    rw [addFilters]
    cases hd : Directive.parse s!"{target}={level}" with
    | ok d =>
      simp only [filterDirectives, List.filterMap_cons, hd, Except.toOption]
      exact ih (f.add d)
    | error e =>
      simp only [filterDirectives, List.filterMap_cons, hd, Except.toOption]
      exact ih f

/-- The filter of a log where the filters of the settings are added in this order. -/
def filterInOrder (env : Environment) (files : FileTexts) (filters : List (String × String)) :
    LogFilter :=
  (addFilters filters (LogFilter.ofDirectives (defaultDirective (loadSettings env files).1.level).1
    (readDirectives (directiveTexts ((env.get? filterVariable).getD ""))).1)).1

theorem filter_start (env : Environment) (files : FileTexts) :
    (start env files).filter = filterInOrder env files (loadSettings env files).1.filters := rfl

variable {env : Environment} {files : FileTexts} {ps : List PlainDirective} {target : String}

/-- The directives of the variable are added first, then the filters of the settings. -/
theorem filterInOrder_eq (henv : env.get? filterVariable = some (PlainDirective.joined ps))
    (hps : ps ≠ []) (filters : List (String × String)) : filterInOrder env files filters =
      LogFilter.addAll {} (ps.map (·.directive) ++ filterDirectives filters) := by
  simp only [filterInOrder, henv, Option.getD_some, PlainDirective.directiveTexts_joined,
    PlainDirective.readDirectives_texts, addFilters_fst, LogFilter.ofDirectives_plain _ hps]
  rw [LogFilter.addAll, LogFilter.addAll, LogFilter.addAll, List.foldl_append]

/-- A target that the variable names has the level of its last directive there if no filter of the
settings is about it. If one is, it has the level that these filters give it, independent of the
variable. With a filter that depends on spans or fields it has the highest level of all. This holds
for any order of the filters. -/
theorem maxLevel_of_named (henv : env.get? filterVariable = some (PlainDirective.joined ps))
    (hnamed : ∃ p ∈ ps, p.target = target) (filters : List (String × String)) :
    let added := filterDirectives filters
    let filter := filterInOrder env files filters
    (filters = (loadSettings env files).1.filters → filter = (start env files).filter) ∧
    ((∀ d ∈ added, d.isStatic ∧ d.target ≠ some target) →
      some (filter.maxLevel target) = PlainDirective.lastLevel? target ps) ∧
    ((∀ d ∈ added, d.isStatic) → (∃ d ∈ added, d.target = some target) →
      ∃ r, Prevails (names target) (added.filterMap ofDirective?) r ∧
        filter.maxLevel target = r.level) ∧
    ((∃ d ∈ added, ¬ d.isStatic) → filter.maxLevel target = filter.highest ∧
      ∀ p ∈ ps, p.level.verbosity ≤ (filter.maxLevel target).verbosity) := by
  intro added filter
  have hps : ps ≠ [] := by
    obtain ⟨p, hp, -⟩ := hnamed
    exact List.ne_nil_of_mem hp
  have hfilter : filter = LogFilter.addAll {} (ps.map (·.directive) ++ added) :=
    filterInOrder_eq henv hps filters
  refine ⟨fun hfilters => by rw [filter_start, ← hfilters], fun hother => ?_,
    fun hstatic hfiltered => ?_, fun hspans => ?_⟩
  · obtain ⟨r, hr, hlast⟩ := PlainDirective.prevails_lastLevel hnamed
    have hadded : ∀ x ∈ added.filterMap ofDirective?, ¬ x.names target := by
      intro x hx
      obtain ⟨d, hd, hrule⟩ := List.mem_filterMap.mp hx
      simpa [names, LogFilter.target_of_ofDirective? hrule] using (hother d hd).2
    rw [hlast, hfilter, LogFilter.maxLevel_of_static (fun d hd => (hother d hd).1)
      (hr.append_right hadded)]
  · obtain ⟨d, hd, htarget⟩ := hfiltered
    have hrule : ofDirective? d = some ⟨d.target, d.fields.map (·.name), d.level⟩ :=
      if_pos (hstatic d hd)
    have hnames : ∃ x ∈ added.filterMap ofDirective?, names target x :=
      ⟨_, List.mem_filterMap.mpr ⟨d, hd, hrule⟩, by simp [names, htarget]⟩
    obtain ⟨r, hr⟩ := exists_prevails hnames
    have hplain : ∀ x ∈ ps.map (·.rule), x.fields = [] := by
      intro x hx
      obtain ⟨p, -, rfl⟩ := List.mem_map.mp hx
      rfl
    rw [hfilter]
    exact ⟨r, hr, LogFilter.maxLevel_of_static hstatic (hr.append_left hplain)⟩
  · rw [hfilter, LogFilter.maxLevel_of_dynamic hspans]
    refine ⟨rfl, fun p hp => ?_⟩
    exact (LogFilter.le_highest_addAll _ _).2 p.directive
      (List.mem_append_left _ (List.mem_map_of_mem hp))

def tracedTarget : PlainDirective where
  target := "h2"
  word := "trace"
  level := .trace
  begins := by decide
  inside := by decide
  spelled := by decide
  reads := by decide

def warnedTarget : PlainDirective where
  target := "dynamo_comm"
  word := "WARN"
  level := .warn
  begins := by decide
  inside := by decide
  spelled := by decide
  reads := by decide

def bothNamed : Environment := [(filterVariable, "h2=trace,dynamo_comm=WARN")]

/-- Without a file. The variable decides about its own target, a built-in filter about a target of
both. -/
theorem variable_beside_defaults :
    (start bothNamed []).filter.maxLevel "dynamo_comm" = .warn ∧
      (start bothNamed []).filter.maxLevel "h2" = .error := by
  have henv : bothNamed.get? filterVariable =
      some (PlainDirective.joined [tracedTarget, warnedTarget]) := by decide
  have hadded : filterDirectives (loadSettings bothNamed []).1.filters =
      [{ level := .error, target := some "axum" }, { level := .error, target := some "h2" },
        { level := .error, target := some "hyper_util" },
        { level := .error, target := some "tower" }] := by decide +kernel
  have hcomm : ∃ p ∈ [tracedTarget, warnedTarget], p.target = "dynamo_comm" :=
    ⟨warnedTarget, by simp, rfl⟩
  have hh2 : ∃ p ∈ [tracedTarget, warnedTarget], p.target = "h2" := ⟨tracedTarget, by simp, rfl⟩
  obtain ⟨hstart, hown, -⟩ :=
    maxLevel_of_named henv hcomm (loadSettings bothNamed []).1.filters
  obtain ⟨-, -, hshared, -⟩ :=
    maxLevel_of_named henv hh2 (loadSettings bothNamed []).1.filters
  rw [hadded] at hown hshared
  rw [← hstart rfl]
  obtain ⟨r, hr, hlevel⟩ := hshared (by decide) (by decide)
  refine ⟨Option.some.inj (hown (by decide)), hlevel.trans ?_⟩
  -- one of the rules is about this target
  have hunique : ∀ x ∈ List.filterMap ofDirective?
      [{ level := .error, target := some "axum" }, { level := .error, target := some "h2" },
        { level := .error, target := some "hyper_util" },
        { level := .error, target := some "tower" }], x.names "h2" → x.level = .error := by
    decide
  exact hunique r hr.mem hr.1

/-- A built-in filter replaces the directive of the variable for the same target. -/
theorem builtin_filter_overrules :
    ¬ ∀ (env : Environment) (files : FileTexts) (ps : List PlainDirective) (target : String),
      env.get? filterVariable = some (PlainDirective.joined ps) → (∃ p ∈ ps, p.target = target) →
        some ((start env files).filter.maxLevel target) =
          PlainDirective.lastLevel? target ps := by
  intro h
  have henv : Environment.get? [(filterVariable, "h2=trace")] filterVariable =
      some (PlainDirective.joined [tracedTarget]) := by decide
  have := h _ [] [tracedTarget] "h2" henv ⟨tracedTarget, by simp, rfl⟩
  rw [filter_start, filterInOrder_eq henv (by simp)] at this
  have herror : (LogFilter.addAll {} ([tracedTarget].map (·.directive) ++ filterDirectives
      (loadSettings [(filterVariable, "h2=trace")] []).1.filters)).maxLevel "h2" = .error := by
    decide +kernel
  rw [herror] at this
  exact absurd this (by decide)

end LogSetup

end RankTrace
