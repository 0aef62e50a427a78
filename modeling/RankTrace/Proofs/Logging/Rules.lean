import RankTrace.Logging.Filter
import Mathlib.Data.Prod.Lex
import Mathlib.Data.List.Lex
import Mathlib.Data.String.Basic

/-!
# Which rule decides

Rules are asked in a strict order of specificity, and a filter keeps one rule for a scope. The rule
that a filter finds is therefore determined by the list of rules added: it is asked before every
later one and not after an earlier one (`find?_addRules`). For a target that a rule names, only the
rules that name it count (`Prevails.caresAbout`).
-/

namespace RankTrace

namespace FilterRule

/-- What the order of rules goes by: a rule is asked before those with a lower value. -/
def specificity (r : FilterRule) : ℕ ×ₗ ℕ ×ₗ String ×ₗ List String :=
  toLex (r.targetRank, toLex (r.fields.length, toLex (r.target.getD "", r.fields)))

theorem target_eq_of_rank {a b : FilterRule} (hrank : a.targetRank = b.targetRank)
    (h : a.target.getD "" = b.target.getD "") : a.target = b.target := by
  cases ha : a.target <;> cases hb : b.target <;> simp_all [targetRank]

theorem sameScope_iff {a b : FilterRule} : a.sameScope b ↔ a.specificity = b.specificity := by
  simp only [sameScope, specificity, Bool.and_eq_true, decide_eq_true_eq,
    EmbeddingLike.apply_eq_iff_eq, Prod.mk.injEq]
  constructor
  · rintro ⟨htarget, hfields⟩
    simp [targetRank, htarget, hfields]
  · rintro ⟨hrank, -, htarget, hfields⟩
    exact ⟨target_eq_of_rank hrank htarget, hfields⟩

theorem before_iff {a b : FilterRule} : a.before b ↔ b.specificity < a.specificity := by
  simp only [before, specificity, Prod.Lex.toLex_lt_toLex]
  by_cases hrank : a.targetRank = b.targetRank
  · by_cases hlength : a.fields.length = b.fields.length
    · by_cases htarget : a.target = b.target
      · simp [hrank, hlength, htarget]
      · have hne : b.target.getD "" ≠ a.target.getD "" :=
          fun h => htarget (target_eq_of_rank hrank h.symm)
        simp [hrank, hlength, htarget, hne]
    · simp [hrank, hlength, Ne.symm hlength]
  · simp [hrank, Ne.symm hrank]

theorem caresAbout_congr {a b : FilterRule} (h : a.sameScope b) (target : String)
    (fields : Option (List String)) : a.caresAbout target fields = b.caresAbout target fields := by
  simp only [sameScope, Bool.and_eq_true, decide_eq_true_eq] at h
  simp only [caresAbout, h.1, h.2]

end FilterRule

open FilterRule

/-- The rule `r` decides among those that were given one after the other, as far as they care. -/
def Prevails (cares : FilterRule → Bool) (given : List FilterRule) (r : FilterRule) : Prop :=
  cares r ∧ ∃ earlier later, given = earlier ++ r :: later ∧
    (∀ x ∈ earlier, cares x → ¬ x.before r) ∧ ∀ x ∈ later, cares x → r.before x

namespace LogFilter

variable {cares : FilterRule → Bool}

/-- Rules as a filter keeps them. -/
def Ordered (rules : List FilterRule) : Prop := rules.Pairwise fun a b => a.before b

theorem mem_addRule {x rule : FilterRule} {rules : List FilterRule} (h : x ∈ addRule rule rules) :
    x = rule ∨ x ∈ rules := by
  induction rules with
  | nil => simpa [addRule] using h
  | cons r rest ih => grind [addRule]

theorem Ordered.addRule {rules : List FilterRule} (h : Ordered rules) (rule : FilterRule) :
    Ordered (addRule rule rules) := by
  induction rules with
  | nil => exact List.pairwise_singleton _ _
  | cons r rest ih =>
    obtain ⟨hfirst, hrest⟩ := List.pairwise_cons.mp h
    rw [LogFilter.addRule]
    split
    · rename_i hsame
      refine List.pairwise_cons.mpr ⟨fun x hx => ?_, hrest⟩
      rw [before_iff, sameScope_iff.mp hsame]
      exact before_iff.mp (hfirst x hx)
    · rename_i hother
      split
      · rename_i hbefore
        refine List.pairwise_cons.mpr ⟨fun x hx => ?_, h⟩
        rcases List.mem_cons.mp hx with rfl | hx
        · exact hbefore
        · exact before_iff.mpr
            (lt_trans (before_iff.mp (hfirst x hx)) (before_iff.mp hbefore))
      · rename_i hbehind
        refine List.pairwise_cons.mpr ⟨fun x hx => ?_, ih hrest⟩
        rcases mem_addRule hx with rfl | hx
        · rw [before_iff, not_lt] at hbehind
          rw [sameScope_iff] at hother
          exact before_iff.mpr (lt_of_le_of_ne hbehind hother)
        · exact hfirst x hx

/-- A rule before which no other applicable rule is asked is found once it is added. -/
theorem find?_addRule_self {rule : FilterRule} {rules : List FilterRule} (hcares : cares rule)
    (hfirst : ∀ x ∈ rules, cares x → ¬ x.before rule) :
    (addRule rule rules).find? cares = some rule := by
  induction rules with
  | nil => simp [addRule, hcares]
  | cons r rest ih =>
    rw [addRule]
    split
    · exact List.find?_cons_of_pos hcares
    · rename_i hother
      split
      · exact List.find?_cons_of_pos hcares
      · rename_i hbehind
        have hbefore : r.before rule := by
          rw [before_iff, not_lt] at hbehind
          rw [sameScope_iff] at hother
          exact before_iff.mpr (lt_of_le_of_ne hbehind hother)
        have hr : ¬ cares r := fun h => hfirst r List.mem_cons_self h hbefore
        rw [List.find?_cons_of_neg hr]
        exact ih fun x hx => hfirst x (List.mem_cons_of_mem r hx)

/-- Adding a rule that is asked later or does not apply leaves the rule that is found. -/
theorem find?_addRule_of_before (hscope : ∀ a b : FilterRule, a.sameScope b → cares a = cares b)
    {rule found : FilterRule} {rules : List FilterRule} (hordered : Ordered rules)
    (hfound : rules.find? cares = some found) (hbefore : cares rule → found.before rule) :
    (addRule rule rules).find? cares = some found := by
  induction rules with
  | nil => cases hfound
  | cons r rest ih =>
    obtain ⟨hfirst, hrest⟩ := List.pairwise_cons.mp hordered
    rw [addRule]
    split
    · rename_i hsame
      have hr : ¬ cares r := by
        intro h
        rw [List.find?_cons_of_pos h, Option.some.injEq] at hfound
        rw [← hscope rule r hsame] at h
        have := before_iff.mp (hbefore h)
        rw [← hfound, sameScope_iff.mp hsame] at this
        exact lt_irrefl _ this
      rw [List.find?_cons_of_neg hr] at hfound
      rwa [List.find?_cons_of_neg (by rwa [hscope rule r hsame])]
    · split
      · rename_i hfront
        have hrule : ¬ cares rule := by
          intro h
          have hmem := List.mem_of_find?_eq_some hfound
          have hle : found.specificity ≤ r.specificity := by
            rcases List.mem_cons.mp hmem with rfl | hmem
            · exact le_rfl
            · exact (before_iff.mp (hfirst found hmem)).le
          exact absurd (before_iff.mp (hbefore h)) (hle.trans (before_iff.mp hfront).le).not_gt
        rwa [List.find?_cons_of_neg hrule]
      · by_cases hr : cares r
        · rwa [List.find?_cons_of_pos hr] at hfound ⊢
        · rw [List.find?_cons_of_neg hr] at hfound ⊢
          exact ih hrest hfound

/-- The rules after all of `given` were added. -/
def addRules (given rules : List FilterRule) : List FilterRule :=
  given.foldl (fun rules rule => addRule rule rules) rules

theorem Ordered.addRules {rules : List FilterRule} (h : Ordered rules) (given : List FilterRule) :
    Ordered (addRules given rules) := by
  induction given generalizing rules with
  | nil => exact h
  | cons rule given ih => exact ih (h.addRule rule)

theorem mem_addRules {x : FilterRule} {given rules : List FilterRule}
    (h : x ∈ addRules given rules) : x ∈ given ∨ x ∈ rules := by
  induction given generalizing rules with
  | nil => exact .inr h
  | cons rule given ih =>
    rcases ih h with h | h
    · exact .inl (List.mem_cons_of_mem rule h)
    · rcases mem_addRule h with rfl | h
      · exact .inl List.mem_cons_self
      · exact .inr h

theorem addRule_ne_nil (rule : FilterRule) (rules : List FilterRule) : addRule rule rules ≠ [] := by
  cases rules with
  | nil => exact List.cons_ne_nil _ _
  | cons r rest =>
    rw [addRule]
    split
    · exact List.cons_ne_nil _ _
    · split <;> exact List.cons_ne_nil _ _

theorem addRules_ne_nil {given rules : List FilterRule} (h : given ≠ []) :
    addRules given rules ≠ [] := by
  obtain rfl | ⟨earlier, last, rfl⟩ := given.eq_nil_or_concat
  · exact absurd rfl h
  · rw [addRules, List.concat_eq_append, List.foldl_append]
    exact addRule_ne_nil last _

/-- The rule found in a filter is the one that prevails among the rules added. -/
theorem find?_addRules (hscope : ∀ a b : FilterRule, a.sameScope b → cares a = cares b)
    {given : List FilterRule} {r : FilterRule} (h : Prevails cares given r) :
    (addRules given []).find? cares = some r := by
  obtain ⟨hcares, earlier, later, rfl, hearlier, hlater⟩ := h
  have hordered : Ordered (addRules earlier []) := Ordered.addRules List.Pairwise.nil earlier
  have hfound : (addRule r (addRules earlier [])).find? cares = some r :=
    find?_addRule_self hcares fun x hx => hearlier x ((mem_addRules hx).resolve_right (by simp))
  -- the rest keeps it, rule by rule
  have keep : ∀ (later rules : List FilterRule), Ordered rules → rules.find? cares = some r →
      (∀ x ∈ later, cares x → r.before x) → (addRules later rules).find? cares = some r := by
    intro later
    induction later with
    | nil => exact fun _ _ hfound _ => hfound
    | cons x later ih =>
      intro rules hordered hfound hlater
      exact ih _ (hordered.addRule x)
        (find?_addRule_of_before hscope hordered hfound (hlater x List.mem_cons_self))
        fun y hy => hlater y (List.mem_cons_of_mem x hy)
  rw [addRules, List.foldl_append, List.foldl_cons]
  exact keep later _ (hordered.addRule r) hfound hlater

end LogFilter

/-- If a rule applies, one prevails. -/
theorem exists_prevails {cares : FilterRule → Bool} {given : List FilterRule}
    (h : ∃ x ∈ given, cares x) : ∃ r, Prevails cares given r := by
  induction given with
  | nil => simp at h
  | cons x given ih =>
    by_cases hrest : ∃ y ∈ given, cares y
    · obtain ⟨r, hr, earlier, later, rfl, hearlier, hlater⟩ := ih hrest
      by_cases hx : cares x ∧ x.before r
      · -- the rules behind `r` come after it, and those in front of it not before it
        refine ⟨x, hx.1, [], _, rfl, by simp, fun y hy hcares => ?_⟩
        have hle : y.specificity ≤ r.specificity := by
          rcases List.mem_append.mp hy with hy | hy
          · exact not_lt.mp fun hlt => hearlier y hy hcares (before_iff.mpr hlt)
          · rcases List.mem_cons.mp hy with rfl | hy
            · exact le_rfl
            · exact (before_iff.mp (hlater y hy hcares)).le
        exact before_iff.mpr (hle.trans_lt (before_iff.mp hx.2))
      · refine ⟨r, hr, x :: earlier, later, rfl, fun y hy hcares hbefore => ?_, hlater⟩
        rcases List.mem_cons.mp hy with rfl | hy
        · exact hx ⟨hcares, hbefore⟩
        · exact hearlier y hy hcares hbefore
    · obtain ⟨y, hy, hcares⟩ := h
      rcases List.mem_cons.mp hy with rfl | hy
      · exact ⟨y, hcares, [], given, rfl, by simp, fun z hz hz' => absurd ⟨z, hz, hz'⟩ hrest⟩
      · exact absurd ⟨y, hy, hcares⟩ hrest

namespace FilterRule

def names (target : String) (r : FilterRule) : Bool := r.target = some target

theorem isSome_after? {expected cs : List Char} :
    (Scan.after? expected cs).isSome ↔ expected <+: cs := by
  induction expected generalizing cs with
  | nil => simp [Scan.after?]
  | cons e expected ih =>
    cases cs with
    | nil => simp [Scan.after?]
    | cons c cs =>
      rw [Scan.after?, List.cons_prefix_cons]
      split
      · rename_i h
        simp [h, ih]
      · rename_i h
        simp [h]

theorem caresAbout_of_names {target : String} {r : FilterRule} (h : r.names target) :
    r.caresAbout target none := by
  have htarget : r.target = some target := of_decide_eq_true h
  simp [caresAbout, htarget, Scan.afterText?, isSome_after?]

/-- A rule that applies to a target without naming it has a shorter target. -/
theorem rank_lt_of_caresAbout {target : String} {r named : FilterRule} (hnamed : named.names target)
    (hcares : r.caresAbout target none) (hr : ¬ r.names target) :
    r.targetRank < named.targetRank := by
  have htarget : named.target = some target := of_decide_eq_true hnamed
  cases hstart : r.target with
  | none => simp [targetRank, htarget, hstart]
  | some start =>
    simp only [caresAbout, hstart, Scan.afterText?, Bool.and_true, isSome_after?] at hcares
    obtain ⟨rest, hrest⟩ := hcares
    have hsplit : target = start ++ String.ofList rest := by
      rw [← String.toList_inj, String.toList_append, String.toList_ofList, hrest]
    have hpos : String.ofList rest ≠ "" := by
      intro hempty
      rw [hempty, String.append_empty] at hsplit
      exact hr (by simp [names, hstart, hsplit])
    have := mt String.utf8ByteSize_eq_zero_iff.mp hpos
    simp only [targetRank, htarget, hstart, hsplit, String.utf8ByteSize_append]
    omega

theorem before_of_rank_lt {a b : FilterRule} (h : b.targetRank < a.targetRank) : a.before b :=
  before_iff.mpr (Prod.Lex.toLex_lt_toLex.mpr (.inl h))

/-- Fields make a rule for a target more specific. -/
theorem not_before_of_fields_nil {target : String} {a b : FilterRule} (ha : a.names target)
    (hb : b.names target) (hfields : a.fields = []) : ¬ a.before b := by
  have htarget : a.target = b.target := (of_decide_eq_true ha).trans (of_decide_eq_true hb).symm
  simp [before, targetRank, htarget, hfields]

end FilterRule

namespace Prevails

variable {target : String} {given : List FilterRule} {r : FilterRule}

theorem mem {cares : FilterRule → Bool} (h : Prevails cares given r) : r ∈ given := by
  obtain ⟨-, earlier, later, rfl, -⟩ := h
  exact List.mem_append_right _ List.mem_cons_self

/-- For a target that some rule names, the prevailing rule names it. -/
theorem caresAbout (h : Prevails (names target) given r) :
    Prevails (·.caresAbout target none) given r := by
  obtain ⟨hr, earlier, later, hgiven, hearlier, hlater⟩ := h
  have behind : ∀ x : FilterRule, x.caresAbout target none → ¬ x.names target → r.before x :=
    fun x hcares hx => before_of_rank_lt (rank_lt_of_caresAbout hr hcares hx)
  refine ⟨caresAbout_of_names hr, earlier, later, hgiven, fun x hx hcares => ?_,
    fun x hx hcares => ?_⟩
  · by_cases hnames : x.names target
    · exact hearlier x hx hnames
    · have := before_iff.mp (behind x hcares hnames)
      exact fun h => lt_asymm this (before_iff.mp h)
  · by_cases hnames : x.names target
    · exact hlater x hx hnames
    · exact behind x hcares hnames

theorem append_left {plain added : List FilterRule} (h : Prevails (names target) added r)
    (hplain : ∀ x ∈ plain, x.fields = []) : Prevails (names target) (plain ++ added) r := by
  obtain ⟨hr, earlier, later, rfl, hearlier, hlater⟩ := h
  refine ⟨hr, plain ++ earlier, later, by simp, fun x hx hnames => ?_, hlater⟩
  rcases List.mem_append.mp hx with hx | hx
  · exact not_before_of_fields_nil hnames hr (hplain x hx)
  · exact hearlier x hx hnames

theorem append_right {added : List FilterRule} (h : Prevails (names target) given r)
    (hadded : ∀ x ∈ added, ¬ x.names target) : Prevails (names target) (given ++ added) r := by
  obtain ⟨hr, earlier, later, rfl, hearlier, hlater⟩ := h
  refine ⟨hr, earlier, later ++ added, by simp, hearlier, fun x hx hnames => ?_⟩
  rcases List.mem_append.mp hx with hx | hx
  · exact hlater x hx hnames
  · exact absurd hnames (hadded x hx)

theorem of_last {earlier later : List FilterRule} (hr : r.names target)
    (hplain : ∀ x ∈ earlier, x.fields = []) (hlater : ∀ x ∈ later, ¬ x.names target) :
    Prevails (names target) (earlier ++ r :: later) r :=
  ⟨hr, earlier, later, rfl, fun x hx hnames => not_before_of_fields_nil hnames hr (hplain x hx),
    fun x hx hnames => absurd hnames (hlater x hx)⟩

end Prevails

namespace Level

theorem le_max_left (a b : Level) : a.verbosity ≤ (a.max b).verbosity := by
  rw [Level.max]
  split <;> omega

theorem le_max_right (a b : Level) : b.verbosity ≤ (a.max b).verbosity := by
  rw [Level.max]
  split <;> omega

theorem max_le_max {a a' b b' : Level} (ha : a.verbosity ≤ a'.verbosity)
    (hb : b.verbosity ≤ b'.verbosity) : (a.max b).verbosity ≤ (a'.max b').verbosity := by
  simp only [Level.max]
  split <;> split <;> omega

theorem le_trace (l : Level) : l.verbosity ≤ trace.verbosity := by cases l <;> decide

end Level

namespace LogFilter

/-- A named target has the level of the prevailing rule. -/
theorem level_of_prevails {f : LogFilter} {given : List FilterRule} {r : FilterRule}
    {target : String} (hrules : f.rules = addRules given [])
    (h : Prevails (names target) given r) : f.level target none = r.level := by
  have hfound : f.rules.find? (·.caresAbout target none) = some r := by
    rw [hrules]
    exact find?_addRules (fun a b hsame => caresAbout_congr hsame target none) h.caresAbout
  rw [level, hfound]

def addAll (f : LogFilter) (ds : List Directive) : LogFilter := ds.foldl add f

theorem rules_add (f : LogFilter) (d : Directive) :
    (f.add d).rules = addRules (ofDirective? d).toList f.rules := by
  rw [add]
  cases ofDirective? d <;> rfl

theorem rules_addAll (f : LogFilter) (ds : List Directive) :
    (f.addAll ds).rules = addRules (ds.filterMap ofDirective?) f.rules := by
  induction ds generalizing f with
  | nil => rfl
  | cons d ds ih =>
    rw [addAll, List.foldl_cons, ← addAll, ih, rules_add]
    cases hd : ofDirective? d <;> simp [addRules, hd]

theorem target_of_ofDirective? {d : Directive} {r : FilterRule} (h : ofDirective? d = some r) :
    r.target = d.target := by
  rw [ofDirective?] at h
  split at h
  · cases h
    rfl
  · cases h

/-- A directive adds a rule, or one that depends on the spans around an event. -/
theorem add_cases (f : LogFilter) (d : Directive) :
    (d.isStatic ∧ ∃ r, r.level = d.level ∧ f.add d = f.withRule r) ∨
      (d.isStatic = false ∧ f.add d = f.withDynamic d) := by
  simp only [add, ofDirective?]
  cases hstatic : d.isStatic with
  | true => exact .inl ⟨rfl, ⟨d.target, d.fields.map (·.name), d.level⟩, rfl, rfl⟩
  | false => exact .inr ⟨rfl, rfl⟩

theorem hasDynamic_addAll (f : LogFilter) (ds : List Directive) :
    (f.addAll ds).hasDynamic = (f.hasDynamic || ds.any (!·.isStatic)) := by
  induction ds generalizing f with
  | nil => simp [addAll]
  | cons d ds ih =>
    rw [addAll, List.foldl_cons, ← addAll, ih]
    obtain ⟨hstatic, r, -, hadd⟩ | ⟨hstatic, hadd⟩ := add_cases f d
    · simp [hadd, withRule, hstatic]
    · simp [hadd, withDynamic, hstatic]

theorem highest_mono {f g : LogFilter} (hreads : f.readsValues → g.readsValues)
    (hrules : f.ceiling.verbosity ≤ g.ceiling.verbosity)
    (hdynamic : f.dynamicCeiling.verbosity ≤ g.dynamicCeiling.verbosity) :
    f.highest.verbosity ≤ g.highest.verbosity := by
  rw [highest, highest]
  cases hg : g.readsValues with
  | true => exact Level.le_trace _
  | false =>
    rw [if_neg (fun hf => by simp [hreads hf] at hg)]
    exact Level.max_le_max hrules hdynamic

theorem le_highest {f : LogFilter} {l : Level} (h : l.verbosity ≤ f.ceiling.verbosity ∨
    l.verbosity ≤ f.dynamicCeiling.verbosity) : l.verbosity ≤ f.highest.verbosity := by
  rw [highest]
  split
  · exact l.le_trace
  · rcases h with h | h
    · exact h.trans (Level.le_max_left _ _)
    · exact h.trans (Level.le_max_right _ _)

theorem le_highest_add (f : LogFilter) (d : Directive) :
    f.highest.verbosity ≤ (f.add d).highest.verbosity ∧
      d.level.verbosity ≤ (f.add d).highest.verbosity := by
  obtain ⟨-, r, hlevel, hadd⟩ | ⟨-, hadd⟩ := add_cases f d
  · rw [hadd, ← hlevel]
    exact ⟨highest_mono id (Level.le_max_left _ _) le_rfl,
      le_highest (.inl (Level.le_max_right _ _))⟩
  · rw [hadd]
    exact ⟨highest_mono (fun h => by simp [withDynamic, h]) le_rfl (Level.le_max_left _ _),
      le_highest (.inr (Level.le_max_right _ _))⟩

/-- The highest level does not decrease, and is at least that of every added directive. -/
theorem le_highest_addAll (f : LogFilter) (ds : List Directive) :
    f.highest.verbosity ≤ (f.addAll ds).highest.verbosity ∧
      ∀ d ∈ ds, d.level.verbosity ≤ (f.addAll ds).highest.verbosity := by
  induction ds generalizing f with
  | nil => exact ⟨le_rfl, by simp⟩
  | cons d ds ih =>
    obtain ⟨hkept, hrest⟩ := ih (f.add d)
    obtain ⟨hf, hd⟩ := le_highest_add f d
    exact ⟨hf.trans hkept, List.forall_mem_cons.mpr ⟨hd.trans hkept, hrest⟩⟩

end LogFilter

end RankTrace
