import Mathlib.Data.String.Basic
import RankTrace.Logging.Setup

/-!
# Plain directives

A directive that only has a target and a level, and the text in which it is written, as in
`target=level`. Such a text is read back as what it says (`PlainDirective.parse_text`), and so is a
variable that holds several of them (`readDirectives_texts`).
-/

namespace RankTrace

namespace Scan

theorem trim_eq_self {first last : Char} {cs middle : List Char} (hcs : cs = first :: middle)
    (hlast : cs.getLast? = some last) (hfirst : isBlank first = false)
    (hend : isBlank last = false) : trim cs = cs := by
  have hfront : cs.dropWhile isBlank = cs := by
    rw [hcs, List.dropWhile_cons_of_neg (by simp [hfirst])]
  have hback : cs.reverse.dropWhile isBlank = cs.reverse := by
    obtain ⟨init, rfl⟩ := List.getLast?_eq_some_iff.mp hlast
    rw [List.reverse_append, List.reverse_singleton, List.singleton_append,
      List.dropWhile_cons_of_neg (by simp [hend])]
  rw [trim, hfront, hback, List.reverse_reverse]

def blankCodes : List Nat :=
  [0x9, 0xa, 0xb, 0xc, 0xd, 0x20, 0x85, 0xa0, 0x1680, 0x2000, 0x2001, 0x2002, 0x2003, 0x2004,
    0x2005, 0x2006, 0x2007, 0x2008, 0x2009, 0x200a, 0x2028, 0x2029, 0x202f, 0x205f, 0x3000]

theorem mem_blankCodes {c : Char} (h : isBlank c) : c.toNat ∈ blankCodes := by
  simp only [isBlank, Bool.or_eq_true, Bool.and_eq_true, decide_eq_true_eq] at h
  simp only [blankCodes, List.mem_cons, List.not_mem_nil, or_false]
  omega

theorem not_isBlank_of {p : Char → Bool} (hp : blankCodes.all fun n => !p (Char.ofNat n))
    {c : Char} (h : p c) : isBlank c = false := by
  rw [Bool.eq_false_iff]
  intro hblank
  have := List.all_eq_true.mp hp c.toNat (mem_blankCodes hblank)
  rw [Char.ofNat_toNat, h] at this
  cases this

end Scan

namespace Directive

open String (utf8Len)

/-- No directive begins with a blank. -/
theorem not_isBlank_of_canStart {c : Char} (h : canStart c) : Scan.isBlank c = false :=
  Scan.not_isBlank_of (by decide +kernel) h

theorem takeBytes_append (cs rest : List Char) :
    takeBytes (utf8Len cs) (cs ++ rest) = cs := by
  induction cs with
  | nil => simp [takeBytes]
  | cons c cs ih =>
    obtain ⟨n, hn⟩ := Nat.exists_eq_add_of_lt c.utf8Size_pos
    have hlen : utf8Len (c :: cs) = (utf8Len cs + n) + 1 := by simp [String.utf8Len]; omega
    rw [hlen, List.cons_append, takeBytes]
    have : utf8Len cs + n + 1 - c.utf8Size = utf8Len cs := by omega
    rw [this, ih]

theorem dropBytes_append (cs rest : List Char) :
    dropBytes (utf8Len cs) (cs ++ rest) = rest := by
  induction cs with
  | nil => simp [dropBytes]
  | cons c cs ih =>
    obtain ⟨n, hn⟩ := Nat.exists_eq_add_of_lt c.utf8Size_pos
    have hlen : utf8Len (c :: cs) = (utf8Len cs + n) + 1 := by simp [String.utf8Len]; omega
    rw [hlen, List.cons_append, dropBytes]
    have : utf8Len cs + n + 1 - c.utf8Size = utf8Len cs := by omega
    rw [this, ih]

def isTargetChar (c : Char) : Bool := c ≠ '=' && c ≠ '[' && c ≠ ','

theorem steps_target {text cs rest : List Char} {i since : Nat} {d : Directive}
    (h : ∀ c ∈ cs, isTargetChar c) :
    steps text i (cs ++ rest) (.levelOrTarget since) d =
      steps text (i + utf8Len cs) rest (.levelOrTarget since) d := by
  induction cs generalizing i with
  | nil => simp
  | cons c cs ih =>
    obtain ⟨hc, hcs⟩ := List.forall_mem_cons.mp h
    simp only [isTargetChar, Bool.and_eq_true, decide_eq_true_eq, ne_eq] at hc
    have hstep : step text i c d (.levelOrTarget since) = .ok (.levelOrTarget since, d) := by
      simp [step, hc]
    rw [List.cons_append, steps, hstep]
    simp only [Except.bind, bind]
    rw [ih hcs, String.utf8Len, Nat.add_assoc, Nat.add_comm c.utf8Size]

theorem steps_level {text cs : List Char} {i since : Nat} {d : Directive} (h : ',' ∉ cs) :
    steps text i cs (.level since) d = .ok (.level since, d) := by
  induction cs generalizing i with
  | nil => rfl
  | cons c cs ih =>
    have hc : c ≠ ',' := fun hc => h (hc ▸ List.mem_cons_self)
    have hstep : step text i c d (.level since) = .ok (.level since, d) := by simp [step, hc]
    rw [steps, hstep]
    simp only [Except.bind, bind]
    exact ih fun hcs => h (List.mem_cons_of_mem c hcs)

theorem steps_plain {target word : List Char} (hbegins : target.head?.any canStart)
    (hinside : ∀ c ∈ target, isTargetChar c) (hcomma : ',' ∉ word) :
    steps (target ++ '=' :: word) 0 (target ++ '=' :: word) .start {} =
      .ok (.level (utf8Len target + 1), { target := some (String.ofList target) }) := by
  cases target with
  | nil => simp at hbegins
  | cons first rest =>
    obtain ⟨hfirst, hrest⟩ := List.forall_mem_cons.mp hinside
    generalize htext : first :: rest ++ '=' :: word = text
    have hstart : step text 0 first {} .start = .ok (.levelOrTarget 0, {}) := by
      simp only [isTargetChar, Bool.and_eq_true, decide_eq_true_eq, ne_eq] at hfirst
      simp only [List.head?_cons, Option.any_some] at hbegins
      simp [step, hbegins, hfirst]
    have hslice : slice text 0 (utf8Len (first :: rest)) = first :: rest := by
      rw [slice, dropBytes, Nat.sub_zero, ← htext]
      exact takeBytes_append _ _
    have hsign : step text (utf8Len (first :: rest)) '=' {} (.levelOrTarget 0) =
        .ok (.level (utf8Len (first :: rest) + 1),
          { target := some (String.ofList (first :: rest)) }) := by
      rw [step, if_pos rfl, hslice]
    have hplace : 0 + first.utf8Size + utf8Len rest = utf8Len (first :: rest) := by
      rw [utf8Len]
      omega
    conv_lhs => rw [← htext, List.cons_append, steps, ← List.cons_append, htext, hstart]
    simp only [Except.bind, bind]
    rw [steps_target hrest, hplace, steps, hsign]
    simp only [Except.bind, bind]
    exact steps_level hcomma

theorem dropBytes_plain (target word : List Char) :
    dropBytes (utf8Len target + 1) (target ++ '=' :: word) = word := by
  have hlen : utf8Len target + 1 = utf8Len (target ++ ['=']) := by
    rw [String.utf8Len_append]
    rfl
  rw [hlen, List.append_cons target '=' word]
  exact dropBytes_append _ _

end Directive

namespace Level

theorem isDigit_of_unsigned? {text : List Char} {n : Nat} (h : Scan.unsigned? text = some n) :
    ∀ c ∈ text, c.isDigit ∨ c = '+' := by
  have digits : ∀ {cs : List Char}, Scan.natural? cs = some n → ∀ c ∈ cs, c.isDigit := by
    intro cs hcs
    rw [Scan.natural?] at hcs
    split at hcs
    · cases hcs
    · rename_i hall
      simp only [Bool.or_eq_true, Bool.not_eq_true', not_or, Bool.not_eq_false] at hall
      exact List.all_eq_true.mp hall.2
  intro c hc
  unfold Scan.unsigned? at h
  split at h
  · rcases List.mem_cons.mp hc with rfl | hc
    · exact .inr rfl
    · exact .inl (digits h c hc)
  · exact .inl (digits h c hc)

theorem isAlpha_of_toLower {c : Char} (h : c.toLower.isAlpha) : c.isAlpha := by
  by_cases hupper : c.isUpper = true
  · show (c.isUpper || c.isLower) = true
    rw [hupper, Bool.true_or]
  · have hsame : c.toLower = c := dif_neg fun hrange => hupper (decide_eq_true hrange)
    rwa [hsame] at h

/-- A level is written in letters or digits, with an optional sign. -/
theorem isAlphanum_of_parse? {text : List Char} {level : Level} (h : parse? text = some level) :
    ∀ c ∈ text, c.isAlphanum ∨ c = '+' := by
  intro c hc
  rw [parse?] at h
  split at h
  · rename_i hnumber
    obtain ⟨n, hn, -⟩ := Option.bind_eq_some_iff.mp hnumber
    exact (isDigit_of_unsigned? hn c hc).imp (fun h => by simp [Char.isAlphanum, h]) id
  · split at h
    · rename_i hempty
      simp [List.isEmpty_iff.mp hempty] at hc
    · have hname : level.name.toList = text.map Char.toLower := by
        simpa using List.find?_some h
      have hletters : ∀ l : Level, l.name.toList.all Char.isAlpha := by
        intro l
        cases l <;> decide
      have halpha : c.toLower.isAlpha :=
        List.all_eq_true.mp (hletters level) c.toLower (hname ▸ List.mem_map_of_mem hc)
      exact .inl (by simp [Char.isAlphanum, isAlpha_of_toLower halpha])

theorem not_isBlank_of_parse? {text : List Char} {level : Level} (h : parse? text = some level) :
    ∀ c ∈ text, Scan.isBlank c = false ∧ c ≠ ',' := by
  intro c hc
  rcases isAlphanum_of_parse? h c hc with h | rfl
  · refine ⟨Scan.not_isBlank_of (by decide) h, ?_⟩
    rintro rfl
    exact absurd h (by decide)
  · decide

end Level

/-- A target with the level up to which its events pass, and the word for the level. -/
structure PlainDirective where
  target : String
  word : String
  level : Level
  begins : target.toList.head?.any Directive.canStart
  inside : target.toList.all Directive.isTargetChar
  spelled : word ≠ ""
  reads : Level.parse? word.toList = some level

namespace PlainDirective

def text (p : PlainDirective) : String := s!"{p.target}={p.word}"

def directive (p : PlainDirective) : Directive := { level := p.level, target := some p.target }

theorem toList_text (p : PlainDirective) :
    p.text.toList = p.target.toList ++ '=' :: p.word.toList := by
  simp [text, toString]

theorem exists_toList_target (p : PlainDirective) :
    ∃ first rest, p.target.toList = first :: rest ∧ Directive.canStart first := by
  have := p.begins
  cases htarget : p.target.toList with
  | nil => simp [htarget] at this
  | cons first rest => exact ⟨first, rest, rfl, by simpa [htarget] using this⟩

theorem trim_text (p : PlainDirective) : Scan.trim p.text.toList = p.text.toList := by
  obtain ⟨first, rest, htarget, hfirst⟩ := p.exists_toList_target
  obtain ⟨last, hlast⟩ : ∃ last, p.word.toList.getLast? = some last :=
    Option.ne_none_iff_exists'.mp (by simpa using p.spelled)
  have hfront : p.text.toList = first :: (rest ++ '=' :: p.word.toList) := by
    rw [p.toList_text, htarget, List.cons_append]
  have hback : p.text.toList.getLast? = some last := by
    rw [p.toList_text, List.getLast?_append, List.getLast?_cons, hlast]
    rfl
  exact Scan.trim_eq_self hfront hback (Directive.not_isBlank_of_canStart hfirst)
    (Level.not_isBlank_of_parse? p.reads last (List.mem_of_getLast? hlast)).1

theorem parse_text (p : PlainDirective) : Directive.parse p.text = .ok p.directive := by
  have hcomma : ',' ∉ p.word.toList :=
    fun h => (Level.not_isBlank_of_parse? p.reads ',' h).2 rfl
  have hword : p.word.toList.isEmpty = false := by simpa using p.spelled
  rw [Directive.parse, Directive.parseChars, p.trim_text, p.toList_text,
    Directive.steps_plain p.begins (List.all_eq_true.mp p.inside) hcomma]
  simp only [Except.bind, bind]
  rw [Directive.withLevel, Directive.dropBytes_plain, hword, p.reads, String.ofList_toList]
  rfl

/-- The text of a directive has no comma. -/
theorem not_mem_text (p : PlainDirective) : ',' ∉ p.text.toList := by
  rw [p.toList_text, List.mem_append, List.mem_cons]
  rintro (h | h | h)
  · simpa [Directive.isTargetChar] using List.all_eq_true.mp p.inside ',' h
  · cases h
  · exact (Level.not_isBlank_of_parse? p.reads ',' h).2 rfl

def joined (ps : List PlainDirective) : String := ",".intercalate (ps.map text)

theorem text_ne_empty (p : PlainDirective) : p.text ≠ "" := by
  intro h
  have := congrArg String.toList h
  rw [p.toList_text] at this
  simp at this

theorem directiveTexts_joined (ps : List PlainDirective) :
    LogSetup.directiveTexts (joined ps) = ps.map text := by
  have hcomma : ∀ s ∈ ps.map text, ',' ∉ s.toList := by
    intro s hs
    obtain ⟨p, -, rfl⟩ := List.mem_map.mp hs
    exact p.not_mem_text
  have hsplit := String.toList_split_intercalate hcomma
  rw [LogSetup.directiveTexts, joined]
  change ((String.singleton ',').intercalate _ |>.split ',' |>.toList.map (·.copy)).filter _ = _
  rw [hsplit]
  split
  · rename_i hnone
    rw [hnone]
    rfl
  · refine List.filter_eq_self.mpr fun s hs => ?_
    obtain ⟨p, -, rfl⟩ := List.mem_map.mp hs
    simpa using p.text_ne_empty

/-- A variable with plain directives is read as these, without a complaint. -/
theorem readDirectives_texts (ps : List PlainDirective) :
    LogSetup.readDirectives (ps.map text) = (ps.map directive, []) := by
  induction ps with
  | nil => rfl
  | cons p ps ih => simp only [List.map_cons, LogSetup.readDirectives, ih, p.parse_text]

end PlainDirective

end RankTrace
