import RankTrace.Proofs.Dump.Scalars

/-!
# JSON dumps read back

The text of a tree without floats is JSON, and the tree that it spells is the one it was written
for. Lists and dictionaries are alike: parts with commas between them, up to a closing mark.
-/

namespace RankTrace.Json

variable {rest : List Char}

def rowText (row : String × Value) : List Char := quote row.1 ++ ':' :: write row.2 []

mutual

theorem write_append (v : Value) (rest : List Char) : write v rest = write v [] ++ rest := by
  cases v with
  | list items =>
    rw [write, write, writeItems_append true items (']' :: rest),
      writeItems_append true items [']']]
    simp
  | dict fields =>
    rw [write, write, writeFields_append true fields ('\x7d' :: rest),
      writeFields_append true fields ['\x7d']]
    simp
  | null | bool | int | float | str => simp only [write, List.append_nil]

theorem writeItems_append (first : Bool) (items : List Value) (rest : List Char) :
    writeItems first items rest = writeItems first items [] ++ rest := by
  cases items with
  | nil => rfl
  | cons item items =>
    rw [writeItems, writeItems, write_append item, write_append item (writeItems false items []),
      writeItems_append false items rest]
    cases first <;> simp

theorem writeFields_append (first : Bool) (fields : List (String × Value)) (rest : List Char) :
    writeFields first fields rest = writeFields first fields [] ++ rest := by
  cases fields with
  | nil => rfl
  | cons row fields =>
    obtain ⟨key, v⟩ := row
    rw [writeFields, writeFields, write_append v, write_append v (writeFields false fields []),
      writeFields_append false fields rest]
    cases first <;> simp

end

def joined {α : Type} (text : α → List Char) : List α → List Char
  | [] => []
  | part :: parts => text part ++ parts.flatMap fun part => ',' :: text part

theorem writeItems_false (items : List Value) :
    writeItems false items [] = items.flatMap fun v => ',' :: write v [] := by
  induction items with
  | nil => rfl
  | cons item items ih =>
    rw [writeItems, write_append item, ih]
    rfl

theorem writeFields_false (fields : List (String × Value)) :
    writeFields false fields [] = fields.flatMap fun row => ',' :: rowText row := by
  induction fields with
  | nil => rfl
  | cons row fields ih =>
    obtain ⟨key, v⟩ := row
    rw [writeFields, write_append v, ih, List.flatMap_cons, rowText]
    simp

theorem write_int (i : Int64) : write (.int i) [] = (toString i.toInt).toList := by
  simp only [write, scalarText, List.append_nil]

theorem write_str (s : String) : write (.str s) [] = quote s := by
  simp only [write, scalarText, List.append_nil]

theorem write_list (items : List Value) :
    write (.list items) [] = '[' :: (joined (write · []) items ++ [']']) := by
  rw [write, writeItems_append]
  cases items with
  | nil => rfl
  | cons item items =>
    rw [writeItems, write_append item, writeItems_false]
    rfl

theorem write_dict (fields : List (String × Value)) :
    write (.dict fields) [] = '\x7b' :: (joined rowText fields ++ ['\x7d']) := by
  rw [write, writeFields_append]
  cases fields with
  | nil => rfl
  | cons row fields =>
    obtain ⟨key, v⟩ := row
    rw [writeFields, write_append v, writeFields_false, joined, rowText]
    simp

theorem skipBlanks_cons {c : Char} (h : isBlank c = false) (cs : List Char) :
    skipBlanks (c :: cs) = c :: cs := by
  simp [skipBlanks, h]

theorem ends_cons {c : Char} (h : c = ',' ∨ c = ']' ∨ c = '\x7d') (cs : List Char) :
    Ends (c :: cs) := by
  intro d hd
  obtain rfl : c = d := by simpa using hd
  rcases h with rfl | rfl | rfl <;> decide

def Begins (cs : List Char) : Prop :=
  ∃ c rest, cs = c :: rest ∧ isBlank c = false ∧ c ≠ ']' ∧ c ≠ '\x7d'

section Parts

variable {α : Type} {close : Char} {read : List Char → Option (α × List Char)}
  {text : α → List Char}

theorem length_le_commas (text : α → List Char) (parts : List α) :
    parts.length ≤ (parts.flatMap fun p => ',' :: text p).length := by
  induction parts with
  | nil => exact Nat.le_refl _
  | cons part parts ih =>
    rw [List.flatMap_cons, List.length_append, List.length_cons, List.length_cons]
    omega

theorem parts?_joined (hclose : close = ']' ∨ close = '\x7d') {part : α} {parts : List α}
    (hread : ∀ p ∈ part :: parts, ∀ rest, Ends rest → read (text p ++ rest) = some (p, rest))
    {limit : Nat} (hlimit : parts.length < limit) (rest : List Char) :
    parts? close read limit (joined text (part :: parts) ++ close :: rest) =
      some (part :: parts, rest) := by
  obtain ⟨limit, rfl⟩ : ∃ n, limit = n + 1 := ⟨limit - 1, by omega⟩
  induction parts generalizing part limit with
  | nil =>
    have hpart := hread part List.mem_cons_self (close :: rest) (ends_cons (.inr hclose) rest)
    have hmark : isBlank close = false ∧ close ≠ ',' := by
      rcases hclose with rfl | rfl <;> decide
    rw [joined, List.flatMap_nil, List.append_nil, parts?, hpart]
    simp only [Option.bind_eq_bind, Option.bind_some, skipBlanks_cons hmark.1, if_neg hmark.2,
      ↓reduceIte]
  | cons next parts ih =>
    rw [List.length_cons] at hlimit
    obtain ⟨limit, rfl⟩ : ∃ n, limit = n + 1 := ⟨limit - 1, by omega⟩
    have hnext := ih (fun p hp => hread p (List.mem_cons_of_mem part hp)) limit (by omega)
    have hpart := hread part List.mem_cons_self
      (',' :: (joined text (next :: parts) ++ close :: rest)) (ends_cons (.inl rfl) _)
    have htext : joined text (part :: next :: parts) ++ close :: rest =
        text part ++ ',' :: (joined text (next :: parts) ++ close :: rest) := by
      simp [joined]
    rw [htext, parts?, hpart]
    simp only [Option.bind_eq_bind, Option.bind_some, skipBlanks_cons (c := ',') rfl, ↓reduceIte,
      hnext, Option.pure_def]

theorem closed?_part {c : Char} {cs rest : List Char} (hcs : cs = c :: rest)
    (hblank : isBlank c = false) (hne : c ≠ close) :
    closed? close read cs = parts? close read cs.length cs := by
  have hskip : skipBlanks cs = c :: rest := by rw [hcs, skipBlanks_cons hblank]
  rw [closed?, hskip]
  exact if_neg hne

theorem closed?_joined (hclose : close = ']' ∨ close = '\x7d') {parts : List α}
    (hbegins : ∀ p ∈ parts, Begins (text p))
    (hread : ∀ p ∈ parts, ∀ rest, Ends rest → read (text p ++ rest) = some (p, rest))
    (rest : List Char) :
    closed? close read (joined text parts ++ close :: rest) = some (parts, rest) := by
  have hblank : isBlank close = false := by
    rcases hclose with rfl | rfl <;> decide
  cases parts with
  | nil =>
    rw [joined, List.nil_append, closed?, skipBlanks_cons hblank]
    exact if_pos rfl
  | cons part parts =>
    obtain ⟨c, cs, htext, hc, hlist, hdict⟩ := hbegins part List.mem_cons_self
    have hne : c ≠ close := by
      rcases hclose with rfl | rfl
      · exact hlist
      · exact hdict
    have hlimit : parts.length < (joined text (part :: parts) ++ close :: rest).length := by
      have hcommas := length_le_commas text parts
      rw [joined, List.length_append, List.length_append, List.length_cons]
      omega
    have hparts := parts?_joined hclose hread hlimit rest
    have hfront : joined text (part :: parts) ++ close :: rest =
        c :: (cs ++ parts.flatMap (fun p => ',' :: text p) ++ close :: rest) := by
      simp [joined, htext]
    rw [closed?_part hfront hc hne, hparts]

theorem length_le_joined (text : α → List Char) {part : α} {parts : List α} (h : part ∈ parts) :
    (text part).length ≤ (joined text parts).length := by
  cases parts with
  | nil => cases h
  | cons first parts =>
    rw [joined, List.length_append]
    rcases List.mem_cons.mp h with rfl | h
    · omega
    · have hsub : (',' :: text part).Sublist (parts.flatMap fun p => ',' :: text p) :=
        List.sublist_flatten_of_mem (List.mem_map_of_mem h)
      have hle := hsub.length_le
      rw [List.length_cons] at hle
      omega

end Parts

theorem begins_quote (s : String) (rest : List Char) : Begins (quote s ++ rest) :=
  ⟨'"', s.toList.flatMap escape ++ ['"'] ++ rest, rfl, by decide, by decide, by decide⟩

theorem toString_cons (i : Int) :
    ∃ c cs, (toString i).toList = c :: cs ∧ (c = '-' ∨ c.isDigit = true) := by
  rw [Int.toString_eq_repr, Int.repr_eq_if]
  by_cases hi : 0 ≤ i
  · rw [if_pos hi, Nat.toList_repr]
    cases hdigits : Nat.toDigits 10 i.toNat with
    | nil => exact absurd hdigits Nat.toDigits_ne_nil
    | cons d ds =>
      refine ⟨d, ds, rfl, .inr ?_⟩
      exact Nat.isDigit_of_mem_toDigits (b := 10) (n := i.toNat) (by decide) (by decide)
        (by simp [hdigits])
  · rw [if_neg hi, String.toList_append]
    exact ⟨'-', _, rfl, .inl rfl⟩

theorem ne_of_isDigit {c d : Char} (hc : c = '-' ∨ c.isDigit = true) (hd : d.isDigit = false)
    (hminus : d ≠ '-') : c ≠ d := by
  rintro rfl
  rcases hc with rfl | hc
  · exact hminus rfl
  · rw [hd] at hc
    cases hc

theorem isBlank_of_isDigit {c : Char} (hc : c = '-' ∨ c.isDigit = true) : isBlank c = false := by
  have hspace : c ≠ ' ' := ne_of_isDigit hc rfl (by decide)
  have htab : c ≠ '\t' := ne_of_isDigit hc rfl (by decide)
  have hline : c ≠ '\n' := ne_of_isDigit hc rfl (by decide)
  have hreturn : c ≠ '\r' := ne_of_isDigit hc rfl (by decide)
  simp [isBlank, hspace, htab, hline, hreturn]

theorem tree?_number {c : Char} (hc : c = '-' ∨ c.isDigit = true) (limit : Nat) (cs : List Char) :
    tree? (limit + 1) (c :: cs) = number? (c :: cs) := by
  have hlist : c ≠ '[' := ne_of_isDigit hc rfl (by decide)
  have hdict : c ≠ '\x7b' := ne_of_isDigit hc rfl (by decide)
  have hquote : c ≠ '"' := ne_of_isDigit hc rfl (by decide)
  have hnull : 'n' ≠ c := (ne_of_isDigit hc rfl (by decide)).symm
  have htrue : 't' ≠ c := (ne_of_isDigit hc rfl (by decide)).symm
  have hfalse : 'f' ≠ c := (ne_of_isDigit hc rfl (by decide)).symm
  have hword : word? (c :: cs) = none := by
    simp [word?, Scan.after?, hnull, htrue, hfalse]
  rw [tree?, skipBlanks_cons (isBlank_of_isDigit hc)]
  split
  · next h => exact absurd (List.cons.inj h).1 hlist
  · next h => exact absurd (List.cons.inj h).1 hdict
  · next h => exact absurd (List.cons.inj h).1 hquote
  · rw [hword]
    rfl

theorem begins_write (v : Value) (hv : ∀ f, v ≠ .float f) : Begins (write v []) := by
  cases v with
  | null => exact ⟨'n', _, rfl, by decide, by decide, by decide⟩
  | bool b =>
    cases b with
    | false => exact ⟨'f', _, rfl, by decide, by decide, by decide⟩
    | true => exact ⟨'t', _, rfl, by decide, by decide, by decide⟩
  | int i =>
    obtain ⟨c, cs, htext, hc⟩ := toString_cons i.toInt
    refine ⟨c, cs, ?_, isBlank_of_isDigit hc, ?_, ?_⟩
    · rw [write_int, htext]
    · exact ne_of_isDigit hc rfl (by decide)
    · exact ne_of_isDigit hc rfl (by decide)
  | float f => exact absurd rfl (hv f)
  | str s => exact begins_quote s []
  | list items => exact ⟨'[', _, rfl, by decide, by decide, by decide⟩
  | dict fields => exact ⟨'\x7b', _, rfl, by decide, by decide, by decide⟩

inductive FloatFree : Value → Prop
  | null : FloatFree .null
  | bool (b : Bool) : FloatFree (.bool b)
  | int (i : Int64) : FloatFree (.int i)
  | str (s : String) : FloatFree (.str s)
  | list {items : List Value} (hitems : ∀ v ∈ items, FloatFree v) : FloatFree (.list items)
  | dict {fields : List (String × Value)} (hfields : ∀ row ∈ fields, FloatFree row.2) :
    FloatFree (.dict fields)

theorem FloatFree.begins {v : Value} (hv : FloatFree v) : Begins (write v []) := by
  apply begins_write
  rintro f rfl
  cases hv

theorem quote_append (s : String) (rest : List Char) :
    quote s ++ rest = '"' :: (s.toList.flatMap escape ++ '"' :: rest) := by
  simp [quote]

theorem row?_rowText {read : List Char → Option (Value × List Char)} {row : String × Value}
    (hread : ∀ rest, Ends rest → read (write row.2 [] ++ rest) = some (row.2, rest))
    (hrest : Ends rest) : row? read (rowText row ++ rest) = some (row, rest) := by
  obtain ⟨key, v⟩ := row
  have htext : rowText (key, v) ++ rest =
      '"' :: (key.toList.flatMap escape ++ '"' :: ':' :: (write v [] ++ rest)) := by
    simp [rowText, quote]
  rw [htext, row?, skipBlanks_cons rfl]
  simp only [string?_quote, Option.bind_eq_bind, Option.bind_some, skipBlanks_cons (c := ':') rfl,
    hread rest hrest, Option.pure_def]

/-- The induction is on the tree, for all limits that the length of its text allows: the parts of a
list or a dictionary have shorter texts than all of it. -/
theorem tree?_write {v : Value} (hv : FloatFree v) {limit : Nat}
    (hlimit : (write v []).length < limit) (hrest : Ends rest) :
    tree? limit (write v [] ++ rest) = some (v, rest) := by
  obtain ⟨limit, rfl⟩ : ∃ n, limit = n + 1 := ⟨limit - 1, by omega⟩
  induction hv generalizing rest limit with
  | null => rfl
  | bool b =>
    cases b with
    | false => rfl
    | true => rfl
  | int i =>
    obtain ⟨c, cs, htext, hc⟩ := toString_cons i.toInt
    have hnumber := number?_toString i hrest
    rw [htext] at hnumber
    rw [write_int, htext, List.cons_append, tree?_number hc]
    exact hnumber
  | str s =>
    rw [write_str, quote_append, tree?, skipBlanks_cons rfl]
    simp only [string?_quote, Option.map_some]
  | @list items hitems ih =>
    have hread (v) (hv : v ∈ items) (rest) (hrest : Ends rest) :
        tree? limit (write v [] ++ rest) = some (v, rest) := by
      have hle := length_le_joined (write · []) hv
      rw [write_list, List.length_cons, List.length_append] at hlimit
      obtain ⟨limit, rfl⟩ : ∃ n, limit = n + 1 := ⟨limit - 1, by omega⟩
      exact ih v hv hrest limit (by omega)
    have hitems := closed?_joined (.inl rfl) (fun v hv => (hitems v hv).begins) hread rest
    rw [write_list, List.cons_append, List.append_assoc, tree?, skipBlanks_cons rfl]
    exact congrArg (Option.map fun read => (Value.list read.1, read.2)) hitems
  | @dict fields hfields ih =>
    have hread (row) (hrow : row ∈ fields) (rest) (hrest : Ends rest) :
        row? (tree? limit) (rowText row ++ rest) = some (row, rest) := by
      have hle := length_le_joined rowText hrow
      rw [write_dict, List.length_cons, List.length_append] at hlimit
      rw [rowText, List.length_append, List.length_cons] at hle
      obtain ⟨limit, rfl⟩ : ∃ n, limit = n + 1 := ⟨limit - 1, by omega⟩
      exact row?_rowText (fun rest hrest => ih row hrow hrest limit (by omega)) hrest
    have hfields := closed?_joined (.inr rfl) (fun row _ => begins_quote row.1 _) hread rest
    rw [write_dict, List.cons_append, List.append_assoc, tree?, skipBlanks_cons rfl]
    exact congrArg (Option.map fun read => (Value.dict read.1, read.2)) hfields

theorem decode?_text {v : Value} (hv : FloatFree v) : decode? (text v) = some v := by
  have hread : tree? ((write v []).length + 1) (write v [] ++ []) = some (v, []) :=
    tree?_write hv (Nat.lt_succ_self _) ends_nil
  rw [List.append_nil] at hread
  rw [decode?, text, String.toList_ofList, String.length_ofList, hread]
  rfl

/-- The text of a tree is JSON that decodes to the tree, with its rows in the same order, and leaves
what follows. Writing is injective. -/
theorem decode_text_and_injective {v : Value} (hv : FloatFree v) :
    decode? (text v) = some v ∧
      (∀ rest, Ends rest →
        tree? ((write v []).length + 1) (write v rest) = some (v, rest)) ∧
      ∀ w, FloatFree w → text w = text v → w = v := by
  refine ⟨decode?_text hv, ?_, ?_⟩
  · intro rest hrest
    rw [write_append v rest]
    exact tree?_write hv (Nat.lt_succ_self _) hrest
  · intro w hw h
    have hread := decode?_text hw
    rw [h, decode?_text hv] at hread
    exact (Option.some.inj hread).symm

def quotingTree : Value :=
  .dict [("\"\x7d", .list [.str "\\", .str "\x01\\u0041\n", .int Int64.minValue, .list []]),
    ("\"\x7d", .dict [("", .str "µ,]\x7f"), ("null", .null), ("0", .bool false)])]

theorem floatFree_quotingTree : FloatFree quotingTree := by
  refine .dict ?_
  simp only [List.forall_mem_cons, List.not_mem_nil, false_imp_iff, implies_true, and_true]
  constructor
  · refine .list ?_
    simp only [List.forall_mem_cons, List.not_mem_nil, false_imp_iff, implies_true, and_true]
    exact ⟨.str _, .str _, .int _, .list (by simp)⟩
  · refine .dict ?_
    simp only [List.forall_mem_cons, List.not_mem_nil, false_imp_iff, implies_true, and_true]
    exact ⟨.str _, .null, .bool _⟩

theorem printed_quotingTree :
    FloatFree quotingTree ∧ decode? (text quotingTree) = some quotingTree ∧
      text (.list [quotingTree]) ≠ text quotingTree := by
  have htree := decode_text_and_injective floatFree_quotingTree
  refine ⟨floatFree_quotingTree, htree.1, ?_⟩
  intro h
  have hlist : FloatFree (.list [quotingTree]) := .list (by simpa using floatFree_quotingTree)
  cases htree.2.2 _ hlist h

end RankTrace.Json
