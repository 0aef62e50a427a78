import Mathlib
import RankTrace.Proofs.Dump.Rows
import RankTrace.Proofs.Trace.Frames

/-!
# The two flavors of a dump

A text dump determines the binary one: replace every index by the element of the shared table, drop
the table, and read the sequence numbers of the groups as decimals. Each of these steps fails where
there is nothing to replace or to read.
-/

namespace RankTrace

namespace Value

def changeRow? (key : String) (f : Value → Option Value) (row : String × Value) :
    Option (String × Value) :=
  if row.1 = key then (f row.2).map (row.1, ·) else some row

def mapRow? (key : String) (f : Value → Option Value) : Value → Option Value
  | dict fields => (fields.mapM (changeRow? key f)).map dict
  | _ => none

def mapRows? (f : Value → Option Value) : Value → Option Value
  | dict fields => (fields.mapM fun row => (f row.2).map (row.1, ·)).map dict
  | _ => none

def mapItems? (f : Value → Option Value) : Value → Option Value
  | list items => (items.mapM f).map list
  | _ => none

def eraseRow (key : String) : Value → Value
  | dict fields => dict (fields.filter fun row => row.1 ≠ key)
  | v => v

def element? (table : List Value) : Value → Option Value
  | int i => if 0 ≤ i.toInt then table[i.toInt.toNat]? else none
  | _ => none

def spelled? : Value → Option Value
  | str s => s.toInt?.bind fun i =>
    if (Int64.ofInt i).toInt = i then some (int (Int64.ofInt i)) else none
  | _ => none

def itemsAt (key : String) (v : Value) : List Value := ((v.get? key).bind items?).getD []

/-- A text dump rewritten as a binary one. -/
def unshared? (v : Value) : Option Value := do
  let table := v.itemsAt "all_frames"
  let v ← v.mapRow? "pg_status" (mapRows? (mapRows? spelled?))
  let v ← v.mapRow? "entries" (mapItems? (mapRow? "frames" (mapItems? (element? table))))
  return v.eraseRow "all_frames"

variable {key : String} {f : Value → Option Value}

@[simp] theorem mapRows_dict (fields : List (String × Value)) : (dict fields).mapRows? f =
    (fields.mapM fun row => (f row.2).map (row.1, ·)).map dict := rfl

@[simp] theorem mapItems_list (items : List Value) :
    (list items).mapItems? f = (items.mapM f).map list := rfl

theorem mapM_map {α β γ : Type} {g : α → β} {f : β → Option γ} {g' : α → γ} {xs : List α}
    (h : ∀ x ∈ xs, f (g x) = some (g' x)) : (xs.map g).mapM f = some (xs.map g') := by
  induction xs with
  | nil => rfl
  | cons x rest ih =>
    have hx := h x List.mem_cons_self
    have hrest := ih fun y hy => h y (List.mem_cons_of_mem x hy)
    simp only [List.map_cons, List.mapM_cons, hx, hrest, Option.bind_eq_bind, Option.bind_some,
      Option.pure_def]

theorem mapM_changeRow {rows : List (String × Value)} (h : ∀ row ∈ rows, row.1 ≠ key) :
    rows.mapM (changeRow? key f) = some rows := by
  have hkept : (rows.map id).mapM (changeRow? key f) = some (rows.map id) :=
    mapM_map fun row hrow => if_neg (h row hrow)
  simpa using hkept

/-- The one row under the key is changed. -/
theorem mapRow_append {before after : List (String × Value)} {v v' : Value}
    (hbefore : ∀ row ∈ before, row.1 ≠ key) (hafter : ∀ row ∈ after, row.1 ≠ key)
    (hv : f v = some v') :
    (dict (before ++ (key, v) :: after)).mapRow? key f =
      some (dict (before ++ (key, v') :: after)) := by
  have hrow : changeRow? key f (key, v) = some (key, v') := by
    simp [changeRow?, hv]
  simp [mapRow?, List.mapM_append, List.mapM_cons, mapM_changeRow hbefore, mapM_changeRow hafter,
    hrow]

theorem filter_other {rows : List (String × Value)} (h : ∀ row ∈ rows, row.1 ≠ key) :
    rows.filter (fun row => row.1 ≠ key) = rows := by
  rw [List.filter_eq_self]
  intro row hrow
  simpa using h row hrow

theorem filter_same {rows : List (String × Value)} (h : ∀ row ∈ rows, row.1 = key) :
    rows.filter (fun row => row.1 ≠ key) = [] := by
  rw [List.filter_eq_nil_iff]
  intro row hrow
  simp [h row hrow]

theorem mapRow_absent {rows : List (String × Value)} (h : ∀ row ∈ rows, row.1 ≠ key) :
    (dict rows).mapRow? key f = some (dict rows) := by
  rw [mapRow?, mapM_changeRow h]
  rfl

end Value

namespace Dump

open Value

theorem spelled_sequenceNumber (n : Int64) :
    spelled? (sequenceNumber .text n) = some (sequenceNumber .binary n) := by
  -- `Int.toInt?_repr` is in `Std`, which only the whole of Mathlib imports.
  have hread : (toString n.toInt).toInt? = some n.toInt := Int.toInt?_repr n.toInt
  simp only [sequenceNumber, spelled?, hread, Option.bind_some, Int64.ofInt_toInt, ↓reduceIte]

theorem spelled_progressValue (p : GroupProgress) :
    mapRows? spelled? (progressValue .text p) = some (progressValue .binary p) := by
  simp [progressValue, List.mapM_cons, spelled_sequenceNumber]

theorem spelled_groupStatus (progress : Table UInt64 GroupProgress) :
    mapRows? (mapRows? spelled?) (groupStatus .text progress) =
      some (groupStatus .binary progress) := by
  rw [groupStatus_eq, groupStatus_eq, mapRows_dict, mapM_map]
  · rfl
  · intro row _
    rw [spelled_progressValue]
    rfl

theorem element_ofNat {table : List Value} {i : Nat} (hi : i < table.length)
    (hsize : table.length < 2 ^ 63) : element? table (Value.ofNat i) = table[i]? := by
  have hword : (Int64.ofNat i).toInt = i := Int64.toInt_ofNat_of_lt (by omega)
  simp [element?, Value.ofNat, hword]

theorem element_framesValue {table : List Value} {indices : List Nat}
    (h : ∀ i ∈ indices, i < table.length) (hsize : table.length < 2 ^ 63) :
    mapItems? (element? table) (framesValue .text table indices) =
      some (framesValue .binary table indices) := by
  have hframes : indices.filterMap (table[·]?) = indices.map fun i => table.getD i .null := by
    rw [← List.filterMap_eq_map]
    apply List.filterMap_congr
    intro i hi
    simp [List.getElem?_eq_getElem (h i hi)]
  rw [framesValue, framesValue, hframes, mapItems?, mapM_map]
  · rfl
  · intro i hi
    rw [element_ofNat (h i hi) hsize]
    simp [List.getElem?_eq_getElem (h i hi)]

theorem element_entryValue {table : List Value} {indices : List Nat} (e : Entry)
    (h : ∀ i ∈ indices, i < table.length) (hsize : table.length < 2 ^ 63) :
    mapRow? "frames" (mapItems? (element? table)) (entryValue .text table (some indices) e) =
      some (entryValue .binary table (some indices) e) := by
  have hnone : ∀ row ∈ ([] : List (String × Value)), row.1 ≠ "frames" := by
    intro row hrow
    cases hrow
  exact mapRow_append hnone (fun _ hrow => frames_ne_key hrow) (element_framesValue h hsize)

variable {resolver : Resolver} {options : DumpOptions} {entries : List Entry}
  {native : Option NativeDumps} {reading : Reading}

theorem lt_frameTable {row : Entry × List Nat} (h : row ∈ listedRows resolver options entries) :
    ∀ i ∈ row.2, i < (frameTable resolver entries).length := by
  have hzip := List.mem_of_mem_filter h
  have htrace := (List.of_mem_zip hzip).2
  have hbounded := Symbolized.bounded_symbolize resolver (entries.map (·.stack))
  intro i hi
  rw [frameTable, List.length_map]
  exact hbounded.traces row.2 htrace i hi

theorem mapRow_status {rest : List (String × Value)} (h : ∀ row ∈ rest, row.1 ≠ "pg_status") :
    mapRow? "pg_status" (mapRows? (mapRows? spelled?)) (.dict (headFields .text reading ++ rest)) =
      some (.dict (headFields .binary reading ++ rest)) := by
  have hbefore : ∀ row ∈ [("version", Value.str version), ("pg_config", groupConfig reading.ranks)],
      row.1 ≠ "pg_status" := by
    simp
  exact mapRow_append hbefore h (spelled_groupStatus reading.progress)

theorem mapRow_entries {f : Value → Option Value} {table : List (String × Value)}
    {items items' : List Value} (htable : ∀ row ∈ table, row.1 = "all_frames")
    (hitems : items.mapM f = some items') :
    mapRow? "entries" (mapItems? f) (.dict (headFields .binary reading ++
        (table ++ ("entries", .list items) :: nativeFields native))) =
      some (.dict (headFields .binary reading ++
        (table ++ ("entries", .list items') :: nativeFields native))) := by
  rw [← List.append_assoc, ← List.append_assoc]
  refine mapRow_append ?_ (nativeFields_ne (by decide)) (by rw [mapItems_list, hitems]; rfl)
  intro row hrow
  rcases List.mem_append.mp hrow with hhead | hframes
  · exact headFields_ne (by decide) (by decide) (by decide) row hhead
  · rw [htable row hframes]
    decide

theorem eraseRow_frames {table rest : List (String × Value)}
    (htable : ∀ row ∈ table, row.1 = "all_frames") (hrest : ∀ row ∈ rest, row.1 ≠ "all_frames") :
    eraseRow "all_frames" (.dict (headFields .binary reading ++ (table ++ rest))) =
      .dict (headFields .binary reading ++ rest) := by
  rw [eraseRow, List.filter_append, List.filter_append, filter_same htable, filter_other hrest]
  rfl

theorem entries_ne_frames {items : List Value} :
    ∀ row ∈ ("entries", Value.list items) :: nativeFields native, row.1 ≠ "all_frames" := by
  intro row hrow
  rcases List.mem_cons.mp hrow with rfl | hnative
  · show "entries" ≠ "all_frames"
    decide
  · exact nativeFields_ne (by decide) row hnative

theorem unshared_none (h : reading.entries = none) :
    (tree resolver options .text native reading).unshared? =
      some (tree resolver options .binary native reading) := by
  rw [tree_of_none h, tree_of_none h]
  have hrest : ∀ row ∈ headFields .binary reading ++ nativeFields native, row.1 ≠ "entries" := by
    intro row hrow
    rcases List.mem_append.mp hrow with hhead | hnative
    · exact headFields_ne (by decide) (by decide) (by decide) row hhead
    · exact nativeFields_ne (by decide) row hnative
  have herase : eraseRow "all_frames" (.dict (headFields .binary reading ++
      ([] ++ nativeFields native))) = .dict (headFields .binary reading ++ nativeFields native) :=
    eraseRow_frames (by simp) (nativeFields_ne (by decide))
  simp only [unshared?, mapRow_status (nativeFields_ne (by decide)), mapRow_absent hrest,
    Option.bind_eq_bind, Option.bind_some, Option.pure_def]
  exact congrArg some herase

theorem unshared_rows {table : List (String × Value)} {items items' : List Value}
    {text : Value} (htext : text = .dict (headFields .text reading ++
      (table ++ ("entries", .list items) :: nativeFields native)))
    (htable : ∀ row ∈ table, row.1 = "all_frames")
    (hitems : items.mapM (mapRow? "frames" (mapItems? (element? (text.itemsAt "all_frames")))) =
      some items') :
    text.unshared? =
      some (.dict (headFields .binary reading ++ ("entries", .list items') ::
        nativeFields native)) := by
  have hstatus : ∀ row ∈ table ++ ("entries", Value.list items) :: nativeFields native,
      row.1 ≠ "pg_status" := by
    intro row hrow
    rcases List.mem_append.mp hrow with hframes | hrest
    · rw [htable row hframes]
      decide
    · rcases List.mem_cons.mp hrest with rfl | hnative
      · show "entries" ≠ "pg_status"
        decide
      · exact nativeFields_ne (by decide) row hnative
  have hchanged : text.mapRow? "pg_status" (mapRows? (mapRows? spelled?)) =
      some (.dict (headFields .binary reading ++
        (table ++ ("entries", .list items) :: nativeFields native))) := by
    rw [htext]
    exact mapRow_status hstatus
  simp only [unshared?, hchanged, mapRow_entries htable hitems, Option.bind_eq_bind,
    Option.bind_some, Option.pure_def, eraseRow_frames htable entries_ne_frames]

theorem itemsAt_frames (hstacks : options.stackTraces = true)
    (h : reading.entries = some entries) :
    (tree resolver options .text native reading).itemsAt "all_frames" =
      frameTable resolver entries := by
  rw [tree_of_some h, collectiveFields_text hstacks]
  rfl

theorem itemsAt_entries (hstacks : options.stackTraces = true)
    (h : reading.entries = some entries) :
    (tree resolver options .text native reading).itemsAt "entries" =
      (listedRows resolver options entries).map fun row =>
        entryValue .text (frameTable resolver entries) (some row.2) row.1 := by
  rw [tree_of_some h, collectiveFields_text hstacks]
  rfl

theorem unshared_stacks (hstacks : options.stackTraces = true)
    (h : reading.entries = some entries)
    (hsize : (frameTable resolver entries).length < 2 ^ 63) :
    (tree resolver options .text native reading).unshared? =
      some (tree resolver options .binary native reading) := by
  have hitems : ((listedRows resolver options entries).map fun row =>
      entryValue .text (frameTable resolver entries) (some row.2) row.1).mapM
        (mapRow? "frames" (mapItems? (element?
          ((tree resolver options .text native reading).itemsAt "all_frames")))) =
      some ((listedRows resolver options entries).map fun row =>
        entryValue .binary (frameTable resolver entries) (some row.2) row.1) := by
    rw [itemsAt_frames hstacks h]
    exact mapM_map fun row hrow => element_entryValue row.1 (lt_frameTable hrow) hsize
  have htree : tree resolver options .text native reading = .dict (headFields .text reading ++
      ([("all_frames", .list (frameTable resolver entries))] ++
        ("entries", .list ((listedRows resolver options entries).map fun row =>
          entryValue .text (frameTable resolver entries) (some row.2) row.1)) ::
        nativeFields native)) := by
    rw [tree_of_some h, collectiveFields_text hstacks]
    rfl
  rw [unshared_rows htree (by simp) hitems, tree_of_some h, collectiveFields_binary hstacks]
  rfl

theorem unshared_plain (hplain : options.stackTraces = false)
    (h : reading.entries = some entries) :
    (tree resolver options .text native reading).unshared? =
      some (tree resolver options .binary native reading) := by
  let items := (entries.filter (isListed options)).map fun e => Value.dict (entryFields e)
  have hitems (table : List Value) :
      items.mapM (mapRow? "frames" (mapItems? (element? table))) = some items :=
    mapM_map fun e _ => mapRow_absent fun _ hrow => frames_ne_key hrow
  have htree (flavor : Flavor) : tree resolver options flavor native reading =
      .dict (headFields flavor reading ++
        ([] ++ ("entries", .list items) :: nativeFields native)) := by
    rw [tree_of_some h, collectiveFields_plain hplain]
    rfl
  rw [unshared_rows (htree .text) (by simp) (hitems _), htree .binary]
  rfl

theorem itemsAt_entryFields (e : Entry) : (Value.dict (entryFields e)).itemsAt "frames" = [] := by
  have hnone : (entryFields e).lookup "frames" = none := by
    rw [List.lookup_eq_none_iff]
    intro row hrow
    simpa using (frames_ne_key hrow).symm
  simp [itemsAt, get?, hnone]

theorem itemsAt_nativeFields {key : String} (hkey : key ≠ "nccl_comm_state") :
    (Value.dict (nativeFields native)).itemsAt key = [] := by
  have hnone : (nativeFields native).lookup key = none := by
    rw [List.lookup_eq_none_iff]
    intro row hrow
    simpa using (nativeFields_ne hkey row hrow).symm
  simp [itemsAt, get?, hnone]

/-- Only with stacks does an entry have frames, and these are indices into the table. -/
theorem index_lt (hsize : ((tree resolver options .text native reading).itemsAt
      "all_frames").length < 2 ^ 63) {entry index : Value}
    (hentry : entry ∈ (tree resolver options .text native reading).itemsAt "entries")
    (hindex : index ∈ entry.itemsAt "frames") :
    ∃ i : Int64, index = .int i ∧ 0 ≤ i.toInt ∧
      i.toInt < ((tree resolver options .text native reading).itemsAt "all_frames").length := by
  cases h : reading.entries with
  | none =>
    have hnone : (tree resolver options .text native reading).itemsAt "entries" = [] := by
      rw [tree_of_none h]
      exact itemsAt_nativeFields (by decide)
    rw [hnone] at hentry
    cases hentry
  | some entries =>
    by_cases hstacks : options.stackTraces = true
    · rw [itemsAt_entries hstacks h] at hentry
      rw [itemsAt_frames hstacks h] at hsize ⊢
      obtain ⟨row, hrow, rfl⟩ := List.mem_map.mp hentry
      have hframes : (entryValue .text (frameTable resolver entries) (some row.2) row.1).itemsAt
          "frames" = row.2.map Value.ofNat := rfl
      rw [hframes] at hindex
      obtain ⟨i, hi, rfl⟩ := List.mem_map.mp hindex
      have hlt := lt_frameTable hrow i hi
      have hword : (Int64.ofNat i).toInt = i := Int64.toInt_ofNat_of_lt (by omega)
      refine ⟨Int64.ofNat i, rfl, ?_, ?_⟩ <;> omega
    · have hplain : options.stackTraces = false := by simpa using hstacks
      have hitems : (tree resolver options .text native reading).itemsAt "entries" =
          (entries.filter (isListed options)).map fun e => .dict (entryFields e) := by
        rw [tree_of_some h, collectiveFields_plain hplain]
        rfl
      rw [hitems] at hentry
      obtain ⟨e, _, rfl⟩ := List.mem_map.mp hentry
      rw [itemsAt_entryFields] at hindex
      cases hindex

/-- In a text dump every frame of an entry is an index into the shared table. Replacing indices by
the frames, dropping the table and reading sequence numbers as numbers gives the binary dump of the
same reading, with its rows in the same order. The bound is that of lengths in memory. -/
theorem unshared_tree (resolver : Resolver) (options : DumpOptions) (native : Option NativeDumps)
    (reading : Reading) (hsize : ((tree resolver options .text native reading).itemsAt
      "all_frames").length < 2 ^ 63) :
    let text := tree resolver options .text native reading
    text.unshared? = some (tree resolver options .binary native reading) ∧
    ∀ entry ∈ text.itemsAt "entries", ∀ index ∈ entry.itemsAt "frames",
      ∃ i : Int64, index = .int i ∧ 0 ≤ i.toInt ∧ i.toInt < (text.itemsAt "all_frames").length := by
  intro text
  constructor
  · cases h : reading.entries with
    | none => exact unshared_none h
    | some entries =>
      by_cases hstacks : options.stackTraces = true
      · rw [itemsAt_frames hstacks h] at hsize
        exact unshared_stacks hstacks h hsize
      · exact unshared_plain (by simpa using hstacks) h
  · intro entry hentry index hindex
    exact index_lt hsize hentry hindex

def inlinedResolver : Resolver := fun address =>
  if address = 16 then [{ name := some "send" }, { name := some "main", line := some 7 }] else []

def sharedStacks : Reading where
  ranks := [(⟨"0", "default"⟩, [0, 1])]
  progress := [(0, { started := 3 })]
  entries :=
    let op : Issued := { group := ⟨"0", "default"⟩, status := ⟨0⟩, name := "send" }
    let send := Entry.ofIssued 0 5 (some [16, 32]) op
    some [send, { send with id := 1, stack := some [48, 16] }]

/-- Two stacks over four frames, with an address in common. -/
theorem unshared_sharedStacks :
    let text := tree inlinedResolver {} .text none sharedStacks
    (text.itemsAt "all_frames").length = 4 ∧
    (text.itemsAt "entries").map (fun entry => (entry.itemsAt "frames").filterMap Value.int?) =
      [[0, 1, 2], [3, 0, 1]] ∧
    text.unshared? = some (tree inlinedResolver {} .binary none sharedStacks) := by
  refine ⟨rfl, rfl, ?_⟩
  exact (unshared_tree inlinedResolver {} none sharedStacks (by decide)).1

end Dump

end RankTrace
