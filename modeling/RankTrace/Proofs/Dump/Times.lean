import RankTrace.Proofs.Dump.Rows
import RankTrace.Proofs.Trace.Shown

/-!
# Dumps without their times

A dump made of entries without the values of their stamps is the dump with these values hidden:
they show nowhere else, and they do not decide which entries are listed.
-/

namespace RankTrace

namespace Value

def hideTime : String × Value → String × Value
  | (key, int i) =>
    if key = "time_discovered_started_ns" ∨ key = "time_discovered_completed_ns" then (key, int 0)
    else (key, int i)
  | row => row

def hideEntryTimes : Value → Value
  | dict fields => dict (fields.map hideTime)
  | v => v

def hideListTimes : String × Value → String × Value
  | (key, list items) =>
    if key = "entries" then (key, list (items.map hideEntryTimes)) else (key, list items)
  | row => row

def hideTimes : Value → Value
  | dict fields => dict (fields.map hideListTimes)
  | v => v

theorem hideListTimes_of_ne {row : String × Value} (h : row.1 ≠ "entries") :
    hideListTimes row = row := by
  obtain ⟨key, v⟩ := row
  cases v with
  | list items => exact if_neg h
  | null | bool | int | float | str | dict => rfl

theorem map_hideListTimes {rows : List (String × Value)} (h : ∀ row ∈ rows, row.1 ≠ "entries") :
    rows.map hideListTimes = rows :=
  (List.map_congr_left fun row hrow => hideListTimes_of_ne (h row hrow)).trans (List.map_id rows)

end Value

namespace Dump

open Value

theorem state_hideTimes (e : Entry) : e.hideTimes.state = e.state := by
  simp only [Entry.state, Entry.hideTimes, Option.isSome_map]

theorem hideTime_ofOption {key : String}
    (h : key = "time_discovered_started_ns" ∨ key = "time_discovered_completed_ns")
    (time : Option Int64) :
    hideTime (key, ofOption time) = (key, ofOption (time.map fun _ => 0)) := by
  cases time with
  | none => rfl
  | some t => exact if_pos h

theorem hideTime_entryFields (e : Entry) :
    (entryFields e).map hideTime = entryFields e.hideTimes := by
  have hduration : (durationField e).map hideTime = durationField e.hideTimes := by
    have hsame : e.hideTimes.duration = e.duration := rfl
    unfold durationField
    rw [hsame]
    cases e.duration <;> rfl
  have hstarted := hideTime_ofOption (.inl rfl) e.started
  have hcompleted := hideTime_ofOption (.inr rfl) e.completed
  simp only [entryFields, List.map_append, hduration, List.map_cons, List.map_nil, hstarted,
    hcompleted, state_hideTimes]
  rfl

theorem isListed_hideTimes (options : DumpOptions) (e : Entry) :
    isListed options e.hideTimes = isListed options e := by
  simp only [isListed, Entry.hideTimes, Option.isSome_map]

theorem hideEntryTimes_entryValue (flavor : Flavor) (table : List Value)
    (indices : Option (List Nat)) (e : Entry) :
    (entryValue flavor table indices e).hideEntryTimes =
      entryValue flavor table indices e.hideTimes := by
  cases indices with
  | none =>
    simp only [entryValue, hideEntryTimes, hideTime_entryFields]
  | some indices =>
    have hframes : hideTime ("frames", framesValue flavor table indices) =
        ("frames", framesValue flavor table indices) := by
      cases flavor <;> rfl
    simp only [entryValue, hideEntryTimes, List.map_cons, hframes, hideTime_entryFields]

theorem listedRows_hideTimes (resolver : Resolver) (options : DumpOptions) (entries : List Entry) :
    listedRows resolver options (entries.map Entry.hideTimes) =
      (listedRows resolver options entries).map fun row => (row.1.hideTimes, row.2) := by
  have hstacks : (entries.map Entry.hideTimes).map (·.stack) = entries.map (·.stack) := by
    simp [Function.comp_def, Entry.hideTimes]
  rw [listedRows, hstacks, List.zip_map_left, List.filter_map]
  simp only [listedRows, Function.comp_def, Prod.map_fst, isListed_hideTimes]
  rfl

theorem frameTable_hideTimes (resolver : Resolver) (entries : List Entry) :
    frameTable resolver (entries.map Entry.hideTimes) = frameTable resolver entries := by
  simp only [frameTable, List.map_map, Function.comp_def, Entry.hideTimes]

theorem hideTimes_collectiveFields (resolver : Resolver) (options : DumpOptions) (flavor : Flavor)
    (entries : List Entry) :
    (collectiveFields resolver options flavor entries).map hideListTimes =
      collectiveFields resolver options flavor (entries.map Entry.hideTimes) := by
  have hentries (items : List Value) : hideListTimes ("entries", .list items) =
      ("entries", .list (items.map hideEntryTimes)) := by
    simp [hideListTimes]
  have hframes (items : List Value) : hideListTimes ("all_frames", .list items) =
      ("all_frames", .list items) :=
    hideListTimes_of_ne (show "all_frames" ≠ "entries" by decide)
  by_cases hstacks : options.stackTraces = true
  · have hlisted : ((listedRows resolver options entries).map fun row =>
        entryValue flavor (frameTable resolver entries) (some row.2) row.1).map hideEntryTimes =
        (listedRows resolver options (entries.map Entry.hideTimes)).map fun row =>
          entryValue flavor (frameTable resolver (entries.map Entry.hideTimes)) (some row.2)
            row.1 := by
      rw [listedRows_hideTimes, frameTable_hideTimes, List.map_map, List.map_map]
      exact List.map_congr_left fun row _ => hideEntryTimes_entryValue flavor _ (some row.2) row.1
    cases flavor with
    | text =>
      rw [collectiveFields_text hstacks, collectiveFields_text hstacks, ← hlisted,
        frameTable_hideTimes]
      simp only [List.map_cons, List.map_nil, hframes, hentries]
    | binary =>
      rw [collectiveFields_binary hstacks, collectiveFields_binary hstacks, ← hlisted]
      simp only [List.map_cons, List.map_nil, hentries]
  · have hplain : options.stackTraces = false := by simpa using hstacks
    have hlisted : ((entries.filter (isListed options)).map fun e =>
        Value.dict (entryFields e)).map hideEntryTimes =
        ((entries.map Entry.hideTimes).filter (isListed options)).map fun e =>
          .dict (entryFields e) := by
      rw [List.filter_map, List.map_map, List.map_map]
      simp only [Function.comp_def, isListed_hideTimes, hideEntryTimes, hideTime_entryFields]
    rw [collectiveFields_plain hplain, collectiveFields_plain hplain, ← hlisted]
    simp only [List.map_cons, List.map_nil, hentries]

end Dump

def Reading.hideTimes (reading : Reading) : Reading :=
  { reading with entries := reading.entries.map (·.map Entry.hideTimes) }

/-- In a dump, the values of stamps occur as times of discovery only. -/
theorem Dump.hideTimes_tree (resolver : Resolver) (options : DumpOptions) (flavor : Flavor)
    (native : Option NativeDumps) (reading : Reading) :
    (Dump.tree resolver options flavor native reading).hideTimes =
      Dump.tree resolver options flavor native reading.hideTimes := by
  have hhead : (headFields flavor reading).map Value.hideListTimes =
      headFields flavor reading.hideTimes :=
    Value.map_hideListTimes (headFields_ne (by decide) (by decide) (by decide))
  have hnative : (nativeFields native).map Value.hideListTimes = nativeFields native :=
    Value.map_hideListTimes (nativeFields_ne (by decide))
  cases h : reading.entries with
  | none =>
    have hhidden : reading.hideTimes.entries = none := by rw [Reading.hideTimes, h]; rfl
    rw [tree_of_none h, tree_of_none hhidden, Value.hideTimes, List.map_append, hhead, hnative]
  | some entries =>
    have hhidden : reading.hideTimes.entries = some (entries.map Entry.hideTimes) := by
      rw [Reading.hideTimes, h]
      rfl
    rw [tree_of_some h, tree_of_some hhidden, Value.hideTimes, List.map_append, List.map_append,
      hhead, hnative, hideTimes_collectiveFields]

end RankTrace
