import RankTrace.Proofs.Dump.Flavors
import RankTrace.Trace.MarkerBank

/-!
# Options of a dump

A dump with any options is a projection of the full one. The projection is defined on the tree
alone: it drops rows and entries, and keeps the other rows unchanged.
-/

namespace RankTrace

namespace Value

def changeRow (key : String) (f : Value → Value) (row : String × Value) : String × Value :=
  if row.1 = key then (row.1, f row.2) else row

def mapRow (key : String) (f : Value → Value) : Value → Value
  | dict fields => dict (fields.map (changeRow key f))
  | v => v

def mapItems (f : Value → Value) : Value → Value
  | list items => list (items.map f)
  | v => v

def keepItems (keep : Value → Bool) : Value → Value
  | list items => list (items.filter keep)
  | v => v

def isActive (entry : Value) : Bool := (entry.get? "time_discovered_completed_ns").any isNull

variable {key : String} {f : Value → Value} {rows before after : List (String × Value)} {v : Value}

theorem map_changeRow (h : ∀ row ∈ rows, row.1 ≠ key) : rows.map (changeRow key f) = rows := by
  have hkept : rows.map (changeRow key f) = rows.map id := by
    apply List.map_congr_left
    intro row hrow
    exact if_neg (h row hrow)
  rw [hkept, List.map_id]

theorem mapRow_dict (hbefore : ∀ row ∈ before, row.1 ≠ key) (hafter : ∀ row ∈ after, row.1 ≠ key) :
    (dict (before ++ (key, v) :: after)).mapRow key f = dict (before ++ (key, f v) :: after) := by
  have hrow : changeRow key f (key, v) = (key, f v) := if_pos rfl
  rw [mapRow, List.map_append, List.map_cons, map_changeRow hbefore, map_changeRow hafter, hrow]

theorem mapRow_other (h : ∀ row ∈ rows, row.1 ≠ key) : (dict rows).mapRow key f = dict rows := by
  rw [mapRow, map_changeRow h]

end Value

/-- What a dump with these options shows of one with all collectives and stacks. -/
def DumpOptions.project (options : DumpOptions) (full : Value) : Value :=
  let shown := if options.collectives then full
    else (full.eraseRow "entries").eraseRow "all_frames"
  let shown := if options.stackTraces then shown
    else (shown.eraseRow "all_frames").mapRow "entries" (Value.mapItems (Value.eraseRow "frames"))
  if options.onlyActive then shown.mapRow "entries" (Value.keepItems Value.isActive) else shown

def Reply.map {α β : Type} (f : α → β) : Reply α → Reply β
  | answered a => answered (f a)
  | unwound => unwound

namespace Dump

open Value

variable {resolver : Resolver} {options : DumpOptions} {flavor : Flavor} {entries : List Entry}
  {native : Option NativeDumps} {reading : Reading}

theorem groupRows_ne (flavor : Flavor) (native : Option NativeDumps) (reading : Reading)
    {key : String} (hkey : key = "entries" ∨ key = "all_frames") :
    (∀ row ∈ headFields flavor reading, row.1 ≠ key) ∧
      ∀ row ∈ nativeFields native, row.1 ≠ key := by
  rcases hkey with rfl | rfl
  · exact ⟨headFields_ne (by decide) (by decide) (by decide), nativeFields_ne (by decide)⟩
  · exact ⟨headFields_ne (by decide) (by decide) (by decide), nativeFields_ne (by decide)⟩

def listing (flavor : Flavor) (native : Option NativeDumps) (reading : Reading)
    (table : List (String × Value)) (items : List Value) : Value :=
  .dict (headFields flavor reading ++ (table ++ ("entries", .list items) :: nativeFields native))

def summary (flavor : Flavor) (native : Option NativeDumps) (reading : Reading) : Value :=
  .dict (headFields flavor reading ++ nativeFields native)

section Listing

variable {table : List (String × Value)} {items : List Value}

theorem mapRow_listing (f : Value → Value) {items' : List Value}
    (htable : ∀ row ∈ table, row.1 = "all_frames") (hitems : f (.list items) = .list items') :
    (listing flavor native reading table items).mapRow "entries" f =
      listing flavor native reading table items' := by
  obtain ⟨hhead, hnative⟩ := groupRows_ne flavor native reading (.inl rfl)
  rw [listing, ← List.append_assoc, mapRow_dict ?_ hnative, hitems, listing, ← List.append_assoc]
  intro row hrow
  rcases List.mem_append.mp hrow with hrow | hrow
  · exact hhead row hrow
  · rw [htable row hrow]
    decide

theorem eraseTable_listing (htable : ∀ row ∈ table, row.1 = "all_frames") :
    (listing flavor native reading table items).eraseRow "all_frames" =
      listing flavor native reading [] items := by
  obtain ⟨hhead, _⟩ := groupRows_ne flavor native reading (.inr rfl)
  rw [listing, eraseRow, List.filter_append, List.filter_append, filter_other hhead,
    filter_same htable, filter_other entries_ne_frames]
  rfl

theorem eraseEntries_listing (htable : ∀ row ∈ table, row.1 = "all_frames") :
    ((listing flavor native reading table items).eraseRow "entries").eraseRow "all_frames" =
      summary flavor native reading := by
  obtain ⟨hhead, hnative⟩ := groupRows_ne flavor native reading (.inl rfl)
  obtain ⟨hhead', hnative'⟩ := groupRows_ne flavor native reading (.inr rfl)
  have hother : ∀ row ∈ table, row.1 ≠ "entries" := by
    intro row hrow
    rw [htable row hrow]
    decide
  have hentries : (listing flavor native reading table items).eraseRow "entries" =
      .dict (headFields flavor reading ++ (table ++ nativeFields native)) := by
    rw [listing, eraseRow, List.filter_append, List.filter_append, filter_other hhead,
      filter_other hother, List.filter_cons_of_neg (by simp), filter_other hnative]
  rw [hentries, eraseRow, List.filter_append, List.filter_append, filter_other hhead',
    filter_same htable, filter_other hnative']
  rfl

end Listing

theorem eraseRow_summary {key : String} (hkey : key = "entries" ∨ key = "all_frames") :
    (summary flavor native reading).eraseRow key = summary flavor native reading := by
  obtain ⟨hhead, hnative⟩ := groupRows_ne flavor native reading hkey
  rw [summary, eraseRow, List.filter_append, filter_other hhead, filter_other hnative]

theorem mapRow_summary (f : Value → Value) :
    (summary flavor native reading).mapRow "entries" f = summary flavor native reading := by
  obtain ⟨hhead, hnative⟩ := groupRows_ne flavor native reading (.inl rfl)
  apply mapRow_other
  intro row hrow
  rcases List.mem_append.mp hrow with hrow | hrow
  · exact hhead row hrow
  · exact hnative row hrow

theorem project_summary (options : DumpOptions) :
    options.project (summary flavor native reading) = summary flavor native reading := by
  simp only [DumpOptions.project, eraseRow_summary (.inl rfl), eraseRow_summary (.inr rfl),
    mapRow_summary, ite_self]

def shownItems (options : DumpOptions) (items : List Value) : List Value :=
  if options.onlyActive then items.filter isActive else items

theorem keep_listing {table : List (String × Value)} {items : List Value}
    (htable : ∀ row ∈ table, row.1 = "all_frames") :
    (if options.onlyActive then
        (listing flavor native reading table items).mapRow "entries" (keepItems isActive)
      else listing flavor native reading table items) =
      listing flavor native reading table (shownItems options items) := by
  unfold shownItems
  split
  · exact mapRow_listing (keepItems isActive) htable rfl
  · rfl

theorem project_listing (hcollectives : options.collectives = true)
    {table : List (String × Value)} {items : List Value}
    (htable : ∀ row ∈ table, row.1 = "all_frames") :
    options.project (listing flavor native reading table items) =
      if options.stackTraces then
        listing flavor native reading table (shownItems options items)
      else
        listing flavor native reading [] (shownItems options (items.map (eraseRow "frames"))) := by
  cases hstacks : options.stackTraces with
  | true =>
    simp only [DumpOptions.project, hcollectives, hstacks, ↓reduceIte]
    exact keep_listing htable
  | false =>
    have hnone : ∀ row ∈ ([] : List (String × Value)), row.1 = "all_frames" := by
      intro row hrow
      cases hrow
    have hframes : ((listing flavor native reading table items).eraseRow "all_frames").mapRow
        "entries" (mapItems (eraseRow "frames")) =
          listing flavor native reading [] (items.map (eraseRow "frames")) := by
      rw [eraseTable_listing htable]
      exact mapRow_listing (mapItems (eraseRow "frames")) hnone rfl
    simp only [DumpOptions.project, hcollectives, hstacks, hframes, Bool.false_eq_true, ↓reduceIte]
    exact keep_listing hnone

def tableFields (resolver : Resolver) (flavor : Flavor) (entries : List Entry) :
    List (String × Value) :=
  match flavor with
  | .text => [("all_frames", .list (frameTable resolver entries))]
  | .binary => []

theorem tableFields_key : ∀ row ∈ tableFields resolver flavor entries, row.1 = "all_frames" := by
  intro row hrow
  cases flavor with
  | text =>
    obtain rfl := List.mem_singleton.mp hrow
    rfl
  | binary => cases hrow

def stackedItems (resolver : Resolver) (flavor : Flavor) (entries : List Entry) : List Value :=
  (entries.zip (symbolize resolver (entries.map (·.stack))).traces).map fun row =>
    entryValue flavor (frameTable resolver entries) (some row.2) row.1

/-- Without their frames, the entries are those of a dump without stacks. -/
theorem eraseFrames_stackedItems :
    (stackedItems resolver flavor entries).map (eraseRow "frames") =
      entries.map fun e => .dict (entryFields e) := by
  have herase (row : Entry × List Nat) :
      (entryValue flavor (frameTable resolver entries) (some row.2) row.1).eraseRow "frames" =
        .dict (entryFields row.1) := by
    rw [entryValue, eraseRow, List.filter_cons_of_neg (by simp),
      filter_other fun _ hrow => frames_ne_key hrow]
  have hlength : entries.length ≤
      (symbolize resolver (entries.map (·.stack))).traces.length := by
    rw [Symbolized.length_traces, List.length_map]
  calc (stackedItems resolver flavor entries).map (eraseRow "frames")
      = (entries.zip (symbolize resolver (entries.map (·.stack))).traces).map
          fun row => .dict (entryFields row.1) := by
        rw [stackedItems, List.map_map]
        exact List.map_congr_left fun row _ => herase row
    _ = ((entries.zip (symbolize resolver (entries.map (·.stack))).traces).map Prod.fst).map
          fun e => .dict (entryFields e) := by rw [List.map_map]; rfl
    _ = entries.map fun e => .dict (entryFields e) := by rw [List.map_fst_zip hlength]

theorem isActive_entryFields (e : Entry) :
    (Value.dict (entryFields e)).isActive = !e.completed.isSome := by
  have hcompleted : (Value.dict (entryFields e)).get? "time_discovered_completed_ns" =
      some (Value.ofOption e.completed) := by
    unfold entryFields durationField
    cases e.duration <;> rfl
  rw [isActive, hcompleted]
  cases e.completed <;> rfl

theorem isActive_entryValue (table : List Value) (indices : List Nat) (e : Entry) :
    (entryValue flavor table (some indices) e).isActive = !e.completed.isSome := by
  rw [← isActive_entryFields]
  rfl

/-- With active entries only, the listed entries are those whose state is active. -/
theorem shownItems_map {α : Type} (rows : List α) (entry : α → Entry) (item : α → Value)
    (h : ∀ row, (item row).isActive = !(entry row).completed.isSome) :
    shownItems options (rows.map item) =
      (rows.filter fun row => isListed options (entry row)).map item := by
  cases honly : options.onlyActive with
  | true =>
    simp only [shownItems, isListed, honly, List.filter_map, Bool.true_and, ↓reduceIte]
    congr 1
    exact List.filter_congr fun row _ => h row
  | false => simp [shownItems, isListed, honly]

theorem tree_listing (h : reading.entries = some entries) :
    tree resolver options flavor native reading =
      if options.stackTraces then
        listing flavor native reading (tableFields resolver flavor entries)
          (shownItems options (stackedItems resolver flavor entries))
      else
        listing flavor native reading []
          (shownItems options (entries.map fun e => .dict (entryFields e))) := by
  rw [tree_of_some h]
  cases hstacks : options.stackTraces with
  | true =>
    rw [stackedItems, shownItems_map _ Prod.fst _ fun row => isActive_entryValue _ row.2 row.1]
    cases flavor with
    | text =>
      rw [collectiveFields_text hstacks]
      rfl
    | binary =>
      rw [collectiveFields_binary hstacks]
      rfl
  | false =>
    rw [shownItems_map entries id _ isActive_entryFields, collectiveFields_plain hstacks]
    rfl

theorem tree_full (h : reading.entries = some entries) :
    tree resolver {} flavor native reading =
      listing flavor native reading (tableFields resolver flavor entries)
        (stackedItems resolver flavor entries) := tree_listing h

/-- For one reading, a dump is the projection of the full one. -/
theorem tree_project (h : reading.entries = some entries)
    (hcollectives : options.collectives = true) :
    tree resolver options flavor native reading =
      options.project (tree resolver {} flavor native reading) := by
  rw [tree_full h, project_listing hcollectives tableFields_key, eraseFrames_stackedItems]
  exact tree_listing h

theorem summary_project (h : reading.entries = some entries)
    (hcollectives : options.collectives = false) :
    summary flavor native reading = options.project (tree resolver {} flavor native reading) := by
  have herased (full : Value) : options.project full = { options with collectives := true }.project
      ((full.eraseRow "entries").eraseRow "all_frames") := by
    simp only [DumpOptions.project, hcollectives, Bool.false_eq_true, ↓reduceIte]
  rw [herased, tree_full h, eraseEntries_listing tableFields_key, project_summary]

section Reading

variable {δ : Type} (dev : Device δ) (now : Int64) (board : StatusId → GroupProgress)

theorem stamp_answered (h : ∀ id d, (dev.query id d).1 ≠ .unwound) (known : Option Int64)
    (marker : Option MarkerId) (d : δ) :
    ∃ at? d', Entry.stamp dev now known marker d = (.answered at?, d') := by
  unfold Entry.stamp
  split
  · next m =>
    have hquery := h m d
    rcases hreply : dev.query m d with ⟨fired | _, d'⟩
    · exact ⟨_, d', rfl⟩
    · rw [hreply] at hquery
      exact absurd rfl hquery
  · exact ⟨known, d, rfl⟩

theorem observe_answered (h : ∀ id d, (dev.query id d).1 ≠ .unwound) (e : Entry) (d : δ) :
    ∃ e' d', e.observe dev now d = (.answered (), e', d') := by
  obtain ⟨started, d, hstarted⟩ := stamp_answered dev now h e.started e.start d
  obtain ⟨completed, d, hcompleted⟩ := stamp_answered dev now h e.completed e.stop d
  refine ⟨{ e with started, completed }, d, ?_⟩
  simp only [Entry.observe, hstarted, hcompleted]

theorem observeAll_answered (h : ∀ id d, (dev.query id d).1 ≠ .unwound) (es : List Entry) (d : δ) :
    ∃ es' d', Recorder.observeAll dev now es d = (.answered (), es', d') := by
  induction es generalizing d with
  | nil => exact ⟨[], d, rfl⟩
  | cons e rest ih =>
    obtain ⟨e', d', hfirst⟩ := observe_answered dev now h e d
    obtain ⟨rest', d'', hrest⟩ := ih d'
    refine ⟨e' :: rest', d'', ?_⟩
    simp only [Recorder.observeAll, hfirst, hrest]

theorem snapshot_answered (h : ∀ id d, (dev.query id d).1 ≠ .unwound) (r : Recorder) (d : δ) :
    ∃ entries, (r.snapshot dev now d).1 = .answered entries := by
  obtain ⟨slots, d', hpolled⟩ := observeAll_answered dev now h r.slots d
  by_cases henabled : r.isEnabled
  · refine ⟨({ r with slots }.entries.map Entry.clearMarkers), ?_⟩
    simp [Recorder.snapshot, henabled, hpolled]
  · refine ⟨[], ?_⟩
    simp [Recorder.snapshot, henabled]

theorem read_reply (options : DumpOptions) (r : Recorder) (d : δ) :
    (r.read dev now board options d).1 =
      if options.collectives then
        (r.snapshot dev now d).1.map fun entries => ⟨r.ranks, r.progress board, some entries⟩
      else .answered ⟨r.ranks, r.progress board, none⟩ := by
  unfold Recorder.read
  split
  · rcases r.snapshot dev now d with ⟨_ | _, _⟩ <;> rfl
  · rfl

def polledReading (r : Recorder) (entries : List Entry) : Reading :=
  ⟨r.ranks, r.progress board, some entries⟩

variable {resolver : Resolver} {options : DumpOptions} {flavor : Flavor}
  {native : Option NativeDumps} {r : Recorder} {d : δ}

theorem dump_polled (hcollectives : options.collectives = true) :
    (r.read dev now board options d).1.map (tree resolver options flavor native) =
      (r.snapshot dev now d).1.map fun entries =>
        tree resolver options flavor native (polledReading board r entries) := by
  rw [read_reply, if_pos hcollectives]
  cases (r.snapshot dev now d).1 <;> rfl

theorem dump_summary (hcollectives : options.collectives = false) (entries : List Entry) :
    (r.read dev now board options d).1.map (tree resolver options flavor native) =
      .answered (summary flavor native (polledReading board r entries)) := by
  have hnone : (r.read dev now board options d).1 =
      .answered ⟨r.ranks, r.progress board, none⟩ := by
    rw [read_reply, hcollectives]
    rfl
  rw [hnone, Reply.map, tree_of_none rfl]
  rfl

theorem dump_of_snapshot {entries : List Entry}
    (h : (r.snapshot dev now d).1 = .answered entries) (options : DumpOptions) :
    (r.read dev now board options d).1.map (tree resolver options flavor native) =
      .answered (options.project (tree resolver {} flavor native
        (polledReading board r entries))) := by
  cases hcollectives : options.collectives with
  | true =>
    rw [dump_polled dev now board hcollectives, h]
    exact congrArg Reply.answered (tree_project rfl hcollectives)
  | false =>
    rw [dump_summary dev now board hcollectives entries]
    exact congrArg Reply.answered (summary_project rfl hcollectives)

theorem project_default (full : Value) : ({} : DumpOptions).project full = full := rfl

/-- For any recorder, clock and device, a dump with any options is the projection of the full one.
There is no full dump only if a marker unwinds, and then every dump that polls unwinds. -/
theorem dump_project (resolver : Resolver) (options : DumpOptions) (flavor : Flavor)
    (native : Option NativeDumps) (r : Recorder) (d : δ) :
    let dump := fun options =>
      (r.read dev now board options d).1.map (tree resolver options flavor native)
    (∀ full, dump {} = .answered full → dump options = .answered (options.project full)) ∧
    (dump {} = .unwound → options.collectives = true → dump options = .unwound) ∧
    ((∀ id d, (dev.query id d).1 ≠ .unwound) → ∃ full, dump {} = .answered full) := by
  intro dump
  cases hsnapshot : (r.snapshot dev now d).1 with
  | answered entries =>
    have hdump (options : DumpOptions) : dump options = .answered (options.project
        (tree resolver {} flavor native (polledReading board r entries))) :=
      dump_of_snapshot dev now board hsnapshot options
    refine ⟨?_, ?_, fun _ => ⟨_, hdump {}⟩⟩
    · intro full hfull
      obtain rfl := Reply.answered.inj ((hdump {}).symm.trans hfull)
      rw [hdump options, project_default]
    · intro hunwound
      cases (hdump {}).symm.trans hunwound
  | unwound =>
    have hdump {options : DumpOptions} (hcollectives : options.collectives = true) :
        dump options = .unwound :=
      (dump_polled dev now board hcollectives).trans (by rw [hsnapshot]; rfl)
    refine ⟨?_, fun _ => hdump, ?_⟩
    · intro full hfull
      cases (hdump rfl).symm.trans hfull
    · intro hquery
      obtain ⟨entries, hanswered⟩ := snapshot_answered dev now hquery r d
      cases hsnapshot.symm.trans hanswered

end Reading

def twoStacks : Recorder :=
  let send : Issued := { group := ⟨"0", "default"⟩, status := ⟨0⟩, name := "send" }
  let first := (Recorder.new 4 true).record ⟨5, [16, 32]⟩ { send with stop := some ⟨0⟩ }
  (first.2.record ⟨6, [48, 16]⟩ send).2

/-- Only the second entry is active. It keeps its own frames, and the table of frames keeps those of
the first. -/
theorem dump_project_twoStacks :
    let dump := fun options => ((twoStacks.read MarkerBank.device 7 (fun _ => {}) options
      ⟨[.host (some 3)]⟩).1).map (tree inlinedResolver options .text none)
    let framesOf := fun entry : Value => (entry.itemsAt "frames").filterMap Value.int?
    ∃ full shown, dump {} = .answered full ∧ dump { onlyActive := true } = .answered shown ∧
      shown = ({ onlyActive := true } : DumpOptions).project full ∧
      (full.itemsAt "entries").map framesOf = [[0, 1, 2], [3, 0, 1]] ∧
      (shown.itemsAt "entries").map framesOf = [[3, 0, 1]] ∧
      (shown.itemsAt "all_frames").length = 4 := by
  intro dump framesOf
  have hshown := (dump_project MarkerBank.device 7 (fun _ => {}) inlinedResolver
    { onlyActive := true } .text none twoStacks ⟨[.host (some 3)]⟩).1 _ rfl
  exact ⟨_, _, rfl, hshown, rfl, rfl, rfl, rfl⟩

end Dump

end RankTrace
