import RankTrace.Native.Scripted
import RankTrace.Proofs.Communicator.Enrolled
import RankTrace.Proofs.Dump.Keys

/-!
# Native diagnostics in a dump

The communicators of a registry are queried in the order of registration. Their reports go into maps
with an unspecified order, and from these into dictionaries in ascending order.
-/

namespace RankTrace

namespace Table

variable {κ ν : Type}

theorem mem_keys_iff_lookup [BEq κ] [LawfulBEq κ] {t : Table κ ν} {key : κ} :
    key ∈ t.map Prod.fst ↔ ∃ value, t.lookup key = some value := by
  constructor
  · intro h
    obtain ⟨row, hrow, rfl⟩ := List.mem_map.mp h
    cases hfound : t.lookup row.1 with
    | some value => exact ⟨value, rfl⟩
    | none =>
      have hne := List.lookup_eq_none_iff.mp hfound row hrow
      simp at hne
  · rintro ⟨value, hvalue⟩
    exact List.mem_map_of_mem (mem_of_lookup hvalue)

theorem lookup_snoc [BEq κ] [LawfulBEq κ] [DecidableEq κ] (t : Table κ ν) (row : κ × ν) (key : κ) :
    (t ++ [row]).lookup key = (t.lookup key).or (if key = row.1 then some row.2 else none) := by
  obtain ⟨k, v⟩ := row
  rw [List.lookup_append, List.lookup_cons, List.lookup_nil]
  by_cases h : key = k
  · simp [h]
  · have hne : (key == k) = false := by simpa using h
    simp [hne, h]

variable [Key κ]

theorem perm_set {t : Table κ ν} {key : κ} {value : ν} (h : key ∉ t.map Prod.fst) :
    (t.set key value).Perm ((key, value) :: t) := by
  induction t with
  | nil => exact .refl _
  | cons row rest ih =>
    obtain ⟨k, v⟩ := row
    rw [List.map_cons, List.mem_cons, not_or] at h
    rw [set, alter]
    split
    · exact .refl _
    split
    · exact ((ih h.2).cons (k, v)).trans (.swap _ _ _)
    · next hnot hnot' =>
      exact absurd (eq_of_not_before (by simpa using hnot) (by simpa using hnot')) h.1

theorem perm_ofRows {rows : List (κ × ν)} (h : (rows.map Prod.fst).Nodup) :
    (ofRows rows).Perm rows := by
  have hfold : ∀ (rows : List (κ × ν)) (t : Table κ ν), ((t ++ rows).map Prod.fst).Nodup →
      (rows.foldl (fun t row => set row.1 row.2 t) t).Perm (t ++ rows) := by
    intro rows
    induction rows with
    | nil =>
      intro t _
      rw [List.append_nil]
      exact .refl _
    | cons row rest ih =>
      intro t hkeys
      have hnew : row.1 ∉ t.map Prod.fst := by
        rw [List.map_append, List.nodup_append] at hkeys
        intro hold
        exact hkeys.2.2 row.1 hold row.1 List.mem_cons_self rfl
      have hmoved : (t.set row.1 row.2 ++ rest).Perm (t ++ row :: rest) :=
        ((perm_set hnew).append_right rest).trans List.perm_middle.symm
      exact (ih _ ((hmoved.map Prod.fst).nodup_iff.mpr hkeys)).trans hmoved
  exact hfold rows [] h

theorem Ascending.eq_of_mem_iff {t t' : Table κ ν} (h : t.Ascending) (h' : t'.Ascending)
    (hmem : ∀ row, row ∈ t ↔ row ∈ t') : t = t' := by
  have hperm : t.Perm t' :=
    (List.perm_ext_iff_of_nodup h.nodup_keys.of_map h'.nodup_keys.of_map).mpr hmem
  apply List.Perm.eq_of_pairwise _ h h' hperm
  intro row row' _ _ hbefore hbefore'
  have hloop := before_trans hbefore hbefore'
  rw [before_irrefl] at hloop
  cases hloop

theorem ascending_iff {t : Table String ν} :
    t.Ascending ↔ t.Pairwise fun row row' => row.1 < row'.1 := by
  simp only [Ascending, before, decide_eq_true_eq]

end Table

namespace Dump

def stateRows (state : Diagnostics) : List (String × Value) :=
  (Table.ofRows state).map fun row => (row.1, .str row.2)

def nativeRows (native : NativeDumps) : List (String × Value) :=
  (Table.ofRows native).map fun row => (row.1, .dict (stateRows row.2))

theorem nativeValue_eq (native : NativeDumps) : nativeValue native = .dict (nativeRows native) :=
  rfl

variable {resolver : Resolver} {options : DumpOptions} {flavor : Flavor}
  {native : Option NativeDumps} {reading : Reading}

theorem lookup_collectiveFields (entries : List Entry) :
    (collectiveFields resolver options flavor entries).lookup "nccl_comm_state" = none := by
  apply List.lookup_eq_none_iff.mpr
  intro row hrow
  have hkey : row.1 ∈ (collectiveFields resolver options flavor entries).map Prod.fst :=
    List.mem_map_of_mem hrow
  rw [collectiveFields_keys] at hkey
  rw [bne_iff_ne]
  intro heq
  rw [← heq] at hkey
  split at hkey <;> simp at hkey

theorem get_native : (tree resolver options flavor native reading).get? "nccl_comm_state" =
    (nativeFields native).lookup "nccl_comm_state" := by
  have hhead : (headFields flavor reading).lookup "nccl_comm_state" = none := rfl
  cases hentries : reading.entries with
  | none =>
    rw [tree_of_none hentries, Value.get?, List.lookup_append, hhead]
    rfl
  | some entries =>
    rw [tree_of_some hentries, Value.get?, List.lookup_append, List.lookup_append, hhead,
      lookup_collectiveFields]
    rfl

end Dump

section Interview

variable {σ : Type}

/-- What the library answers when communicators are asked for their diagnostics in turn. One that is
aborted has no handle left to ask for. -/
def Library.interview (lib : Library σ) :
    List Communicator → σ → List (String × Except Status Diagnostics)
  | [], _ => []
  | c :: rest, s =>
    match c.liveHandle? with
    | none => lib.interview rest s
    | some raw =>
      (c.commId, (lib.answer (.dump raw) s).1) ::
        lib.interview rest (lib.answer (.dump raw) s).2

/-- Every communicator with a handle is queried, for any answers. -/
theorem Library.asked_interview (lib : Library σ) (cs : List Communicator) (s : σ) :
    (lib.interview cs s).map Prod.fst =
      (cs.filter fun c => c.liveHandle?.isSome).map (·.commId) := by
  induction cs generalizing s with
  | nil => rfl
  | cons c rest ih =>
    rw [interview]
    cases hhandle : c.liveHandle? with
    | none =>
      rw [List.filter_cons_of_neg (by simp [hhandle])]
      exact ih s
    | some raw =>
      rw [List.filter_cons_of_pos (by simp [hhandle]), List.map_cons, List.map_cons, ih]

end Interview

namespace Registry

variable {σ : Type}

def reports (answers : List (String × Except Status Diagnostics)) : NativeDumps :=
  answers.filterMap fun
    | (commId, .ok (row :: rows)) => some (commId, row :: rows)
    | _ => none

def gathered (reports : NativeDumps) (dumps : NativeDumps) : NativeDumps :=
  reports.foldl (fun dumps report => setDump dumps report.1 report.2) dumps

/-- The same maps, gone through in another order. -/
def Reordered (native native' : NativeDumps) : Prop :=
  ∃ between, native.Perm between ∧
    List.Forall₂ (fun row row' => row'.1 = row.1 ∧ row.2.Perm row'.2) between native'

/-- Of each id that was reported the map has the last report, in any order. -/
structure Holds (reports native : NativeDumps) : Prop where
  keys : (native.map Prod.fst).Nodup
  ids : ∀ commId, commId ∈ native.map Prod.fst ↔ commId ∈ reports.map Prod.fst
  last : ∀ commId state, reports.reverse.lookup commId = some state →
    ∃ state', (commId, state') ∈ native ∧ state'.Perm state

structure Describes (reports : NativeDumps) (rows : List (String × Value)) : Prop where
  ascending : rows.Pairwise fun row row' => row.1 < row'.1
  ids : ∀ commId, commId ∈ rows.map Prod.fst ↔ commId ∈ reports.map Prod.fst
  last : ∀ commId state, reports.reverse.lookup commId = some state →
    ∃ fields, (commId, Value.dict fields) ∈ rows ∧
      (fields.Pairwise fun row row' => row.1 < row'.1) ∧
      fields.Perm (state.map fun row => (row.1, Value.str row.2))

variable {native native' : NativeDumps} {rows rows' : List (String × Value)}
  {said : NativeDumps} {commId : String} {state : Diagnostics}

theorem mem_reports {answers : List (String × Except Status Diagnostics)} :
    (commId, state) ∈ reports answers ↔ state ≠ [] ∧ (commId, .ok state) ∈ answers := by
  rw [reports, List.mem_filterMap]
  constructor
  · rintro ⟨⟨id, _ | ⟨_ | ⟨row, rows⟩⟩⟩, hanswer, hreport⟩ <;> cases hreport
    exact ⟨List.cons_ne_nil row rows, hanswer⟩
  · rintro ⟨hstate, hanswer⟩
    obtain ⟨row, rows, rfl⟩ := List.exists_cons_of_ne_nil hstate
    exact ⟨_, hanswer, rfl⟩

theorem collect_eq (lib : Library σ) (cs : List Communicator) (dumps : NativeDumps)
    (host : Host σ) : (collect lib cs dumps host).1 =
      gathered (reports (lib.interview cs host.library)) dumps := by
  induction cs generalizing dumps host with
  | nil => rfl
  | cons c rest ih =>
    rw [collect, Library.interview, Communicator.nativeDump]
    cases c.liveHandle? with
    | none => exact ih dumps _
    | some raw =>
      have hcall : host.call lib (.dump raw) = ((lib.answer (.dump raw) host.library).1,
        { host with
          library := (lib.answer (.dump raw) host.library).2
          calls := .dump raw :: host.calls }) := rfl
      dsimp only
      rw [hcall]
      rcases (lib.answer (.dump raw) host.library).1 with status | ⟨_ | ⟨row, rows⟩⟩
      · exact ih dumps _
      · exact ih dumps _
      · exact ih _ _

theorem nodup_setDump (h : (native.map Prod.fst).Nodup) (commId : String) (state : Diagnostics) :
    ((setDump native commId state).map Prod.fst).Nodup := by
  rw [setDump, List.map_append, List.nodup_append]
  refine ⟨h.sublist (List.filter_sublist.map Prod.fst), List.nodup_singleton _, ?_⟩
  rintro _ hmem _ hlast rfl
  obtain ⟨row, hrow, rfl⟩ := List.mem_map.mp hmem
  simp [List.mem_filter, List.mem_singleton.mp hlast] at hrow

theorem lookup_setDump (native : NativeDumps) (report : String × Diagnostics) (commId : String) :
    (setDump native report.1 report.2).lookup commId =
      (if commId = report.1 then some report.2 else none).or (native.lookup commId) := by
  rw [setDump, Table.lookup_snoc]
  by_cases h : commId = report.1
  · have hgone : (native.filter (·.1 != report.1)).lookup commId = none := by
      apply List.lookup_eq_none_iff.mpr
      intro row hrow
      have hne : row.1 ≠ report.1 := by simpa using (List.mem_filter.mp hrow).2
      simpa [h] using hne.symm
    rw [hgone, if_pos h]
    rfl
  · rw [Table.lookup_filter_ne h, if_neg h, Option.or_none]
    rfl

theorem nodup_gathered (said : NativeDumps) (h : (native.map Prod.fst).Nodup) :
    ((gathered said native).map Prod.fst).Nodup := by
  induction said generalizing native with
  | nil => exact h
  | cons report rest ih => exact ih (nodup_setDump h report.1 report.2)

/-- The last report of an id is kept. -/
theorem lookup_gathered (said native : NativeDumps) (commId : String) :
    (gathered said native).lookup commId =
      (said.reverse.lookup commId).or (native.lookup commId) := by
  induction said generalizing native with
  | nil => rfl
  | cons report rest ih =>
    rw [List.reverse_cons, Table.lookup_snoc, Option.or_assoc, ← lookup_setDump]
    exact ih _

theorem holds_gathered (said : NativeDumps) : Holds said (gathered said []) where
  keys := nodup_gathered said List.nodup_nil
  ids := by
    intro commId
    rw [Table.mem_keys_iff_lookup, lookup_gathered, List.lookup_nil, Option.or_none,
      ← Table.mem_keys_iff_lookup, List.map_reverse, List.mem_reverse]
  last := by
    intro commId state hstate
    refine ⟨state, Table.mem_of_lookup ?_, .refl _⟩
    rw [lookup_gathered, hstate]
    rfl

theorem keys_of_forall₂ (h : List.Forall₂ (fun row row' => row'.1 = row.1 ∧ row.2.Perm row'.2)
    native native') : native'.map Prod.fst = native.map Prod.fst := by
  induction h with
  | nil => rfl
  | cons hrow _ ih => rw [List.map_cons, List.map_cons, hrow.1, ih]

theorem exists_of_forall₂ (h : List.Forall₂ (fun row row' => row'.1 = row.1 ∧ row.2.Perm row'.2)
    native native') {row : String × Diagnostics} (hmem : row ∈ native) :
    ∃ row' ∈ native', row'.1 = row.1 ∧ row.2.Perm row'.2 := by
  induction h with
  | nil => cases hmem
  | cons hrow _ ih =>
    rcases List.mem_cons.mp hmem with rfl | hrest
    · exact ⟨_, List.mem_cons_self, hrow⟩
    · obtain ⟨row', hfound, hsame⟩ := ih hrest
      exact ⟨row', List.mem_cons_of_mem _ hfound, hsame⟩

/-- The order of the maps does not affect what they hold. -/
theorem Holds.reorder (h : Holds said native) (hreordered : Reordered native native') :
    Holds said native' := by
  obtain ⟨between, hperm, hrows⟩ := hreordered
  have hkeys : (native.map Prod.fst).Perm (native'.map Prod.fst) := by
    rw [keys_of_forall₂ hrows]
    exact hperm.map Prod.fst
  refine ⟨hkeys.nodup_iff.mp h.keys, ?_, ?_⟩
  · intro commId
    rw [← hkeys.mem_iff, h.ids]
  · intro commId state hstate
    obtain ⟨state', hmem, hsame⟩ := h.last commId state hstate
    obtain ⟨⟨_, found⟩, hmem', rfl, hperm'⟩ := exists_of_forall₂ hrows (hperm.mem_iff.mp hmem)
    exact ⟨found, hmem', hperm'.symm.trans hsame⟩

/-- A map that holds the reports is described by its dictionary, if keys in a report are
distinct. -/
theorem Holds.describes (h : Holds said native)
    (hsaid : ∀ report ∈ said, (report.2.map Prod.fst).Nodup) :
    Describes said (Dump.nativeRows native) := by
  have hperm := Table.perm_ofRows h.keys
  refine ⟨?_, ?_, ?_⟩
  · rw [← Table.ascending_iff]
    exact List.pairwise_map.mpr (Table.ascending_ofRows native)
  · intro commId
    rw [Dump.nativeRows, List.map_map, ← h.ids]
    exact Table.mem_keys_ofRows
  · intro commId state hstate
    obtain ⟨state', hmem, hsame⟩ := h.last commId state hstate
    have hkeys : (state'.map Prod.fst).Nodup := by
      rw [(hsame.map Prod.fst).nodup_iff]
      exact hsaid (commId, state) (List.mem_reverse.mp (Table.mem_of_lookup hstate))
    refine ⟨Dump.stateRows state', List.mem_map_of_mem (hperm.mem_iff.mpr hmem), ?_, ?_⟩
    · rw [← Table.ascending_iff]
      exact List.pairwise_map.mpr (Table.ascending_ofRows state')
    · exact ((Table.perm_ofRows hkeys).trans hsame).map _

theorem Describes.subset (h : Describes said rows) (h' : Describes said rows')
    {row : String × Value} (hrow : row ∈ rows) : row ∈ rows' := by
  have hreported : row.1 ∈ said.reverse.map Prod.fst := by
    rw [List.map_reverse, List.mem_reverse, ← h.ids]
    exact List.mem_map_of_mem hrow
  obtain ⟨state, hstate⟩ := Table.mem_keys_iff_lookup.mp hreported
  obtain ⟨fields, hmem, hfields, hperm⟩ := h.last row.1 state hstate
  obtain ⟨fields', hmem', hfields', hperm'⟩ := h'.last row.1 state hstate
  obtain rfl : fields = fields' := by
    apply Table.Ascending.eq_of_mem_iff (Table.ascending_iff.mpr hfields)
      (Table.ascending_iff.mpr hfields')
    intro field
    rw [hperm.mem_iff, hperm'.mem_iff]
  rw [(Table.ascending_iff.mpr h.ascending).eq_of_key_eq hrow hmem rfl]
  exact hmem'

theorem Describes.unique (h : Describes said rows) (h' : Describes said rows') : rows = rows' := by
  apply Table.Ascending.eq_of_mem_iff (Table.ascending_iff.mpr h.ascending)
    (Table.ascending_iff.mpr h'.ascending)
  intro row
  exact ⟨h.subset h', h'.subset h⟩

theorem gathered_eq_nil_iff (said : NativeDumps) : gathered said [] = [] ↔ said = [] := by
  constructor
  · intro hempty
    have hids : said.map Prod.fst = [] := by
      apply List.eq_nil_iff_forall_not_mem.mpr
      intro commId hreported
      rw [← (holds_gathered said).ids, hempty] at hreported
      cases hreported
    exact List.map_eq_nil_iff.mp hids
  · rintro rfl
    rfl

theorem nativeDumps_eq (lib : Library σ) (find : CommKey → Option Communicator)
    (r : Registry) (host : Host σ) :
    let said := reports (lib.interview (r.members.filterMap find) host.library)
    (r.nativeDumps lib find host).1 = if said = [] then none else some (gathered said []) := by
  intro said
  have hcollect : (collect lib (r.members.filterMap find) [] host).1 = gathered said [] :=
    collect_eq lib (r.members.filterMap find) [] host
  rcases hd : collect lib (r.members.filterMap find) [] host with ⟨dumps, next⟩
  rw [hd] at hcollect
  rw [nativeDumps, hd, ← hcollect]
  cases dumps with
  | nil => rw [if_pos ((gathered_eq_nil_iff said).mp hcollect.symm)]
  | cons row rows =>
    rw [if_neg]
    intro hempty
    rw [(gathered_eq_nil_iff said).mpr hempty] at hcollect
    cases hcollect

theorem Reordered.eq_nil_iff (h : Reordered native native') : native' = [] ↔ native = [] := by
  obtain ⟨between, hperm, hrows⟩ := h
  rw [← List.length_eq_zero_iff, ← hrows.length_eq, ← hperm.length_eq, List.length_eq_zero_iff]

/-- The row does not depend on the order of the maps or on the rest of the dump. -/
theorem get_gathered (hsaid : ∀ report ∈ said, (report.2.map Prod.fst).Nodup)
    {dumps : Option NativeDumps}
    (h : Option.Rel Reordered (if said = [] then none else some (gathered said [])) dumps)
    (resolver : Resolver) (options : DumpOptions) (flavor : Flavor) (reading : Reading) :
    (Dump.tree resolver options flavor dumps reading).get? "nccl_comm_state" =
      if said = [] then none else some (.dict (Dump.nativeRows (gathered said []))) := by
  rw [Dump.get_native]
  by_cases hnone : said = []
  · rw [if_pos hnone] at h ⊢
    cases h
    rfl
  · rw [if_neg hnone] at h ⊢
    cases h with
    | @some _ native hreordered =>
      have hholds := holds_gathered said
      have hrows : Dump.nativeRows (gathered said []) = Dump.nativeRows native :=
        (hholds.describes hsaid).unique ((hholds.reorder hreordered).describes hsaid)
      rw [hrows, ← Dump.nativeValue_eq]
      cases native with
      | nil =>
        have hempty : gathered said [] = [] := hreordered.eq_nil_iff.mp rfl
        exact absurd ((gathered_eq_nil_iff said).mp hempty) hnone
      | cons row rows => rfl

end Registry

namespace Fleet

variable {σ : Type}

/-- The diagnostics in a dump, after any history of a registry. Every member that is left is queried
as often as it was registered, unless it is aborted. The row is absent iff no answer reports
anything; otherwise it holds the last report of every id, in ascending order and independent of the
order of the maps. -/
theorem diagnostics_dumped (lib : Library σ) (host : Host σ) (events : List (FleetEvent σ)) :
    let f := (vacant host).after lib events
    let left := ((vacant host).enrolled lib events).filterMap f.find?
    let answers := lib.interview left f.host.library
    let said := Registry.reports answers
    answers.map Prod.fst = (left.filter fun c => c.liveHandle?.isSome).map (·.commId) ∧
    (∀ commId state, (commId, state) ∈ said ↔ state ≠ [] ∧ (commId, .ok state) ∈ answers) ∧
    ((∀ report ∈ said, (report.2.map Prod.fst).Nodup) →
      ∃ rows, Registry.Describes said rows ∧
        ∀ native, Option.Rel Registry.Reordered (f.nativeDumps lib).1 native →
        ∀ resolver options flavor reading,
          (Dump.tree resolver options flavor native reading).get? "nccl_comm_state" =
            if said = [] then none else some (.dict rows)) := by
  intro f left answers said
  refine ⟨lib.asked_interview left _, fun commId state => Registry.mem_reports, ?_⟩
  intro hmaps
  have hdumps : (f.nativeDumps lib).1 =
      if said = [] then none else some (Registry.gathered said []) := by
    have heq := f.registry.nativeDumps_eq lib f.find? f.host
    rw [registry_finds] at heq
    exact heq
  refine ⟨_, (Registry.holds_gathered said).describes hmaps, ?_⟩
  intro native hnative resolver options flavor reading
  rw [hdumps] at hnative
  exact Registry.get_gathered hmaps hnative resolver options flavor reading

def tellingLibrary : Library Scripted :=
  { Scripted.library with
    answer := fun call s =>
      match call with
      | .dump raw =>
        if raw.val = 0x1010 then (.error .systemError, s)
        else (.ok [("raw", toString raw.val), ("nranks", "1")], s)
      | call => Scripted.answer call s }

def newcomer (name : String) (id : Nat) : FleetEvent Scripted :=
  .make name (Communicator.create tellingLibrary .blocking 1 0 (.ofNat id) {})

/-- Two communicators have one id, one fails, one is aborted and one is dropped. -/
def mixedHistory : List (FleetEvent Scripted) :=
  [newcomer "a" 1, newcomer "failing" 2, newcomer "twin" 1, newcomer "aborted" 3,
    newcomer "gone" 4, .enroll "twin", .enroll "failing", .enroll "aborted", .enroll "gone",
    .enroll "a", .enroll "twin", .use "aborted" (Communicator.abort tellingLibrary none),
    .drop "gone"]

def idleHost : Host Scripted := { library := {}, clock := ⟨0, 0⟩ }

theorem mixedHistory_dumped :
    let f := (vacant idleHost).after tellingLibrary mixedHistory
    let left := ((vacant idleHost).enrolled tellingLibrary mixedHistory).filterMap f.find?
    let said := Registry.reports (tellingLibrary.interview left f.host.library)
    let twins := (UniqueId.ofNat 1).text
    let native : NativeDumps := [(twins, [("nranks", "1"), ("raw", "4128")])]
    said = [(twins, [("raw", "4128"), ("nranks", "1")]),
      (twins, [("raw", "4096"), ("nranks", "1")]), (twins, [("raw", "4128"), ("nranks", "1")])] ∧
    (∀ report ∈ said, (report.2.map Prod.fst).Nodup) ∧
    Option.Rel Registry.Reordered (f.nativeDumps tellingLibrary).1 (some native) ∧
    ∃ rows, Registry.Describes said rows ∧ ∀ resolver options flavor reading,
      (Dump.tree resolver options flavor (some native) reading).get? "nccl_comm_state" =
        some (.dict rows) := by
  intro f left said twins native
  have hsaid : said = [(twins, [("raw", "4128"), ("nranks", "1")]),
      (twins, [("raw", "4096"), ("nranks", "1")]),
      (twins, [("raw", "4128"), ("nranks", "1")])] := by decide +kernel
  have hmaps : ∀ report ∈ said, (report.2.map Prod.fst).Nodup := by
    rw [hsaid]
    simp
  have hdumps : (f.nativeDumps tellingLibrary).1 =
      some [(twins, [("raw", "4128"), ("nranks", "1")])] := by decide +kernel
  have hnative : Option.Rel Registry.Reordered (f.nativeDumps tellingLibrary).1 (some native) := by
    rw [hdumps]
    exact .some ⟨_, .refl _, .cons ⟨rfl, .swap _ _ _⟩ .nil⟩
  obtain ⟨_, _, hdumped⟩ := diagnostics_dumped tellingLibrary idleHost mixedHistory
  obtain ⟨rows, hrows, hget⟩ := hdumped hmaps
  refine ⟨hsaid, hmaps, hnative, rows, hrows, ?_⟩
  intro resolver options flavor reading
  rw [hget (some native) hnative resolver options flavor reading, if_neg]
  show said ≠ []
  rw [hsaid]
  exact List.cons_ne_nil _ _

end Fleet

end RankTrace
