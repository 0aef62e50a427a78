import RankTrace.Proofs.Communicator.Seats

/-!
# Communicators that were registered

A registration removes the keys of dropped members from the registry. A key belongs to one member
only, so a removed key does not come back: the registry finds the same communicators as the list of
all registrations.
-/

namespace RankTrace

/-- An event of a process with a fleet. The library and the clock may change arbitrarily in
between. -/
inductive FleetEvent (σ : Type)
  | make (name : String) (maker : Host σ → Except CommError Communicator × Host σ)
  | split (parent child : String) (color key : Int32) (config : InitConfig)
  | use (name : String) (op : Communicator → Host σ → Outcome σ Unit)
  | drop (name : String)
  | enroll (name : String)
  | collect
  | meanwhile (host : Host σ)

namespace Fleet

variable {σ α : Type}

def vacant (host : Host σ) : Fleet σ := { host }

def step (lib : Library σ) (f : Fleet σ) : FleetEvent σ → Fleet σ
  | .make name maker => (f.add lib name maker).2
  | .split parent child color key config =>
    ((f.split lib parent child color key config).map Prod.snd).getD f
  | .use name op => ((f.operate name op).map Prod.snd).getD f
  | .drop name => f.drop lib name
  | .enroll name => f.register name
  | .collect => (f.nativeDumps lib).2
  | .meanwhile host => { f with host }

def after (lib : Library σ) (f : Fleet σ) (events : List (FleetEvent σ)) : Fleet σ :=
  events.foldl (step lib) f

def enrolled? (f : Fleet σ) : FleetEvent σ → Option CommKey
  | .enroll name => (f.members.lookup name).map (·.key)
  | _ => none

def enrolled (lib : Library σ) (f : Fleet σ) : List (FleetEvent σ) → List CommKey
  | [] => []
  | event :: rest => (f.enrolled? event).toList ++ (f.step lib event).enrolled lib rest

/-- A later fleet: keys are still apart, and who was gone is gone. -/
structure Ages (f f' : Fleet σ) : Prop where
  keyed : f'.Keyed
  nextKey : f.nextKey ≤ f'.nextKey
  alive : ∀ key < f.nextKey, f'.isAlive key = true → f.isAlive key = true

variable {lib : Library σ} {f f' f'' : Fleet σ} {host : Host σ} {name : String} {c : Communicator}
  {key : CommKey} {keys : List CommKey}

theorem isAlive_iff : f.isAlive key = true ↔ ∃ row ∈ f.members, row.2.key = key := by
  rw [isAlive, find?, Option.isSome_map, List.find?_isSome]
  simp only [beq_iff_eq]

theorem Keyed.ages_refl (h : f.Keyed) : f.Ages f := ⟨h, Nat.le_refl _, fun _ _ halive => halive⟩

theorem Ages.trans (h : f.Ages f') (h' : f'.Ages f'') : f.Ages f'' where
  keyed := h'.keyed
  nextKey := Nat.le_trans h.nextKey h'.nextKey
  alive := by
    intro key hkey halive
    apply h.alive key hkey
    exact h'.alive key (Nat.lt_of_lt_of_le hkey h.nextKey) halive

theorem Ages.congr (h : f.Ages f') (hmembers : f''.members = f'.members)
    (hnext : f''.nextKey = f'.nextKey) : f.Ages f'' where
  keyed := by
    obtain ⟨hnames, hbounded, hkeys⟩ := h.keyed
    rw [← hmembers] at hnames hbounded hkeys
    rw [← hnext] at hbounded
    exact ⟨hnames, hbounded, hkeys⟩
  nextKey := hnext ▸ h.nextKey
  alive := by
    intro key hkey halive
    apply h.alive key hkey
    rwa [isAlive_iff, ← hmembers, ← isAlive_iff]

theorem Keyed.ages_update (h : f.Keyed) : f.Ages (f.update name c) where
  keyed := h.update
  nextKey := Nat.le_refl _
  alive := by
    intro key _ halive
    obtain ⟨row, hrow, rfl⟩ := isAlive_iff.mp halive
    rcases mem_update hrow with ⟨m, hmem, rfl⟩ | ⟨hmem, _⟩
    · exact isAlive_iff.mpr ⟨_, hmem, rfl⟩
    · exact isAlive_iff.mpr ⟨_, hmem, rfl⟩

theorem Keyed.ages_seat (h : f.Keyed) : f.Ages (f.seat name c) where
  keyed := h.seat
  nextKey := Nat.le_succ _
  alive := by
    intro key hkey halive
    obtain ⟨row, hrow, rfl⟩ := isAlive_iff.mp halive
    rcases h.mem_seat hrow with rfl | ⟨hmem, _⟩
    · exact absurd hkey (Nat.lt_irrefl _)
    · exact isAlive_iff.mpr ⟨row, hmem, rfl⟩

theorem Keyed.ages_filter (h : f.Keyed) (keep : String × Member → Bool) :
    f.Ages { f with members := f.members.filter keep } where
  keyed := h.filter keep
  nextKey := Nat.le_refl _
  alive := by
    intro key _ halive
    obtain ⟨row, hrow, rfl⟩ := isAlive_iff.mp halive
    exact isAlive_iff.mpr ⟨row, (List.mem_filter.mp hrow).1, rfl⟩

theorem store_eq (lib : Library σ) (name : String) (c : Communicator) (f : Fleet σ) :
    ∃ host, f.store lib name c = { f.seat name c with host } := by
  unfold store
  cases f.get? name with
  | none => exact ⟨f.host, rfl⟩
  | some old => exact ⟨_, rfl⟩

theorem Keyed.ages_store (h : f.Keyed) : f.Ages (f.store lib name c) := by
  obtain ⟨host, heq⟩ := store_eq lib name c f
  rw [heq]
  exact h.ages_seat.congr rfl rfl

theorem Keyed.ages_operate (h : f.Keyed) {op : Communicator → Host σ → Outcome σ α}
    {result : Except CommError α} (hop : f.operate name op = some (result, f')) : f.Ages f' := by
  obtain ⟨comm, _, heq⟩ := Option.map_eq_some_iff.mp hop
  cases heq
  exact h.ages_update.congr rfl rfl

theorem registry_store : (f.store lib name c).registry = f.registry := by
  obtain ⟨host, heq⟩ := store_eq lib name c f
  rw [heq]
  rfl

theorem registry_operate {op : Communicator → Host σ → Outcome σ α} {result : Except CommError α}
    (hop : f.operate name op = some (result, f')) : f'.registry = f.registry := by
  obtain ⟨comm, _, heq⟩ := Option.map_eq_some_iff.mp hop
  cases heq
  rfl

/-- An event registers the key of a member or leaves the registry unchanged. -/
theorem Keyed.step_cases (h : f.Keyed) (lib : Library σ) (event : FleetEvent σ) :
    (f.enrolled? event = none ∧ f.Ages (f.step lib event) ∧
      (f.step lib event).registry = f.registry) ∨
    ∃ key, f.enrolled? event = some key ∧ f.isAlive key = true ∧
      f.step lib event = { f with registry := f.registry.register f.isAlive key } := by
  cases event with
  | make name maker =>
    refine .inl ⟨rfl, ?_⟩
    have hhost (host : Host σ) : f.Ages { f with host } := h.ages_refl.congr rfl rfl
    rw [step, add]
    rcases maker f.host with ⟨_ | c, host⟩
    · exact ⟨hhost host, rfl⟩
    · exact ⟨(hhost host).trans (hhost host).keyed.ages_store, registry_store⟩
  | split parent child color key config =>
    refine .inl ⟨rfl, ?_⟩
    rw [step, Fleet.split]
    cases hop : f.operate parent (Communicator.split lib color key config) with
    | none => exact ⟨h.ages_refl, rfl⟩
    | some found =>
      obtain ⟨_ | c, f'⟩ := found
      · exact ⟨h.ages_operate hop, registry_operate hop⟩
      · have hparent := h.ages_operate hop
        exact ⟨hparent.trans hparent.keyed.ages_store,
          registry_store.trans (registry_operate hop)⟩
  | use name op =>
    refine .inl ⟨rfl, ?_⟩
    rw [step]
    cases hop : f.operate name op with
    | none => exact ⟨h.ages_refl, rfl⟩
    | some found => exact ⟨h.ages_operate hop, registry_operate hop⟩
  | drop name =>
    refine .inl ⟨rfl, ?_⟩
    rw [step, Fleet.drop]
    split
    · exact ⟨h.ages_refl, rfl⟩
    · exact ⟨(h.ages_filter (·.1 != name)).congr rfl rfl, rfl⟩
  | enroll name =>
    rw [step, register, enrolled?]
    cases hm : f.members.lookup name with
    | none => exact .inl ⟨rfl, h.ages_refl, rfl⟩
    | some m =>
      have halive : f.isAlive m.key = true :=
        isAlive_iff.mpr ⟨(name, m), Table.mem_of_lookup hm, rfl⟩
      exact .inr ⟨m.key, rfl, halive, rfl⟩
  | collect => exact .inl ⟨rfl, h.ages_refl.congr rfl rfl, rfl⟩
  | meanwhile host => exact .inl ⟨rfl, h.ages_refl.congr rfl rfl, rfl⟩

/-- Restricted to the members that are left, the registry lists what was registered. -/
structure Lists (keys : List CommKey) (f : Fleet σ) : Prop where
  keyed : f.Keyed
  known : ∀ key ∈ keys, key < f.nextKey
  members : ∀ key ∈ f.registry.members, key ∈ keys
  left : f.registry.members.filter f.isAlive = keys.filter f.isAlive

theorem filter_alive_of_ages (h : f.Ages f') (hknown : ∀ key ∈ keys, key < f.nextKey) :
    keys.filter f'.isAlive = (keys.filter f.isAlive).filter f'.isAlive := by
  rw [List.filter_filter]
  apply List.filter_congr
  intro key hkey
  by_cases halive : f'.isAlive key = true
  · rw [halive, h.alive key (hknown key hkey) halive]
    rfl
  · rw [Bool.not_eq_true] at halive
    rw [halive]
    rfl

theorem Lists.age (h : Lists keys f) (hages : f.Ages f')
    (hregistry : f'.registry = f.registry) : Lists keys f' where
  keyed := hages.keyed
  known := fun key hkey => Nat.lt_of_lt_of_le (h.known key hkey) hages.nextKey
  members := by
    rw [hregistry]
    exact h.members
  left := by
    rw [hregistry, filter_alive_of_ages hages fun key hkey => h.known key (h.members key hkey),
      h.left, ← filter_alive_of_ages hages h.known]

/-- A registration removes only keys of dropped members. -/
theorem Lists.register (h : Lists keys f) (halive : f.isAlive key = true) :
    Lists (keys ++ [key]) { f with registry := f.registry.register f.isAlive key } where
  keyed := { h.keyed with }
  known := by
    intro other hother
    rcases List.mem_append.mp hother with hold | hnew
    · exact h.known other hold
    · obtain rfl := List.mem_singleton.mp hnew
      obtain ⟨row, hrow, rfl⟩ := isAlive_iff.mp halive
      exact h.keyed.bounded row hrow
  members := by
    intro other hother
    rcases List.mem_append.mp hother with hold | hnew
    · exact List.mem_append_left _ (h.members other (List.mem_filter.mp hold).1)
    · exact List.mem_append_right _ hnew
  left := by
    show (f.registry.members.filter f.isAlive ++ [key]).filter f.isAlive =
      (keys ++ [key]).filter f.isAlive
    rw [List.filter_append, List.filter_append, List.filter_filter, ← h.left]
    simp only [Bool.and_self]

theorem Lists.step (h : Lists keys f) (lib : Library σ) (event : FleetEvent σ) :
    Lists (keys ++ (f.enrolled? event).toList) (f.step lib event) := by
  rcases h.keyed.step_cases lib event with
    ⟨hnone, hages, hregistry⟩ | ⟨key, hsome, halive, heq⟩
  · rw [hnone, Option.toList_none, List.append_nil]
    exact h.age hages hregistry
  · rw [hsome, heq]
    exact h.register halive

theorem Lists.after (h : Lists keys f) (lib : Library σ) (events : List (FleetEvent σ)) :
    Lists (keys ++ f.enrolled lib events) (f.after lib events) := by
  induction events generalizing f keys with
  | nil =>
    rw [enrolled, List.append_nil]
    exact h
  | cons event rest ih =>
    have hrest := ih (h.step lib event)
    rw [List.append_assoc] at hrest
    exact hrest

theorem lists_vacant (host : Host σ) : Lists [] (vacant host) where
  keyed := ⟨List.Pairwise.nil, fun _ hrow => (List.not_mem_nil hrow).elim,
    fun _ hrow => (List.not_mem_nil hrow).elim⟩
  known := fun _ hkey => (List.not_mem_nil hkey).elim
  members := fun _ hkey => (List.not_mem_nil hkey).elim
  left := rfl

theorem filterMap_find_alive (f : Fleet σ) (keys : List CommKey) :
    (keys.filter f.isAlive).filterMap f.find? = keys.filterMap f.find? := by
  induction keys with
  | nil => rfl
  | cons key rest ih =>
    by_cases halive : f.isAlive key = true
    · rw [List.filter_cons_of_pos halive, List.filterMap_cons, List.filterMap_cons, ih]
    · have hnone : f.find? key = none := by simpa [isAlive] using halive
      rw [List.filter_cons_of_neg halive, List.filterMap_cons_none hnone, ih]

/-- The registry finds the members that are left of all registered ones, in the order of
registration. -/
theorem registry_finds (lib : Library σ) (host : Host σ) (events : List (FleetEvent σ)) :
    let f := (vacant host).after lib events
    f.registry.members.filterMap f.find? =
      ((vacant host).enrolled lib events).filterMap f.find? := by
  intro f
  have h := (lists_vacant host).after lib events
  rw [List.nil_append] at h
  rw [← f.filterMap_find_alive, h.left, f.filterMap_find_alive]

end Fleet

end RankTrace
