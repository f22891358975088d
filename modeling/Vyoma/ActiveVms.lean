import Vyoma.OrderedMaps
import Vyoma.Wal

/-!
# Which VMs the log reports as active

A VM is active when its event with the greatest timestamp created or started it. The
fold of `get_active_vm_ids` keeps the event it meets first and only moves the
timestamp, so its answer is right exactly when, for every VM, the first event in key
order and the latest one agree on being active.
-/
namespace Vyoma.State
open RustText HashMap

/-- The log holds this event of the VM at this time. -/
def HasEvent (wal : Wal) (vmId : String) (ts : ℕ) (entry : WalEntry) : Prop :=
  ∃ stamp value, wal.tree[stamp ++ ":" ++ vmId]? = some value ∧
    parseUnsigned 64 stamp = some ts ∧ value.decode = entry

/-- Every key is a timestamp, a colon and a VM id, and the events of one VM have
different timestamps. -/
structure WellKeyed (wal : Wal) : Prop where
  keys : ∀ k, k ∈ wal.tree → ∃ stamp vmId ts, k = stamp ++ ":" ++ vmId ∧
    parseUnsigned 64 stamp = some ts
  distinct : ∀ vmId stamp stamp' ts, stamp ++ ":" ++ vmId ∈ wal.tree →
    stamp' ++ ":" ++ vmId ∈ wal.tree → parseUnsigned 64 stamp = some ts →
    parseUnsigned 64 stamp' = some ts → stamp = stamp'

/-- The event with the greatest timestamp of the VM. -/
def LatestEvent (wal : Wal) (vmId : String) (ts : ℕ) (entry : WalEntry) : Prop :=
  HasEvent wal vmId ts entry ∧ ∀ ts' entry', HasEvent wal vmId ts' entry' → ts' ≤ ts

/-- The event of the VM that comes first in key order. -/
def FirstEvent (wal : Wal) (vmId : String) (entry : WalEntry) : Prop :=
  ∃ stamp ts value, wal.tree[stamp ++ ":" ++ vmId]? = some value ∧
    parseUnsigned 64 stamp = some ts ∧ value.decode = entry ∧
    ∀ stamp' ts', stamp' ++ ":" ++ vmId ∈ wal.tree → parseUnsigned 64 stamp' = some ts' →
      (compare (stamp ++ ":" ++ vmId) (stamp' ++ ":" ++ vmId)).isLE

/-- Each active VM once, with its latest timestamp, and nothing else. -/
def ExactlyActive (wal : Wal) (active : List (String × ℕ)) : Prop :=
  (active.map Prod.fst).Nodup ∧ ∀ vmId ts, (vmId, ts) ∈ active ↔
    ∃ entry, LatestEvent wal vmId ts entry ∧ entry.isActive = true

/-- The event a record holds for one VM, with the timestamp read off its key. -/
def eventOf (vmId : String) (kv : String × WalEntry) : Option (WalEntry × ℕ) :=
  (splitOnce ':' kv.1).bind fun part =>
    if part.2 = vmId then some (kv.2, (parseUnsigned 64 part.1).getD 0) else none

/-- What is remembered of a VM after one more of its events. -/
def meet : Option (WalEntry × ℕ) → WalEntry × ℕ → Option (WalEntry × ℕ)
  | some (entry, ts), event => some (entry, max ts event.2)
  | none, event => some event

theorem lookup_recordLatest (m : HashMap String (WalEntry × ℕ)) (vmId : String)
    (kv : String × WalEntry) : (Wal.recordLatest m kv).lookup vmId =
      (eventOf vmId kv).toList.foldl meet (m.lookup vmId) := by
  unfold Wal.recordLatest eventOf
  cases hsplit : splitOnce ':' kv.1 with
  | none => rfl
  | some part =>
    obtain ⟨stamp, v⟩ := part
    simp only [Option.bind_some]
    by_cases hv : v = vmId
    · rw [if_pos hv, hv]
      cases hm : m.lookup vmId with
      | none => simp [meet]
      | some old =>
        obtain ⟨entry, ts⟩ := old
        simp only [Option.toList_some, List.foldl_cons, List.foldl_nil, meet]
        split_ifs with hlt
        · rw [lookup_insert, if_pos rfl, Nat.max_eq_right (Nat.le_of_lt hlt)]
        · rw [hm, Nat.max_eq_left (Nat.le_of_not_lt hlt)]
    · rw [if_neg hv]
      cases hm : m.lookup v with
      | none => simp [lookup_insert, hv]
      | some old =>
        simp only
        split_ifs
        · simp [lookup_insert, hv]
        · rfl

theorem lookup_foldl_recordLatest (vmId : String) (records : List (String × WalEntry))
    (m : HashMap String (WalEntry × ℕ)) : (records.foldl Wal.recordLatest m).lookup vmId =
      (records.filterMap (eventOf vmId)).foldl meet (m.lookup vmId) := by
  induction records generalizing m with
  | nil => rfl
  | cons kv records ih =>
    rw [List.foldl_cons, ih, lookup_recordLatest, List.filterMap_cons]
    cases eventOf vmId kv <;> rfl

/-- Once an entry is kept it stays, and its timestamp grows to the greatest one met. -/
theorem foldl_meet_some (events : List (WalEntry × ℕ)) (entry : WalEntry) (ts : ℕ) :
    ∃ last, events.foldl meet (some (entry, ts)) = some (entry, last) ∧ ts ≤ last ∧
      (∀ e ∈ events, e.2 ≤ last) ∧ (last = ts ∨ ∃ e ∈ events, e.2 = last) := by
  induction events generalizing ts with
  | nil => exact ⟨ts, rfl, Nat.le_refl ts, by simp, .inl rfl⟩
  | cons event events ih =>
    obtain ⟨last, hfold, hle, hall, hfrom⟩ := ih (max ts event.2)
    have hts : ts ≤ last := by omega
    have hevent : event.2 ≤ last := by omega
    refine ⟨last, hfold, hts, ?_, ?_⟩
    · intro e he
      obtain rfl | he := List.mem_cons.mp he
      · exact hevent
      · exact hall e he
    · obtain hmax | ⟨e, he, heq⟩ := hfrom
      · by_cases hold : last = ts
        · exact .inl hold
        · exact .inr ⟨event, List.mem_cons_self, by omega⟩
      · exact .inr ⟨e, List.mem_cons_of_mem _ he, heq⟩

theorem splitOnce_key {stamp : String} {ts : ℕ} (h : parseUnsigned 64 stamp = some ts)
    (vmId : String) : splitOnce ':' (stamp ++ ":" ++ vmId) = some (stamp, vmId) :=
  splitOnce_of_notMem (notMem_of_parseUnsigned h rfl (by decide)) vmId

section Reading

variable {wal : Wal} {vmId : String}

theorem eventOf_eq_some_iff (h : WellKeyed wal) {k : String} (hk : k ∈ wal.tree)
    {entry : WalEntry} {event : WalEntry × ℕ} : eventOf vmId (k, entry) = some event ↔
      ∃ stamp ts, k = stamp ++ ":" ++ vmId ∧ parseUnsigned 64 stamp = some ts ∧
        event = (entry, ts) := by
  obtain ⟨stamp, v, ts, rfl, hts⟩ := h.keys k hk
  simp only [eventOf, splitOnce_key hts, Option.bind_some, hts, Option.getD_some]
  constructor
  · intro he
    split_ifs at he with hv
    exact ⟨stamp, ts, by rw [hv], hts, (Option.some.inj he).symm⟩
  · intro he
    obtain ⟨stamp', ts', hkey, hts', rfl⟩ := he
    have hsplit := splitOnce_key hts v
    rw [hkey, splitOnce_key hts'] at hsplit
    obtain ⟨rfl, rfl⟩ : stamp' = stamp ∧ vmId = v := by simpa using hsplit
    rw [hts] at hts'
    rw [if_pos rfl, Option.some.inj hts']

/-- The events of one VM, in key order. -/
abbrev eventsOf (wal : Wal) (vmId : String) : List (WalEntry × ℕ) :=
  (wal.iterateWal fun _ => true).filterMap (eventOf vmId)

theorem mem_iterateWal {k : String} {entry : WalEntry} :
    (k, entry) ∈ wal.iterateWal (fun _ => true) ↔
      ∃ value, wal.tree[k]? = some value ∧ value.decode = entry := by
  simp [Wal.iterateWal, Std.ExtTreeMap.mem_toList_iff_getElem?_eq_some]

theorem mem_eventsOf (h : WellKeyed wal) {entry : WalEntry} {ts : ℕ} :
    (entry, ts) ∈ eventsOf wal vmId ↔ HasEvent wal vmId ts entry := by
  rw [eventsOf, List.mem_filterMap]
  constructor
  · intro hmem
    obtain ⟨⟨k, e⟩, hk, he⟩ := hmem
    obtain ⟨value, hvalue, hdecode⟩ := mem_iterateWal.mp hk
    have hin : k ∈ wal.tree := OrderedMaps.mem_iff_lookup.mpr ⟨value, hvalue⟩
    obtain ⟨stamp, ts', rfl, hts, hevent⟩ := (eventOf_eq_some_iff h hin).mp he
    cases hevent
    exact ⟨stamp, value, hvalue, hts, hdecode⟩
  · intro hmem
    obtain ⟨stamp, value, hvalue, hts, hdecode⟩ := hmem
    have hin : stamp ++ ":" ++ vmId ∈ wal.tree := OrderedMaps.mem_iff_lookup.mpr ⟨value, hvalue⟩
    exact ⟨(stamp ++ ":" ++ vmId, entry), mem_iterateWal.mpr ⟨value, hvalue, hdecode⟩,
      (eventOf_eq_some_iff h hin).mpr ⟨stamp, ts, rfl, hts, rfl⟩⟩

theorem ordered_iterateWal (wal : Wal) :
    (wal.iterateWal fun _ => true).Pairwise fun a b => compare a.1 b.1 = .lt := by
  unfold Wal.iterateWal
  rw [List.pairwise_map]
  exact List.Pairwise.filter _ Std.ExtTreeMap.ordered_keys_toList

/-- The head of the events of a VM comes from the first record in key order that gives one. -/
theorem eventsOf_eq_cons {event : WalEntry × ℕ} {rest : List (WalEntry × ℕ)}
    (hevents : eventsOf wal vmId = event :: rest) :
    ∃ k value, wal.tree[k]? = some value ∧ eventOf vmId (k, value.decode) = some event ∧
      ∀ k' value', wal.tree[k']? = some value' →
        (eventOf vmId (k', value'.decode)).isSome = true → (compare k k').isLE := by
  obtain ⟨before, ⟨k, e⟩, after, hrecords, hskip, hhead, _⟩ :=
    List.filterMap_eq_cons_iff.mp hevents
  have hmem : (k, e) ∈ wal.iterateWal fun _ => true := by
    rw [hrecords]
    exact List.mem_append_right _ List.mem_cons_self
  obtain ⟨value, hvalue, rfl⟩ := mem_iterateWal.mp hmem
  refine ⟨k, value, hvalue, hhead, fun k' value' hvalue' hsome => ?_⟩
  have hmem' : (k', value'.decode) ∈ wal.iterateWal fun _ => true :=
    mem_iterateWal.mpr ⟨value', hvalue', rfl⟩
  rw [hrecords] at hmem'
  obtain hbefore | hhere := List.mem_append.mp hmem'
  · rw [hskip _ hbefore] at hsome
    cases hsome
  · have hordered := ordered_iterateWal wal
    rw [hrecords, List.pairwise_append] at hordered
    obtain heq | hafter := List.mem_cons.mp hhere
    · have hkey : k' = k := congrArg Prod.fst heq
      rw [hkey]
      simp
    · have hlt : compare k k' = .lt := (List.pairwise_cons.mp hordered.2.1).1 _ hafter
      rw [hlt]
      rfl

/-- The head of the events of a VM is its first event in key order. -/
theorem firstEvent_of_eventsOf (h : WellKeyed wal) {event : WalEntry × ℕ}
    {rest : List (WalEntry × ℕ)} (hevents : eventsOf wal vmId = event :: rest) :
    FirstEvent wal vmId event.1 := by
  obtain ⟨k, value, hvalue, hhead, hfirst⟩ := eventsOf_eq_cons hevents
  have hin : k ∈ wal.tree := OrderedMaps.mem_iff_lookup.mpr ⟨value, hvalue⟩
  obtain ⟨stamp, ts, rfl, hts, rfl⟩ := (eventOf_eq_some_iff h hin).mp hhead
  refine ⟨stamp, ts, value, hvalue, hts, rfl, fun stamp' ts' hstamp' hts' => ?_⟩
  obtain ⟨value', hvalue'⟩ := OrderedMaps.mem_iff_lookup.mp hstamp'
  have hevent' : eventOf vmId (stamp' ++ ":" ++ vmId, value'.decode) = some (value'.decode, ts') :=
    (eventOf_eq_some_iff h hstamp').mpr ⟨stamp', ts', rfl, hts', rfl⟩
  refine hfirst _ value' hvalue' ?_
  rw [hevent']
  rfl

theorem FirstEvent.unique {entry entry' : WalEntry} (h : FirstEvent wal vmId entry)
    (h' : FirstEvent wal vmId entry') : entry = entry' := by
  obtain ⟨stamp, ts, value, hvalue, hts, rfl, hmin⟩ := h
  obtain ⟨stamp', ts', value', hvalue', hts', rfl, hmin'⟩ := h'
  have hle := hmin stamp' ts' (OrderedMaps.mem_iff_lookup.mpr ⟨value', hvalue'⟩) hts'
  have hge := hmin' stamp ts (OrderedMaps.mem_iff_lookup.mpr ⟨value, hvalue⟩) hts
  rw [OrderedMaps.eq_of_isLE hvalue hvalue' hle hge]

theorem LatestEvent.unique (hw : WellKeyed wal) {ts ts' : ℕ} {entry entry' : WalEntry}
    (h : LatestEvent wal vmId ts entry) (h' : LatestEvent wal vmId ts' entry') :
    ts = ts' ∧ entry = entry' := by
  have hts : ts = ts' := Nat.le_antisymm (h'.2 ts entry h.1) (h.2 ts' entry' h'.1)
  obtain ⟨stamp, value, hvalue, hparse, rfl⟩ := h.1
  obtain ⟨stamp', value', hvalue', hparse', rfl⟩ := h'.1
  have hstamp : stamp = stamp' := hw.distinct vmId stamp stamp' ts
    (OrderedMaps.mem_iff_lookup.mpr ⟨value, hvalue⟩)
    (OrderedMaps.mem_iff_lookup.mpr ⟨value', hvalue'⟩) hparse (hts ▸ hparse')
  rw [hstamp, hvalue'] at hvalue
  rw [Option.some.inj hvalue]
  exact ⟨hts, rfl⟩

theorem lookup_latest_eq (wal : Wal) (vmId : String) :
    (wal.latest fun _ => true).lookup vmId = (eventsOf wal vmId).foldl meet none := by
  rw [Wal.latest, lookup_foldl_recordLatest, AList.lookup_empty]

/-- With at least one event, the map holds its first entry and its latest timestamp. -/
theorem lookup_latest_cons (h : WellKeyed wal) {event : WalEntry × ℕ}
    {rest : List (WalEntry × ℕ)} (hevents : eventsOf wal vmId = event :: rest) :
    ∃ last entry, (wal.latest fun _ => true).lookup vmId = some (event.1, last) ∧
      LatestEvent wal vmId last entry := by
  obtain ⟨last, hfold, hle, hall, hfrom⟩ := foldl_meet_some rest event.1 event.2
  have hlookup : (wal.latest fun _ => true).lookup vmId = some (event.1, last) := by
    rw [lookup_latest_eq, hevents]
    exact hfold
  have hbound : ∀ ts entry, HasEvent wal vmId ts entry → ts ≤ last := by
    intro ts entry hhas
    have hmem := (mem_eventsOf h).mpr hhas
    rw [hevents] at hmem
    obtain heq | hmem := List.mem_cons.mp hmem
    · rw [← heq] at hle
      exact hle
    · exact hall _ hmem
  have hreached : ∃ e ∈ eventsOf wal vmId, e.2 = last := by
    rw [hevents]
    obtain hfirst | ⟨e, he, hlast⟩ := hfrom
    · exact ⟨event, List.mem_cons_self, hfirst.symm⟩
    · exact ⟨e, List.mem_cons_of_mem _ he, hlast⟩
  obtain ⟨⟨e, t⟩, he, rfl⟩ := hreached
  exact ⟨t, e, hlookup, (mem_eventsOf h).mp he, hbound⟩

/-- What the map holds for a VM, in terms of its events. -/
theorem lookup_latest_iff (h : WellKeyed wal) {entry : WalEntry} {ts : ℕ} :
    (wal.latest fun _ => true).lookup vmId = some (entry, ts) ↔
      FirstEvent wal vmId entry ∧ ∃ entry', LatestEvent wal vmId ts entry' := by
  cases hevents : eventsOf wal vmId with
  | nil =>
    have hnone : (wal.latest fun _ => true).lookup vmId = none := by
      rw [lookup_latest_eq, hevents]
      rfl
    refine iff_of_false (by simp [hnone]) (fun hboth => ?_)
    obtain ⟨_, entry', hlatest⟩ := hboth
    have hmem := (mem_eventsOf h).mpr hlatest.1
    rw [hevents] at hmem
    cases hmem
  | cons event rest =>
    obtain ⟨last, entry', hlookup, hlatest⟩ := lookup_latest_cons h hevents
    have hfirst := firstEvent_of_eventsOf h hevents
    rw [hlookup, Option.some.injEq, Prod.mk.injEq]
    constructor
    · intro heq
      obtain ⟨rfl, rfl⟩ := heq
      exact ⟨hfirst, entry', hlatest⟩
    · intro hboth
      obtain ⟨hfirst', entry'', hlatest'⟩ := hboth
      exact ⟨hfirst.unique hfirst', (hlatest.unique h hlatest').1⟩

end Reading

/-- For every VM, the first event in key order is active exactly when the latest is. -/
def FirstAgreesWithLatest (wal : Wal) : Prop :=
  ∀ vmId first ts last, FirstEvent wal vmId first → LatestEvent wal vmId ts last →
    (first.isActive = true ↔ last.isActive = true)

theorem mem_getActiveVmIds {wal : Wal} {order : Traversal String (WalEntry × ℕ)}
    {readOk : String → Bool} {vmId : String} {ts : ℕ} :
    (vmId, ts) ∈ wal.getActiveVmIds readOk order ↔
      ∃ entry, (wal.latest readOk).lookup vmId = some (entry, ts) ∧ entry.isActive = true := by
  have hsame := order.sameContents (wal.latest readOk)
  simp only [Wal.getActiveVmIds, List.mem_map, List.mem_filter, (hsame.pairs).mem_iff]
  constructor
  · intro h
    obtain ⟨⟨v, entry, t⟩, ⟨hmem, hactive⟩, heq⟩ := h
    cases heq
    exact ⟨entry, mem_pairs.mp hmem, hactive⟩
  · intro h
    obtain ⟨entry, hlookup, hactive⟩ := h
    exact ⟨(vmId, entry, ts), ⟨mem_pairs.mpr hlookup, hactive⟩, rfl⟩

theorem getActiveVmIds_nodup (wal : Wal) (readOk : String → Bool)
    (order : Traversal String (WalEntry × ℕ)) :
    ((wal.getActiveVmIds readOk order).map Prod.fst).Nodup := by
  have hkeys : ((order.visit (wal.latest readOk)).pairs.map Prod.fst).Nodup := by
    rw [keys_pairs]
    exact AList.keys_nodup _
  have hsub : List.Sublist ((wal.getActiveVmIds readOk order).map Prod.fst)
      ((order.visit (wal.latest readOk)).pairs.map Prod.fst) := by
    rw [Wal.getActiveVmIds, List.map_map]
    exact List.filter_sublist.map _
  exact hkeys.sublist hsub

/-- Whatever order the map is traversed in, the answer is exact if and only if first
and latest events agree for every VM. -/
theorem getActiveVmIds_exactlyActive_iff (wal : Wal) (h : WellKeyed wal)
    (order : Traversal String (WalEntry × ℕ)) :
    ExactlyActive wal (wal.getActiveVmIds (fun _ => true) order) ↔ FirstAgreesWithLatest wal := by
  have hanswer : ∀ vmId ts, (vmId, ts) ∈ wal.getActiveVmIds (fun _ => true) order ↔
      ∃ first, (FirstEvent wal vmId first ∧ ∃ last, LatestEvent wal vmId ts last) ∧
        first.isActive = true := by
    intro vmId ts
    simp only [mem_getActiveVmIds, lookup_latest_iff h]
  constructor
  · intro hexact vmId first ts last hfirst hlast
    have hiff := (hanswer vmId ts).symm.trans (hexact.2 vmId ts)
    constructor
    · intro hactive
      obtain ⟨last', hlast', hactive'⟩ := hiff.mp ⟨first, ⟨hfirst, last, hlast⟩, hactive⟩
      rwa [(hlast.unique h hlast').2]
    · intro hactive
      obtain ⟨first', ⟨hfirst', _⟩, hactive'⟩ := hiff.mpr ⟨last, hlast, hactive⟩
      rwa [hfirst.unique hfirst']
  · intro hagree
    refine ⟨getActiveVmIds_nodup wal _ order, fun vmId ts => ?_⟩
    rw [hanswer]
    constructor
    · intro hmem
      obtain ⟨first, ⟨hfirst, last, hlast⟩, hactive⟩ := hmem
      exact ⟨last, hlast, (hagree vmId first ts last hfirst hlast).mp hactive⟩
    · intro hmem
      obtain ⟨last, hlast, hactive⟩ := hmem
      have hsome := (mem_eventsOf h).mpr hlast.1
      obtain ⟨event, rest, hevents⟩ := List.exists_cons_of_ne_nil (List.ne_nil_of_mem hsome)
      have hfirst := firstEvent_of_eventsOf h hevents
      exact ⟨event.1, ⟨hfirst, last, hlast⟩, (hagree vmId event.1 ts last hfirst hlast).mpr hactive⟩

/-- Two events of one VM, at times 1 and 2. -/
def twoEvents (first last : WalEntry) : Wal where
  tree := (Std.ExtTreeMap.insert ∅ "1:vm-1" (.event first)).insert "2:vm-1" (.event last)

theorem twoEvents_stamp {first last : WalEntry} {stamp vmId : String} {ts : ℕ}
    (hmem : stamp ++ ":" ++ vmId ∈ (twoEvents first last).tree)
    (hts : parseUnsigned 64 stamp = some ts) :
    stamp = "1" ∧ ts = 1 ∨ stamp = "2" ∧ ts = 2 := by
  have hsplit := splitOnce_key hts vmId
  simp only [twoEvents, OrderedMaps.mem_insert_iff, Std.ExtTreeMap.not_mem_empty, or_false] at hmem
  obtain hkey | hkey := hmem
  · rw [← hkey] at hsplit
    have hparts : splitOnce ':' "2:vm-1" = some ("2", "vm-1") := by decide
    obtain ⟨rfl, rfl⟩ : "2" = stamp ∧ "vm-1" = vmId := by simpa [hparts] using hsplit
    have htwo : parseUnsigned 64 "2" = some 2 := by decide
    exact .inr ⟨rfl, by simpa [htwo] using hts.symm⟩
  · rw [← hkey] at hsplit
    have hparts : splitOnce ':' "1:vm-1" = some ("1", "vm-1") := by decide
    obtain ⟨rfl, rfl⟩ : "1" = stamp ∧ "vm-1" = vmId := by simpa [hparts] using hsplit
    have hone : parseUnsigned 64 "1" = some 1 := by decide
    exact .inl ⟨rfl, by simpa [hone] using hts.symm⟩

theorem twoEvents_wellKeyed (first last : WalEntry) : WellKeyed (twoEvents first last) := by
  constructor
  · intro k hk
    simp only [twoEvents, OrderedMaps.mem_insert_iff, Std.ExtTreeMap.not_mem_empty, or_false] at hk
    obtain rfl | rfl := hk
    · exact ⟨"2", "vm-1", 2, by decide, by decide⟩
    · exact ⟨"1", "vm-1", 1, by decide, by decide⟩
  · intro vmId stamp stamp' ts hmem hmem' hts hts'
    obtain ⟨rfl, rfl⟩ | ⟨rfl, rfl⟩ := twoEvents_stamp hmem hts
    · obtain ⟨rfl, _⟩ | ⟨_, hne⟩ := twoEvents_stamp hmem' hts'
      · rfl
      · omega
    · obtain ⟨_, hne⟩ | ⟨rfl, _⟩ := twoEvents_stamp hmem' hts'
      · omega
      · rfl

theorem twoEvents_entry {first last entry : WalEntry} {key : String} {value : WalValue}
    (hvalue : (twoEvents first last).tree[key]? = some value) (hdecode : value.decode = entry) :
    entry = first ∨ entry = last := by
  simp only [twoEvents, OrderedMaps.lookup_insert] at hvalue
  split_ifs at hvalue
  · cases hvalue
    exact .inr hdecode.symm
  · cases hvalue
    exact .inl hdecode.symm
  · simp at hvalue

/-- A VM that is created and then started is reported as active, exactly. -/
theorem created_then_started_exactlyActive :
    ExactlyActive (twoEvents (.vmCreate "vm-1" 1) (.vmStart "vm-1" 2))
      ((twoEvents (.vmCreate "vm-1" 1) (.vmStart "vm-1" 2)).getActiveVmIds
        (fun _ => true) (Traversal.inOrder _ _)) := by
  apply (getActiveVmIds_exactlyActive_iff _ (twoEvents_wellKeyed _ _) (Traversal.inOrder _ _)).mpr
  intro vmId first ts last hfirst hlast
  obtain ⟨stamp, t, value, hvalue, _, hdecode, _⟩ := hfirst
  obtain ⟨stamp', value', hvalue', _, hdecode'⟩ := hlast.1
  obtain rfl | rfl := twoEvents_entry hvalue hdecode
  · obtain rfl | rfl := twoEvents_entry hvalue' hdecode' <;> simp [WalEntry.isActive]
  · obtain rfl | rfl := twoEvents_entry hvalue' hdecode' <;> simp [WalEntry.isActive]

/-- A VM that is created and then stopped is still reported as active. -/
theorem created_then_stopped_reported_active :
    WellKeyed (twoEvents (.vmCreate "vm-1" 1) (.vmStop "vm-1" 2)) ∧
      ¬ ExactlyActive (twoEvents (.vmCreate "vm-1" 1) (.vmStop "vm-1" 2))
        ((twoEvents (.vmCreate "vm-1" 1) (.vmStop "vm-1" 2)).getActiveVmIds
          (fun _ => true) (Traversal.inOrder _ _)) := by
  have hkeyed := twoEvents_wellKeyed (.vmCreate "vm-1" 1) (.vmStop "vm-1" 2)
  refine ⟨hkeyed, fun hexact => ?_⟩
  have hreported : ("vm-1", 2) ∈ (twoEvents (.vmCreate "vm-1" 1) (.vmStop "vm-1" 2)).getActiveVmIds
      (fun _ => true) (Traversal.inOrder _ _) := by decide
  obtain ⟨entry, hlatest, hactive⟩ := (hexact.2 "vm-1" 2).mp hreported
  have hmem := (mem_eventsOf hkeyed).mpr hlatest.1
  have hevents : eventsOf (twoEvents (.vmCreate "vm-1" 1) (.vmStop "vm-1" 2)) "vm-1" =
      [(.vmCreate "vm-1" 1, 1), (.vmStop "vm-1" 2, 2)] := by decide
  rw [hevents] at hmem
  simp only [List.mem_cons, Prod.mk.injEq, List.not_mem_nil, or_false] at hmem
  obtain ⟨_, hne⟩ | ⟨rfl, _⟩ := hmem
  · omega
  · cases hactive

end Vyoma.State
