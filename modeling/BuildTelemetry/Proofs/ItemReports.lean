import BuildTelemetry.Proofs.Arity
import BuildTelemetry.Proofs.ByteOrder
import BuildTelemetry.Proofs.Clock
import BuildTelemetry.Proofs.Floats
import BuildTelemetry.Proofs.JobFamilies
import BuildTelemetry.Proofs.Scaling

/-!
# Reports of items

Storage and executors are reported item by item. An item goes to one list of label values, its key,
and says something of some quantities. Items may share a key.

1. What a gauge has to show for some items (`ItemReport.Lists`): one sample for each key under which
   an item says something of the quantity, with what the last of these items says.
2. The reports of directories, jobs, file stores and executors, gauge by gauge.
3. What one item leaves for a gauge (`recordingsFor_item`), what all items leave
   (`recordingsFor_items`), and that the meter of the gauge then shows them
   (`ItemReport.lists_itemMeter`).
4. The families of a report show its items (`ItemReport.shows_storagePartFamilies`), so those of the
   storage and of the executors do (`items_reported`).
-/

namespace BuildTelemetry

/-! ## 1. What gauges show -/

/-- A gauge for a quantity that items may say something of. -/
structure ItemGauge (α : Type) where
  /-- The name behind the namespace and the subsystem. -/
  name : String
  /-- The item says something of the quantity. -/
  Reports : α → Prop
  /-- The value is what the item says. -/
  Shows : α → Float → Prop

/-- The gauges of a report, and the label values that its items go to. -/
structure ItemReport (α : Type) where
  labelNames : List String
  key : α → List String
  gauges : List (ItemGauge α)

namespace ItemReport

variable {α : Type}

/-- Of the items under a key this is the last one that says something of a quantity. -/
def IsLast (r : ItemReport α) (items : List α) (g : ItemGauge α) (key : List String)
    (item : α) : Prop :=
  r.key item = key ∧ g.Reports item ∧ ∃ before after, items = before ++ item :: after ∧
    ∀ later ∈ after, r.key later = key → ¬g.Reports later

/-- A family shows what items say of the quantity of a gauge. -/
structure Lists (r : ItemReport α) (items : List α) (g : ItemGauge α) (f : MetricFamily) :
    Prop where
  labelled : ∀ x ∈ f.samples, x.name = f.name ∧ x.labelNames = r.labelNames
  listed : ∀ key, (∃ x ∈ f.samples, x.labelValues = key) ↔
    ∃ item ∈ items, r.key item = key ∧ g.Reports item
  last : ∀ x ∈ f.samples, ∃ item, r.IsLast items g x.labelValues item ∧ g.Shows item x.value
  /-- No label values come twice. -/
  ordered : (f.samples.map Sample.labelValues).Pairwise BytesBefore

/-- The families of a report are those of its gauges that are not suppressed, in their order, and
they show its items. -/
def Shows (r : ItemReport α) (s : Settings) (items : List α) (families : List MetricFamily) :
    Prop :=
  List.Forall₂ (fun g f => f.name = s.nameSpace ++ "_jenkins_" ++ g.name ∧ r.Lists items g f)
    (r.gauges.filter fun g => s.policy.allowsMetric (s.nameSpace ++ "_jenkins_" ++ g.name)) families

end ItemReport

/-! ## 2. The reports -/

/-- Usage is measured in KiB and shown in bytes, by the float next to their whole number. -/
def usageGauge {α : Type} (name : String) (usageKiB : α → Option UInt64) : ItemGauge α :=
  ⟨name, fun item => (usageKiB item).isSome,
    fun item v => ∃ kib, usageKiB item = some kib ∧ v = (kib.toNat * 1024).toFloat⟩

def fileCountGauge : ItemGauge DirectoryUsage :=
  ⟨"disk_usage_file_count", fun item => item.fileCount.isSome,
    fun item v => ∃ count, item.fileCount = some count ∧ v = count.toFloat⟩

def directoryReport : ItemReport DirectoryUsage where
  labelNames := ["file_store", "directory"]
  key item := [item.fileStore, item.directory]
  gauges := [usageGauge "disk_usage_bytes" DirectoryUsage.usageKiB, fileCountGauge]

def jobUsageReport : ItemReport JobUsage where
  labelNames := ["file_store", "jobName", "url"]
  key item := [item.fileStore, item.jobName, item.url]
  gauges := [usageGauge "job_usage_bytes" JobUsage.usageKiB]

/-- Every file store says something of each of its sizes, if only that it cannot be read. -/
def storeGauge (name : String) (size : FileStore → Option UInt64) : ItemGauge FileStore :=
  ⟨name, fun _ => True, fun store v =>
    (v.isNaN ↔ size store = none) ∧ ∀ bytes, size store = some bytes → v = bytes.toFloat⟩

def storeReport : ItemReport FileStore where
  labelNames := ["file_store"]
  key store := [store.name]
  gauges :=
    [storeGauge "file_store_available_bytes" FileStore.usable,
      storeGauge "file_store_capacity_bytes" FileStore.total]

def loadGauge (name : String) (count : ExecutorLoad → UInt64) : ItemGauge ExecutorLoad :=
  ⟨name, fun _ => True, fun load v => v = (count load).toFloat⟩

def executorReport : ItemReport ExecutorLoad where
  labelNames := ["label"]
  key load := [load.label]
  gauges :=
    [loadGauge "executors_available" ExecutorLoad.available,
      loadGauge "executors_busy" ExecutorLoad.busy,
      loadGauge "executors_connecting" ExecutorLoad.connecting,
      loadGauge "executors_defined" ExecutorLoad.defined,
      loadGauge "executors_idle" ExecutorLoad.idle,
      loadGauge "executors_online" ExecutorLoad.online,
      loadGauge "executors_queue_length" ExecutorLoad.queueLength]

/-! ## 3. Meters -/

section Items

variable {α : Type} {kind : MetricKind} {entity : α → Entity} {key : α → List String}
  {value? : α → Option Float} {items : List α}

/-- What an item leaves for a gauge that may take a value from it. -/
def itemRecording (kind : MetricKind) (key : α → List String) (value? : α → Option Float)
    (item : α) : Option Recording :=
  (value? item).map fun v => ⟨⟨kind, none⟩, key item, ⟨[], some v⟩⟩

theorem mem_itemRecordings {r : Recording} :
    r ∈ items.filterMap (itemRecording kind key value?) ↔
      ∃ item ∈ items, ∃ v, value? item = some v ∧ r = ⟨⟨kind, none⟩, key item, ⟨[], some v⟩⟩ := by
  simp only [itemRecording, List.mem_filterMap, Option.map_eq_some_iff, @eq_comm _ r]

section Loop

variable {meters : List MeterId} (hnodup : meters.Nodup) (hmem : ⟨kind, none⟩ ∈ meters)
  (hhealthy : ∀ item, (entity item).Healthy)
  (hmeasure : ∀ item, kind.measure 0 (entity item) = .ofReading (.ok (value? item)))
include hnodup hmem hhealthy hmeasure

/-- One item leaves its value, or nothing. -/
theorem recordingsFor_item (item : α) :
    recordingsFor ⟨kind, none⟩ (recordEntity 0 meters (entity item) (key item)).notes =
      (itemRecording kind key value? item).toList := by
  rw [recordingsFor_recordEntity hnodup hmem
    fun meter _ => (hhealthy item).result_measure 0 meter.kind, hmeasure, itemRecording]
  cases value? item <;> rfl

/-- The items leave their values one after the other. -/
theorem recordingsFor_items :
    recordingsFor ⟨kind, none⟩
        (Journal.each (fun item => recordEntity 0 meters (entity item) (key item)) items).notes =
      items.filterMap (itemRecording kind key value?) := by
  have hresult (item : α) : (recordEntity 0 meters (entity item) (key item)).result = .ok () := by
    rw [recordEntity_eq fun meter _ => (hhealthy item).result_measure 0 meter.kind]
  rw [Journal.notes_each fun item _ => hresult item, recordingsFor_flatMap,
    List.filterMap_eq_flatMap_toList]
  exact List.flatMap_congr fun item _ => recordingsFor_item hnodup hmem hhealthy hmeasure item

end Loop

theorem valuesUnder_items (values : List String) :
    Recording.valuesUnder values (items.filterMap (itemRecording kind key value?)) =
      items.filterMap fun item => if key item = values then value? item else none := by
  rw [Recording.valuesUnder, Recording.under, List.filter_filterMap, List.filterMap_filterMap]
  congr 1
  funext item
  cases hvalue : value? item with
  | none => simp [itemRecording, hvalue]
  | some v =>
    by_cases hkey : key item = values <;>
      simp [itemRecording, hvalue, Recording.key, hkey, Option.filter_some]

/-- The last value under a key is that of the last item there that has one. An item without a value
takes nothing away. -/
theorem getLast?_valuesUnder_items {values : List String} {v : Float} :
    (Recording.valuesUnder values (items.filterMap (itemRecording kind key value?))).getLast? =
        some v ↔
      ∃ before item after, items = before ++ item :: after ∧ key item = values ∧
        value? item = some v ∧ ∀ later ∈ after, key later = values → value? later = none := by
  -- the last value is the first one that the reversed items give
  rw [valuesUnder_items, List.getLast?_filterMap, List.findSome?_eq_some_iff]
  constructor
  · rintro ⟨after, item, before, hitems, hitem, hafter⟩
    obtain ⟨hkey, hvalue⟩ : key item = values ∧ value? item = some v := by
      simpa using hitem
    refine ⟨before.reverse, item, after.reverse, ?_, hkey, hvalue, fun later hlater hsame => ?_⟩
    · simpa using congrArg List.reverse hitems
    · simpa [hsame] using hafter later (List.mem_reverse.mp hlater)
  · rintro ⟨before, item, after, rfl, hkey, hvalue, hafter⟩
    refine ⟨after.reverse, item, before.reverse, by simp, by simp [hkey, hvalue], ?_⟩
    intro later hlater
    simpa using hafter later (List.mem_reverse.mp hlater)

variable {s : Settings} {names : List String}

/-- The meter of a gauge behind what items leave for it. -/
def itemMeter (s : Settings) (kind : MetricKind) (names : List String) (key : α → List String)
    (value? : α → Option Float) (items : List α) : Meter :=
  (s.freshMeter ⟨⟨kind, none⟩, names⟩).record (items.filterMap (itemRecording kind key value?))

theorem name_itemMeter :
    (itemMeter s kind names key value? items).descriptor.name =
      kind.exposedName s.nameSpace none := by
  rw [itemMeter, Meter.descriptor_record]
  rfl

/-- The label sets are the keys of the items that have a value. -/
theorem isSome_get?_itemMeter {values : List String} :
    ((itemMeter s kind names key value? items).series.get? values).isSome ↔
      ∃ item ∈ items, key item = values ∧ (value? item).isSome := by
  rw [itemMeter, Settings.freshMeter, Meter.isSome_get?_record_new]
  constructor
  · rintro ⟨r, hr, rfl⟩
    obtain ⟨item, hitem, v, hvalue, rfl⟩ := mem_itemRecordings.mp hr
    exact ⟨item, hitem, (List.append_nil _).symm, by rw [hvalue]; rfl⟩
  · rintro ⟨item, hitem, rfl, hvalue⟩
    obtain ⟨v, hv⟩ := Option.isSome_iff_exists.mp hvalue
    exact ⟨_, mem_itemRecordings.mpr ⟨item, hitem, v, hv, rfl⟩, List.append_nil _⟩

theorem mem_samples_itemMeter (htype : kind.type = .gauge) {x : Sample} :
    x ∈ (itemMeter s kind names key value? items).family.samples ↔
      ∃ before item after v, items = before ++ item :: after ∧ value? item = some v ∧
        (∀ later ∈ after, key later = key item → value? later = none) ∧
          x = ⟨kind.exposedName s.nameSpace none, names.zip (key item), v⟩ := by
  have hvalues : ∀ r ∈ items.filterMap (itemRecording kind key value?), r.mark.value.isSome := by
    intro r hr
    obtain ⟨item, -, v, -, rfl⟩ := mem_itemRecordings.mp hr
    rfl
  rw [itemMeter, Meter.mem_samples_gauge rfl (fresh_gauge htype) hvalues]
  simp only [getLast?_valuesUnder_items]
  constructor
  · rintro ⟨_, v, ⟨before, item, after, rfl, rfl, hvalue, hafter⟩, rfl⟩
    exact ⟨before, item, after, v, rfl, hvalue, hafter, rfl⟩
  · rintro ⟨before, item, after, v, rfl, hvalue, hafter, rfl⟩
    exact ⟨_, v, ⟨before, item, after, rfl, rfl, hvalue, hafter⟩, rfl⟩

theorem labelValues_itemMeter (hkey : ∀ item, (key item).length = names.length)
    (htype : kind.type = .gauge) :
    (itemMeter s kind names key value? items).family.samples.map Sample.labelValues =
      (itemMeter s kind names key value? items).series.cells.map Prod.fst := by
  refine Meter.labelValues_samples_gauge (fresh_gauge htype) rfl ?_
  refine (Meter.sized_new _ _ _ _).record fun r hr => ?_
  obtain ⟨item, -, v, -, rfl⟩ := mem_itemRecordings.mp hr
  rw [Recording.key, List.append_nil, hkey]
  rfl

/-- The meter of a gauge shows what the items say, if its metric takes a value from the items that
say something, and this value. -/
theorem ItemReport.lists_itemMeter {r : ItemReport α} {g : ItemGauge α}
    (hkey : ∀ item, (r.key item).length = r.labelNames.length) (htype : kind.type = .gauge)
    (hreports : ∀ item, g.Reports item ↔ (value? item).isSome)
    (hshows : ∀ item v, value? item = some v → g.Shows item v) :
    r.Lists items g (itemMeter s kind r.labelNames r.key value? items).family where
  labelled x hx := by
    obtain ⟨_, item, _, v, -, -, -, rfl⟩ := (mem_samples_itemMeter htype).mp hx
    exact ⟨name_itemMeter.symm, List.map_fst_zip (hkey item).ge⟩
  listed values := by
    simp only [hreports]
    rw [← List.mem_map, labelValues_itemMeter hkey htype, Series.mem_keys, isSome_get?_itemMeter]
  last x hx := by
    obtain ⟨before, item, after, v, hitems, hvalue, hafter, rfl⟩ :=
      (mem_samples_itemMeter htype).mp hx
    have hvalues : (r.labelNames.zip (r.key item)).map Prod.snd = r.key item :=
      List.map_snd_zip (hkey item).le
    rw [Sample.labelValues, hvalues]
    refine ⟨item, ⟨rfl, ?_, before, after, hitems, fun later hlater hsame => ?_⟩,
      hshows item v hvalue⟩
    · rw [hreports, hvalue]
      rfl
    · rw [hreports, hafter later hlater hsame]
      exact Bool.false_ne_true
  ordered := by
    rw [labelValues_itemMeter hkey htype, List.pairwise_map]
    exact (Series.sorted _).imp lt_iff_bytesBefore.mp

end Items

/-! ## 4. Families -/

theorem MetricKind.qualifiedName_eq (kind : MetricKind) (nameSpace : String) :
    kind.qualifiedName nameSpace = nameSpace ++ "_jenkins_" ++ kind.name := by
  have hplace : "_jenkins_" = "_" ++ (subsystem ++ "_") := by decide
  simp only [qualifiedName, hplace, String.append_assoc]

/-- A metric without a group is exposed under its qualified name. -/
theorem MetricKind.exposedName_eq {kind : MetricKind} (h : kind.group = none)
    (nameSpace : String) :
    kind.exposedName nameSpace none = nameSpace ++ "_jenkins_" ++ kind.name := by
  rw [← kind.qualifiedName_eq, exposedName, h]
  exact congrArg (· ++ "_" ++ kind.name) String.append_empty

/-- A metric is that of a gauge: it takes a value from the items that say something of the quantity,
and this value is what they say. -/
structure ItemGauge.MeasuredAs {α : Type} (g : ItemGauge α) (entity : α → Entity)
    (kind : MetricKind) : Prop where
  name : g.name = kind.name
  group : kind.group = none
  type : kind.type = .gauge
  measured : ∃ value? : α → Option Float,
    (∀ item, kind.measure 0 (entity item) = .ofReading (.ok (value? item))) ∧
      (∀ item, g.Reports item ↔ (value? item).isSome) ∧
        ∀ item v, value? item = some v → g.Shows item v

/-- What a report shows of its items, if each of its gauges has a metric. -/
theorem ItemReport.shows_storagePartFamilies {α : Type} (r : ItemReport α) (kinds : List MetricKind)
    (entity : α → Entity) (record : List MeterId → α → Recorder)
    (hrecord : ∀ meters item, record meters item = recordEntity 0 meters (entity item) (r.key item))
    (hhealthy : ∀ item, (entity item).Healthy)
    (hkey : ∀ item, (r.key item).length = r.labelNames.length) (hnodup : kinds.Nodup)
    (hgauges : List.Forall₂ (fun g kind => g.MeasuredAs entity kind) r.gauges kinds)
    (s : Settings) (items : List α) :
    r.Shows s items (storagePartFamilies s (s.planFor kinds r.labelNames) record items) := by
  have hallowed : List.Forall₂ (fun g kind => g.MeasuredAs entity kind)
      (r.gauges.filter fun g => s.policy.allowsMetric (s.nameSpace ++ "_jenkins_" ++ g.name))
      (kinds.filter s.allows) := by
    refine List.rel_filter (fun g kind h => ?_) hgauges
    change s.policy.allowsMetric (_ ++ g.name) ↔ s.allows kind
    rw [h.name, Settings.allows, kind.qualifiedName_eq]
  have hplan : (s.planFor kinds r.labelNames).map PlannedMeter.meter =
      (kinds.filter s.allows).map (⟨·, none⟩) := List.map_map
  have hids : ((kinds.filter s.allows).map (⟨·, none⟩ : MetricKind → MeterId)).Nodup :=
    (hnodup.filter _).map fun _ _ h => congrArg MeterId.kind h
  have hrecorder (meters : List MeterId) :
      record meters = fun item => recordEntity 0 meters (entity item) (r.key item) :=
    funext (hrecord meters)
  unfold ItemReport.Shows storagePartFamilies Settings.meters
  rw [hplan, hrecorder, Settings.planFor, List.map_map, List.map_map, List.forall₂_map_right_iff]
  refine List.forall₂_iff_zip.mpr ⟨hallowed.length_eq, fun {g kind} hmem => ?_⟩
  have h := (List.forall₂_iff_zip.mp hallowed).2 hmem
  obtain ⟨value?, hmeasure, hreports, hshows⟩ := h.measured
  have hkind : (⟨kind, none⟩ : MeterId) ∈ (kinds.filter s.allows).map (⟨·, none⟩) :=
    List.mem_map_of_mem (List.of_mem_zip hmem).2
  have hrecorded : recordingsFor ⟨kind, none⟩ _ =
      items.filterMap (itemRecording kind r.key value?) :=
    recordingsFor_items hids hkind hhealthy hmeasure
  simp only [Function.comp_apply, hrecorded]
  refine ⟨?_, ItemReport.lists_itemMeter hkey h.type hreports hshows⟩
  rw [h.name, ← MetricKind.exposedName_eq h.group]
  exact name_itemMeter

theorem measuredAs_usage {α : Type} (kind : MetricKind) {entity : α → Entity}
    {usageKiB : α → Option UInt64} (hgroup : kind.group = none) (htype : kind.type = .gauge)
    (hmeasure : ∀ item, kind.measure 0 (entity item) =
      .ofReading (.ok ((usageKiB item).map kibiBytes))) :
    (usageGauge kind.name usageKiB).MeasuredAs entity kind := by
  refine ⟨rfl, hgroup, htype, _, hmeasure, fun item => ?_, fun item v hv => ?_⟩
  · rw [Option.isSome_map]
    rfl
  · obtain ⟨kib, hkib, rfl⟩ := Option.map_eq_some_iff.mp hv
    exact ⟨kib, hkib, kibiBytes_eq kib⟩

theorem measuredAs_fileCount :
    fileCountGauge.MeasuredAs .directory (.directory .fileCount) := by
  refine ⟨rfl, rfl, rfl, _, fun _ => rfl, fun item => ?_, fun item v hv => ?_⟩
  · rw [DirectoryMetric.value?, Option.isSome_map]
    rfl
  · obtain ⟨count, hcount, rfl⟩ := Option.map_eq_some_iff.mp hv
    exact ⟨count, hcount, rfl⟩

/-- A size that can be read is shown as a number, any other as what is not a number. -/
theorem measuredAs_size (size : StoreSize) {read? : FileStore → Option UInt64}
    (hread : ∀ store, store.read size = match read? store with
      | some bytes => .ok bytes
      | none => .error ⟨store.name, size⟩) :
    (storeGauge (MetricKind.fileStore size).name read?).MeasuredAs .fileStore
      (.fileStore size) := by
  have htype : (MetricKind.fileStore size).type = .gauge := by cases size <;> rfl
  refine ⟨rfl, rfl, htype, fun store => some (store.sizeValue size), fun _ => rfl,
    fun _ => iff_of_true trivial rfl, ?_⟩
  intro store v hv
  obtain rfl : store.sizeValue size = v := Option.some.inj hv
  rw [FileStore.sizeValue, hread]
  cases hsize : read? store with
  | some bytes =>
    refine ⟨iff_of_false ?_ (by simp [hsize]), fun _ h => ?_⟩
    · exact Bool.eq_false_iff.mp (isNaN_toFloat bytes)
    · rw [Option.some.inj (hsize.symm.trans h)]
  | none =>
    refine ⟨iff_of_true ?_ hsize, fun _ h => ?_⟩
    · show notANumber.isNaN
      decide
    · rw [hsize] at h
      cases h

theorem measuredAs_load (m : ExecutorMetric) :
    (loadGauge (MetricKind.executor m).name m.count).MeasuredAs .executor (.executor m) := by
  have htype : (MetricKind.executor m).type = .gauge := by cases m <;> rfl
  exact ⟨rfl, rfl, htype, fun load => some (m.count load).toFloat, fun _ => rfl,
    fun _ => iff_of_true trivial rfl, fun _ _ h => (Option.some.inj h).symm⟩

theorem measuredAs_loads :
    List.Forall₂ (fun g kind => g.MeasuredAs .executor kind) executorReport.gauges
      (executorMetrics.map .executor) := by
  have hgauges : executorReport.gauges =
      executorMetrics.map fun m => loadGauge (MetricKind.executor m).name m.count := rfl
  rw [hgauges, List.forall₂_map_left_iff, List.forall₂_map_right_iff, List.forall₂_same]
  exact fun m _ => measuredAs_load m

/-- Reports of storage and executors lose and invent nothing. While disk usage is collected, the
families of the storage are those for its directories, for its jobs and for its file stores, and
show each of them. The families of executors show the load for each node label. -/
theorem items_reported (s : Settings) (usage : DiskUsage) (loads : List ExecutorLoad) :
    (s.config.collectDiskUsage → ∃ directories jobs stores,
      storageFamilies s (some usage) = directories ++ jobs ++ stores ∧
        directoryReport.Shows s usage.directories directories ∧
        jobUsageReport.Shows s usage.jobs jobs ∧ storeReport.Shows s usage.stores stores) ∧
      executorReport.Shows s loads (executorFamilies s loads) := by
  have hdirectories := directoryReport.shows_storagePartFamilies (directoryMetrics.map .directory)
    .directory recordDirectory (fun _ _ => rfl) (fun _ => trivial) (fun _ => rfl) (by decide)
    (.cons (measuredAs_usage (.directory .usage) rfl rfl fun _ => rfl)
      (.cons measuredAs_fileCount .nil))
    s usage.directories
  have hjobs := jobUsageReport.shows_storagePartFamilies [.jobUsage]
    .jobUsage recordJobUsage (fun _ _ => rfl) (fun _ => trivial) (fun _ => rfl) (by decide)
    (.cons (measuredAs_usage .jobUsage rfl rfl fun _ => rfl) .nil) s usage.jobs
  have hstores := storeReport.shows_storagePartFamilies (storeSizes.map .fileStore)
    .fileStore recordStore (fun _ _ => rfl) (fun _ => trivial) (fun _ => rfl) (by decide)
    (.cons (measuredAs_size .usable fun _ => rfl)
      (.cons (measuredAs_size .total fun _ => rfl) .nil))
    s usage.stores
  have hloads := executorReport.shows_storagePartFamilies (executorMetrics.map .executor)
    .executor recordLoad (fun _ _ => rfl) (fun _ => trivial) (fun _ => rfl) (by decide)
    measuredAs_loads s loads
  refine ⟨fun hon => ⟨_, _, _, ?_, hdirectories, hjobs, hstores⟩, hloads⟩
  rw [storageFamilies, hon]
  rfl

/-- A directory was measured twice, the second time without its usage. -/
def measuredTwice : DiskUsage :=
  ⟨[⟨"/", "jobs", some 2, some 7⟩, ⟨"/", "jobs", none, some 8⟩], [], [⟨"/", some 512, none⟩]⟩

/-- Its usage is still shown. -/
theorem items_reported_of_two :
    (Settings.initial none).config.collectDiskUsage ∧
      ∃ f ∈ storageFamilies (.initial none) (some measuredTwice),
        f.name = "default_jenkins_disk_usage_bytes" ∧
          ∃ x ∈ f.samples, x.labelValues = ["/", "jobs"] ∧
            x.value = (2048 : Nat).toFloat := by
  have hon : (Settings.initial none).config.collectDiskUsage := rfl
  obtain ⟨directories, jobs, stores, hfamilies, hdirectories, -, -⟩ :=
    (items_reported (.initial none) measuredTwice []).1 hon
  cases hdirectories with
  | @cons _ f _ _ hfirst hrest =>
    obtain ⟨hname, hlists⟩ := hfirst
    refine ⟨hon, f, by simp [hfamilies], hname.trans (by decide), ?_⟩
    obtain ⟨x, hx, hkey⟩ := (hlists.listed ["/", "jobs"]).mpr
      ⟨⟨"/", "jobs", some 2, some 7⟩, by simp [measuredTwice], rfl, rfl⟩
    obtain ⟨item, ⟨-, -, before, after, hitems, -⟩, kib, hkib, hvalue⟩ := hlists.last x hx
    have hitem : item ∈ measuredTwice.directories := hitems ▸ by simp
    -- the other measurement has no usage
    have htwo : kib = 2 := by
      simp only [measuredTwice, List.mem_cons, List.not_mem_nil, or_false] at hitem
      rcases hitem with rfl | rfl
      · exact (Option.some.inj hkib).symm
      · cases hkib
    subst htwo
    exact ⟨x, hx, hkey, hvalue⟩

end BuildTelemetry
