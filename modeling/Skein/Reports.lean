import Skein.Validity

/-!
The usage and application reports read from their camelCase mapping form. On a mapping that
holds the fields of a wire report, `ResourceUsageReport.from_dict` clamps the container count
and the three resources at 0 with `max(0, ...)`, but passes the two second counters on as they
are, so `__init__` rejects a negative one. A report that `from_protobuf` accepts has no
negative field, every clamp is then the identity, and `ApplicationReport.from_dict` on the
mapping form of a wire report returns what `from_protobuf` returns on the report itself.
-/

namespace Skein

@[simp] theorem Value.intAtLeast_int {min n : Int} :
    (Value.int n).IntAtLeast min ↔ min ≤ n := by
  simp [Value.IntAtLeast]

/-- `m` is the mapping form of the wire resources `r`: its keys are `memory` and `vcores`,
holding `r`'s fields. -/
def Resources.IsMappingImage (r : Proto.Resources) (m : Value) : Prop :=
  ∃ exact entries, m = .dict exact entries ∧ (∀ p ∈ entries, p.1 ∈ Resources.slots) ∧
    entries.lookup "memory" = some (.int r.memory) ∧
    entries.lookup "vcores" = some (.int r.vcores)

/-- What `ResourceUsageReport.from_dict` makes of the wire resources `r`. -/
def Resources.clamp (r : Proto.Resources) : Value :=
  .resources (.int (max 0 r.memory)) (.int (max 0 r.vcores))

theorem Resources.clamp_valid (r : Proto.Resources) : Resources.Valid 0 (Resources.clamp r) :=
  ⟨⟨_, rfl, Int.le_max_left _ _⟩, ⟨_, rfl, Int.le_max_left _ _⟩⟩

theorem Resources.clamp_of_nonneg {r : Proto.Resources} (hm : 0 ≤ r.memory)
    (hv : 0 ≤ r.vcores) :
    Resources.clamp r = .resources (.int r.memory) (.int r.vcores) := by
  simp only [Resources.clamp, Int.max_eq_right hm, Int.max_eq_right hv]

/-- The wire resources that `from_protobuf` accepts have no negative field, so clamping them
changes nothing. -/
theorem Resources.fromProtobuf_eq_clamp {r : Proto.Resources} {x : Value}
    (h : Resources.fromProtobuf (.resources r) = .ok x) : x = Resources.clamp r := by
  obtain ⟨⟨hm, hv⟩, rfl⟩ := Resources.init_ok.mp h
  exact (Resources.clamp_of_nonneg (Value.intAtLeast_int.mp hm) (Value.intAtLeast_int.mp hv)).symm

namespace ResourceUsageReport

/-- `m` is the mapping form of the wire usage report `w`: exactly the six camelCase keys,
holding `w`'s counters and the mapping forms of its resources. -/
def IsMappingImage (w : Proto.ResourceUsageReport) (m : Value) : Prop :=
  ∃ exact entries, m = .dict exact entries ∧ (∀ p ∈ entries, p.1 ∈ keys) ∧
    entries.lookup "memorySeconds" = some (.int w.memorySeconds) ∧
    entries.lookup "vcoreSeconds" = some (.int w.vcoreSeconds) ∧
    entries.lookup "numUsedContainers" = some (.int w.numUsedContainers) ∧
    (∃ r, entries.lookup "neededResources" = some r ∧
      Resources.IsMappingImage w.neededResources r) ∧
    (∃ r, entries.lookup "reservedResources" = some r ∧
      Resources.IsMappingImage w.reservedResources r) ∧
    (∃ r, entries.lookup "usedResources" = some r ∧ Resources.IsMappingImage w.usedResources r)

theorem init_ok {memorySeconds vcoreSeconds numUsedContainers neededResources
    reservedResources usedResources x : Value} :
    init memorySeconds vcoreSeconds numUsedContainers neededResources reservedResources
        usedResources = .ok x ↔
      Valid (.resourceUsageReport memorySeconds vcoreSeconds numUsedContainers neededResources
        reservedResources usedResources) ∧
      x = .resourceUsageReport memorySeconds vcoreSeconds numUsedContainers neededResources
        reservedResources usedResources := by
  simp only [init, bind_unit_eq_ok, validate_ok, pure_eq_ok, Except.ok.injEq]
  exact and_congr_right fun _ => eq_comm

theorem clampedResources_image {exact : Bool} {entries : List (String × Value)} {k2 : String}
    {r : Value} {res : Proto.Resources} (h : entries.lookup k2 = some r)
    (hr : Resources.IsMappingImage res r) :
    clampedResources (.dict exact entries) k2 = .ok (Resources.clamp res) := by
  obtain ⟨_, _, rfl, -, hm, hv⟩ := hr
  simp only [clampedResources, Value.index, Value.entries, h, subscript, hm, hv, pyMax0,
    pure_eq_ok, ok_bind]
  exact Resources.init_ok.mpr ⟨Resources.clamp_valid res, rfl⟩

/-- On the mapping form of a wire usage report, `from_dict` clamps the container count and
the resources at 0 and keeps the second counters, and so succeeds exactly when those two are
at least 0. -/
theorem fromDict_image {w : Proto.ResourceUsageReport} {m x : Value}
    (hm : IsMappingImage w m) :
    fromDict m = .ok x ↔ 0 ≤ w.memorySeconds ∧ 0 ≤ w.vcoreSeconds ∧
      x = .resourceUsageReport (.int w.memorySeconds) (.int w.vcoreSeconds)
        (.int (max 0 w.numUsedContainers)) (Resources.clamp w.neededResources)
        (Resources.clamp w.reservedResources) (Resources.clamp w.usedResources) := by
  obtain ⟨exact, entries, rfl, hkeys, hms, hvs, hn, ⟨r1, h1, hr1⟩, ⟨r2, h2, hr2⟩,
    ⟨r3, h3, hr3⟩⟩ := hm
  simp only [fromDict, checkKeys_dict.mpr hkeys, Value.index, Value.entries, hms, hvs, hn,
    pyMax0, clampedResources_image h1 hr1, clampedResources_image h2 hr2,
    clampedResources_image h3 hr3, pure_eq_ok, ok_bind, init_ok, Valid, Value.intAtLeast_int,
    Int.le_max_left, Resources.clamp_valid, and_true, and_assoc]

/-- A usage report mapping with a negative `memorySeconds` is rejected. -/
theorem fromDict_negativeMemorySeconds :
    fromDict (.dict true [("memorySeconds", .int (-1)), ("vcoreSeconds", .int 0),
      ("numUsedContainers", .int 0),
      ("neededResources", .dict true [("memory", .int 0), ("vcores", .int 0)]),
      ("reservedResources", .dict true [("memory", .int 0), ("vcores", .int 0)]),
      ("usedResources", .dict true [("memory", .int 0), ("vcores", .int 0)])]) =
      .error (.belowMin "memory_seconds" 0) := rfl

/-- A negative container count and negative resources are clamped at 0. -/
example :
    fromDict (.dict true [("memorySeconds", .int 10), ("vcoreSeconds", .int 2),
      ("numUsedContainers", .int (-1)),
      ("neededResources", .dict true [("memory", .int (-512)), ("vcores", .int 1)]),
      ("reservedResources", .dict true [("memory", .int 0), ("vcores", .int (-3))]),
      ("usedResources", .dict true [("memory", .int 256), ("vcores", .int 1)])]) =
      .ok (.resourceUsageReport (.int 10) (.int 2) (.int 0) (.resources (.int 0) (.int 1))
        (.resources (.int 0) (.int 0)) (.resources (.int 256) (.int 1))) := rfl

/-- On the mapping form of a wire usage report that `from_protobuf` accepts, `from_dict`
returns what `from_protobuf` returns. -/
theorem fromDict_image_of_fromProtobuf {w : Proto.ResourceUsageReport} {m usage : Value}
    (hm : IsMappingImage w m) (h : fromProtobuf (.resourceUsageReport w) = .ok usage) :
    fromDict m = .ok usage := by
  obtain ⟨n1, h1, h⟩ := bind_eq_ok.mp h
  obtain ⟨n2, h2, h⟩ := bind_eq_ok.mp h
  obtain ⟨n3, h3, h⟩ := bind_eq_ok.mp h
  obtain ⟨⟨hms, hvs, hn, -⟩, rfl⟩ := init_ok.mp h
  rw [Value.intAtLeast_int] at hms hvs hn
  rw [fromDict_image hm, Int.max_eq_right hn, ← Resources.fromProtobuf_eq_clamp h1,
    ← Resources.fromProtobuf_eq_clamp h2, ← Resources.fromProtobuf_eq_clamp h3]
  exact ⟨hms, hvs, rfl⟩

end ResourceUsageReport

namespace ApplicationReport

/-- `m` is the mapping form of the wire report `w`: exactly the camelCase keys, holding `w`'s
fields, with `state` and `finalStatus` as the names of their codes, the two times as the same
milliseconds, and `usage` as the mapping form of `w`'s usage report. -/
def IsMappingImage (schema : Proto.Schema) (w : Proto.ApplicationReport) (m : Value) : Prop :=
  ∃ exact entries, m = .dict exact entries ∧ (∀ p ∈ entries, p.1 ∈ keys) ∧
    entries.lookup "id" = some (.str w.id) ∧ entries.lookup "name" = some (.str w.name) ∧
    entries.lookup "user" = some (.str w.user) ∧ entries.lookup "queue" = some (.str w.queue) ∧
    entries.lookup "tags" = some (.list (w.tags.map .str)) ∧
    entries.lookup "host" = some (.str w.host) ∧ entries.lookup "port" = some (.int w.port) ∧
    entries.lookup "trackingUrl" = some (.str w.trackingUrl) ∧
    (∃ s, schema.applicationState.name w.state = some s ∧
      entries.lookup "state" = some (.str s)) ∧
    (∃ s, schema.finalStatus.name w.finalStatus = some s ∧
      entries.lookup "finalStatus" = some (.str s)) ∧
    entries.lookup "progress" = some (.float w.progress) ∧
    (∃ u, entries.lookup "usage" = some u ∧ ResourceUsageReport.IsMappingImage w.usage u) ∧
    entries.lookup "diagnostics" = some (.str w.diagnostics) ∧
    entries.lookup "startTime" = some (.int w.startTime) ∧
    entries.lookup "finishTime" = some (.int w.finishTime)

/-- `from_dict` reads each slot from its camelCase key with `obj.get`. -/
theorem fromDict_eq (clock : Clock) (obj : Value) : fromDict clock obj = (do
    checkKeys "ApplicationReport" keys obj
    let usage ← ResourceUsageReport.fromDict (obj.get "usage")
    let startTime ← datetimeFromMillis clock (obj.get "startTime")
    let finishTime ← datetimeFromMillis clock (obj.get "finishTime")
    init (obj.get "id") (obj.get "name") (obj.get "user") (obj.get "queue") (obj.get "tags")
      (obj.get "host") (obj.get "port") (obj.get "trackingUrl") (obj.get "state")
      (obj.get "finalStatus") (obj.get "progress") usage (obj.get "diagnostics") startTime
      finishTime) := rfl

theorem fromDict_of_fromProtobuf {clock : Clock} {schema : Proto.Schema}
    {w : Proto.ApplicationReport} {m r : Value} (hm : IsMappingImage schema w m)
    (h : fromProtobuf clock schema (.applicationReport w) = .ok r) : fromDict clock m = .ok r := by
  obtain ⟨exact, entries, rfl, hkeys, hid, hname, huser, hqueue, htags, hhost, hport, hurl,
    ⟨st, hst, hstl⟩, ⟨fs, hfs, hfsl⟩, hprog, ⟨u, hu, hum⟩, hdiag, ht0, ht1⟩ := hm
  simp only [fromProtobuf, enumName, hst, hfs, pure_eq_ok, ok_bind] at h
  obtain ⟨usage, hus, h⟩ := bind_eq_ok.mp h
  simp only [fromDict_eq, checkKeys_dict.mpr hkeys, Value.get, Value.getD, Value.entries, hid,
    hname, huser, hqueue, htags, hhost, hport, hurl, hstl, hfsl, hprog, hu, hdiag, ht0, ht1,
    Option.getD_some, ResourceUsageReport.fromDict_image_of_fromProtobuf hum hus, ok_bind]
  exact h

end ApplicationReport

/-- A running application's mapping form, its keys in another order in an `OrderedDict`,
reads as the report reads from the wire. -/
theorem ApplicationReport.fromDict_of_fromProtobuf_running :
    let clock : Clock := ⟨fun us => us / 1000, fun _ => throw .timedelta⟩
    let schema : Proto.Schema := ⟨⟨["FILE", "ARCHIVE"], by decide⟩,
      ⟨["PUBLIC", "PRIVATE", "APPLICATION"], by decide⟩, ⟨["RUNNING"], by decide⟩,
      ⟨["UNDEFINED"], by decide⟩, fun _ => .int64, List.Perm.refl _, by decide⟩
    let w : Proto.ApplicationReport := ⟨"application_1", "app", "user", "default", ["ml"],
      "node-1", 8042, "http://node-1:8042", 0, 0, ⟨0x3FE0000000000000⟩,
      ⟨3600, 60, 2, ⟨2048, 2⟩, ⟨0, 0⟩, ⟨1024, 1⟩⟩, "", 1000, 0⟩
    let m : Value := .dict false [("usage", .dict true [("usedResources",
        .dict true [("vcores", .int 1), ("memory", .int 1024)]),
        ("reservedResources", .dict true [("memory", .int 0), ("vcores", .int 0)]),
        ("neededResources", .dict true [("memory", .int 2048), ("vcores", .int 2)]),
        ("numUsedContainers", .int 2), ("vcoreSeconds", .int 60),
        ("memorySeconds", .int 3600)]),
      ("id", .str "application_1"), ("name", .str "app"), ("user", .str "user"),
      ("queue", .str "default"), ("tags", .list [.str "ml"]), ("host", .str "node-1"),
      ("port", .int 8042), ("trackingUrl", .str "http://node-1:8042"),
      ("state", .str "RUNNING"), ("finalStatus", .str "UNDEFINED"),
      ("progress", .float ⟨0x3FE0000000000000⟩), ("diagnostics", .str ""),
      ("startTime", .int 1000), ("finishTime", .int 0)]
    ApplicationReport.IsMappingImage schema w m ∧
      ApplicationReport.fromDict clock m =
        ApplicationReport.fromProtobuf clock schema (.applicationReport w) := by
  intro clock schema w m
  have hm : ApplicationReport.IsMappingImage schema w m :=
    ⟨false, _, rfl, by decide, rfl, rfl, rfl, rfl, rfl, rfl, rfl, rfl, ⟨_, rfl, rfl⟩,
      ⟨_, rfl, rfl⟩, rfl, ⟨_, rfl, true, _, rfl, by decide, rfl, rfl, rfl,
        ⟨_, rfl, true, _, rfl, by decide, rfl, rfl⟩,
        ⟨_, rfl, true, _, rfl, by decide, rfl, rfl⟩,
        ⟨_, rfl, true, _, rfl, by decide, rfl, rfl⟩⟩, rfl, rfl, rfl⟩
  exact ⟨hm, (ApplicationReport.fromDict_of_fromProtobuf hm rfl).trans rfl⟩

/-- On a wire report whose progress is a NaN both paths succeed and return the same value,
but the two reports are not `==`: `Base.__eq__` compares their `progress` slots with `==`,
and a NaN equals nothing. -/
theorem ApplicationReport.fromDict_of_fromProtobuf_nan :
    let clock : Clock := ⟨fun us => us / 1000, fun _ => throw .timedelta⟩
    let schema : Proto.Schema := ⟨⟨["FILE", "ARCHIVE"], by decide⟩,
      ⟨["PUBLIC", "PRIVATE", "APPLICATION"], by decide⟩, ⟨["RUNNING"], by decide⟩,
      ⟨["UNDEFINED"], by decide⟩, fun _ => .int64, List.Perm.refl _, by decide⟩
    let w : Proto.ApplicationReport := ⟨"application_1", "app", "user", "default", [], "", 0,
      "", 0, 0, ⟨0x7FF8000000000000⟩, ⟨0, 0, 0, ⟨0, 0⟩, ⟨0, 0⟩, ⟨0, 0⟩⟩, "", 0, 0⟩
    let m : Value := .dict true [("id", .str "application_1"), ("name", .str "app"),
      ("user", .str "user"), ("queue", .str "default"), ("tags", .list []), ("host", .str ""),
      ("port", .int 0), ("trackingUrl", .str ""), ("state", .str "RUNNING"),
      ("finalStatus", .str "UNDEFINED"), ("progress", .float ⟨0x7FF8000000000000⟩),
      ("usage", .dict true [("memorySeconds", .int 0), ("vcoreSeconds", .int 0),
        ("numUsedContainers", .int 0),
        ("neededResources", .dict true [("memory", .int 0), ("vcores", .int 0)]),
        ("reservedResources", .dict true [("memory", .int 0), ("vcores", .int 0)]),
        ("usedResources", .dict true [("memory", .int 0), ("vcores", .int 0)])]),
      ("diagnostics", .str ""), ("startTime", .int 0), ("finishTime", .int 0)]
    ApplicationReport.IsMappingImage schema w m ∧
      ∃ r r', ApplicationReport.fromProtobuf clock schema (.applicationReport w) = .ok r ∧
        ApplicationReport.fromDict clock m = .ok r' ∧ r.pyEq r' = false :=
  ⟨⟨true, _, rfl, by decide, rfl, rfl, rfl, rfl, rfl, rfl, rfl, rfl, ⟨_, rfl, rfl⟩,
      ⟨_, rfl, rfl⟩, rfl, ⟨_, rfl, true, _, rfl, by decide, rfl, rfl, rfl,
        ⟨_, rfl, true, _, rfl, by decide, rfl, rfl⟩,
        ⟨_, rfl, true, _, rfl, by decide, rfl, rfl⟩,
        ⟨_, rfl, true, _, rfl, by decide, rfl, rfl⟩⟩, rfl, rfl, rfl⟩,
    _, _, rfl, rfl, rfl⟩

end Skein
