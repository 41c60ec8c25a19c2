import Skein.MappingRoundTrip

/-!
The wire form read back: `from_protobuf` of what `to_protobuf` sends. The message constructor
raises on an integer outside its field's proto3 type, so the round trips assume that every
integer the code writes fits (`Value.wireFits`); a report's instants travel as the
milliseconds the host's `timestamp()` gives, and come back only where those read back as the
same instant (`Clock.ReadsBack`). Under these, a valid `Resources`, `File` or usage report
comes back as it was. A `None` cannot travel: proto3 leaves the field at its default, so a
job's `None` queue comes back as `''`, and a report's `None` host, port, tracking URL or
diagnostics as `''` or `0`; a map field comes back as a plain `dict`. What comes back is the
value's wire image. Under `==` (`Value.pyEq`) a report's wire image equals the report exactly
when none of those four is `None` and its progress is not a NaN.
-/

namespace Skein

/-- The value `v` of the wire field `field` fits the field's type; a value that is not an
`int` is left to the type checks. -/
def fitsInt (schema : Proto.Schema) (field : String) : Value → Bool
  | .int n => schema.fits field n
  | _ => true

namespace Wire

theorem readEnum_label {e : WireEnum} {name s : String} (h : s ∈ e.labels) :
    ∃ code, readEnum e name (.str s) = .ok code ∧ enumName e code = .ok s := by
  obtain ⟨code, hc⟩ := Option.isSome_iff_exists.mp (WireEnum.value_isSome.mpr h)
  exact ⟨code, by simp [readEnum, hc], by simp [enumName, WireEnum.name_of_value hc]⟩

theorem mapItems_readString {name : String} {items : List Value} (h : ∀ i ∈ items, i.IsStr) :
    ∃ ss : List String, mapItems (readString name) items = .ok ss ∧ items = ss.map .str := by
  induction items with
  | nil => exact ⟨[], rfl, rfl⟩
  | cons x xs ih =>
    obtain ⟨s, rfl⟩ := h x (List.mem_cons_self _ _)
    obtain ⟨ss, hss, rfl⟩ := ih fun i hi => h i (List.mem_cons_of_mem _ hi)
    exact ⟨s :: ss, by simp [readString, hss], rfl⟩

theorem mapValues_readString {name : String} {entries : List (String × Value)}
    (h : ∀ e ∈ entries, e.2.IsStr) :
    ∃ ss : List (String × String), mapValues (readString name) entries = .ok ss ∧
      entries = ss.map fun e => (e.1, .str e.2) := by
  induction entries with
  | nil => exact ⟨[], rfl, rfl⟩
  | cons e es ih =>
    obtain ⟨k, v⟩ := e
    obtain ⟨s, rfl⟩ := h _ (List.mem_cons_self _ _)
    obtain ⟨ss, hss, rfl⟩ := ih fun i hi => h i (List.mem_cons_of_mem _ hi)
    exact ⟨(k, s) :: ss, by simp [readString, hss], rfl⟩

/-- A string field given a string or `None` stores what `ifNone` makes of it. -/
theorem fieldOf_str_or_none {name : String} {v : Value} (h : v.IsStr ∨ v = .none) :
    ∃ s, fieldOf "" (readString name) v = .ok s ∧ ifNone v (.str "") = .str s := by
  rcases h with ⟨s, rfl⟩ | rfl
  exacts [⟨s, rfl, rfl⟩, ⟨"", rfl, rfl⟩]

/-- An integer field given an int that fits it, or `None`, stores what `ifNone` makes of it. -/
theorem fieldOf_int_or_none {schema : Proto.Schema} {name : String} {v : Value}
    (h : v.IsInt ∨ v = .none) (hfit : fitsInt schema name v) :
    ∃ n, fieldOf 0 (readInt schema name) v = .ok n ∧ ifNone v (.int 0) = .int n := by
  rcases h with ⟨n, rfl⟩ | rfl
  exacts [⟨n, if_pos hfit, rfl⟩, ⟨0, rfl, rfl⟩]

/-- Entries whose values each travel as a message and come back as their image travel as a
map field and come back as the mapping of their images. -/
theorem convertEntries_readMessage {m : Method} {α : Type} {name : String}
    {as : Proto.Message → Option α} {wrap : α → Proto.Message} {back : α → Except Error Value}
    {img : Value → Value} (has : ∀ a, as (wrap a) = some a) {entries : List (String × Value)}
    (h : ∀ e ∈ entries, ∃ a, convert m e.2 = .ok (.message (wrap a)) ∧ back a = .ok (img e.2)) :
    ∃ ds ms, convertEntries m entries = .ok ds ∧ mapValues (readMessage name as) ds = .ok ms ∧
      mapValues back ms = .ok (entries.map fun e => (e.1, img e.2)) := by
  induction entries with
  | nil => exact ⟨[], [], rfl, rfl, rfl⟩
  | cons e es ih =>
    obtain ⟨k, v⟩ := e
    obtain ⟨a, hc, hb⟩ := h _ (List.mem_cons_self _ _)
    obtain ⟨ds, ms, hds, hms, hbs⟩ := ih fun i hi => h i (List.mem_cons_of_mem _ hi)
    exact ⟨(k, .message (wrap a)) :: ds, (k, a) :: ms, by simp [hc, hds],
      by simp [readMessage, has, hms], by simp [hb, hbs]⟩

end Wire

open Wire

/-- The milliseconds the host writes for the instant `v` fit the wire field `field`. -/
def fitsTime (clock : Clock) (schema : Proto.Schema) (field : String) : Value → Bool
  | .datetime t => schema.fits field (clock.timestampMillis t)
  | _ => true

mutual

/-- Every integer that `to_protobuf` writes for `x` fits its wire field: the integer slots of
the entities in `x`, at any depth of its lists and mappings, and the milliseconds the host
writes for a report's two instants. -/
def Value.wireFits (clock : Clock) (schema : Proto.Schema) : Value → Bool
  | .resources memory vcores => fitsInt schema "memory" memory && fitsInt schema "vcores" vcores
  | .file _ _ _ size timestamp =>
      fitsInt schema "size" size && fitsInt schema "timestamp" timestamp
  | .service _ request instances files _ _ =>
      fitsInt schema "instances" instances && request.wireFits clock schema &&
        files.wireFits clock schema
  | .job _ _ services => services.wireFits clock schema
  | .resourceUsageReport memorySeconds vcoreSeconds numUsedContainers neededResources
      reservedResources usedResources =>
      fitsInt schema "memory_seconds" memorySeconds &&
        fitsInt schema "vcore_seconds" vcoreSeconds &&
        fitsInt schema "num_used_containers" numUsedContainers &&
        neededResources.wireFits clock schema && reservedResources.wireFits clock schema &&
        usedResources.wireFits clock schema
  | .applicationReport _ _ _ _ _ _ port _ _ _ _ usage _ startTime finishTime =>
      fitsInt schema "port" port && usage.wireFits clock schema &&
        fitsTime clock schema "start_time" startTime &&
        fitsTime clock schema "finish_time" finishTime
  | .list items => Value.wireFitsList clock schema items
  | .dict _ entries => Value.wireFitsEntries clock schema entries
  | _ => true

def Value.wireFitsList (clock : Clock) (schema : Proto.Schema) : List Value → Bool
  | [] => true
  | x :: xs => x.wireFits clock schema && Value.wireFitsList clock schema xs

def Value.wireFitsEntries (clock : Clock) (schema : Proto.Schema) :
    List (String × Value) → Bool
  | [] => true
  | (_, v) :: rest => v.wireFits clock schema && Value.wireFitsEntries clock schema rest

end

/-- The host writes the instant `t` as milliseconds that `_datetime_from_millis` reads back as
`t`: `t` is a whole millisecond, and the host's local time and the float arithmetic of
`timestamp()` leave it as it is. -/
def Clock.ReadsBack (clock : Clock) (t : Int) : Prop :=
  datetimeFromMillis clock (.int (clock.timestampMillis t)) = .ok (.datetime t)

/-- Both instants of the application report read back. -/
def ApplicationReport.timesReadBack (clock : Clock) : Value → Prop
  | .applicationReport _ _ _ _ _ _ _ _ _ _ _ _ _ (.datetime t0) (.datetime t1) =>
      clock.ReadsBack t0 ∧ clock.ReadsBack t1
  | _ => False

section Fits

/-! One equation per shape of value, true by definition. -/

variable {clock : Clock} {schema : Proto.Schema}

@[simp] theorem fitsInt_int {field : String} {n : Int} :
    fitsInt schema field (.int n) = schema.fits field n := rfl

@[simp] theorem fitsTime_datetime {field : String} {t : Int} :
    fitsTime clock schema field (.datetime t) = schema.fits field (clock.timestampMillis t) :=
  rfl

@[simp] theorem wireFits_resources {memory vcores : Value} :
    (Value.resources memory vcores).wireFits clock schema =
      (fitsInt schema "memory" memory && fitsInt schema "vcores" vcores) := rfl

@[simp] theorem wireFits_file {source type visibility size timestamp : Value} :
    (Value.file source type visibility size timestamp).wireFits clock schema =
      (fitsInt schema "size" size && fitsInt schema "timestamp" timestamp) := rfl

@[simp] theorem wireFits_service {commands request instances files env depends : Value} :
    (Value.service commands request instances files env depends).wireFits clock schema =
      (fitsInt schema "instances" instances && request.wireFits clock schema &&
        files.wireFits clock schema) := rfl

@[simp] theorem wireFits_job {name queue services : Value} :
    (Value.job name queue services).wireFits clock schema = services.wireFits clock schema :=
  rfl

@[simp] theorem wireFits_resourceUsageReport {memorySeconds vcoreSeconds numUsedContainers
    neededResources reservedResources usedResources : Value} :
    (Value.resourceUsageReport memorySeconds vcoreSeconds numUsedContainers neededResources
      reservedResources usedResources).wireFits clock schema =
      (fitsInt schema "memory_seconds" memorySeconds &&
        fitsInt schema "vcore_seconds" vcoreSeconds &&
        fitsInt schema "num_used_containers" numUsedContainers &&
        neededResources.wireFits clock schema && reservedResources.wireFits clock schema &&
        usedResources.wireFits clock schema) := rfl

@[simp] theorem wireFits_applicationReport {id name user queue tags host port trackingUrl state
    finalStatus progress usage diagnostics startTime finishTime : Value} :
    (Value.applicationReport id name user queue tags host port trackingUrl state finalStatus
      progress usage diagnostics startTime finishTime).wireFits clock schema =
      (fitsInt schema "port" port && usage.wireFits clock schema &&
        fitsTime clock schema "start_time" startTime &&
        fitsTime clock schema "finish_time" finishTime) := rfl

@[simp] theorem wireFits_dict {exact : Bool} {entries : List (String × Value)} :
    (Value.dict exact entries).wireFits clock schema =
      Value.wireFitsEntries clock schema entries := rfl

theorem Value.wireFitsEntries_iff {entries : List (String × Value)} :
    Value.wireFitsEntries clock schema entries = true ↔
      ∀ e ∈ entries, e.2.wireFits clock schema = true := by
  induction entries with
  | nil => simp [Value.wireFitsEntries]
  | cons e rest ih => simp [Value.wireFitsEntries, ih]

end Fits

/-- `x.to_protobuf()` is the message `_convert` builds for an entity. -/
theorem Value.toProtobuf_of_convert {clock : Clock} {schema : Proto.Schema} {x : Value}
    {msg : Proto.Message} (he : x.isEntity)
    (h : convert (.toProtobuf clock schema) x = .ok (.message msg)) :
    x.toProtobuf clock schema = .ok msg := by
  simp [Value.toProtobuf, he, h]

/-- What the wire keeps of a service: its `env` comes back as a plain `dict`. -/
def Service.wireImage : Value → Value
  | .service commands resources instances files env depends =>
      .service commands resources instances files (.dict true env.entries) depends
  | x => x

/-- What the wire keeps of a job: a `None` queue comes back as `''`, the services mapping
as a plain `dict` of the services' images. -/
def Job.wireImage : Value → Value
  | .job name queue services =>
      .job name (ifNone queue (.str "")) (.dict true (services.entries.map fun e =>
        (e.1, Service.wireImage e.2)))
  | x => x

/-- What the wire keeps of an application report: `None` strings come back as `''` and a
`None` port as `0`. -/
def ApplicationReport.wireImage : Value → Value
  | .applicationReport id name user queue tags host port trackingUrl state finalStatus progress
      usage diagnostics startTime finishTime =>
      .applicationReport id name user queue tags (ifNone host (.str "")) (ifNone port (.int 0))
        (ifNone trackingUrl (.str "")) state finalStatus progress usage
        (ifNone diagnostics (.str "")) startTime finishTime
  | x => x

/-- The state and final status of an application report are labels of the wire enums. -/
def ApplicationReport.hasWireLabels (schema : Proto.Schema) : Value → Bool
  | .applicationReport _ _ _ _ _ _ _ _ (.str state) (.str finalStatus) .. =>
      state ∈ schema.applicationState.labels && finalStatus ∈ schema.finalStatus.labels
  | _ => false

theorem Service.Valid.wireImage {x : Value} (h : Service.Valid x) :
    Service.Valid (Service.wireImage x) := by
  cases x with
  | service commands resources instances files env depends =>
    obtain ⟨hi, hr, hf, he, hc, hne, hd⟩ := h
    exact ⟨hi, hr, hf, he.entries_forall, hc, hne, hd⟩
  | _ => exact h.elim

section Entities

variable {clock : Clock} {schema : Proto.Schema}

theorem Resources.toProtobuf_eq {x : Value} (h : Resources.Valid 0 x)
    (hfit : x.wireFits clock schema) :
    ∃ msg, convert (.toProtobuf clock schema) x = .ok (.message (.resources msg)) ∧
      Resources.fromProtobuf (.resources msg) = .ok x := by
  cases x with
  | resources memory vcores =>
    have hv : Resources.validate memory vcores false = .ok () := Resources.validate_ok.mpr h
    have hi := Resources.init_ok.mpr ⟨h, rfl⟩
    obtain ⟨⟨a, rfl, -⟩, ⟨b, rfl, -⟩⟩ := h
    simp only [wireFits_resources, fitsInt_int, Bool.and_eq_true] at hfit
    exact ⟨⟨a, b⟩, by simp [convert_resources, hv, Method.finish, Proto.Resources.make, field,
      readInt, List.lookup_cons, hfit], hi⟩
  | _ => exact h.elim

theorem File.toProtobuf_eq {x : Value} (h : File.Valid x) (hfit : x.wireFits clock schema) :
    ∃ msg, convert (.toProtobuf clock schema) x = .ok (.message (.file msg)) ∧
      File.fromProtobuf schema (.file msg) = .ok x := by
  cases x with
  | file source type visibility size timestamp =>
    have hv := File.validate_ok.mpr h
    have hi := File.init_ok.mpr ⟨h, rfl⟩
    obtain ⟨⟨s, rfl⟩, ⟨t, rfl, ht⟩, ⟨v, rfl, hvis⟩, ⟨z, rfl, -⟩, ⟨ts, rfl, -⟩⟩ := h
    simp only [wireFits_file, fitsInt_int, Bool.and_eq_true] at hfit
    obtain ⟨tc, htc, htn⟩ := @readEnum_label schema.fileType "type" t
      (schema.fileType_labels.mem_iff.mpr ht)
    obtain ⟨vc, hvc, hvn⟩ := @readEnum_label schema.fileVisibility "visibility" v
      (schema.fileVisibility_labels.mem_iff.mpr hvis)
    refine ⟨⟨s, tc, vc, z, ts⟩, ?_, ?_⟩
    · simp [convert_file, hv, Method.finish, Proto.File.make, field, readInt, readString,
        List.lookup_cons, htc, hvc, hfit]
    · simp [File.fromProtobuf, htn, hvn, hi]
  | _ => exact h.elim

theorem Service.toProtobuf_eq {x : Value} (h : Service.Valid x) (hp : Service.filesPlain x)
    (hfit : x.wireFits clock schema) :
    ∃ msg, convert (.toProtobuf clock schema) x = .ok (.message (.service msg)) ∧
      Service.fromProtobuf schema (.service msg) = .ok (Service.wireImage x) := by
  obtain ⟨cs, r, n, fs, ex, es, dps, rfl, hc, hr, hfs, he, hd⟩ := h.plain hp
  have hi := Service.init_valid h.wireImage
  simp only [wireFits_service, fitsInt_int, wireFits_dict, Bool.and_eq_true,
    Value.wireFitsEntries_iff] at hfit
  obtain ⟨⟨hn, hrf⟩, hff⟩ := hfit
  obtain ⟨rm, hrc, hrb⟩ := @Resources.toProtobuf_eq clock schema _ (hr.mono (by decide)) hrf
  obtain ⟨ds, ms, hds, hms, hmb⟩ := @convertEntries_readMessage (.toProtobuf clock schema) _
    "files" Proto.Message.asFile .file (fun f => File.fromProtobuf schema (.file f)) id
    (fun _ => rfl) fs fun e he => File.toProtobuf_eq (hfs e he) (hff e he)
  obtain ⟨css, hcss, rfl⟩ := @mapItems_readString "commands" cs hc
  obtain ⟨ess, hess, rfl⟩ := @mapValues_readString "env" es he
  obtain ⟨dss, hdss, rfl⟩ := @mapItems_readString "depends" dps hd
  refine ⟨⟨n, rm, ms, ess, css, dss⟩, ?_, ?_⟩
  · simp [convert_service, Service.validate_ok.mpr h, convert_of_isListOf_str hc,
      convert_of_isDictOf_str he, convert_of_isListOf_str hd, hrc, hds, Method.finish,
      Proto.Service.make, field, readInt, readMessage, readMap, readRepeated, List.lookup_cons,
      Proto.Message.asResources, hms, hcss, hess, hdss, hn]
  · simp [Service.fromProtobuf, hrb, hmb, Service.wireImage]
    exact hi

theorem Job.Valid.wireImage {j : Value} (h : Job.Valid j) (hp : Job.mappingsPlain j) :
    Job.Valid (Job.wireImage j) := by
  cases j with
  | job name queue services =>
    obtain ⟨hn, hq, hs, hne⟩ := h
    obtain ⟨exact, ss, rfl, hss⟩ := hs.eq_dict
    refine ⟨hn, ?_, fun e he => ?_, by simpa [Value.entries] using hne⟩
    · rcases hq with ⟨s, rfl⟩ | rfl
      exacts [.inl ⟨s, rfl⟩, .inl ⟨"", rfl⟩]
    · obtain ⟨e', he', rfl⟩ := List.mem_map.mp he
      exact (hss e' he').wireImage
  | _ => exact h.elim

/-- The message of a valid job whose mappings are plain and whose integers fit the wire, and
the job `from_protobuf` reads back from it: the job's wire image. -/
theorem Job.Valid.toProtobuf_fromProtobuf {j : Value} (h : Job.Valid j)
    (hp : Job.mappingsPlain j) (hfit : j.wireFits clock schema) :
    ∃ m, j.toProtobuf clock schema = .ok m ∧ Job.fromProtobuf schema m = .ok (Job.wireImage j) := by
  refine bind_eq_ok.mp ?_
  obtain ⟨n, queue, ss, rfl, hq, hss⟩ := h.plain hp
  have hi := Job.init_ok.mpr ⟨h.wireImage hp, rfl⟩
  simp only [wireFits_job, wireFits_dict, Value.wireFitsEntries_iff] at hfit
  obtain ⟨ds, ms, hds, hms, hmb⟩ := @convertEntries_readMessage (.toProtobuf clock schema) _
    "services" Proto.Message.asService .service (fun s => Service.fromProtobuf schema (.service s))
    Service.wireImage (fun _ => rfl) ss fun e he =>
      Service.toProtobuf_eq (hss e he).1 (hss e he).2 (hfit e he)
  obtain ⟨q, hqr, hqi⟩ := @fieldOf_str_or_none "queue" _ hq
  have hc : convert (.toProtobuf clock schema) (.job (.str n) queue (.dict true ss)) =
      .ok (.message (.job ⟨n, q, ms⟩)) := by
    simp [convert_job, Job.validate_ok.mpr h, convert_of_isStr_or_none hq, hds, Method.finish,
      Proto.Job.make, field, readString, readMap, readMessage, List.lookup_cons, hms, hqr]
  rw [Value.toProtobuf_of_convert (by rfl) hc]
  simpa [Job.fromProtobuf, hmb, Job.wireImage, hqi] using hi

/-- A valid job whose memory is out of its wire field's range does not travel: the message
constructor raises. -/
example :
    (Value.job (.str "skein") (.str "") (.dict true [("web", .service (.list [.str "serve"])
        (.resources (.int 2147483648) (.int 1)) (.int 1) (.dict true []) (.dict true [])
        (.list []))])).toProtobuf ⟨fun us => us / 1000, fun _ => throw .timedelta⟩
      ⟨⟨["FILE", "ARCHIVE"], by decide⟩, ⟨["PUBLIC", "PRIVATE", "APPLICATION"], by decide⟩,
        ⟨[], List.nodup_nil⟩, ⟨[], List.nodup_nil⟩, fun _ => .int32, List.Perm.refl _, by decide⟩ =
      .error (.wireRange "memory" 2147483648) := rfl

end Entities

section Reports

variable {clock : Clock} {schema : Proto.Schema}

theorem ResourceUsageReport.toProtobuf_eq {r : Value} (h : ResourceUsageReport.Valid r)
    (hfit : r.wireFits clock schema) :
    ∃ msg, convert (.toProtobuf clock schema) r = .ok (.message (.resourceUsageReport msg)) ∧
      ResourceUsageReport.fromProtobuf (.resourceUsageReport msg) = .ok r := by
  cases r with
  | resourceUsageReport ms vs n nr rr ur =>
    have hv := ResourceUsageReport.validate_ok.mpr h
    have hi := ResourceUsageReport.init_valid h
    obtain ⟨⟨a, rfl, -⟩, ⟨b, rfl, -⟩, ⟨c, rfl, -⟩, hnr, hrr, hur⟩ := h
    simp only [wireFits_resourceUsageReport, fitsInt_int, Bool.and_eq_true] at hfit
    obtain ⟨⟨⟨⟨⟨ha, hb⟩, hc⟩, hf1⟩, hf2⟩, hf3⟩ := hfit
    obtain ⟨m1, h1, b1⟩ := @Resources.toProtobuf_eq clock schema _ hnr hf1
    obtain ⟨m2, h2, b2⟩ := @Resources.toProtobuf_eq clock schema _ hrr hf2
    obtain ⟨m3, h3, b3⟩ := @Resources.toProtobuf_eq clock schema _ hur hf3
    refine ⟨⟨a, b, c, m1, m2, m3⟩, ?_, ?_⟩
    · simp [convert_resourceUsageReport, hv, h1, h2, h3, Method.finish,
        Proto.ResourceUsageReport.make, field, readInt, readMessage, Proto.Message.asResources,
        List.lookup_cons, ha, hb, hc]
    · simp [ResourceUsageReport.fromProtobuf, b1, b2, b3, hi]
  | _ => exact h.elim

theorem ApplicationReport.Valid.wireImage {a : Value} (h : ApplicationReport.Valid a) :
    ApplicationReport.Valid (ApplicationReport.wireImage a) := by
  have hs : ∀ v : Value, (v.IsStr ∨ v = .none) →
      (ifNone v (.str "")).IsStr ∨ ifNone v (.str "") = .none := by
    rintro v (⟨s, rfl⟩ | rfl); exacts [.inl ⟨s, rfl⟩, .inl ⟨"", rfl⟩]
  have hn : ∀ v : Value, (v.IsInt ∨ v = .none) →
      (ifNone v (.int 0)).IsInt ∨ ifNone v (.int 0) = .none := by
    rintro v (⟨n, rfl⟩ | rfl); exacts [.inl ⟨n, rfl⟩, .inl ⟨0, rfl⟩]
  cases a with
  | applicationReport =>
    obtain ⟨hi, hn', hu, hq, ht, hh, hp, hurl, hst, hf, hpr, hus, hd, h0, h1⟩ := h
    exact ⟨hi, hn', hu, hq, ht, hs _ hh, hn _ hp, hs _ hurl, hst, hf, hpr, hus, hs _ hd, h0, h1⟩
  | _ => exact h.elim

theorem pyEq_self_of_isStr {v : Value} (h : v.IsStr) : v.pyEq v = true := by
  obtain ⟨s, rfl⟩ := h
  simp

theorem Value.IsListOf.pyEq_self_str {v : Value} (h : v.IsListOf Value.IsStr) :
    v.pyEq v = true := by
  obtain ⟨items, rfl, hs⟩ := h.eq_list
  clear h
  rw [pyEq_list]
  induction items with
  | nil => rfl
  | cons x xs ih =>
    rw [pyEqList_cons, pyEq_self_of_isStr (hs x (List.mem_cons_self _ _)),
      ih fun i hi => hs i (List.mem_cons_of_mem _ hi), Bool.and_self]

theorem Resources.Valid.pyEq_self {x : Value} {min : Int} (h : Resources.Valid min x) :
    x.pyEq x = true := by
  cases x with
  | resources memory vcores =>
    obtain ⟨⟨a, rfl, -⟩, ⟨b, rfl, -⟩⟩ := h
    simp [pyEq_resources]
  | _ => exact h.elim

theorem ResourceUsageReport.Valid.pyEq_self {r : Value} (h : ResourceUsageReport.Valid r) :
    r.pyEq r = true := by
  cases r with
  | resourceUsageReport ms vs n nr rr ur =>
    obtain ⟨⟨a, rfl, -⟩, ⟨b, rfl, -⟩, ⟨c, rfl, -⟩, hnr, hrr, hur⟩ := h
    simp [pyEq_resourceUsageReport, hnr.pyEq_self, hrr.pyEq_self, hur.pyEq_self]
  | _ => exact h.elim

theorem pyEq_ifNone_str {v : Value} (h : v.IsStr ∨ v = .none) :
    (ifNone v (.str "")).pyEq v = !v.isNone := by
  rcases h with ⟨s, rfl⟩ | rfl <;> simp [ifNone, Value.isNone]

theorem pyEq_ifNone_int {v : Value} (h : v.IsInt ∨ v = .none) :
    (ifNone v (.int 0)).pyEq v = !v.isNone := by
  rcases h with ⟨n, rfl⟩ | rfl <;> simp [ifNone, Value.isNone]

/-- Under `==`, the wire image of a valid application report equals the report exactly when
none of its host, port, tracking URL and diagnostics is `None` and its progress is not a NaN:
`nan != nan`. -/
theorem ApplicationReport.pyEq_wireImage {id name user queue tags host port trackingUrl state
    finalStatus usage diagnostics startTime finishTime : Value} {progress : PyFloat}
    (h : ApplicationReport.Valid (.applicationReport id name user queue tags host port
      trackingUrl state finalStatus (.float progress) usage diagnostics startTime finishTime)) :
    (ApplicationReport.wireImage (.applicationReport id name user queue tags host port
        trackingUrl state finalStatus (.float progress) usage diagnostics startTime
        finishTime)).pyEq
      (.applicationReport id name user queue tags host port trackingUrl state finalStatus
        (.float progress) usage diagnostics startTime finishTime) =
      (!host.isNone && !port.isNone && !trackingUrl.isNone && !progress.isNaN &&
        !diagnostics.isNone) := by
  obtain ⟨hi, hn, hu, hq, ht, hh, hp, hurl, hst, hf, -, hus, hd, ⟨t0, rfl⟩, ⟨t1, rfl⟩⟩ := h
  simp only [ApplicationReport.wireImage, pyEq_applicationReport, pyEq_self_of_isStr hi,
    pyEq_self_of_isStr hn, pyEq_self_of_isStr hu, pyEq_self_of_isStr hq, ht.pyEq_self_str,
    pyEq_ifNone_str hh, pyEq_ifNone_int hp, pyEq_ifNone_str hurl, pyEq_self_of_isStr hst,
    pyEq_self_of_isStr hf, pyEq_float, PyFloat.eq_self, hus.pyEq_self, pyEq_ifNone_str hd,
    pyEq_datetime, beq_self_eq_true, Bool.true_and, Bool.and_true]

/-- A valid application report whose state and final status are wire labels, whose integers
fit the wire and whose instants read back travels over the wire and comes back as its wire
image. -/
theorem ApplicationReport.fromProtobuf_toProtobuf {a : Value} (h : ApplicationReport.Valid a)
    (hl : ApplicationReport.hasWireLabels schema a) (hfit : a.wireFits clock schema)
    (ht : ApplicationReport.timesReadBack clock a) :
    a.toProtobuf clock schema >>= ApplicationReport.fromProtobuf clock schema =
      .ok (ApplicationReport.wireImage a) := by
  cases a with
  | applicationReport id name user queue tags host port trackingUrl state finalStatus progress
      usage diagnostics startTime finishTime =>
    have hv := ApplicationReport.validate_ok.mpr h
    have hi := ApplicationReport.init_valid h.wireImage
    obtain ⟨⟨i, rfl⟩, ⟨nm, rfl⟩, ⟨u, rfl⟩, ⟨q, rfl⟩, htg, hh, hp, hurl, ⟨st, rfl⟩, ⟨fs, rfl⟩,
      ⟨pr, rfl⟩, hus, hd, ⟨t0, rfl⟩, ⟨t1, rfl⟩⟩ := h
    simp only [ApplicationReport.hasWireLabels, Bool.and_eq_true, decide_eq_true_eq] at hl
    simp only [wireFits_applicationReport, fitsTime_datetime, Bool.and_eq_true] at hfit
    obtain ⟨⟨⟨hpf, husf⟩, h0f⟩, h1f⟩ := hfit
    obtain ⟨hr0 : datetimeFromMillis clock _ = _, hr1 : datetimeFromMillis clock _ = _⟩ := ht
    obtain ⟨sc, hsc, hsn⟩ := @readEnum_label schema.applicationState "state" st hl.1
    obtain ⟨fc, hfc, hfn⟩ := @readEnum_label schema.finalStatus "final_status" fs hl.2
    obtain ⟨um, hum, hub⟩ := @ResourceUsageReport.toProtobuf_eq clock schema _ hus husf
    obtain ⟨tags, rfl, hts⟩ := htg.eq_list
    obtain ⟨tss, htss, rfl⟩ := @mapItems_readString "tags" tags hts
    obtain ⟨hs, hhr, hhi⟩ := @fieldOf_str_or_none "host" _ hh
    obtain ⟨pn, hpr, hpi⟩ := @fieldOf_int_or_none schema "port" _ hp hpf
    obtain ⟨us, hur, hui⟩ := @fieldOf_str_or_none "tracking_url" _ hurl
    obtain ⟨ds, hdr, hdi⟩ := @fieldOf_str_or_none "diagnostics" _ hd
    -- what `to_protobuf` writes: the slots' fields, the instants as the host's milliseconds
    have hc : convert (.toProtobuf clock schema) (.applicationReport (.str i) (.str nm) (.str u)
        (.str q) (.list (tss.map .str)) host port trackingUrl (.str st) (.str fs) (.float pr)
        usage diagnostics (.datetime t0) (.datetime t1)) =
        .ok (.message (.applicationReport ⟨i, nm, u, q, tss, hs, pn, us, sc, fc, pr, um, ds,
          clock.timestampMillis t0, clock.timestampMillis t1⟩)) := by
      rw [convert_applicationReport]
      simp only [hv, convert_str, convert_of_isListOf_str htg, convert_of_isStr_or_none hh,
        convert_of_isInt_or_none hp, convert_of_isStr_or_none hurl, convert_float, hum,
        convert_of_isStr_or_none hd, convert_datetime, Method.clock, Method.finish, List.map,
        Proto.ApplicationReport.make_slots, ok_bind, map_bind, pure_eq_ok, Except.map_ok]
      simp [readString, readRepeated, htss, hhr, hpr, hur, hsc, hfc, readFloat, readMessage,
        Proto.Message.asResourceUsageReport, hdr, readInt, h0f, h1f]
    -- what `from_protobuf` reads back from it
    rw [Value.toProtobuf_of_convert (by rfl) hc, ok_bind]
    simp only [ApplicationReport.wireImage, hhi, hpi, hui, hdi] at hi ⊢
    simpa only [ApplicationReport.fromProtobuf, hsn, hfn, hub, hr0, hr1, ok_bind] using hi
  | _ => exact h.elim

end Reports

end Skein
