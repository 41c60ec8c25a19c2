import Skein.MappingRoundTrip

/-!
What `_convert` leaves in the values it returns. It recurses into a plain `list` or `dict` and
into the slots of an entity, and turns a `datetime` into its milliseconds, but returns a
mapping of a subclass of `dict` as it is. Its result therefore holds no entity and no
`datetime` wherever no subclass mapping on the way holds one, and a valid job whose services
are an `OrderedDict` keeps its `Service` objects in its mapping form.
-/

namespace Skein

mutual

/-- Whether `x` is an entity or a `datetime`, or holds one at any depth of its lists and
mappings. -/
def Value.holdsObject : Value → Bool
  | .none | .required | .int _ | .float _ | .str _ | .message _ => false
  | .list items => Value.holdsObjectList items
  | .dict _ entries => Value.holdsObjectEntries entries
  | _ => true

def Value.holdsObjectList : List Value → Bool
  | [] => false
  | x :: xs => x.holdsObject || Value.holdsObjectList xs

def Value.holdsObjectEntries : List (String × Value) → Bool
  | [] => false
  | (_, v) :: rest => v.holdsObject || Value.holdsObjectEntries rest

end

mutual

/-- Whether every mapping of a subclass of `dict` in `x`, at any depth of its lists, its
mappings and the slots of its entities, holds no entity and no `datetime`. -/
def Value.subclassesFlat : Value → Bool
  | .list items => Value.subclassesFlatList items
  | .dict true entries => Value.subclassesFlatEntries entries
  | .dict false entries => !Value.holdsObjectEntries entries
  | .resources memory vcores => memory.subclassesFlat && vcores.subclassesFlat
  | .file source type visibility size timestamp =>
      source.subclassesFlat && type.subclassesFlat && visibility.subclassesFlat &&
        size.subclassesFlat && timestamp.subclassesFlat
  | .service commands request instances files env depends =>
      commands.subclassesFlat && request.subclassesFlat && instances.subclassesFlat &&
        files.subclassesFlat && env.subclassesFlat && depends.subclassesFlat
  | .job name queue services =>
      name.subclassesFlat && queue.subclassesFlat && services.subclassesFlat
  | .resourceUsageReport memorySeconds vcoreSeconds numUsedContainers neededResources
      reservedResources usedResources =>
      memorySeconds.subclassesFlat && vcoreSeconds.subclassesFlat &&
        numUsedContainers.subclassesFlat && neededResources.subclassesFlat &&
        reservedResources.subclassesFlat && usedResources.subclassesFlat
  | .applicationReport id name user queue tags host port trackingUrl state finalStatus progress
      usage diagnostics startTime finishTime =>
      id.subclassesFlat && name.subclassesFlat && user.subclassesFlat && queue.subclassesFlat &&
        tags.subclassesFlat && host.subclassesFlat && port.subclassesFlat &&
        trackingUrl.subclassesFlat && state.subclassesFlat && finalStatus.subclassesFlat &&
        progress.subclassesFlat && usage.subclassesFlat && diagnostics.subclassesFlat &&
        startTime.subclassesFlat && finishTime.subclassesFlat
  | _ => true

def Value.subclassesFlatList : List Value → Bool
  | [] => true
  | x :: xs => x.subclassesFlat && Value.subclassesFlatList xs

def Value.subclassesFlatEntries : List (String × Value) → Bool
  | [] => true
  | (_, v) :: rest => v.subclassesFlat && Value.subclassesFlatEntries rest

end

theorem Value.holdsObjectEntries_eq_false {entries : List (String × Value)} :
    Value.holdsObjectEntries entries = false ↔ ∀ e ∈ entries, e.2.holdsObject = false := by
  induction entries with
  | nil => simp [Value.holdsObjectEntries]
  | cons e rest ih => simp [Value.holdsObjectEntries, ih]

theorem Value.holdsObjectEntries_of_mem {entries : List (String × Value)} {e : String × Value}
    (hm : e ∈ entries) (he : e.2.holdsObject = true) :
    Value.holdsObjectEntries entries = true := by
  cases h : Value.holdsObjectEntries entries with
  | false => simp [Value.holdsObjectEntries_eq_false.mp h e hm] at he
  | true => rfl

/-- What an entity's method returns holds no object when none of its converted slots does:
`to_dict`'s mapping holds only converted slots, and `to_protobuf` returns a message. -/
theorem Method.finish_holdsObject {m : Method}
    {make : Proto.Schema → List (String × Value) → Except Error Proto.Message}
    {slots : List (String × Value × Value)} {y : Value} (h : m.finish make slots = .ok y)
    (hs : ∀ s ∈ slots, s.2.2.holdsObject = false) : y.holdsObject = false := by
  cases m with
  | toDict _ skipNulls =>
    cases h
    refine Value.holdsObjectEntries_eq_false.mpr fun e he => ?_
    obtain ⟨s, hs', hse⟩ := List.mem_filterMap.mp he
    split at hse
    · cases hse
    · cases hse; exact hs s hs'
  | toProtobuf _ schema =>
    obtain ⟨_, -, rfl⟩ := map_eq_ok.mp h
    rfl

section Convert

variable (m : Method)

mutual

/-- `_convert` returns a value that holds no entity and no `datetime` when no subclass
mapping in its argument holds one. -/
theorem convert_holdsObject : ∀ (x y : Value), convert m x = .ok y →
    x.subclassesFlat = true → y.holdsObject = false
  | .none, _, h, _ | .required, _, h, _ | .int _, _, h, _ | .float _, _, h, _
  | .str _, _, h, _ | .message _, _, h, _ | .datetime _, _, h, _ => by cases h; rfl
  | .list items, _, h, hx => by
    obtain ⟨items', hi, rfl⟩ := map_eq_ok.mp h
    exact convertList_holdsObject items items' hi hx
  | .dict true entries, _, h, hx => by
    obtain ⟨entries', he, rfl⟩ := map_eq_ok.mp h
    exact convertEntries_holdsObject entries entries' he hx
  | .dict false entries, _, h, hx => by
    cases h
    change (!Value.holdsObjectEntries entries) = true at hx
    simpa using hx
  | .resources memory vcores, _, h, hx => by
    rw [convert_resources] at h
    simp only [bind_eq_ok] at h
    obtain ⟨_, -, memory', h1, vcores', h2, h⟩ := h
    change (_ && _) = true at hx
    simp only [Bool.and_eq_true, and_assoc] at hx
    obtain ⟨hx1, hx2⟩ := hx
    refine Method.finish_holdsObject h ?_
    simp only [List.forall_mem_cons, List.not_mem_nil, false_implies, implies_true, and_true]
    exact ⟨convert_holdsObject _ _ h1 hx1, convert_holdsObject _ _ h2 hx2⟩
  | .file source type visibility size timestamp, _, h, hx => by
    rw [convert_file] at h
    simp only [bind_eq_ok] at h
    obtain ⟨_, -, source', h1, type', h2, visibility', h3, size', h4, timestamp', h5, h⟩ := h
    change (_ && _ && _ && _ && _) = true at hx
    simp only [Bool.and_eq_true, and_assoc] at hx
    obtain ⟨hx1, hx2, hx3, hx4, hx5⟩ := hx
    refine Method.finish_holdsObject h ?_
    simp only [List.forall_mem_cons, List.not_mem_nil, false_implies, implies_true, and_true]
    exact ⟨convert_holdsObject _ _ h1 hx1, convert_holdsObject _ _ h2 hx2,
      convert_holdsObject _ _ h3 hx3, convert_holdsObject _ _ h4 hx4,
      convert_holdsObject _ _ h5 hx5⟩
  | .service commands resources instances files env depends, _, h, hx => by
    rw [convert_service] at h
    simp only [bind_eq_ok] at h
    obtain ⟨_, -, commands', h1, resources', h2, instances', h3, files', h4, env', h5,
      depends', h6, h⟩ := h
    change (_ && _ && _ && _ && _ && _) = true at hx
    simp only [Bool.and_eq_true, and_assoc] at hx
    obtain ⟨hx1, hx2, hx3, hx4, hx5, hx6⟩ := hx
    refine Method.finish_holdsObject h ?_
    simp only [List.forall_mem_cons, List.not_mem_nil, false_implies, implies_true, and_true]
    exact ⟨convert_holdsObject _ _ h1 hx1, convert_holdsObject _ _ h2 hx2,
      convert_holdsObject _ _ h3 hx3, convert_holdsObject _ _ h4 hx4,
      convert_holdsObject _ _ h5 hx5, convert_holdsObject _ _ h6 hx6⟩
  | .job name queue services, _, h, hx => by
    rw [convert_job] at h
    simp only [bind_eq_ok] at h
    obtain ⟨_, -, name', h1, queue', h2, services', h3, h⟩ := h
    change (_ && _ && _) = true at hx
    simp only [Bool.and_eq_true, and_assoc] at hx
    obtain ⟨hx1, hx2, hx3⟩ := hx
    refine Method.finish_holdsObject h ?_
    simp only [List.forall_mem_cons, List.not_mem_nil, false_implies, implies_true, and_true]
    exact ⟨convert_holdsObject _ _ h1 hx1, convert_holdsObject _ _ h2 hx2,
      convert_holdsObject _ _ h3 hx3⟩
  | .resourceUsageReport memorySeconds vcoreSeconds numUsedContainers neededResources
      reservedResources usedResources, _, h, hx => by
    rw [convert_resourceUsageReport] at h
    simp only [bind_eq_ok] at h
    obtain ⟨_, -, memorySeconds', h1, vcoreSeconds', h2, numUsedContainers', h3,
      neededResources', h4, reservedResources', h5, usedResources', h6, h⟩ := h
    change (_ && _ && _ && _ && _ && _) = true at hx
    simp only [Bool.and_eq_true, and_assoc] at hx
    obtain ⟨hx1, hx2, hx3, hx4, hx5, hx6⟩ := hx
    refine Method.finish_holdsObject h ?_
    simp only [List.forall_mem_cons, List.not_mem_nil, false_implies, implies_true, and_true]
    exact ⟨convert_holdsObject _ _ h1 hx1, convert_holdsObject _ _ h2 hx2,
      convert_holdsObject _ _ h3 hx3, convert_holdsObject _ _ h4 hx4,
      convert_holdsObject _ _ h5 hx5, convert_holdsObject _ _ h6 hx6⟩
  | .applicationReport id name user queue tags host port trackingUrl state finalStatus progress
      usage diagnostics startTime finishTime, _, h, hx => by
    rw [convert_applicationReport] at h
    simp only [bind_eq_ok] at h
    obtain ⟨_, -, id', h1, name', h2, user', h3, queue', h4, tags', h5, host', h6, port', h7,
      trackingUrl', h8, state', h9, finalStatus', h10, progress', h11, usage', h12,
      diagnostics', h13, startTime', h14, finishTime', h15, h⟩ := h
    change (_ && _ && _ && _ && _ && _ && _ && _ && _ && _ && _ && _ && _ && _ && _) = true at hx
    simp only [Bool.and_eq_true, and_assoc] at hx
    obtain ⟨hx1, hx2, hx3, hx4, hx5, hx6, hx7, hx8, hx9, hx10, hx11, hx12, hx13, hx14,
      hx15⟩ := hx
    refine Method.finish_holdsObject h ?_
    simp only [List.forall_mem_cons, List.not_mem_nil, false_implies, implies_true, and_true]
    exact ⟨convert_holdsObject _ _ h1 hx1, convert_holdsObject _ _ h2 hx2,
      convert_holdsObject _ _ h3 hx3, convert_holdsObject _ _ h4 hx4,
      convert_holdsObject _ _ h5 hx5, convert_holdsObject _ _ h6 hx6,
      convert_holdsObject _ _ h7 hx7, convert_holdsObject _ _ h8 hx8,
      convert_holdsObject _ _ h9 hx9, convert_holdsObject _ _ h10 hx10,
      convert_holdsObject _ _ h11 hx11, convert_holdsObject _ _ h12 hx12,
      convert_holdsObject _ _ h13 hx13, convert_holdsObject _ _ h14 hx14,
      convert_holdsObject _ _ h15 hx15⟩

theorem convertList_holdsObject : ∀ (items items' : List Value),
    convertList m items = .ok items' → Value.subclassesFlatList items = true →
      Value.holdsObjectList items' = false
  | [], _, h, _ => by cases h; rfl
  | x :: xs, _, h, hx => by
    simp only [convertList_cons, bind_eq_ok, pure_eq_ok, Except.ok.injEq] at h
    obtain ⟨x', h1, xs', h2, rfl⟩ := h
    simp only [Value.subclassesFlatList, Bool.and_eq_true] at hx
    simp [Value.holdsObjectList, convert_holdsObject _ _ h1 hx.1,
      convertList_holdsObject _ _ h2 hx.2]

theorem convertEntries_holdsObject : ∀ (entries entries' : List (String × Value)),
    convertEntries m entries = .ok entries' → Value.subclassesFlatEntries entries = true →
      Value.holdsObjectEntries entries' = false
  | [], _, h, _ => by cases h; rfl
  | (k, v) :: rest, _, h, hx => by
    simp only [convertEntries_cons, bind_eq_ok, pure_eq_ok, Except.ok.injEq] at h
    obtain ⟨v', h1, rest', h2, rfl⟩ := h
    simp only [Value.subclassesFlatEntries, Bool.and_eq_true] at hx
    simp [Value.holdsObjectEntries, convert_holdsObject _ _ h1 hx.1,
      convertEntries_holdsObject _ _ h2 hx.2]

end

end Convert

theorem Value.toDict_holdsObject {clock : Clock} {skip : Bool} {x y : Value}
    (h : x.toDict clock skip = .ok y)
    (hx : x.subclassesFlat = true) : y.holdsObject = false := by
  unfold Value.toDict at h
  split at h
  · exact convert_holdsObject _ _ _ h hx
  · cases h

section Valid

/-! Validity leaves a subclass mapping only where its values are strings or entities: the
`env` of a service, and the `files` and `services` that `Job.mappingsPlain` asks to be plain. -/

variable {v : Value}

theorem Value.subclassesFlatList_eq_true {items : List Value} :
    Value.subclassesFlatList items = true ↔ ∀ x ∈ items, x.subclassesFlat = true := by
  induction items with
  | nil => simp [Value.subclassesFlatList]
  | cons x xs ih => simp [Value.subclassesFlatList, ih]

theorem Value.subclassesFlatEntries_eq_true {entries : List (String × Value)} :
    Value.subclassesFlatEntries entries = true ↔
      ∀ e ∈ entries, e.2.subclassesFlat = true := by
  induction entries with
  | nil => simp [Value.subclassesFlatEntries]
  | cons e rest ih => simp [Value.subclassesFlatEntries, ih]

theorem Value.IsStr.subclassesFlat (h : v.IsStr) : v.subclassesFlat = true := by
  obtain ⟨_, rfl⟩ := h; rfl

theorem Value.IsStr.holdsObject (h : v.IsStr) : v.holdsObject = false := by
  obtain ⟨_, rfl⟩ := h; rfl

theorem Value.IsListOf.subclassesFlat_str (h : v.IsListOf Value.IsStr) :
    v.subclassesFlat = true := by
  obtain ⟨items, rfl, hi⟩ := h.eq_list
  exact Value.subclassesFlatList_eq_true.mpr fun x hx => (hi x hx).subclassesFlat

/-- A mapping of strings is flat whether it is a plain `dict` or not. -/
theorem Value.IsDictOf.subclassesFlat_str (h : v.IsDictOf Value.IsStr) :
    v.subclassesFlat = true := by
  obtain ⟨exact, entries, rfl, he⟩ := h.eq_dict
  cases exact
  · change (!Value.holdsObjectEntries entries) = true
    simpa [Value.holdsObjectEntries_eq_false] using fun e hm => (he e hm).holdsObject
  · exact Value.subclassesFlatEntries_eq_true.mpr fun e hm => (he e hm).subclassesFlat

theorem Resources.Valid.subclassesFlat {min : Int} (h : Resources.Valid min v) :
    v.subclassesFlat = true := by
  cases v with
  | resources memory vcores => obtain ⟨⟨_, rfl, -⟩, ⟨_, rfl, -⟩⟩ := h; rfl
  | _ => exact h.elim

theorem File.Valid.subclassesFlat (h : File.Valid v) : v.subclassesFlat = true := by
  cases v with
  | file source type visibility size timestamp =>
    obtain ⟨⟨_, rfl⟩, ⟨_, rfl, -⟩, ⟨_, rfl, -⟩, ⟨_, rfl, -⟩, ⟨_, rfl, -⟩⟩ := h
    rfl
  | _ => exact h.elim

theorem Service.Valid.subclassesFlat (h : Service.Valid v) (hp : Service.filesPlain v) :
    v.subclassesFlat = true := by
  obtain ⟨commands, resources, n, files, exact, env, depends, rfl, hc, hr, hf, he, hd⟩ :=
    h.plain hp
  have hf' : Value.subclassesFlatEntries files = true :=
    Value.subclassesFlatEntries_eq_true.mpr fun e hm => (hf e hm).subclassesFlat
  show (_ && _ && _ && _ && _ && _) = true
  simp only [Bool.and_eq_true, and_assoc]
  exact ⟨hc.subclassesFlat_str, hr.subclassesFlat, rfl, hf', he.subclassesFlat_str,
    hd.subclassesFlat_str⟩

theorem Job.Valid.subclassesFlat (h : Job.Valid v) (hp : Job.mappingsPlain v) :
    v.subclassesFlat = true := by
  obtain ⟨name, queue, services, rfl, hq, hs⟩ := h.plain hp
  have hqf : queue.subclassesFlat = true := by rcases hq with ⟨_, rfl⟩ | rfl <;> rfl
  show (_ && _ && _) = true
  simp only [Bool.and_eq_true, and_assoc]
  exact ⟨rfl, hqf, Value.subclassesFlatEntries_eq_true.mpr fun e hm =>
    (hs e hm).1.subclassesFlat (hs e hm).2⟩

end Valid

/-- The mapping form of a valid job whose mappings are plain holds no entity and no
`datetime`. -/
theorem Job.toDict_holdsNoObject {clock : Clock} {skip : Bool} {j : Value} (h : Job.Valid j)
    (hp : Job.mappingsPlain j) : ∃ d, j.toDict clock skip = .ok d ∧ d.holdsObject = false := by
  obtain ⟨d, hd, -⟩ := @Job.Valid.toDict_fromDict clock skip j h hp
  exact ⟨d, hd, Value.toDict_holdsObject hd (h.subclassesFlat hp)⟩

theorem Job.toDict_holdsNoObject_web :
    let clock : Clock := ⟨fun us => us / 1000, fun _ => throw .timedelta⟩
    ∃ d, (Value.job (.str "skein") .none (.dict true [("web", .service (.list [.str "serve"])
        (.resources (.int 1) (.int 1)) (.int 1) (.dict true []) (.dict true [])
        (.list []))])).toDict clock true = .ok d ∧ d.holdsObject = false :=
  Job.toDict_holdsNoObject (Job.validate_ok.mp rfl) rfl

/-- A valid job whose services are a mapping of a subclass of `dict` keeps that mapping, and
so its `Service` objects, in its mapping form. -/
theorem Job.toDict_subclass_holdsObject {clock : Clock} {skip : Bool} {name queue : Value}
    {services : List (String × Value)} (h : Job.Valid (.job name queue (.dict false services))) :
    ∃ d, (Value.job name queue (.dict false services)).toDict clock skip = .ok d ∧
      d.holdsObject = true := by
  have hv := Job.validate_ok.mpr h
  obtain ⟨⟨n, rfl⟩, hq, hs, hne⟩ := h
  have hS : (Value.dict false services).holdsObject = true := by
    obtain ⟨⟨k, s⟩, rest, rfl⟩ := List.exists_cons_of_ne_nil hne
    have hsv : Service.Valid s := hs _ (List.mem_cons_self _ _)
    cases s <;> first | rfl | exact hsv.elim
  rcases hq with ⟨q, rfl⟩ | rfl <;>
  · simp only [Value.toDict, Value.isEntity, if_true, convert_job, hv, ok_bind, convert_str,
      convert_none, convert_dict_subclass, Method.finish, pure_eq_ok]
    refine ⟨_, rfl, Value.holdsObjectEntries_of_mem (List.mem_filterMap.mpr ⟨("services", _, _),
      List.mem_cons_of_mem _ (List.mem_cons_of_mem _ (List.mem_singleton_self _)),
      by cases skip <;> rfl⟩) hS⟩

/-- `Job(services=OrderedDict(...))` keeps its `Service` object in its mapping form, and
`to_protobuf` hands the object to the message constructor, which rejects it. -/
theorem Job.toDict_orderedDict_holdsService :
    let clock : Clock := ⟨fun us => us / 1000, fun _ => throw .timedelta⟩
    let schema : Proto.Schema := ⟨⟨["FILE", "ARCHIVE"], by decide⟩,
      ⟨["PUBLIC", "PRIVATE", "APPLICATION"], by decide⟩, ⟨[], List.nodup_nil⟩,
      ⟨[], List.nodup_nil⟩, fun _ => .int64, List.Perm.refl _, by decide⟩
    let services : Value := .dict false [("web", .service (.list [.str "serve"])
      (.resources (.int 1) (.int 1)) (.int 1) (.dict true []) (.dict true []) (.list []))]
    Job.call [("services", services)] = .ok (.job (.str "skein") (.str "") services) ∧
      (∃ d, (Value.job (.str "skein") (.str "") services).toDict clock true = .ok d ∧
        d.holdsObject = true) ∧
      (Value.job (.str "skein") (.str "") services).toProtobuf clock schema =
        .error (.wireType "services") :=
  ⟨rfl, ⟨_, rfl, rfl⟩, rfl⟩

end Skein
