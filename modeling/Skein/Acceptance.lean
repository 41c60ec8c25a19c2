import Skein.Validity

/-!
What the mapping readers accept. Every `from_dict` of a job tree checks the keys of each
mapping at an entity position before it reads that mapping's children, so a key that a
position does not accept, at any depth, makes the whole read fail. A key the mapping leaves
out is passed on as `None`, which the `Job` constructor does not turn into its default.
-/

namespace Skein

/-- The entity positions of a job tree: a job, a service, its resources, a file of a
`files` mapping and a file spec of a `files` list. -/
inductive Position where
  | job | service | resources | file | fileSpec
  deriving DecidableEq, Repr

/-- The keys `_parse_file_spec` admits for the form of a file spec: the shorthand
`{file|archive: ...}` or the canonical `{source: ...}`. -/
def fileSpecKeys (m : Value) : List String :=
  if m.contains "file" then ["visibility", "size", "timestamp", "file", "dest"]
  else if m.contains "archive" then ["visibility", "size", "timestamp", "archive", "dest"]
  else File.slots ++ ["dest"]

namespace Position

/-- The keys a mapping at the position may have. -/
def keys : Position → Value → List String
  | .job, _ => Job.slots
  | .service, _ => Service.slots
  | .resources, _ => Resources.slots
  | .file, _ => File.slots
  | .fileSpec, m => fileSpecKeys m

/-- The reader of the position: its class's `from_dict`, or `_parse_file_spec` and the file it
returns. -/
def read : Position → Value → Except Error Value
  | .job => Job.fromDict
  | .service => Service.fromDict
  | .resources => Resources.fromDict
  | .file => File.fromDict
  | .fileSpec => fun m => Prod.snd <$> File.parseFileSpec m

end Position

/-- A mapping at position `pos`, or a mapping nested in it at an entity position, has a key
that its position does not accept. -/
inductive HasUnknownKey : Position → Value → Prop
  | here {pos : Position} {exact : Bool} {entries : List (String × Value)} {k : String} :
      k ∈ entries.map Prod.fst → k ∉ pos.keys (.dict exact entries) →
      HasUnknownKey pos (.dict exact entries)
  | service {m : Value} {exact : Bool} {services : List (String × Value)} {k : String}
      {s : Value} : m.get "services" = .dict exact services → (k, s) ∈ services →
      HasUnknownKey .service s → HasUnknownKey .job m
  | resources {m : Value} : HasUnknownKey .resources (m.get "resources") →
      HasUnknownKey .service m
  | file {m : Value} {exact : Bool} {files : List (String × Value)} {k : String} {f : Value} :
      m.get "files" = .dict exact files → (k, f) ∈ files → HasUnknownKey .file f →
      HasUnknownKey .service m
  | fileSpec {m : Value} {specs : List Value} {v : Value} :
      m.get "files" = .list specs → v ∈ specs → HasUnknownKey .fileSpec v →
      HasUnknownKey .service m

theorem HasUnknownKey.resources_dict {r : Value} (h : HasUnknownKey .resources r) :
    ∃ exact entries, r = .dict exact entries := by
  cases h; exact ⟨_, _, rfl⟩

section Failure

variable {β : Type}

theorem checkKeys_bind_error {cls : String} {keys : List String} {exact : Bool}
    {entries : List (String × Value)} {k : String} {f : Unit → Except Error β}
    (hk : k ∈ entries.map Prod.fst) (hbad : k ∉ keys) :
    ∃ e, checkKeys cls keys (.dict exact entries) >>= f = .error e := by
  obtain ⟨_, -, he⟩ := @checkKeys_unknown cls keys exact entries k hk hbad
  exact ⟨_, by rw [he]; rfl⟩

theorem mapValues_error {α : Type} {f : α → Except Error β} {entries : List (String × α)}
    {k : String} {a : α} (hm : (k, a) ∈ entries) (he : ∃ e, f a = .error e) :
    ∃ e, mapValues f entries = .error e := by
  induction entries with
  | nil => simp at hm
  | cons p rest ih =>
    obtain ⟨k', a'⟩ := p
    refine bind_error_of fun b hb => ?_
    rcases List.mem_cons.mp hm with h | h
    · obtain ⟨-, rfl⟩ := Prod.mk.inj h
      obtain ⟨e, he⟩ := he
      simp [he] at hb
    · obtain ⟨e, he⟩ := ih h
      exact ⟨e, by simp [he]⟩

theorem parseFileSpecs_error {specs : List Value} {acc : List (String × Value)} {v : Value}
    (hv : v ∈ specs) (he : ∃ e, Prod.snd <$> File.parseFileSpec v = .error e) :
    ∃ e, File.parseFileSpecs specs acc = .error e := by
  induction specs generalizing acc with
  | nil => simp at hv
  | cons w rest ih =>
    refine bind_error_of fun p hp => ?_
    rcases List.mem_cons.mp hv with rfl | h
    · obtain ⟨e, he⟩ := he
      simp [hp] at he
    · exact bind_error_of fun _ _ => ih h

/-- A file spec with a key its form does not admit is rejected: either it names both `file`
and `archive`, or `_check_keys` fails for its form. -/
theorem parseFileSpec_error {exact : Bool} {entries : List (String × Value)} {k : String}
    (hk : k ∈ entries.map Prod.fst) (hbad : k ∉ fileSpecKeys (.dict exact entries)) :
    ∃ e, File.parseFileSpec (.dict exact entries) = .error e := by
  refine bind_error_of fun key hkey => ?_
  have hst : ∃ e, File.specSourceType (.dict exact entries) key = .error e := by
    unfold File.specKey at hkey
    unfold fileSpecKeys at hbad
    by_cases hf : (Value.dict exact entries).contains "file" <;>
      by_cases ha : (Value.dict exact entries).contains "archive" <;>
      simp only [hf, ha, if_true, if_false, Bool.false_eq_true] at hkey hbad
    · cases hkey
    all_goals
      cases hkey
      exact checkKeys_bind_error hk hbad
  obtain ⟨e, he⟩ := hst
  exact ⟨e, by simp [he]⟩

end Failure

theorem Position.read_here {pos : Position} {exact : Bool} {entries : List (String × Value)}
    {k : String} (hk : k ∈ entries.map Prod.fst) (hbad : k ∉ pos.keys (.dict exact entries)) :
    ∃ e, pos.read (.dict exact entries) = .error e := by
  cases pos with
  | job => exact checkKeys_bind_error hk hbad
  | service => exact checkKeys_bind_error hk hbad
  | resources => exact checkKeys_bind_error hk hbad
  | file => exact checkKeys_bind_error hk hbad
  | fileSpec =>
    obtain ⟨e, he⟩ := parseFileSpec_error hk hbad
    exact ⟨e, by simp [Position.read, he]⟩

/-- A key that an entity position does not accept, in the mapping given to a reader or in any
mapping nested in it at an entity position, makes the read fail. -/
theorem Position.read_unknownKey {pos : Position} {m : Value} (h : HasUnknownKey pos m) :
    ∃ e, pos.read m = .error e := by
  induction h with
  | here hk hbad => exact Position.read_here hk hbad
  | service hs hk _ ih =>
    refine bind_error_of fun _ _ => bind_error_of fun services hsv => ?_
    simp only [Position.read] at ih
    obtain ⟨e, he⟩ := mapValues_error hk ih
    simp [hs, Job.servicesFromDict, he] at hsv
  | resources hr ih =>
    refine bind_error_of fun _ _ => bind_error_of fun r hres => ?_
    obtain ⟨exact, entries, hd⟩ := hr.resources_dict
    obtain ⟨e, he⟩ := ih
    simp [hd, Service.resourcesFromDict, Position.read] at he hres
    simp [he] at hres
  | file hf hk _ ih =>
    refine bind_error_of fun _ _ => bind_error_of fun _ _ => bind_error_of fun files hfs => ?_
    simp only [Position.read] at ih
    obtain ⟨e, he⟩ := mapValues_error hk ih
    simp [hf, Service.filesFromDict, he] at hfs
  | fileSpec hf hv _ ih =>
    refine bind_error_of fun _ _ => bind_error_of fun _ _ => bind_error_of fun files hfs => ?_
    obtain ⟨e, he⟩ := @parseFileSpecs_error _ [] _ hv ih
    simp [hf, Service.filesFromDict, he] at hfs

theorem Position.read_unknownKey_gpus :
    ∃ e, Position.read .job (.dict true [("services", .dict true [("web", .dict true [
      ("commands", .list [.str "serve"]),
      ("resources", .dict true [("memory", .int 1), ("vcores", .int 1), ("gpus", .int 1)])])])]) =
      .error e := by
  apply Position.read_unknownKey
  refine .service rfl (List.mem_singleton_self _) (.resources ?_)
  exact @HasUnknownKey.here .resources true _ "gpus" (by decide) (by decide)

/-- `ResourceUsageReport.from_dict` reads a nested resources mapping only at `memory` and
`vcores`: two mappings that agree there give the same `Resources`. -/
theorem ResourceUsageReport.clampedResources_congr {obj obj' : Value} {k2 : String}
    {exact exact' : Bool} {entries entries' : List (String × Value)}
    (h : obj.index k2 = .ok (.dict exact entries))
    (h' : obj'.index k2 = .ok (.dict exact' entries'))
    (hm : entries.lookup "memory" = entries'.lookup "memory")
    (hv : entries.lookup "vcores" = entries'.lookup "vcores") :
    ResourceUsageReport.clampedResources obj k2 = ResourceUsageReport.clampedResources obj' k2 := by
  rw [ResourceUsageReport.clampedResources, ResourceUsageReport.clampedResources, h, h']
  simp only [ok_bind, subscript, Value.index, Value.entries, hm, hv]

/-- A usage report whose needed resources carry a key that is not a field of `Resources` is
accepted. -/
theorem ResourceUsageReport.fromDict_nestedUnknownKey :
    ResourceUsageReport.fromDict (.dict true [("memorySeconds", .int 0), ("vcoreSeconds", .int 0),
      ("numUsedContainers", .int 0),
      ("neededResources", .dict true [("memory", .int 0), ("vcores", .int 0), ("gpus", .int 1)]),
      ("reservedResources", .dict true [("memory", .int 0), ("vcores", .int 0)]),
      ("usedResources", .dict true [("memory", .int 0), ("vcores", .int 0)])]) =
      .ok (.resourceUsageReport (.int 0) (.int 0) (.int 0) (.resources (.int 0) (.int 0))
        (.resources (.int 0) (.int 0)) (.resources (.int 0) (.int 0))) :=
  rfl

/-- A job mapping without `name` is rejected: `Job.from_dict` passes `name=None`, where the
constructor's default is `'skein'`. -/
theorem Job.fromDict_noName {obj : Value} (h : obj.contains "name" = false) :
    ∃ e, Job.fromDict obj = .error e := by
  have hn : obj.get "name" = .none := by
    unfold Value.contains at h
    unfold Value.get Value.getD
    cases hl : obj.entries.lookup "name"
    · rfl
    · simp [hl] at h
  refine bind_error_of fun _ _ => bind_error_of fun services _ => ?_
  rw [hn]
  exact bind_error_of fun _ _ => ⟨_, rfl⟩

/-- `Job(services=...)` takes the default name `'skein'` and queue `''`; `Job.from_dict` of
the same services rejects the mapping for its missing name. -/
theorem Job.fromDict_defaultName :
    Job.call [("services", .dict true [("web", .service (.list [.str "serve"])
        (.resources (.int 1) (.int 1)) (.int 1) (.dict true []) (.dict true []) (.list []))])] =
      .ok (.job (.str "skein") (.str "") (.dict true [("web", .service (.list [.str "serve"])
        (.resources (.int 1) (.int 1)) (.int 1) (.dict true []) (.dict true []) (.list []))])) ∧
    Job.fromDict (.dict true [("services", .dict true [("web", .dict true [
        ("commands", .list [.str "serve"]),
        ("resources", .dict true [("memory", .int 1), ("vcores", .int 1)])])])]) =
      .error (.notInstance "name" .str false) :=
  ⟨rfl, rfl⟩

end Skein
