import Skein.Entities
import Skein.Strings

/-!
The inbound conversions from the mapping form. `Resources` and `File` use `Base.from_dict`,
which checks the keys and makes the keyword call `cls(**obj)`; `Service` and `Job` check
their keys, convert their nested mappings and pass what `obj.get` returns; a `Service`
takes its files either as a mapping or as a list of file specs read by
`File._parse_file_spec`. The two reports read camelCase keys, `_to_camel_case` of their
slots. JSON, YAML and files reach `from_dict` through external codecs.
-/

namespace Skein

/-- `Base.from_dict(cls, obj)`: the keys of `obj` must be slots of `cls`, whose constructor
is then called with them. -/
def Base.fromDict (name : String) (slots : List String)
    (call : List (String × Value) → Except Error Value) (obj : Value) : Except Error Value := do
  checkKeys name slots obj
  call obj.entries

/-- `Resources.from_dict(obj)`. -/
def Resources.fromDict : Value → Except Error Value :=
  Base.fromDict "Resources" Resources.slots Resources.call

/-- `File.from_dict(obj)`. -/
def File.fromDict : Value → Except Error Value :=
  Base.fromDict "File" File.slots File.call

namespace File

/-- The archive extensions `_parse_file_spec` strips, in the order it tries them. -/
def archiveExts : List String := [".zip", ".tar.gz", ".tgz"]

/-- `name` without the first of `exts` it ends with. -/
def stripExt (name : String) : List String → String
  | [] => name
  | ext :: exts => if Py.endswith name ext then Py.dropLast name ext.length else stripExt name exts

/-- The form of a file spec: the shorthand key `file` or `archive` when there is one. -/
def specKey (obj : Value) : Except Error (Option String) :=
  if obj.contains "file" then
    if obj.contains "archive" then throw .fileAndArchive else pure (some "file")
  else pure (if obj.contains "archive" then some "archive" else Option.none)

/-- A file spec's keys checked for its form, then its source and its upper-cased type. -/
def specSourceType (obj : Value) : Option String → Except Error (Value × Value)
  | Option.none => do
    checkKeys "File" (slots ++ ["dest"]) obj
    let source ← obj.index "source"
    match obj.getD "type" (.str "FILE") with
    | .str type => pure (source, .str (Py.upper type))
    | _ => throw (.noAttribute "upper")
  | some key => do
    checkKeys "File" ["visibility", "size", "timestamp", key, "dest"] obj
    pure (← obj.index key, .str (Py.upper key))

/-- The source kept and the `dest` given, or, without a `dest` key, the path of the
source's URL for both, the dest being its last segment less a known archive extension. -/
def specDest (obj source type : Value) : Except Error (Value × Value) :=
  if obj.contains "dest" then do pure (source, ← obj.index "dest")
  else do
    let .str url := source | throw .urlType
    let path ← Py.urlPath url
    -- `if name is None` never holds: `os.path.split` returns strings.
    let name := Py.basename path
    let dest := if type matches .str "ARCHIVE" then stripExt name archiveExts else name
    pure (.str path, .str dest)

/-- `File._parse_file_spec(obj)`: a file spec of a list, either the shorthand
`{file|archive: source, ...}` or the canonical `{source: ..., ...}`, to `(dest, File)`. -/
def parseFileSpec (obj : Value) : Except Error (Value × Value) := do
  let .dict _ _ := obj | throw .fileSpecNotMapping
  let (source, type) ← specSourceType obj (← specKey obj)
  let (source, dest) ← specDest obj source type
  let resource ← init source type (obj.getD "visibility" (.str "APPLICATION"))
    (obj.getD "size" (.int 0)) (obj.getD "timestamp" (.int 0))
  pure (dest, resource)

/-- A file spec's `dest` as a key of the `files` mapping. A key that is no string cannot
be a `files` key: `Service._validate` rejects it later, or it is unhashable. -/
def destKey : Value → Except Error String
  | .str s => pure s
  | dest => if dest.isHashable then throw (.notDictOf "files" .str .file false)
      else throw .unhashable

/-- `d[k] = v`: a present key keeps its place and takes the new value. -/
def dictInsert : List (String × Value) → String → Value → List (String × Value)
  | [], k, v => [(k, v)]
  | (k', v') :: rest, k, v => if k' = k then (k, v) :: rest else (k', v') :: dictInsert rest k v

/-- `dict(File._parse_file_spec(v) for v in specs)`, one spec at a time onto `acc`. -/
def parseFileSpecs : List Value → List (String × Value) → Except Error (List (String × Value))
  | [], acc => pure acc
  | v :: specs, acc => do
    let (dest, file) ← parseFileSpec v
    parseFileSpecs specs (dictInsert acc (← destKey dest) file)

end File

namespace Service

/-- `Resources.from_dict(resources)` unless `resources` is `None`. -/
def resourcesFromDict (resources : Value) : Except Error Value :=
  match resources with
  | .none => pure .none
  | resources => Resources.fromDict resources

/-- A list of file specs read by `_parse_file_spec`, a mapping's values by
`File.from_dict`, anything else as it is. -/
def filesFromDict (files : Value) : Except Error Value :=
  match files with
  | .list specs => .dict true <$> File.parseFileSpecs specs []
  | .dict _ entries => .dict true <$> mapValues File.fromDict entries
  | files => pure files

/-- `cls(**kwargs)`, with the keyword arguments `Service.from_dict` builds from `obj` and the
resources and files it has read: `instances` only when `obj` has that key. -/
def kwargsCall (obj resources files : Value) : Except Error Value := do
  let instances ← if obj.contains "instances" then do pure [("instances", ← obj.index "instances")]
    else pure []
  call ([("resources", resources), ("files", files), ("env", obj.get "env"),
    ("commands", obj.get "commands"), ("depends", obj.get "depends")] ++ instances)

/-- `Service.from_dict(obj)`. -/
def fromDict (obj : Value) : Except Error Value := do
  checkKeys "Service" slots obj
  let resources ← resourcesFromDict (obj.get "resources")
  kwargsCall obj resources (← filesFromDict (obj.get "files"))

end Service

namespace Job

/-- A mapping's values read by `Service.from_dict`, anything else as it is. -/
def servicesFromDict (services : Value) : Except Error Value :=
  match services with
  | .dict _ entries => .dict true <$> mapValues Service.fromDict entries
  | services => pure services

/-- `Job.from_dict(obj)`. -/
def fromDict (obj : Value) : Except Error Value := do
  checkKeys "Job" slots obj
  let services ← servicesFromDict (obj.get "services")
  init services (obj.get "name") (obj.get "queue")

end Job

/-- `_to_camel_case(x)`. -/
def toCamelCase (x : String) : String :=
  match Py.split x '_' with
  | [] => ""
  | part :: parts => part ++ String.join (parts.map Py.title)

/-- `max(0, x)`: `x` when it is greater than `0`, else the int `0`. -/
def pyMax0 : Value → Except Error Value
  | .int n => pure (.int (max 0 n))
  | .float x => pure (if x.isPositive then .float x else .int 0)
  | _ => throw .unorderable

/-- `val[k]`: a mapping's entry; no other value the code meets here is subscriptable. -/
def subscript (val : Value) (k : String) : Except Error Value :=
  match val with
  | .dict .. => val.index k
  | _ => throw .notSubscriptable

namespace ResourceUsageReport

/-- `ResourceUsageReport._keys`. -/
def keys : List String := slots.map toCamelCase

/-- The loop body of `from_dict` for one resource key `k2`:
`Resources(vcores=max(0, val['vcores']), memory=max(0, val['memory']))`. -/
def clampedResources (obj : Value) (k2 : String) : Except Error Value := do
  let val ← obj.index k2
  let vcores ← pyMax0 (← subscript val "vcores")
  let memory ← pyMax0 (← subscript val "memory")
  Resources.init memory vcores

/-- `ResourceUsageReport.from_dict(obj)`. -/
def fromDict (obj : Value) : Except Error Value := do
  checkKeys "ResourceUsageReport" keys obj
  let memorySeconds ← obj.index "memorySeconds"
  let vcoreSeconds ← obj.index "vcoreSeconds"
  let numUsedContainers ← pyMax0 (← obj.index "numUsedContainers")
  let neededResources ← clampedResources obj "neededResources"
  let reservedResources ← clampedResources obj "reservedResources"
  let usedResources ← clampedResources obj "usedResources"
  init memorySeconds vcoreSeconds numUsedContainers neededResources reservedResources
    usedResources

end ResourceUsageReport

namespace ApplicationReport

/-- `ApplicationReport._keys`. -/
def keys : List String := slots.map toCamelCase

/-- `{k: obj.get(k2) for k, k2 in zip(cls.__slots__, cls._keys)}`. -/
def kwargsOf (obj : Value) : List (String × Value) :=
  (slots.zip keys).map fun p => (p.1, obj.get p.2)

/-- `ApplicationReport.from_dict(obj)`. -/
def fromDict (clock : Clock) (obj : Value) : Except Error Value := do
  checkKeys "ApplicationReport" keys obj
  let kw := kwargsOf obj
  let usage ← ResourceUsageReport.fromDict (kwarg kw "usage" .none)
  let startTime ← datetimeFromMillis clock (kwarg kw "start_time" .none)
  let finishTime ← datetimeFromMillis clock (kwarg kw "finish_time" .none)
  init (kwarg kw "id" .none) (kwarg kw "name" .none) (kwarg kw "user" .none)
    (kwarg kw "queue" .none) (kwarg kw "tags" .none) (kwarg kw "host" .none)
    (kwarg kw "port" .none) (kwarg kw "tracking_url" .none) (kwarg kw "state" .none)
    (kwarg kw "final_status" .none) (kwarg kw "progress" .none) usage
    (kwarg kw "diagnostics" .none) startTime finishTime

end ApplicationReport

/-- The `format` argument of `from_file` and `to_file`: the string literal `'infer'`, which
is their default and, being interned, the one object `format is 'infer'` holds for; or
another string object, which that test rejects even when it spells `infer`. -/
inductive Format where
  | infer
  | given (format : String)
  deriving DecidableEq, Repr

/-- `_infer_format(path, format)`. -/
def inferFormat (path : String) : Format → Except Error String
  | .infer =>
    let ext := Py.splitextExt path
    if ext = ".json" then pure "json"
    else if ext ∈ [".yaml", ".yml"] then pure "yaml"
    else throw (.cannotInferFormat path)
  | .given format =>
    if format ∉ ["json", "yaml"] then throw (.unknownFormat format) else pure format

/-- The external collaborators of the text and file constructors: `json.loads`,
`yaml.safe_load` and reading a file. -/
structure Codecs where
  jsonLoads : String → Except Error Value
  yamlSafeLoad : String → Except Error Value
  readFile : String → Except Error String

/-- `cls.from_json(b)`, for the class whose `from_dict` is given. -/
def Base.fromJson (codecs : Codecs) (fromDict : Value → Except Error Value) (b : String) :
    Except Error Value := do
  fromDict (← codecs.jsonLoads b)

/-- `cls.from_yaml(b)`. -/
def Base.fromYaml (codecs : Codecs) (fromDict : Value → Except Error Value) (b : String) :
    Except Error Value := do
  fromDict (← codecs.yamlSafeLoad b)

/-- `cls.from_file(path, format)`. -/
def Base.fromFile (codecs : Codecs) (fromDict : Value → Except Error Value)
    (path : String) (format : Format) : Except Error Value := do
  let format ← inferFormat path format
  let data ← codecs.readFile path
  if format = "json" then Base.fromJson codecs fromDict data
  else fromDict (← codecs.yamlSafeLoad data)

end Skein
