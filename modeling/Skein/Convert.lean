import Skein.Entities

/-!
The outbound conversions: `_convert`, with `to_dict` and `to_protobuf`, the two methods it
calls on the entities it meets. Both re-run the entity's `_validate` first. `_convert`
recurses into a value whose type is exactly `list` or `dict`, turns a `datetime` into the
milliseconds the host's `timestamp()` gives and returns anything else unchanged; a mapping
of a subclass of `dict` is returned as it is, entities inside it included. A message
constructor takes its keyword arguments with proto3's rules: `None` leaves a field at its
default, an enum field takes a label and stores its code, an integer outside its field's
type raises, and a wrongly typed value raises.
-/

namespace Skein

/-- The method `_convert` calls on an entity: `to_dict(skip_nulls)` or `to_protobuf()`. -/
inductive Method where
  | toDict (clock : Clock) (skipNulls : Bool)
  | toProtobuf (clock : Clock) (schema : Proto.Schema)

/-- The host whose `timestamp()` the method's `_convert` calls use. -/
def Method.clock : Method → Clock
  | .toDict clock _ | .toProtobuf clock _ => clock

namespace Wire

variable {α : Type}

/-- What a message field stores for a keyword argument: `None` leaves the default. -/
def fieldOf (default : α) (read : Value → Except Error α) : Value → Except Error α
  | .none => pure default
  | v => read v

@[simp] theorem fieldOf_none {default : α} {read : Value → Except Error α} :
    fieldOf default read .none = .ok default := rfl

@[simp] theorem fieldOf_of_ne_none {default : α} {read : Value → Except Error α} {v : Value}
    (h : v ≠ .none) : fieldOf default read v = read v := by
  cases v <;> first | exact absurd rfl h | rfl

/-- A keyword argument of a message constructor: absent or `None` leaves the default. -/
def field (kwargs : List (String × Value)) (name : String) (default : α)
    (read : Value → Except Error α) : Except Error α :=
  match kwargs.lookup name with
  | some v => fieldOf default read v
  | Option.none => pure default

/-- An integer field, whose type in `schema` bounds it. -/
def readInt (schema : Proto.Schema) (name : String) : Value → Except Error Int
  | .int n => if schema.fits name n then pure n else throw (.wireRange name n)
  | _ => throw (.wireType name)

/-- A string field. -/
def readString (name : String) : Value → Except Error String
  | .str s => pure s
  | _ => throw (.wireType name)

/-- A float field. -/
def readFloat (name : String) : Value → Except Error PyFloat
  | .float x => pure x
  | _ => throw (.wireType name)

/-- An enum field: a label is stored as its code, a code as it is when it is an `int32`. -/
def readEnum (e : WireEnum) (name : String) : Value → Except Error Int
  | .str s => match e.value s with
    | some code => pure code
    | Option.none => throw (.wireLabel name s)
  | .int n => if Proto.IntType.int32.contains n then pure n else throw (.wireRange name n)
  | _ => throw (.wireType name)

/-- A message field, whose value must be a message of the field's type. -/
def readMessage (name : String) (as : Proto.Message → Option α) : Value → Except Error α
  | .message m => match as m with
    | some a => pure a
    | Option.none => throw (.wireType name)
  | _ => throw (.wireType name)

/-- A map field, read from any mapping. -/
def readMap (name : String) (read : Value → Except Error α) :
    Value → Except Error (List (String × α))
  | .dict _ entries => mapValues read entries
  | _ => throw (.wireType name)

/-- A repeated field, read from a list. -/
def readRepeated (name : String) (read : Value → Except Error α) :
    Value → Except Error (List α)
  | .list items => mapItems read items
  | _ => throw (.wireType name)

end Wire

namespace Proto

open Wire

/-- `_proto.Resources(**kwargs)`. -/
def Resources.make (schema : Schema) (kw : List (String × Value)) : Except Error Resources := do
  pure { memory := ← field kw "memory" 0 (readInt schema "memory")
         vcores := ← field kw "vcores" 0 (readInt schema "vcores") }

/-- `_proto.File(**kwargs)`. -/
def File.make (schema : Schema) (kw : List (String × Value)) : Except Error File := do
  pure { source := ← field kw "source" "" (readString "source")
         type := ← field kw "type" 0 (readEnum schema.fileType "type")
         visibility := ← field kw "visibility" 0 (readEnum schema.fileVisibility "visibility")
         size := ← field kw "size" 0 (readInt schema "size")
         timestamp := ← field kw "timestamp" 0 (readInt schema "timestamp") }

/-- `_proto.Service(**kwargs)`. -/
def Service.make (schema : Schema) (kw : List (String × Value)) : Except Error Service := do
  pure { instances := ← field kw "instances" 0 (readInt schema "instances")
         resources := ← field kw "resources" default
           (readMessage "resources" Message.asResources)
         files := ← field kw "files" [] (readMap "files" (readMessage "files" Message.asFile))
         env := ← field kw "env" [] (readMap "env" (readString "env"))
         commands := ← field kw "commands" [] (readRepeated "commands" (readString "commands"))
         depends := ← field kw "depends" [] (readRepeated "depends" (readString "depends")) }

/-- `_proto.Job(**kwargs)`. -/
def Job.make (kw : List (String × Value)) : Except Error Job := do
  pure { name := ← field kw "name" "" (readString "name")
         queue := ← field kw "queue" "" (readString "queue")
         services := ← field kw "services" []
           (readMap "services" (readMessage "services" Message.asService)) }

/-- `_proto.ResourceUsageReport(**kwargs)`. -/
def ResourceUsageReport.make (schema : Schema) (kw : List (String × Value)) :
    Except Error ResourceUsageReport := do
  pure { memorySeconds := ← field kw "memory_seconds" 0 (readInt schema "memory_seconds")
         vcoreSeconds := ← field kw "vcore_seconds" 0 (readInt schema "vcore_seconds")
         numUsedContainers := ← field kw "num_used_containers" 0
           (readInt schema "num_used_containers")
         neededResources := ← field kw "needed_resources" default
           (readMessage "needed_resources" Message.asResources)
         reservedResources := ← field kw "reserved_resources" default
           (readMessage "reserved_resources" Message.asResources)
         usedResources := ← field kw "used_resources" default
           (readMessage "used_resources" Message.asResources) }

/-- `_proto.ApplicationReport(**kwargs)`. -/
def ApplicationReport.make (schema : Schema) (kw : List (String × Value)) :
    Except Error ApplicationReport := do
  pure { id := ← field kw "id" "" (readString "id")
         name := ← field kw "name" "" (readString "name")
         user := ← field kw "user" "" (readString "user")
         queue := ← field kw "queue" "" (readString "queue")
         tags := ← field kw "tags" [] (readRepeated "tags" (readString "tags"))
         host := ← field kw "host" "" (readString "host")
         port := ← field kw "port" 0 (readInt schema "port")
         trackingUrl := ← field kw "tracking_url" "" (readString "tracking_url")
         state := ← field kw "state" 0 (readEnum schema.applicationState "state")
         finalStatus := ← field kw "final_status" 0 (readEnum schema.finalStatus "final_status")
         progress := ← field kw "progress" default (readFloat "progress")
         usage := ← field kw "usage" default
           (readMessage "usage" Message.asResourceUsageReport)
         diagnostics := ← field kw "diagnostics" "" (readString "diagnostics")
         startTime := ← field kw "start_time" 0 (readInt schema "start_time")
         finishTime := ← field kw "finish_time" 0 (readInt schema "finish_time") }

/-- `make` on the report's slots in `__slots__` order stores each slot by its field's reader. -/
theorem ApplicationReport.make_slots {schema : Schema} {id name user queue tags host port
    trackingUrl state finalStatus progress usage diagnostics startTime finishTime : Value} :
    ApplicationReport.make schema [("id", id), ("name", name), ("user", user),
      ("queue", queue), ("tags", tags), ("host", host), ("port", port),
      ("tracking_url", trackingUrl), ("state", state), ("final_status", finalStatus),
      ("progress", progress), ("usage", usage), ("diagnostics", diagnostics),
      ("start_time", startTime), ("finish_time", finishTime)] = (do
      pure { id := ← fieldOf "" (readString "id") id
             name := ← fieldOf "" (readString "name") name
             user := ← fieldOf "" (readString "user") user
             queue := ← fieldOf "" (readString "queue") queue
             tags := ← fieldOf [] (readRepeated "tags" (readString "tags")) tags
             host := ← fieldOf "" (readString "host") host
             port := ← fieldOf 0 (readInt schema "port") port
             trackingUrl := ← fieldOf "" (readString "tracking_url") trackingUrl
             state := ← fieldOf 0 (readEnum schema.applicationState "state") state
             finalStatus := ← fieldOf 0 (readEnum schema.finalStatus "final_status") finalStatus
             progress := ← fieldOf default (readFloat "progress") progress
             usage := ← fieldOf default (readMessage "usage" Message.asResourceUsageReport) usage
             diagnostics := ← fieldOf "" (readString "diagnostics") diagnostics
             startTime := ← fieldOf 0 (readInt schema "start_time") startTime
             finishTime := ← fieldOf 0 (readInt schema "finish_time") finishTime }) := rfl

end Proto

/-- What an entity's method returns once its slots are converted, each slot given with its
value and its converted value: `to_dict`'s mapping, which leaves out `None` slots under
`skip_nulls`, or `to_protobuf`'s message, built by `make` from the converted slots. -/
def Method.finish : Method →
    (Proto.Schema → List (String × Value) → Except Error Proto.Message) →
    List (String × Value × Value) → Except Error Value
  | .toDict _ skipNulls, _, slots =>
      pure (.dict true (slots.filterMap fun s =>
        if skipNulls && s.2.1.isNone then Option.none else some (s.1, s.2.2)))
  | .toProtobuf _ schema, make, slots =>
      .message <$> make schema (slots.map fun s => (s.1, s.2.2))

mutual

/-- `_convert(x, method, *args)`. -/
def convert (method : Method) : Value → Except Error Value
  | .resources memory vcores => do
      Resources.validate memory vcores false
      method.finish (fun schema kw => .resources <$> Proto.Resources.make schema kw)
        [("memory", memory, ← convert method memory), ("vcores", vcores, ← convert method vcores)]
  | .file source type visibility size timestamp => do
      File.validate source type visibility size timestamp
      method.finish (fun schema kw => .file <$> Proto.File.make schema kw)
        [("source", source, ← convert method source), ("type", type, ← convert method type),
          ("visibility", visibility, ← convert method visibility),
          ("size", size, ← convert method size),
          ("timestamp", timestamp, ← convert method timestamp)]
  | .service commands resources instances files env depends => do
      Service.validate commands resources instances files env depends
      method.finish (fun schema kw => .service <$> Proto.Service.make schema kw)
        [("commands", commands, ← convert method commands),
          ("resources", resources, ← convert method resources),
          ("instances", instances, ← convert method instances),
          ("files", files, ← convert method files), ("env", env, ← convert method env),
          ("depends", depends, ← convert method depends)]
  | .job name queue services => do
      Job.validate name queue services
      method.finish (fun _ kw => .job <$> Proto.Job.make kw)
        [("name", name, ← convert method name), ("queue", queue, ← convert method queue),
          ("services", services, ← convert method services)]
  | .resourceUsageReport memorySeconds vcoreSeconds numUsedContainers neededResources
      reservedResources usedResources => do
      ResourceUsageReport.validate memorySeconds vcoreSeconds numUsedContainers neededResources
        reservedResources usedResources
      method.finish
        (fun schema kw => .resourceUsageReport <$> Proto.ResourceUsageReport.make schema kw)
        [("memory_seconds", memorySeconds, ← convert method memorySeconds),
          ("vcore_seconds", vcoreSeconds, ← convert method vcoreSeconds),
          ("num_used_containers", numUsedContainers, ← convert method numUsedContainers),
          ("needed_resources", neededResources, ← convert method neededResources),
          ("reserved_resources", reservedResources, ← convert method reservedResources),
          ("used_resources", usedResources, ← convert method usedResources)]
  | .applicationReport id name user queue tags host port trackingUrl state finalStatus progress
      usage diagnostics startTime finishTime => do
      ApplicationReport.validate id name user queue tags host port trackingUrl state finalStatus
        progress usage diagnostics startTime finishTime
      method.finish
        (fun schema kw => .applicationReport <$> Proto.ApplicationReport.make schema kw)
        [("id", id, ← convert method id), ("name", name, ← convert method name),
          ("user", user, ← convert method user), ("queue", queue, ← convert method queue),
          ("tags", tags, ← convert method tags), ("host", host, ← convert method host),
          ("port", port, ← convert method port),
          ("tracking_url", trackingUrl, ← convert method trackingUrl),
          ("state", state, ← convert method state),
          ("final_status", finalStatus, ← convert method finalStatus),
          ("progress", progress, ← convert method progress),
          ("usage", usage, ← convert method usage),
          ("diagnostics", diagnostics, ← convert method diagnostics),
          ("start_time", startTime, ← convert method startTime),
          ("finish_time", finishTime, ← convert method finishTime)]
  | .list items => .list <$> convertList method items
  | .dict true entries => .dict true <$> convertEntries method entries
  | .datetime micros => pure (.int (method.clock.timestampMillis micros))
  | x => pure x

/-- `[_convert(i, method, *args) for i in x]`. -/
def convertList (method : Method) : List Value → Except Error (List Value)
  | [] => pure []
  | x :: xs => do pure ((← convert method x) :: (← convertList method xs))

/-- `{k: _convert(v, method, *args) for k, v in x.items()}`. -/
def convertEntries (method : Method) : List (String × Value) → Except Error (List (String × Value))
  | [] => pure []
  | (k, v) :: rest => do pure ((k, ← convert method v) :: (← convertEntries method rest))

end

section Equations

/-! One equation per shape of value, true by definition. -/

variable {m : Method}

@[simp] theorem convert_none : convert m .none = .ok .none := rfl

@[simp] theorem convert_int {n : Int} : convert m (.int n) = .ok (.int n) := rfl

@[simp] theorem convert_float {x : PyFloat} : convert m (.float x) = .ok (.float x) := rfl

@[simp] theorem convert_str {s : String} : convert m (.str s) = .ok (.str s) := rfl

@[simp] theorem convert_datetime {micros : Int} :
    convert m (.datetime micros) = .ok (.int (m.clock.timestampMillis micros)) := rfl

@[simp] theorem convert_list {items : List Value} :
    convert m (.list items) = .list <$> convertList m items := rfl

@[simp] theorem convert_dict {entries : List (String × Value)} :
    convert m (.dict true entries) = .dict true <$> convertEntries m entries := rfl

@[simp] theorem convert_dict_subclass {entries : List (String × Value)} :
    convert m (.dict false entries) = .ok (.dict false entries) := rfl

@[simp] theorem convertList_nil : convertList m [] = .ok [] := rfl

@[simp] theorem convertList_cons {x : Value} {xs : List Value} :
    convertList m (x :: xs) = (do pure ((← convert m x) :: (← convertList m xs))) := rfl

@[simp] theorem convertEntries_nil : convertEntries m [] = .ok [] := rfl

@[simp] theorem convertEntries_cons {k : String} {v : Value} {rest : List (String × Value)} :
    convertEntries m ((k, v) :: rest) =
      (do pure ((k, ← convert m v) :: (← convertEntries m rest))) := rfl

theorem convert_resources {memory vcores : Value} :
    convert m (.resources memory vcores) = (do
      Resources.validate memory vcores false
      m.finish (fun schema kw => .resources <$> Proto.Resources.make schema kw)
        [("memory", memory, ← convert m memory), ("vcores", vcores, ← convert m vcores)]) := rfl

theorem convert_file {source type visibility size timestamp : Value} :
    convert m (.file source type visibility size timestamp) = (do
      File.validate source type visibility size timestamp
      m.finish (fun schema kw => .file <$> Proto.File.make schema kw)
        [("source", source, ← convert m source), ("type", type, ← convert m type),
          ("visibility", visibility, ← convert m visibility),
          ("size", size, ← convert m size), ("timestamp", timestamp, ← convert m timestamp)]) :=
  rfl

theorem convert_service {commands resources instances files env depends : Value} :
    convert m (.service commands resources instances files env depends) = (do
      Service.validate commands resources instances files env depends
      m.finish (fun schema kw => .service <$> Proto.Service.make schema kw)
        [("commands", commands, ← convert m commands),
          ("resources", resources, ← convert m resources),
          ("instances", instances, ← convert m instances),
          ("files", files, ← convert m files), ("env", env, ← convert m env),
          ("depends", depends, ← convert m depends)]) := rfl

theorem convert_job {name queue services : Value} :
    convert m (.job name queue services) = (do
      Job.validate name queue services
      m.finish (fun _ kw => .job <$> Proto.Job.make kw)
        [("name", name, ← convert m name), ("queue", queue, ← convert m queue),
          ("services", services, ← convert m services)]) := rfl

theorem convert_resourceUsageReport {memorySeconds vcoreSeconds numUsedContainers
    neededResources reservedResources usedResources : Value} :
    convert m (.resourceUsageReport memorySeconds vcoreSeconds numUsedContainers neededResources
      reservedResources usedResources) = (do
      ResourceUsageReport.validate memorySeconds vcoreSeconds numUsedContainers neededResources
        reservedResources usedResources
      m.finish
        (fun schema kw => .resourceUsageReport <$> Proto.ResourceUsageReport.make schema kw)
        [("memory_seconds", memorySeconds, ← convert m memorySeconds),
          ("vcore_seconds", vcoreSeconds, ← convert m vcoreSeconds),
          ("num_used_containers", numUsedContainers, ← convert m numUsedContainers),
          ("needed_resources", neededResources, ← convert m neededResources),
          ("reserved_resources", reservedResources, ← convert m reservedResources),
          ("used_resources", usedResources, ← convert m usedResources)]) := rfl

theorem convert_applicationReport {id name user queue tags host port trackingUrl state
    finalStatus progress usage diagnostics startTime finishTime : Value} :
    convert m (.applicationReport id name user queue tags host port trackingUrl state finalStatus
      progress usage diagnostics startTime finishTime) = (do
      ApplicationReport.validate id name user queue tags host port trackingUrl state finalStatus
        progress usage diagnostics startTime finishTime
      m.finish
        (fun schema kw => .applicationReport <$> Proto.ApplicationReport.make schema kw)
        [("id", id, ← convert m id), ("name", name, ← convert m name),
          ("user", user, ← convert m user), ("queue", queue, ← convert m queue),
          ("tags", tags, ← convert m tags), ("host", host, ← convert m host),
          ("port", port, ← convert m port),
          ("tracking_url", trackingUrl, ← convert m trackingUrl),
          ("state", state, ← convert m state),
          ("final_status", finalStatus, ← convert m finalStatus),
          ("progress", progress, ← convert m progress), ("usage", usage, ← convert m usage),
          ("diagnostics", diagnostics, ← convert m diagnostics),
          ("start_time", startTime, ← convert m startTime),
          ("finish_time", finishTime, ← convert m finishTime)]) := rfl

end Equations

/-- Whether the value is an object of one of the six entity classes. -/
def Value.isEntity : Value → Bool
  | .resources .. | .file .. | .service .. | .job .. | .resourceUsageReport ..
  | .applicationReport .. => true
  | _ => false

/-- `x.to_dict(skip_nulls)`. -/
def Value.toDict (clock : Clock) (skipNulls : Bool) (x : Value) : Except Error Value :=
  if x.isEntity then convert (.toDict clock skipNulls) x else throw (.noAttribute "to_dict")

/-- `x.to_protobuf()`. -/
def Value.toProtobuf (clock : Clock) (schema : Proto.Schema) (x : Value) :
    Except Error Proto.Message := do
  match ← (if x.isEntity then convert (.toProtobuf clock schema) x
      else throw (.noAttribute "to_protobuf")) with
  | .message m => pure m
  | _ => throw (.noAttribute "to_protobuf")

end Skein
