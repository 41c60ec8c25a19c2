import Skein.Entities

/-!
The inbound conversions from the wire form. `Resources` and `File` check the message type
first; the other classes read the fields of whatever they are given, so a message of
another type fails at its first missing field. Enum codes become their labels, a map field
a plain mapping, a repeated field a list and a millisecond count an instant
(`_datetime_from_millis`), and every entity is then built by its constructor, which
validates it.
-/

namespace Skein

/-- `Enum.Name(code)`, a `ValueError` for a code without a label. -/
def enumName (e : WireEnum) (code : Int) : Except Error String :=
  match e.name code with
  | some label => pure label
  | Option.none => throw (.wireCode code)

/-- `Resources.from_protobuf(msg)`, which is `Base.from_protobuf`. -/
def Resources.fromProtobuf : Proto.Message → Except Error Value
  | .resources m => Resources.init (.int m.memory) (.int m.vcores)
  | _ => throw (.expectedMessage "Resources")

/-- `File.from_protobuf(obj)`. -/
def File.fromProtobuf (schema : Proto.Schema) : Proto.Message → Except Error Value
  | .file m => do
    let type ← enumName schema.fileType m.type
    let visibility ← enumName schema.fileVisibility m.visibility
    File.init (.str m.source) (.str type) (.str visibility) (.int m.size) (.int m.timestamp)
  | _ => throw (.expectedMessage "File")

/-- `Service.from_protobuf(obj)`. -/
def Service.fromProtobuf (schema : Proto.Schema) : Proto.Message → Except Error Value
  | .service m => do
    let resources ← Resources.fromProtobuf (.resources m.resources)
    let files ← mapValues (fun f => File.fromProtobuf schema (.file f)) m.files
    Service.init (.list (m.commands.map .str)) resources (.int m.instances) (.dict true files)
      (.dict true (m.env.map fun e => (e.1, .str e.2))) (.list (m.depends.map .str))
  | _ => throw (.noAttribute "resources")

/-- `Job.from_protobuf(obj)`. -/
def Job.fromProtobuf (schema : Proto.Schema) : Proto.Message → Except Error Value
  | .job m => do
    let services ← mapValues (fun s => Service.fromProtobuf schema (.service s)) m.services
    Job.init (.dict true services) (.str m.name) (.str m.queue)
  | _ => throw (.noAttribute "services")

/-- `ResourceUsageReport.from_protobuf(obj)`. -/
def ResourceUsageReport.fromProtobuf : Proto.Message → Except Error Value
  | .resourceUsageReport m => do
    let neededResources ← Resources.fromProtobuf (.resources m.neededResources)
    let reservedResources ← Resources.fromProtobuf (.resources m.reservedResources)
    let usedResources ← Resources.fromProtobuf (.resources m.usedResources)
    ResourceUsageReport.init (.int m.memorySeconds) (.int m.vcoreSeconds)
      (.int m.numUsedContainers) neededResources reservedResources usedResources
  | _ => throw (.noAttribute "memory_seconds")

/-- `ApplicationReport.from_protobuf(obj)`. -/
def ApplicationReport.fromProtobuf (clock : Clock) (schema : Proto.Schema) :
    Proto.Message → Except Error Value
  | .applicationReport m => do
    let state ← enumName schema.applicationState m.state
    let finalStatus ← enumName schema.finalStatus m.finalStatus
    let usage ← ResourceUsageReport.fromProtobuf (.resourceUsageReport m.usage)
    let startTime ← datetimeFromMillis clock (.int m.startTime)
    let finishTime ← datetimeFromMillis clock (.int m.finishTime)
    ApplicationReport.init (.str m.id) (.str m.name) (.str m.user) (.str m.queue)
      (.list (m.tags.map .str)) (.str m.host) (.int m.port) (.str m.trackingUrl) (.str state)
      (.str finalStatus) (.float m.progress) usage (.str m.diagnostics) startTime finishTime
  | _ => throw (.noAttribute "id")

end Skein
