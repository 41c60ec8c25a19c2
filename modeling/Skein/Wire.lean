import Mathlib.Data.List.Basic

/-!
The wire form. The code sends and receives the messages of its generated module `_proto`,
which is not among the repository's files; the messages here follow the spec: one field
per entity field, under the same name, proto3 defaults for every scalar, enums as integer
codes, maps and repeated fields as lists; a message's `default` is its proto3 default
instance. What `_proto` fixes and the spec does not is a parameter, `Proto.Schema`: the
code of each enum label (the spec gives the labels of `File`'s two enums, not their order)
and the proto3 integer type of each integer field, whose range the message constructor
enforces.
-/

namespace Skein

/-- A Python `float`, as the bits of its IEEE-754 binary64 value. The code only stores,
compares with zero and forwards floats, so their bits are all the model needs. -/
structure PyFloat where
  bits : UInt64
  deriving DecidableEq, Repr, Inhabited

namespace PyFloat

/-- `x > 0`: a positive sign, a nonzero magnitude and not a NaN. -/
def isPositive (x : PyFloat) : Bool :=
  0 < x.bits && x.bits ≤ 0x7FF0000000000000

/-- A NaN: every exponent bit set and a nonzero fraction. -/
def isNaN (x : PyFloat) : Bool :=
  x.bits &&& 0x7FF0000000000000 == 0x7FF0000000000000 && x.bits &&& 0x000FFFFFFFFFFFFF != 0

/-- `x == n` for a float `x` and an int `n`: the float's exact value, `± mag * 2 ^ (scale - 1075)`,
is the integer. -/
def eqInt (x : PyFloat) (n : Int) : Bool :=
  let exp := (x.bits >>> 52 &&& 0x7FF).toNat
  let mag := (x.bits &&& 0xFFFFFFFFFFFFF).toNat + if exp = 0 then 0 else 0x10000000000000
  let scale := max exp 1
  let sign : Int := if x.bits >>> 63 = 1 then -1 else 1
  exp != 0x7FF &&
    if 1075 ≤ scale then n == sign * (mag * Nat.pow 2 (scale - 1075) : Nat)
    else mag % Nat.pow 2 (1075 - scale) == 0 && n == sign * (mag / Nat.pow 2 (1075 - scale) : Nat)

/-- `x == y` on two floats: IEEE-754 equality, false when either is a NaN, and
`0.0 == -0.0`. -/
def eq (x y : PyFloat) : Bool :=
  !x.isNaN && !y.isNaN && (x.bits == y.bits || (x.bits ||| y.bits) &&& 0x7FFFFFFFFFFFFFFF == 0)

end PyFloat

/-- A proto3 enum: its labels, each label's code being its position. Labels are unique. -/
structure WireEnum where
  labels : List String
  nodup : labels.Nodup

namespace WireEnum

/-- `Enum.Value(label)`, the code of a label. -/
def value (e : WireEnum) (label : String) : Option Int :=
  if label ∈ e.labels then some (e.labels.indexOf label) else none

/-- `Enum.Name(code)`, the label of a code. -/
def name (e : WireEnum) (code : Int) : Option String :=
  if 0 ≤ code then e.labels.get? code.toNat else none

theorem name_of_value {e : WireEnum} {label : String} {code : Int}
    (h : e.value label = some code) : e.name code = some label := by
  unfold value at h
  split at h
  · cases h
    simp only [name, Int.ofNat_nonneg, if_true, Int.toNat_ofNat]
    exact List.indexOf_get? ‹_›
  · cases h

theorem value_isSome {e : WireEnum} {label : String} :
    (e.value label).isSome ↔ label ∈ e.labels := by
  unfold value; split <;> simp_all

end WireEnum

namespace Proto

/-- `_proto.Resources`. -/
structure Resources where
  memory : Int
  vcores : Int
  deriving DecidableEq, Repr, Inhabited

/-- `_proto.File`; `type` and `visibility` are enum codes. -/
structure File where
  source : String
  type : Int
  visibility : Int
  size : Int
  timestamp : Int
  deriving DecidableEq, Repr, Inhabited

/-- `_proto.Service`; `files` and `env` are map fields, `commands` and `depends`
repeated ones. -/
structure Service where
  instances : Int
  resources : Resources
  files : List (String × File)
  env : List (String × String)
  commands : List String
  depends : List String
  deriving DecidableEq, Repr, Inhabited

/-- `_proto.Job`. -/
structure Job where
  name : String
  queue : String
  services : List (String × Service)
  deriving DecidableEq, Repr, Inhabited

/-- `_proto.ResourceUsageReport`. -/
structure ResourceUsageReport where
  memorySeconds : Int
  vcoreSeconds : Int
  numUsedContainers : Int
  neededResources : Resources
  reservedResources : Resources
  usedResources : Resources
  deriving DecidableEq, Repr, Inhabited

/-- `_proto.ApplicationReport`; `state` and `finalStatus` are enum codes, the two times
milliseconds since the epoch. -/
structure ApplicationReport where
  id : String
  name : String
  user : String
  queue : String
  tags : List String
  host : String
  port : Int
  trackingUrl : String
  state : Int
  finalStatus : Int
  progress : PyFloat
  usage : ResourceUsageReport
  diagnostics : String
  startTime : Int
  finishTime : Int
  deriving DecidableEq, Repr, Inhabited

/-- A message of any of the six types; the type is what `isinstance` tests. -/
inductive Message where
  | resources (m : Resources)
  | file (m : File)
  | service (m : Service)
  | job (m : Job)
  | resourceUsageReport (m : ResourceUsageReport)
  | applicationReport (m : ApplicationReport)
  deriving DecidableEq, Repr

namespace Message

/-- The message, when it is a `Resources`. -/
def asResources : Message → Option Resources
  | .resources m => some m
  | _ => none

/-- The message, when it is a `File`. -/
def asFile : Message → Option File
  | .file m => some m
  | _ => none

/-- The message, when it is a `Service`. -/
def asService : Message → Option Service
  | .service m => some m
  | _ => none

/-- The message, when it is a `ResourceUsageReport`. -/
def asResourceUsageReport : Message → Option ResourceUsageReport
  | .resourceUsageReport m => some m
  | _ => none

end Message

/-- A proto3 integer type, by its range: `sint32` and `sfixed32` range as `int32`, `fixed32`
as `uint32`, and the same at 64 bits. -/
inductive IntType where
  | int32
  | int64
  | uint32
  | uint64
  deriving DecidableEq, Repr

/-- Whether `n` is in the type's range; the message constructor raises `ValueError` on an
integer outside it. -/
def IntType.contains : IntType → Int → Bool
  | .int32, n => -0x80000000 ≤ n && n < 0x80000000
  | .int64, n => -0x8000000000000000 ≤ n && n < 0x8000000000000000
  | .uint32, n => 0 ≤ n && n < 0x100000000
  | .uint64, n => 0 ≤ n && n < 0x10000000000000000

/-- What the generated module `_proto` fixes: the enum tables `File.Type`, `File.Visibility`,
`ApplicationState.Type` and `FinalStatus.Type`, and the integer type of each integer field,
by the field's name (no two messages share the name of an integer field). The spec gives
the labels of `File`'s enums, so a schema carries them; their codes, and everything about
the report enums, are left open. -/
structure Schema where
  fileType : WireEnum
  fileVisibility : WireEnum
  applicationState : WireEnum
  finalStatus : WireEnum
  intType : String → IntType
  fileType_labels : fileType.labels.Perm ["FILE", "ARCHIVE"]
  fileVisibility_labels : fileVisibility.labels.Perm ["APPLICATION", "PUBLIC", "PRIVATE"]

/-- The integer `n` fits the wire field `field`. -/
def Schema.fits (schema : Schema) (field : String) (n : Int) : Bool :=
  (schema.intType field).contains n

end Proto

end Skein
