import Skein.Wire
import Skein.Value
import Skein.Strings
import Skein.Checks
import Skein.Entities
import Skein.Convert
import Skein.FromDict
import Skein.FromProtobuf
import Skein.Errors
import Skein.Validity
import Skein.MappingRoundTrip
import Skein.WireRoundTrip
import Skein.Acceptance
import Skein.FileSpec
import Skein.ServiceFiles
import Skein.TextRoundTrip
import Skein.Spec
import Skein.Reports
import Skein.ConvertOutput
import Skein.MappingNormalForm
import Skein.WireReadBack
