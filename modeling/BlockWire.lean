import BlockWire.Body.Decode
import BlockWire.Body.Encode
import BlockWire.Config.Session
import BlockWire.Schema.Types
import BlockWire.Yaml.Document
import BlockWire.Proofs.Json.RoundTrip
import BlockWire.Proofs.RawFields.Declared
import BlockWire.Proofs.RawFields.Normal
import BlockWire.Proofs.Wire.Bitfields
import BlockWire.Proofs.Wire.Location
import BlockWire.Proofs.Wire.Permissive
import BlockWire.Proofs.Wire.RoundTrip
import BlockWire.Proofs.Body.AsJson
import BlockWire.Proofs.Body.Attribution
import BlockWire.Proofs.Body.Closure
import BlockWire.Proofs.Body.Extent
import BlockWire.Proofs.Body.Formatting
import BlockWire.Proofs.Body.GraffitiGate
import BlockWire.Proofs.Body.Logging
import BlockWire.Proofs.Body.Operations
import BlockWire.Proofs.Body.Rendering
import BlockWire.Proofs.Body.Rereading
import BlockWire.Proofs.Body.RoundTrip
import BlockWire.Proofs.Config.File
