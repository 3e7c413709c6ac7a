import Fluxrig.Registry.NameUniqueness
import Fluxrig.Registry.CrashRecovery
import Fluxrig.Registry.Adoption
import Fluxrig.Registry.Revocation
import Fluxrig.Registry.Health
import Fluxrig.Registry.Authentication
import Fluxrig.Conductor.Outcome
import Fluxrig.Runtime.Order
import Fluxrig.Runtime.LaneAccounts
import Fluxrig.Runtime.BusUse
import Fluxrig.Runtime.Respelling
import Fluxrig.Iso8583.Framing
import Fluxrig.Sdl.References
import Fluxrig.Coatcheck.Timeouts
import Fluxrig.Coatcheck.Lossless
import Fluxrig.Iso8583.Views
import Fluxrig.Iso8583.RoundTrip
import Fluxrig.Wasm.Catalog
import Fluxrig.Telemetry.Delivery
import Fluxrig.Runtime.Deduplication
import Fluxrig.Controller.Delivery
import Fluxrig.Controller.Activation
import Fluxrig.Logger.Mask
import Fluxrig.Iso8583.Connections
import Fluxrig.Controller.Specs
import Fluxrig.Tcp.Connections
import Fluxrig.Tcp.Backlog
import Fluxrig.Coatcheck.CorrelationKeys
import Fluxrig.Conductor.ParkedFields
import Fluxrig.Coatcheck.Stripping
import Fluxrig.Iso20022.Findings
import Fluxrig.Sdl.Rules
import Fluxrig.Translate.Failure
