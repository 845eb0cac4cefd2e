import SoapDispatch.Config.Sources
import SoapDispatch.Proofs.BinaryEcho
import SoapDispatch.Proofs.Confinement
import SoapDispatch.Proofs.Containment
import SoapDispatch.Proofs.FaultReading
import SoapDispatch.Proofs.Lifecycle
import SoapDispatch.Proofs.Linearization
import SoapDispatch.Proofs.MessageEcho
import SoapDispatch.Proofs.Operations
import SoapDispatch.Proofs.ResponseFlag
import SoapDispatch.Proofs.WrittenData
import SoapDispatch.Proofs.MixedContent
import SoapDispatch.Proofs.Layering
import SoapDispatch.Proofs.ListingOrder
import SoapDispatch.Proofs.KeyCase
import SoapDispatch.Proofs.Externalizing
import SoapDispatch.Proofs.ResolvedMessages
import SoapDispatch.Proofs.Compositions
import SoapDispatch.Proofs.AbsentInput
import SoapDispatch.Proofs.Overriding
import SoapDispatch.Proofs.Recognition
import SoapDispatch.Proofs.TypedCalls
