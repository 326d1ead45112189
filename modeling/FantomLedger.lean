import FantomLedger.Library.Machine
import FantomLedger.TxStream
import FantomLedger.StreamParser
import FantomLedger.StreamChunks
import FantomLedger.StreamSafety
import FantomLedger.StreamLoop
import FantomLedger.StreamFraming
import FantomLedger.StreamItems
import FantomLedger.Uint256Arith
import FantomLedger.Uint256Division
import FantomLedger.Uint256Cells
import FantomLedger.Uint256Product
import FantomLedger.Uint256Text
import FantomLedger.AmountText
import FantomLedger.PathUse
import FantomLedger.KeyChoice
import FantomLedger.KeyExport
import FantomLedger.SignatureEncoding
import FantomLedger.MainLoop
import FantomLedger.AddressText
import FantomLedger.AddressChecksum
import FantomLedger.FinalChecks
import FantomLedger.ReviewScreens
import FantomLedger.ExportScreens
import FantomLedger.SignScreens
import FantomLedger.Sessions
import FantomLedger.Consent
import FantomLedger.Lockstep
import FantomLedger.LockstepHandlers
import FantomLedger.Isolation
import FantomLedger.NbglRejection
import FantomLedger.NbglReviewRoom
import FantomLedger.Conversation
import FantomLedger.SignedReviews
import FantomLedger.SessionSigns
import FantomLedger.NbglSigns
import FantomLedger.Secrecy
import FantomLedger.RunEndings
