import Crocofix.Library.Numeral
import Crocofix.Library.Scan
import Crocofix.Library.Element
import Crocofix.Library.Text
import Crocofix.Library.Fuel
import Crocofix.EncodeDecode
import Crocofix.EncodeRetry
import Crocofix.SocketReader.Room
import Crocofix.SocketReader.Index
import Crocofix.SocketWriter
import Crocofix.SocketWriter.Headroom
import Crocofix.OrderBook.Chain
import Crocofix.OrderBook.Status
import Crocofix.OrderBook.Replacement
import Crocofix.OrderBook.Answered
import Crocofix.OrderBook.Announced
import Crocofix.OrderBook.Undo
import Crocofix.OrderBook.Outstanding
import Crocofix.Session.Delivery
import Crocofix.Session.Numbering
import Crocofix.Session.Recovery
import Crocofix.Session.Receipt
import Crocofix.Pair.Restart
import Crocofix.Session.TestRequests
import Crocofix.Session.GapFills
import Crocofix.Session.Redelivery
import Crocofix.Session.ResetLogon
import Crocofix.PassThrough
import Crocofix.BoostAsioScheduler.Cancellation
import Crocofix.Orchestra.RoundTrip
import Crocofix.Orchestra.Conversion
import Crocofix.Fixsed
import Crocofix.DecodeReads
import Crocofix.Lexicographer
import Crocofix.RawData
import Crocofix.Report
import Crocofix.Report.Written
import Crocofix.Report.Aligned
import Crocofix.Pipeline.Transparent
import Crocofix.Link
import Crocofix.BlockingQueue
import Crocofix.Fixcat.Table
import Crocofix.Orchestra.Generated
