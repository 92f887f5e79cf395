/-
The tags, message types and enumerated values of the FIX dictionary that the
modelled code names.
-/

import Crocofix.Library.Numeral

namespace Crocofix

/-! ### Field tags -/

namespace Tag

@[simp] def AvgPx : Int32 := 6
@[simp] def BeginSeqNo : Int32 := 7
@[simp] def BeginString : Int32 := 8
@[simp] def BodyLength : Int32 := 9
@[simp] def CheckSum : Int32 := 10
@[simp] def ClOrdID : Int32 := 11
@[simp] def CumQty : Int32 := 14
@[simp] def EndSeqNo : Int32 := 16
@[simp] def MsgSeqNum : Int32 := 34
@[simp] def MsgType : Int32 := 35
@[simp] def NewSeqNo : Int32 := 36
@[simp] def OrderQty : Int32 := 38
@[simp] def OrdStatus : Int32 := 39
@[simp] def OrdType : Int32 := 40
@[simp] def OrigClOrdID : Int32 := 41
@[simp] def PossDupFlag : Int32 := 43
@[simp] def Price : Int32 := 44
@[simp] def RefSeqNum : Int32 := 45
@[simp] def SenderCompID : Int32 := 49
@[simp] def SendingTime : Int32 := 52
@[simp] def Side : Int32 := 54
@[simp] def Symbol : Int32 := 55
@[simp] def TargetCompID : Int32 := 56
@[simp] def Text : Int32 := 58
@[simp] def TimeInForce : Int32 := 59
@[simp] def EncryptMethod : Int32 := 98
@[simp] def HeartBtInt : Int32 := 108
@[simp] def TestReqID : Int32 := 112
@[simp] def GapFillFlag : Int32 := 123
@[simp] def ResetSeqNumFlag : Int32 := 141
@[simp] def ExecType : Int32 := 150
@[simp] def SessionRejectReason : Int32 := 373
@[simp] def NextExpectedMsgSeqNum : Int32 := 789

end Tag

/-! ### Message types -/

namespace MsgType

def Heartbeat : Bytes := ascii "0"
def TestRequest : Bytes := ascii "1"
def ResendRequest : Bytes := ascii "2"
def Reject : Bytes := ascii "3"
def SequenceReset : Bytes := ascii "4"
def Logout : Bytes := ascii "5"
def ExecutionReport : Bytes := ascii "8"
def OrderCancelReject : Bytes := ascii "9"
def Logon : Bytes := ascii "A"
def NewOrderSingle : Bytes := ascii "D"
def OrderCancelRequest : Bytes := ascii "F"
def OrderCancelReplaceRequest : Bytes := ascii "G"
def XMLnonFIX : Bytes := ascii "n"

end MsgType

/-! ### Enumerated values -/

namespace EncryptMethod

def None : Bytes := ascii "0"

end EncryptMethod

namespace ExecType

def Replaced : Bytes := ascii "5"

end ExecType

namespace OrdStatus

def New : Bytes := ascii "0"
def Filled : Bytes := ascii "2"
def Canceled : Bytes := ascii "4"
def Replaced : Bytes := ascii "5"
def PendingCancel : Bytes := ascii "6"
def Rejected : Bytes := ascii "8"
def PendingReplace : Bytes := ascii "E"

end OrdStatus

namespace SessionRejectReason

def RequiredTagMissing : Bytes := ascii "1"
def ValueIsIncorrect : Bytes := ascii "5"
def CompIDProblem : Bytes := ascii "9"
def Other : Bytes := ascii "99"

end SessionRejectReason

end Crocofix
