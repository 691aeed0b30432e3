/-!
# Tags

A tag numbers a field of a message. The standard header is the group of fields every message opens
with: `headerOrder` lists them in the order they are written after the frame's own fields, and
`requiredHeader` lists those no received message may lack besides its type.
-/
namespace FixBench

abbrev Tag := UInt32

namespace Tag

abbrev avgPx : Tag := 6
abbrev beginString : Tag := 8
abbrev bodyLength : Tag := 9
abbrev checkSum : Tag := 10
abbrev clOrdId : Tag := 11
abbrev cumQty : Tag := 14
abbrev execId : Tag := 17
abbrev lastPx : Tag := 31
abbrev lastQty : Tag := 32
abbrev msgSeqNum : Tag := 34
abbrev msgType : Tag := 35
abbrev orderId : Tag := 37
abbrev orderQty : Tag := 38
abbrev ordStatus : Tag := 39
abbrev ordType : Tag := 40
abbrev origClOrdId : Tag := 41
abbrev price : Tag := 44
abbrev refSeqNum : Tag := 45
abbrev senderCompId : Tag := 49
abbrev senderSubId : Tag := 50
abbrev sendingTime : Tag := 52
abbrev side : Tag := 54
abbrev symbol : Tag := 55
abbrev targetCompId : Tag := 56
abbrev targetSubId : Tag := 57
abbrev text : Tag := 58
abbrev timeInForce : Tag := 59
abbrev transactTime : Tag := 60
abbrev encryptMethod : Tag := 98
abbrev cxlRejReason : Tag := 102
abbrev heartBtInt : Tag := 108
abbrev testReqId : Tag := 112
abbrev execType : Tag := 150
abbrev leavesQty : Tag := 151
abbrev refTagId : Tag := 371
abbrev refMsgType : Tag := 372
abbrev sessionRejectReason : Tag := 373
abbrev cxlRejResponseTo : Tag := 434

def headerOrder : List Tag :=
  [msgType, senderCompId, targetCompId, msgSeqNum, sendingTime, senderSubId, targetSubId]

def requiredHeader : List Tag := [senderCompId, targetCompId, msgSeqNum, sendingTime]

/-- Whether a field belongs to the header, the frame's own two fields included. -/
def isHeader (tag : Tag) : Bool := (beginString :: bodyLength :: headerOrder).contains tag

end Tag

end FixBench
