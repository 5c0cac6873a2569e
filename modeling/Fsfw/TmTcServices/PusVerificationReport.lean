import Fsfw.Osal.MessageQueue

/-!
# Messages with verification reports

A report is sent to the verification service in a message.  The numbers in it stand in the order of
the machine, and are found again by their places (`PusVerificationMessage.params_message`).
-/

/-- What is reported: the kind of the report, the telecommand, and for a failure the error. -/
structure VerifParams where
  reportId : UInt8
  tcPacketId : UInt16
  tcPsc : UInt16
  ackFlags : UInt8 := 0b1111
  step : UInt8 := 0
  errorCode : UInt16 := ReturnValue.failed.toUInt16
  errorParam1 : UInt32 := 0
  errorParam2 : UInt32 := 0
  deriving DecidableEq, Repr

/-- A report of success has no error. -/
def VerifParams.withoutError (params : VerifParams) : VerifParams :=
  { params with errorCode := ReturnValue.ok.toUInt16, errorParam1 := 0, errorParam2 := 0 }

namespace PusVerificationMessage

open MessageQueueMessage SerializeAdapter

/-- The data of the message. -/
def content (params : VerifParams) : List UInt8 :=
  [params.reportId, params.ackFlags]
    ++ bytesOf 2 params.tcPacketId.toNat .little
    ++ bytesOf 2 params.tcPsc.toNat .little
    ++ [params.step]
    ++ bytesOf 2 params.errorCode.toNat .little
    ++ bytesOf 4 params.errorParam1.toNat .little
    ++ bytesOf 4 params.errorParam2.toNat .little

def new (params : VerifParams) : MessageQueueMessage :=
  .ofData (content params)

/-- The number in some bytes of the message. -/
def number (message : MessageQueueMessage) (offset width : ℕ) : ℕ :=
  convertBigEndian ((message.getData.drop offset).take width).reverse

def getReportId (message : MessageQueueMessage) : UInt8 :=
  .ofNat (number message 0 1)

def getAckFlags (message : MessageQueueMessage) : UInt8 :=
  .ofNat (number message 1 1)

def getTcPacketId (message : MessageQueueMessage) : UInt16 :=
  .ofNat (number message 2 2)

def getTcSequenceControl (message : MessageQueueMessage) : UInt16 :=
  .ofNat (number message 4 2)

def getStep (message : MessageQueueMessage) : UInt8 :=
  .ofNat (number message 6 1)

def getErrorCode (message : MessageQueueMessage) : UInt16 :=
  .ofNat (number message 7 2)

def getParameter1 (message : MessageQueueMessage) : UInt32 :=
  .ofNat (number message 9 4)

def getParameter2 (message : MessageQueueMessage) : UInt32 :=
  .ofNat (number message 13 4)

/-- What is found in a message. -/
def params (message : MessageQueueMessage) : VerifParams where
  reportId := getReportId message
  tcPacketId := getTcPacketId message
  tcPsc := getTcSequenceControl message
  ackFlags := getAckFlags message
  step := getStep message
  errorCode := getErrorCode message
  errorParam1 := getParameter1 message
  errorParam2 := getParameter2 message

theorem length_content (params : VerifParams) :
  (content params).length = 17
  := by
  simp only [content, List.length_append, List.length_cons, List.length_nil, length_bytesOf]

/-- The data of a message begin with what it was made of. -/
theorem getData_new (params : VerifParams) :
  (new params).getData = content params ++ List.replicate 7 0
  := by
  have hlen := length_content params
  have hle : (content params).length ≤ maxDataSize := by
    rw [hlen]
    decide
  have hbuffer : (new params).internalBuffer = List.replicate headerSize 0 ++ content params
      ++ List.replicate (maxDataSize - (content params).length) 0 := by
    rw [new, ofData, dif_pos hle]
  rw [getData, hbuffer, List.append_assoc, hlen]
  apply List.drop_left' List.length_replicate

/-- Setting the sender of a message leaves its data as they are. -/
theorem getData_setSender (message : MessageQueueMessage) (setId : MessageQueueId) :
  (message.setSender setId).getData = message.getData
  := List.drop_left' (length_bytesOf _ _ _)

/-- A number that is one of the fields in the data is found behind the fields before it. -/
theorem number_of_fields {message : MessageQueueMessage} {fields : List (List UInt8)}
    (hdata : message.getData = fields.flatten) {k i width n : ℕ}
    (hk : fields[k]? = some (bytesOf width n .little))
    (hi : (fields.take k).flatten.length = i) (hn : n < 2 ^ (8 * width)) :
  number message i width = n
  := by
  obtain ⟨hlt, hget⟩ := List.getElem?_eq_some_iff.mp hk
  have hsplit : message.getData = (fields.take k).flatten
      ++ (bytesOf width n .little ++ (fields.drop (k + 1)).flatten) := by
    rw [hdata, ← hget, ← List.flatten_cons, List.getElem_cons_drop, ← List.flatten_append,
      List.take_append_drop]
  rw [number, hsplit, List.drop_left' hi, List.take_left' (length_bytesOf _ _ _),
    bytesOf, List.reverse_reverse, convertBigEndian_bigEndianBytes hn]

/-- What is found in a message is what it was made of. -/
theorem params_message (p : VerifParams) (setId : MessageQueueId) :
  params ((new p).setSender setId) = p
  := by
  let fields : List (List UInt8) :=
    [[p.reportId], [p.ackFlags], bytesOf 2 p.tcPacketId.toNat .little,
      bytesOf 2 p.tcPsc.toNat .little, [p.step], bytesOf 2 p.errorCode.toNat .little,
      bytesOf 4 p.errorParam1.toNat .little, bytesOf 4 p.errorParam2.toNat .little,
      List.replicate 7 0]
  have hdata : ((new p).setSender setId).getData = fields.flatten := by
    rw [getData_setSender, getData_new, content]
    simp [fields]
  have hbyte (byte : UInt8) : some [byte] = some (bytesOf 1 byte.toNat .little) := by
    rw [SerialBufferAdapter.bytesOf_one]
  have hreportId := number_of_fields hdata (k := 0) (i := 0) (hbyte p.reportId) rfl
    p.reportId.toNat_lt
  have hackFlags := number_of_fields hdata (k := 1) (i := 1) (hbyte p.ackFlags) rfl
    p.ackFlags.toNat_lt
  have htcPacketId := number_of_fields hdata (k := 2) (i := 2) rfl rfl p.tcPacketId.toNat_lt
  have htcPsc := number_of_fields hdata (k := 3) (i := 4) rfl rfl p.tcPsc.toNat_lt
  have hstep := number_of_fields hdata (k := 4) (i := 6) (hbyte p.step) rfl p.step.toNat_lt
  have herrorCode := number_of_fields hdata (k := 5) (i := 7) rfl rfl p.errorCode.toNat_lt
  have herrorParam1 := number_of_fields hdata (k := 6) (i := 9) rfl rfl p.errorParam1.toNat_lt
  have herrorParam2 := number_of_fields hdata (k := 7) (i := 13) rfl rfl p.errorParam2.toNat_lt
  simp only [params, getReportId, getAckFlags, getTcPacketId, getTcSequenceControl, getStep,
    getErrorCode, getParameter1, getParameter2, hreportId, hackFlags, htcPacketId, htcPsc, hstep,
    herrorCode, herrorParam1, herrorParam2, UInt8.ofNat_toNat, UInt16.ofNat_toNat,
    UInt32.ofNat_toNat]

end PusVerificationMessage
