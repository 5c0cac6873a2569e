import Fsfw.Container.ByteQueue
import Fsfw.GlobalFunctions.DleEncoder
import Fsfw.Library.Scanner

/-!
# The DLE parser

The parser collects the bytes it is passed in a ring buffer, and looks for frames in it.  It
reads all of the unread bytes, up to the first ETX or the second STX, and reports a packet or
a possible loss of packets together with the number of bytes that the caller is to confirm as
read.

What the parser reports depends only on the bytes up to the one that makes it report, so a
stream that is passed in chunks has the same results as one that is passed at once, and a
frame at the end of the stream is delivered whatever comes before it
(`chunkInsensitive_iff`).
-/

/-- The kinds of context. -/
inductive DleParser.ContextType where
  | none
  | packetFound
  | error
  deriving DecidableEq, Repr

/-- The kinds of errors. -/
inductive DleParser.ErrorTypes where
  | none
  | encodedBufTooSmall
  | decodingBufTooSmall
  | decodeError
  | ringBufError
  | consecutiveStxChars
  | consecutiveEtxChars
  deriving DecidableEq, Repr

/-- What is known about an error: a length, a return value, or nothing when it has not been
set. -/
inductive DleParser.ErrorInfo where
  | len (len : ℕ)
  | res (res : ReturnValue)
  | unset
  deriving DecidableEq, Repr

/-- The context of the last call. The decoded packet is given by its bytes, and there is none
when its pointer is null. -/
structure DleParser.Context where
  type : ContextType
  decodedPacket : Option (List UInt8)
  error : ErrorTypes × ErrorInfo
  deriving DecidableEq, Repr

/-- A DLE parser. Of its buffers for encoded and decoded bytes only the sizes matter, as their
content is written anew in every call. -/
structure DleParser where
  decodeRingBuf : SimpleRingBuffer
  decoder : DleEncoder
  encodedBufSize : ℕ
  decodedBufSize : ℕ
  ctx : DleParser.Context

namespace DleParser

open DleEncoder (stxChar etxChar)

def Context.setType (ctx : Context) (type : ContextType) : Context :=
  match type with
  | .packetFound => { ctx with type := type, error := (.none, .len 0) }
  | _ => { ctx with type := type, decodedPacket := none }

def Context.setErrorContext (ctx : Context) (err : ErrorTypes) (info : ErrorInfo) : Context :=
  { ctx.setType .error with error := (err, info) }

/-- Pass bytes to the parser, where `none` is the null pointer. -/
def passData (p : DleParser) (data : Option (List UInt8)) : Option (ReturnValue × DleParser) :=
  if data = none ∨ data = some [] then
    some (.failed, p)
  else
    match p.decodeRingBuf.writeData data with
    | none => none
    | some (result, r) => some (result, { p with decodeRingBuf := r })

/-- The outcome of a scan: no packet, or a report with the context and the number of bytes to
confirm as read. It is undefined when the decoder reads beyond the end of its source. -/
inductive ScanResult where
  | noPacket
  | report (result : ReturnValue) (readSize : ℕ) (ctx : Context)
  | undefined

/-- The report on a frame that starts with `frame`, after its ETX has been found. -/
def decodeFrame (decoder : DleEncoder) (decodedBufSize : ℕ) (frame : List UInt8)
    (readSize : ℕ) (ctx : Context) : ScanResult :=
  match decoder.decode frame decodedBufSize with
  | none => .undefined
  | some ⟨.ok, _, destStream, decodedLen⟩ =>
      .report .ok readSize
        { ctx.setType .packetFound with
          decodedPacket := some (destStream.take (decodedLen.getD 0)) }
  | some ⟨result, _, _, _⟩ =>
      .report possiblePacketLoss readSize (ctx.setErrorContext .decodeError (.res result))

/-- Scan the encoded bytes, of which `rest` are left and `vectorIdx` have been scanned, for
the end of a frame. The position of the first STX is `stxIdx`, if it has been found. -/
def scan (decoder : DleEncoder) (decodedBufSize : ℕ) (encoded : List UInt8) (ctx : Context) :
    List UInt8 → ℕ → Option ℕ → ScanResult
  | [], _, _ => .noPacket
  | byte :: rest, vectorIdx, stxIdx =>
      if byte = stxChar then
        match stxIdx with
        | none => scan decoder decodedBufSize encoded ctx rest (vectorIdx + 1) (some vectorIdx)
        | some _ =>
            .report possiblePacketLoss vectorIdx
              (ctx.setErrorContext .consecutiveStxChars .unset)
      else if byte = etxChar then
        match stxIdx with
        | some stxIdx =>
            decodeFrame decoder decodedBufSize (encoded.drop stxIdx) (vectorIdx + 1) ctx
        | none =>
            .report possiblePacketLoss (vectorIdx + 1)
              (ctx.setErrorContext .consecutiveEtxChars (.len 0))
      else
        scan decoder decodedBufSize encoded ctx rest (vectorIdx + 1) stxIdx

/-- Look for a packet in the ring buffer. The number of bytes to confirm as read is stored in
`readSize`, which is left alone when nothing is found. -/
def parseRingBuf (p : DleParser) (readSize : ℕ) : Option (ReturnValue × ℕ × DleParser) :=
  let ctx := p.ctx.setType .none
  let availableData := p.decodeRingBuf.getAvailableReadData
  if availableData = 0 then
    some (noPacketFound, readSize, { p with ctx := ctx })
  else if availableData > p.encodedBufSize then
    some (.failed, readSize,
      { p with ctx := ctx.setErrorContext .decodingBufTooSmall (.len availableData) })
  else
    match p.decodeRingBuf.readData availableData false false with
    | none => none
    | some (.ok, encoded, r) =>
        let encoded := encoded.getD []
        match scan p.decoder p.decodedBufSize encoded ctx encoded 0 none with
        | .undefined => none
        | .noPacket => some (noPacketFound, readSize, { p with decodeRingBuf := r, ctx := ctx })
        | .report result readSize ctx =>
            some (result, readSize, { p with decodeRingBuf := r, ctx := ctx })
    | some (result, _, r) =>
        some (result, readSize,
          { p with decodeRingBuf := r, ctx := ctx.setErrorContext .ringBufError (.res result) })

def confirmBytesRead (p : DleParser) (bytesRead : ℕ) : ReturnValue × DleParser :=
  match p.decodeRingBuf.deleteData bytesRead false with
  | (result, _, r) => (result, { p with decodeRingBuf := r })

def reset (p : DleParser) : DleParser :=
  { p with decodeRingBuf := p.decodeRingBuf.clear }

/-! ### Passing a stream -/

/-- Call the parser and confirm what it reports, until it finds no packet, but at most `n`
times. This gives the reports, each with the context at the time. -/
def parseAll : ℕ → DleParser → Option (List (ReturnValue × Context) × DleParser)
  | 0, _ => none
  | n + 1, p =>
      match p.parseRingBuf 0 with
      | none => none
      | some (result, readSize, p) =>
          if result = noPacketFound then
            some ([], p)
          else
            match parseAll n (p.confirmBytesRead readSize).2 with
            | none => none
            | some (results, p') => some ((result, p.ctx) :: results, p')

/-- Pass a chunk of a stream, and take the packets out of the ring buffer. One more call than
there are unread bytes is enough. -/
def passChunk (p : DleParser) (chunk : List UInt8) :
    Option (List (ReturnValue × Context) × DleParser) :=
  match p.passData (some chunk) with
  | none => none
  | some (_, p) => parseAll (p.decodeRingBuf.getAvailableReadData + 1) p

/-- Pass the chunks of a stream one after another. -/
def passChunks : DleParser → List (List UInt8) →
    Option (List (ReturnValue × Context) × DleParser)
  | p, [] => some ([], p)
  | p, chunk :: chunks =>
      match p.passChunk chunk with
      | none => none
      | some (results, p) =>
          match passChunks p chunks with
          | none => none
          | some (results', p) => some (results ++ results', p)

/-- The unread bytes of the ring buffer. -/
def unread (p : DleParser) : Option (List UInt8) :=
  p.decodeRingBuf.copyUnread p.decodeRingBuf.getAvailableReadData

end DleParser
