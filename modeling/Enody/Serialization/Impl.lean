import Enody.Basic

/-!
This module contains the USB framing of `serialization.rs`: messages are wrapped in STX/ETX frames,
and STX, ETX and DLE bytes inside of the payload are escaped by prefixing DLE. All functions exist in
both builds of the crate. Where the source would panic they return `none`.
-/

namespace Enody
namespace Serialization

/-
`Vec<u8>` with `std` and `heapless::Vec<u8, 512>` without it.
-/
abbrev UsbDataBuffer := List UInt8

def usbDataBufferCapacity : Build → Option Nat
  | .std => none
  | .noStd => some 512

/-
Whether a `UsbDataBuffer` can hold `len` bytes.
-/
def fits (build : Build) (len : Nat) : Bool :=
  match usbDataBufferCapacity build with
  | none => true
  | some capacity => len ≤ capacity

def controlCharStx : UInt8 := 0x02
def controlCharEtx : UInt8 := 0x03
def controlCharDle : UInt8 := 0x10

def frameSizeMin : Nat := 2

/-
`push` on the buffer, `none` is the `Err` of a full `heapless::Vec`.
-/
def push (build : Build) (buffer : UsbDataBuffer) (byte : UInt8) : Option UsbDataBuffer :=
  if fits build (buffer.length + 1) then some (buffer ++ [byte]) else none

/-
The macro `buffer_push!`, which unwraps `push`.
-/
def bufferPush (build : Build) (buffer : UsbDataBuffer) (byte : UInt8) : Option UsbDataBuffer :=
  push build buffer byte

/-
`extend` on the buffer, which panics when the bytes do not fit.
-/
def extend (build : Build) (buffer : UsbDataBuffer) (bytes : List UInt8) : Option UsbDataBuffer :=
  if fits build (buffer.length + bytes.length) then some (buffer ++ bytes) else none

def escapedBytes (build : Build) (payload : List UInt8) : Option UsbDataBuffer :=
  go [] payload
where
  go (escaped : UsbDataBuffer) : List UInt8 → Option UsbDataBuffer
    | [] => some escaped
    | byte :: payload => do
      let escaped ←
        if byte = controlCharStx ∨ byte = controlCharEtx ∨ byte = controlCharDle then
          bufferPush build escaped controlCharDle
        else
          some escaped
      let escaped ← bufferPush build escaped byte
      go escaped payload

def unescapeBytes (build : Build) (escaped : List UInt8) : Option UsbDataBuffer :=
  go [] false escaped
where
  go (unescaped : UsbDataBuffer) (isEscaped : Bool) : List UInt8 → Option UsbDataBuffer
    | [] => some unescaped
    | byte :: escaped =>
      if isEscaped then do
        let unescaped ← bufferPush build unescaped byte
        go unescaped false escaped
      else if byte = controlCharDle then
        go unescaped true escaped
      else do
        let unescaped ← bufferPush build unescaped byte
        go unescaped isEscaped escaped

def frameBytes (build : Build) (payload : List UInt8) : Option UsbDataBuffer := do
  let frame ← bufferPush build [] controlCharStx
  let frame ← extend build frame (← escapedBytes build payload)
  bufferPush build frame controlCharEtx

def unframeBytes (build : Build) (frame : List UInt8)
    : Option (Except (Error build) UsbDataBuffer) :=
  if frame.length < frameSizeMin then
    some (.error .insufficientData)
  else if frame[0]? ≠ some controlCharStx ∨ frame[frame.length - 1]? ≠ some controlCharEtx then
    some (.error .insufficientData)
  else do
    let payload ← unescapeBytes build (frame.tail.dropLast)
    some (.ok payload)

structure MessageStream where
  buffer : UsbDataBuffer
  isEscaped : Bool
  deriving DecidableEq, Repr

namespace MessageStream

def new : MessageStream := ⟨[], false⟩

/--
Feeds a single byte. The second component is the unframed payload when the byte completes a frame.
-/
def pushByte (build : Build) (stream : MessageStream) (byte : UInt8)
    : Option (MessageStream × Option UsbDataBuffer) :=
  -- Wait for a frame to start
  if stream.buffer.isEmpty then do
    let buffer ←
      if byte = controlCharStx ∧ ¬ stream.isEscaped then
        bufferPush build stream.buffer byte
      else
        some stream.buffer
    some (⟨buffer, byte = controlCharDle ∧ ¬ stream.isEscaped⟩, none)
  else
    match push build stream.buffer byte with
    -- Only a buffer of fixed size overflows. The frame is dropped.
    | none => some (⟨[], false⟩, none)
    | some buffer =>
      if byte = controlCharEtx ∧ ¬ stream.isEscaped then do
        let result ← unframeBytes build buffer
        some (⟨[], false⟩, result.toOption)
      else
        some (⟨buffer, byte = controlCharDle ∧ ¬ stream.isEscaped⟩, none)

/-
Feeds bytes one by one and keeps what each of them returned.
-/
def pushEach (build : Build) (stream : MessageStream)
    : List UInt8 → Option (MessageStream × List (Option UsbDataBuffer))
  | [] => some (stream, [])
  | byte :: bytes => do
    let (stream, output) ← pushByte build stream byte
    let (stream, outputs) ← pushEach build stream bytes
    some (stream, output :: outputs)

def pushBytes (build : Build) (stream : MessageStream) (bytes : List UInt8)
    : Option (MessageStream × List UsbDataBuffer) := do
  let (stream, outputs) ← pushEach build stream bytes
  some (stream, outputs.filterMap id)

/-
Feeds the chunks that successive reads of the transport returned.
-/
def pushChunks (build : Build) (stream : MessageStream)
    : List (List UInt8) → Option (MessageStream × List UsbDataBuffer)
  | [] => some (stream, [])
  | chunk :: chunks => do
    let (stream, payloads) ← pushBytes build stream chunk
    let (stream, more) ← pushChunks build stream chunks
    some (stream, payloads ++ more)

end MessageStream

example : MessageStream.pushBytes .noStd .new [0x10, 0x02, 0x02, 0x07, 0x10, 0x03, 0x03]
    = some (.new, [[0x07, 0x03]]) := by decide

end Serialization
end Enody
