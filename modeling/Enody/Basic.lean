/-!
This module contains the types that the whole crate shares: the build it is compiled in, identifiers,
the fixed-capacity containers of `heapless` and the error type.
-/

namespace Enody

/--
The crate is compiled with or without the `std` feature.
-/
inductive Build where
  | std
  | noStd
  deriving DecidableEq, Repr

/-
A `uuid::Uuid`.
-/
abbrev Identifier := BitVec 128

/-
An `f32`, kept as its bit pattern: the SDK only transports measurements.
-/
abbrev Measurement := BitVec 32

/--
A `heapless::String`. The capacity counts bytes of UTF-8.
-/
structure HString (capacity : Nat) where
  val : String
  fits : val.utf8ByteSize ≤ capacity
  deriving DecidableEq, Repr

/--
A `heapless::Vec`.
-/
structure HVec (α : Type) (capacity : Nat) where
  items : List α
  fits : items.length ≤ capacity
  deriving DecidableEq, Repr

/-
`heapless::Vec::from_slice`.
-/
def HVec.fromSlice {α : Type} {capacity : Nat} (slice : List α) : Option (HVec α capacity) :=
  if h : slice.length ≤ capacity then
    some ⟨slice, h⟩
  else
    none

abbrev CallId := Nat

def DebugError : Build → Type
  | .std => String
  | .noStd => HString 128

def USBError : Build → Type
  | .std => String
  | .noStd => Unit

instance : (build : Build) → DecidableEq (DebugError build)
  | .std => inferInstanceAs (DecidableEq String)
  | .noStd => inferInstanceAs (DecidableEq (HString 128))

instance : (build : Build) → DecidableEq (USBError build)
  | .std => inferInstanceAs (DecidableEq String)
  | .noStd => inferInstanceAs (DecidableEq Unit)

inductive Error (build : Build) where
  | unknown
  | debug (detail : DebugError build)
  | unsupported
  | usb (detail : USBError build)
  | serialization
  | busy
  | insufficientData
  | unexpectedResponse
  | timeout
  | argument
  | permission
  | canceled
  deriving DecidableEq

/-
`Error::Debug` with a text of the `std` build.
-/
def Error.debugText (detail : String) : Error .std :=
  .debug (show DebugError .std from detail)

/-
`Error::USB` with a text of the `std` build.
-/
def Error.usbText (detail : String) : Error .std :=
  .usb (show USBError .std from detail)

end Enody
