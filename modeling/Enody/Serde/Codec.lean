import Enody.Serde.Deserializer
import Mathlib.Data.List.Basic

/-!
This module contains codecs of the postcard format: a serializer, a deserializer that reads back exactly
what was serialized, and the largest size of a serialized value. Structures are codecs of their fields in
order, enumerations are the index of the variant and the codec of its fields.
-/

namespace Serde

structure Codec (α : Type) where
  serialize : α → List UInt8
  deserialize : Deserializer α
  -- `none` when there is no bound
  maxSize : Option Nat
  reads : ∀ a, Reads deserialize (serialize a) a
  length_le : ∀ max, maxSize = some max → ∀ a, (serialize a).length ≤ max

namespace Codec

variable {α β : Type}

def unit : Codec Unit where
  serialize _ := []
  deserialize := return ()
  maxSize := some 0
  reads _ := .pure ()
  length_le := by
    intro max _ a
    exact Nat.zero_le max

def u8 : Codec UInt8 where
  serialize byte := [byte]
  deserialize := pop
  maxSize := some 1
  reads := reads_pop
  length_le := by
    intro max hMax a
    injection hMax with hMax
    rw [← hMax]
    exact Nat.le_refl 1

/-
A varint of at most `count + 1` bytes, with no more than `last` in the last one.
-/
def varint (last count : Nat) (hLast : last < 128)
    : Codec { n : Nat // n < (last + 1) * 128 ^ count } where
  serialize n := putVarint count n
  deserialize := do
    let n ← takeVarint last count
    if h : n < (last + 1) * 128 ^ count then return ⟨n, h⟩ else failure
  maxSize := some (count + 1)
  reads := by
    intro n
    apply (reads_varint hLast count n n.property).bind_pure
    simp only [n.property, ↓reduceDIte]
    exact .pure n
  length_le := by
    intro max hMax n
    injection hMax with hMax
    rw [← hMax]
    exact length_putVarint_le count n

def map (codec : Codec α) (mk : α → β) (fields : β → α) (h : ∀ b, mk (fields b) = b)
    : Codec β where
  serialize b := codec.serialize (fields b)
  deserialize := mk <$> codec.deserialize
  maxSize := codec.maxSize
  reads := by
    intro b
    have hReads := (codec.reads (fields b)).map (f := mk)
    rw [h] at hReads
    exact hReads
  length_le := by
    intro max hMax b
    exact codec.length_le max hMax (fields b)

def u16 : Codec UInt16 :=
  (varint 3 2 (by decide)).map (fun n => UInt16.ofNat n) (fun n => ⟨n.toNat, n.toNat_lt⟩)
    (fun _ => UInt16.ofNat_toNat)

def u32 : Codec UInt32 :=
  (varint 15 4 (by decide)).map (fun n => UInt32.ofNat n) (fun n => ⟨n.toNat, n.toNat_lt⟩)
    (fun _ => UInt32.ofNat_toNat)

def u64 : Codec UInt64 :=
  (varint 1 9 (by decide)).map (fun n => UInt64.ofNat n) (fun n => ⟨n.toNat, n.toNat_lt⟩)
    (fun _ => UInt64.ofNat_toNat)

/-
A length. Targets with a smaller `usize` read fewer bytes, which makes no difference for lengths that fit.
-/
def usize : Codec { n : Nat // n < 2 ^ 64 } :=
  (varint 1 9 (by decide)).map (fun n => ⟨n.val, n.property⟩) (fun n => ⟨n.val, n.property⟩)
    (fun _ => rfl)

def i8 : Codec Int8 :=
  u8.map UInt8.toInt8 Int8.toUInt8 Int8.toInt8_toUInt8

def pair (first : Codec α) (second : Codec β) : Codec (α × β) where
  serialize ab := first.serialize ab.1 ++ second.serialize ab.2
  deserialize := do
    let a ← first.deserialize
    let b ← second.deserialize
    return (a, b)
  maxSize := do
    let a ← first.maxSize
    let b ← second.maxSize
    return a + b
  reads := by
    intro (a, b)
    exact (first.reads a).bind ((second.reads b).bind_pure (.pure (a, b)))
  length_le := by
    intro max hMax (a, b)
    simp only [Option.bind_eq_bind, Option.bind_eq_some_iff] at hMax
    rcases hMax with ⟨maxA, hMaxA, maxB, hMaxB, hMax⟩
    injection hMax with hMax
    have hA := first.length_le maxA hMaxA a
    have hB := second.length_le maxB hMaxB b
    rw [List.length_append, ← hMax]
    exact Nat.add_le_add hA hB

def option (codec : Codec α) : Codec (Option α) where
  serialize
    | none => [0]
    | some a => 1 :: codec.serialize a
  deserialize := do
    match ← pop with
    | 0 => return none
    | 1 => some <$> codec.deserialize
    | _ => failure
  maxSize := codec.maxSize.map (· + 1)
  reads := by
    intro a
    cases a with
    | none => exact (reads_pop 0).bind_pure (.pure none)
    | some a => exact (reads_pop 1).bind ((codec.reads a).map (f := some))
  length_le := by
    intro max hMax a
    rw [Option.map_eq_some_iff] at hMax
    rcases hMax with ⟨size, hSize, hMax⟩
    rw [← hMax]
    cases a with
    | none => exact Nat.le_add_left 1 size
    | some a => exact Nat.succ_le_succ (codec.length_le size hSize a)

theorem length_flatMap_le {serialize : α → List UInt8} {size : Nat} (items : List α)
    (h : ∀ item, (serialize item).length ≤ size)
    : (items.flatMap serialize).length ≤ items.length * size := by
  induction items with
  | nil => exact Nat.zero_le _
  | cons item items ih =>
    have hItem := h item
    rw [List.flatMap_cons, List.length_append, List.length_cons, Nat.succ_mul]
    omega

/-
Exactly `count` items, without a length.
-/
def array (codec : Codec α) (count : Nat) : Codec { items : List α // items.length = count } where
  serialize items := items.val.flatMap codec.serialize
  deserialize := do
    let items ← takeList codec.deserialize count
    if h : items.length = count then return ⟨items, h⟩ else failure
  maxSize := codec.maxSize.map (count * ·)
  reads := by
    intro ⟨items, hCount⟩
    subst hCount
    apply (reads_takeList items codec.reads).bind_pure
    simp only [↓reduceDIte]
    exact .pure _
  length_le := by
    intro max hMax ⟨items, hCount⟩
    rw [Option.map_eq_some_iff] at hMax
    rcases hMax with ⟨size, hSize, hMax⟩
    rw [← hMax]
    have hItems := length_flatMap_le items (codec.length_le size hSize)
    rw [hCount] at hItems
    exact hItems

/-
The length and the items, at most `capacity` of them.
-/
def seq (codec : Codec α) (capacity : Nat) (hCapacity : capacity < 2 ^ 64)
    : Codec { items : List α // items.length ≤ capacity } where
  serialize items :=
    usize.serialize ⟨items.val.length, Nat.lt_of_le_of_lt items.property hCapacity⟩
      ++ items.val.flatMap codec.serialize
  deserialize := do
    let length ← usize.deserialize
    let items ← takeList codec.deserialize length
    if h : items.length ≤ capacity then return ⟨items, h⟩ else failure
  maxSize := codec.maxSize.map ((putVarint 9 capacity).length + capacity * ·)
  reads := by
    intro ⟨items, hItems⟩
    apply (usize.reads _).bind
    apply (reads_takeList items codec.reads).bind_pure
    simp only [hItems, ↓reduceDIte]
    exact .pure _
  length_le := by
    intro max hMax ⟨items, hItems⟩
    rw [Option.map_eq_some_iff] at hMax
    rcases hMax with ⟨size, hSize, hMax⟩
    have hLength : (usize.serialize ⟨items.length, Nat.lt_of_le_of_lt hItems hCapacity⟩).length
        ≤ (putVarint 9 capacity).length := length_putVarint_mono 9 hItems
    have hBytes := length_flatMap_le items (codec.length_le size hSize)
    have hAll : items.length * size ≤ capacity * size := Nat.mul_le_mul_right size hItems
    rw [← hMax, List.length_append]
    exact Nat.add_le_add hLength (Nat.le_trans hBytes hAll)

/-
The length and the bytes, which have to be `count` many.
-/
def bytes (count : Nat) (hCount : count < 2 ^ 64)
    : Codec { bytes : List UInt8 // bytes.length = count } where
  serialize bytes := usize.serialize ⟨bytes.val.length, by rw [bytes.property]; exact hCount⟩ ++ bytes
  deserialize := do
    let length ← usize.deserialize
    let bytes ← take length
    if h : bytes.length = count then return ⟨bytes, h⟩ else failure
  maxSize := some ((putVarint 9 count).length + count)
  reads := by
    intro ⟨bytes, hBytes⟩
    apply (usize.reads _).bind
    apply (reads_take bytes).bind_pure
    simp only [hBytes, ↓reduceDIte]
    exact .pure _
  length_le := by
    intro max hMax ⟨bytes, hBytes⟩
    injection hMax with hMax
    rw [← hMax, List.length_append]
    exact Nat.add_le_add (length_putVarint_mono 9 (Nat.le_of_eq hBytes)) (Nat.le_of_eq hBytes)

/-
The length in bytes and the UTF-8 bytes, at most `capacity` of them.
-/
def str (capacity : Nat) (hCapacity : capacity < 2 ^ 64)
    : Codec { s : String // s.utf8ByteSize ≤ capacity } where
  serialize s := serializeStr s
  deserialize := do
    let s ← deserializeStr
    if h : s.utf8ByteSize ≤ capacity then return ⟨s, h⟩ else failure
  maxSize := some ((putVarint 9 capacity).length + capacity)
  reads := by
    intro ⟨s, hFits⟩
    apply (reads_str (Nat.lt_of_le_of_lt hFits hCapacity)).bind_pure
    simp only [hFits, ↓reduceDIte]
    exact .pure _
  length_le := by
    intro max hMax ⟨s, hFits⟩
    injection hMax with hMax
    rw [← hMax]
    unfold serializeStr
    rw [List.length_append, length_utf8]
    exact Nat.add_le_add (length_putVarint_mono 9 hFits) hFits

end Codec

def leBytes : Nat → Nat → List UInt8
  | 0, _ => []
  | count + 1, n => UInt8.ofNat n :: leBytes count (n / 256)

def ofLeBytes : List UInt8 → Nat
  | [] => 0
  | byte :: bytes => byte.toNat + 256 * ofLeBytes bytes

theorem length_leBytes (count n : Nat) : (leBytes count n).length = count := by
  induction count generalizing n with
  | zero => rfl
  | succ count ih => simp [leBytes, ih]

theorem ofLeBytes_leBytes {count n : Nat} (h : n < 256 ^ count)
    : ofLeBytes (leBytes count n) = n := by
  induction count generalizing n with
  | zero =>
    rw [Nat.pow_zero] at h
    unfold leBytes ofLeBytes
    omega
  | succ count ih =>
    have hHigh : n / 256 < 256 ^ count := by
      rw [Nat.pow_succ] at h
      omega
    unfold leBytes ofLeBytes
    rw [ih hHigh, UInt8.toNat_ofNat']
    omega

structure Variant (α : Type) where
  Fields : Type
  codec : Codec Fields
  ofFields : Fields → α

structure Selected {α : Type} (variants : List (Variant α)) (a : α) where
  index : Nat
  variant : Variant α
  fields : variant.Fields
  at_index : variants[index]? = some variant
  ofFields_fields : variant.ofFields fields = a

namespace Variant

variable {α Fields : Type}

def unit (a : α) : Variant α := ⟨Unit, Codec.unit, fun _ => a⟩

def newtype (mk : Fields → α) (codec : Codec Fields) : Variant α := ⟨Fields, codec, mk⟩

def pair {First Second : Type} (mk : First → Second → α) (first : Codec First)
    (second : Codec Second)
    : Variant α :=
  ⟨First × Second, first.pair second, fun fields => mk fields.1 fields.2⟩

def maxSize : List (Variant α) → Option Nat
  | [] => some 0
  | variant :: variants => do
    let size ← variant.codec.maxSize
    let sizes ← maxSize variants
    return max size sizes

theorem length_le_maxSize {variants : List (Variant α)} {size : Nat}
    (h : maxSize variants = some size) {variant : Variant α} (hMem : variant ∈ variants)
    (fields : variant.Fields)
    : (variant.codec.serialize fields).length ≤ size := by
  induction variants generalizing size with
  | nil => contradiction
  | cons other variants ih =>
    unfold maxSize at h
    simp only [Option.bind_eq_bind, Option.bind_eq_some_iff] at h
    rcases h with ⟨first, hFirst, sizes, hSizes, hMax⟩
    injection hMax with hMax
    rw [← hMax]
    cases hMem with
    | head => exact Nat.le_trans (variant.codec.length_le first hFirst fields) (Nat.le_max_left _ _)
    | tail _ hRest => exact Nat.le_trans (ih hSizes hRest) (Nat.le_max_right _ _)

end Variant

namespace Codec

variable {α : Type}

/-
The index of the variant, a varint of 32 bits, and its fields. Up to 128 variants have an index of one
byte.
-/
def enum (variants : List (Variant α)) (select : (a : α) → Selected variants a)
    (hCount : variants.length ≤ 128)
    : Codec α where
  serialize a := putVarint 4 (select a).index ++ (select a).variant.codec.serialize (select a).fields
  deserialize := do
    let index ← takeVarint 15 4
    match variants[index]? with
    | none => failure
    | some variant => variant.ofFields <$> variant.codec.deserialize
  maxSize := (Variant.maxSize variants).map (· + 1)
  reads := by
    intro a
    rcases select a with ⟨index, variant, fields, hVariant, hFields⟩
    have hIndex := (List.getElem?_eq_some_iff.mp hVariant).1
    have hReads := (variant.codec.reads fields).map (f := variant.ofFields)
    rw [hFields] at hReads
    apply (reads_varint (by decide) 4 index (by omega)).bind
    simp only [hVariant]
    exact hReads
  length_le := by
    intro max hMax a
    rcases select a with ⟨index, variant, fields, hVariant, hFields⟩
    have hIndex := (List.getElem?_eq_some_iff.mp hVariant).1
    rw [Option.map_eq_some_iff] at hMax
    rcases hMax with ⟨size, hSize, hMax⟩
    have hLength := Variant.length_le_maxSize hSize (List.mem_of_getElem? hVariant) fields
    have hOne : putVarint 4 index = [UInt8.ofNat index] := putVarint_of_lt 4 (by omega)
    rw [hOne, ← hMax, List.length_append, List.length_singleton, Nat.add_comm]
    exact Nat.succ_le_succ hLength

end Codec
end Serde
