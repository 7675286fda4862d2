import Mathlib.Algebra.Group.Nat.Defs

/-!
This module contains deserializers that read a value from the front of a byte stream, and the variable
length integers of the postcard format: seven bits in each byte, least significant first, and a
continuation flag in the top bit.
-/

namespace Serde

abbrev Deserializer (α : Type) := StateT (List UInt8) Option α

def Reads {α : Type} (deserializer : Deserializer α) (bytes : List UInt8) (a : α) : Prop :=
  ∀ rest, deserializer.run (bytes ++ rest) = some (a, rest)

variable {α β : Type} {first : Deserializer α} {bytes more : List UInt8} {a : α} {b : β}

/-
Decodes a whole buffer. Bytes behind the value are ignored.
-/
def fromBytes (deserializer : Deserializer α) (bytes : List UInt8) : Option α :=
  (deserializer.run bytes).map Prod.fst

def ReadsFront {α : Type} (deserializer : Deserializer α) (bytes : List UInt8) (a : α) : Prop :=
  ∃ front back, bytes = front ++ back ∧ Reads deserializer front a

namespace Reads

theorem pure (a : α) : Reads (Pure.pure a) [] a := by
  intro rest
  rfl

theorem bind {next : α → Deserializer β} (hFirst : Reads first bytes a)
    (hNext : Reads (next a) more b)
    : Reads (first >>= next) (bytes ++ more) b := by
  intro rest
  rw [List.append_assoc, StateT.run_bind, hFirst]
  exact hNext rest

theorem map {f : α → β} (h : Reads first bytes a) : Reads (f <$> first) bytes (f a) := by
  intro rest
  rw [StateT.run_map, h]
  rfl

theorem bind_pure {next : α → Deserializer β} (hFirst : Reads first bytes a)
    (hNext : Reads (next a) [] b)
    : Reads (first >>= next) bytes b := by
  have h := bind hFirst hNext
  rw [List.append_nil] at h
  exact h

theorem fromBytes_append (h : Reads first bytes a) (rest : List UInt8)
    : fromBytes first (bytes ++ rest) = some a := by
  unfold fromBytes
  rw [h]
  rfl

theorem fromBytes_eq (h : Reads first bytes a) : fromBytes first bytes = some a := by
  have hAppend := h.fromBytes_append []
  rw [List.append_nil] at hAppend
  exact hAppend

theorem front (h : Reads first bytes a) : ReadsFront first bytes a :=
  ⟨bytes, [], (List.append_nil bytes).symm, h⟩

theorem bind_front {next : α → Deserializer β} (hFirst : Reads first bytes a)
    (hNext : ReadsFront (next a) more b)
    : ReadsFront (first >>= next) (bytes ++ more) b := by
  rcases hNext with ⟨front, back, hMore, hFront⟩
  refine ⟨bytes ++ front, back, ?_, hFirst.bind hFront⟩
  rw [hMore, List.append_assoc]

theorem bind_eq_none {next : α → Deserializer β} (hFirst : Reads first bytes a)
    (hNext : (next a).run more = none)
    : (first >>= next).run (bytes ++ more) = none := by
  rw [StateT.run_bind, hFirst]
  exact hNext

end Reads

namespace ReadsFront

theorem map {f : α → β} (h : ReadsFront first bytes a) : ReadsFront (f <$> first) bytes (f a) := by
  rcases h with ⟨front, back, hBytes, hFront⟩
  exact ⟨front, back, hBytes, hFront.map⟩

theorem fromBytes_eq (h : ReadsFront first bytes a) : fromBytes first bytes = some a := by
  rcases h with ⟨front, back, hBytes, hFront⟩
  rw [hBytes]
  exact hFront.fromBytes_append back

end ReadsFront

def pop : Deserializer UInt8 := fun bytes =>
  match bytes with
  | [] => none
  | byte :: rest => some (byte, rest)

theorem reads_pop (byte : UInt8) : Reads pop [byte] byte := by
  intro rest
  rfl

def take : Nat → Deserializer (List UInt8)
  | 0 => return []
  | count + 1 => do
    let byte ← pop
    let bytes ← take count
    return byte :: bytes

theorem reads_take (bytes : List UInt8) : Reads (take bytes.length) bytes bytes := by
  induction bytes with
  | nil => exact .pure []
  | cons byte bytes ih => exact (reads_pop byte).bind (ih.bind_pure (.pure (byte :: bytes)))

def takeList (deserializer : Deserializer α) : Nat → Deserializer (List α)
  | 0 => return []
  | count + 1 => do
    let item ← deserializer
    let items ← takeList deserializer count
    return item :: items

theorem reads_takeList {serialize : α → List UInt8} (items : List α)
    (h : ∀ item, Reads first (serialize item) item)
    : Reads (takeList first items.length) (items.flatMap serialize) items := by
  induction items with
  | nil => exact .pure []
  | cons item items ih => exact (h item).bind (ih.bind_pure (.pure (item :: items)))

/-
At most `count` bytes with the continuation flag, and one without it.
-/
def putVarint : Nat → Nat → List UInt8
  | 0, n => [UInt8.ofNat n]
  | count + 1, n =>
    if n < 128 then
      [UInt8.ofNat n]
    else
      UInt8.ofNat (n % 128 + 128) :: putVarint count (n / 128)

/-
The type has room for no more than `last` in the byte behind `count` others.
-/
def takeVarint (last : Nat) : Nat → Deserializer Nat
  | 0 => do
    let byte ← pop
    if byte.toNat ≤ last then return byte.toNat else failure
  | count + 1 => do
    let byte ← pop
    if byte.toNat < 128 then
      return byte.toNat
    else
      let high ← takeVarint last count
      return byte.toNat % 128 + 128 * high

theorem length_putVarint_le (count n : Nat) : (putVarint count n).length ≤ count + 1 := by
  induction count generalizing n with
  | zero => exact Nat.le_refl 1
  | succ count ih =>
    unfold putVarint
    split
    . simp
    . rw [List.length_cons]
      exact Nat.succ_le_succ (ih (n / 128))

theorem length_putVarint_mono (count : Nat) {n m : Nat} (h : n ≤ m)
    : (putVarint count n).length ≤ (putVarint count m).length := by
  induction count generalizing n m with
  | zero => exact Nat.le_refl 1
  | succ count ih =>
    unfold putVarint
    split
    . split
      . simp
      . simp
    . split
      . omega
      . rw [List.length_cons, List.length_cons]
        exact Nat.succ_le_succ (ih (Nat.div_le_div_right h))

theorem putVarint_of_lt (count : Nat) {n : Nat} (h : n < 128)
    : putVarint count n = [UInt8.ofNat n] := by
  cases count with
  | zero => rfl
  | succ count =>
    unfold putVarint
    simp [h]

theorem reads_varint {last : Nat} (hLast : last < 128) (count n : Nat)
    (hBound : n < (last + 1) * 128 ^ count)
    : Reads (takeVarint last count) (putVarint count n) n := by
  induction count generalizing n with
  | zero =>
    have hByte : (UInt8.ofNat n).toNat = n := by
      rw [UInt8.toNat_ofNat']
      omega
    apply (reads_pop (UInt8.ofNat n)).bind_pure
    have hFits : n ≤ last := by omega
    simp only [hByte, hFits, ↓reduceIte]
    exact .pure n
  | succ count ih =>
    unfold putVarint
    split
    . next hSmall =>
      have hByte : (UInt8.ofNat n).toNat = n := by
        rw [UInt8.toNat_ofNat']
        omega
      apply (reads_pop (UInt8.ofNat n)).bind_pure
      simp only [hByte, hSmall, ↓reduceIte]
      exact .pure n
    . next hSmall =>
      have hByte : (UInt8.ofNat (n % 128 + 128)).toNat = n % 128 + 128 := by
        rw [UInt8.toNat_ofNat']
        omega
      have hFlag : ¬ n % 128 + 128 < 128 := by omega
      have hHigh : n / 128 < (last + 1) * 128 ^ count := by
        rw [Nat.pow_succ, ← Nat.mul_assoc] at hBound
        omega
      have hLow : (n % 128 + 128) % 128 + 128 * (n / 128) = n := by omega
      apply (reads_pop (UInt8.ofNat (n % 128 + 128))).bind
      simp only [hByte, hFlag, ↓reduceIte]
      apply (ih (n / 128) hHigh).bind_pure
      rw [hLow]
      exact .pure n

def utf8 (s : String) : List UInt8 :=
  s.toByteArray.data.toList

def serializeStr (s : String) : List UInt8 :=
  putVarint 9 s.utf8ByteSize ++ utf8 s

def deserializeStr : Deserializer String := do
  let length ← takeVarint 1 9
  let bytes ← take length
  match String.fromUTF8? ⟨bytes.toArray⟩ with
  | none => failure
  | some s => return s

theorem length_utf8 (s : String) : (utf8 s).length = s.utf8ByteSize := by
  unfold utf8
  rw [Array.length_toList]
  exact String.size_toByteArray

theorem fromUTF8?_utf8 (s : String) : String.fromUTF8? ⟨(utf8 s).toArray⟩ = some s := by
  have hBytes : (⟨(utf8 s).toArray⟩ : ByteArray) = s.toByteArray := by
    unfold utf8
    rw [Array.toArray_toList]
  rw [hBytes]
  unfold String.fromUTF8?
  simp only [s.isValidUTF8, ↓reduceDIte]
  rfl

theorem reads_str {s : String} (h : s.utf8ByteSize < 2 ^ 64)
    : Reads deserializeStr (serializeStr s) s := by
  have hTake := reads_take (utf8 s)
  rw [length_utf8] at hTake
  apply (reads_varint (by decide) 9 s.utf8ByteSize h).bind
  apply hTake.bind_pure
  simp only [fromUTF8?_utf8]
  exact .pure s

end Serde
