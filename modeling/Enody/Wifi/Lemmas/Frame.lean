import Enody.Wifi.Impl.Frame
import Mathlib.Data.List.Basic

/-!
This module contains what the length-prefixed frames guarantee when postcard behaves as documented:
a written frame is read back whatever follows it, and no proper prefix of it is taken for a frame.
-/

namespace Enody
namespace Wifi

/--
postcard decodes what it has encoded, and a `Request::Noise` costs at most
`POSTCARD_FRAME_OVERHEAD_LEN` bytes more than its payload.
-/
structure Postcard.Documented (postcard : Postcard Request) : Prop where
  encodes : ∀ payload : NoisePayload, ∃ bytes,
    postcard.toAllocvec (.noise payload) = some bytes
      ∧
    postcard.fromBytes bytes = some (.noise payload)
      ∧
    0 < bytes.length
      ∧
    bytes.length ≤ payload.items.length + postcardFrameOverheadLen

theorem length_u16ToBeBytes (len : Nat) : (u16ToBeBytes len).length = 2 := rfl

theorem u16_fromBeBytes_toBeBytes (len : Nat) (h : len < 65536)
    : (UInt8.ofNat (len / 256)).toNat * 256 + (UInt8.ofNat len).toNat = len := by
  simp only [UInt8.toNat_ofNat']
  omega

theorem readFrame_append {α : Type} (postcard : Postcard α) (value : α) (payload rest : List UInt8)
    (hDecode : postcard.fromBytes payload = some value)
    (hPos : 0 < payload.length) (hLen : payload.length ≤ frameMaxLen)
    : readFrame postcard (u16ToBeBytes payload.length ++ payload ++ rest) = .frame value rest := by
  have hMax : payload.length < 65536 := by
    apply Nat.lt_of_le_of_lt hLen
    decide
  have hPrefix := u16_fromBeBytes_toBeBytes payload.length hMax
  have hRange : ¬ (payload.length = 0 ∨ payload.length > frameMaxLen) := by omega
  have hEnough : ¬ (payload ++ rest).length < payload.length := by simp
  unfold u16ToBeBytes
  simp only [List.cons_append, List.nil_append]
  unfold readFrame
  simp only [hPrefix, hRange, ↓reduceIte, hEnough, List.take_left', hDecode, List.drop_left']

theorem readFrame_cut {α : Type} (postcard : Postcard α) (payload before after : List UInt8)
    (hPos : 0 < payload.length) (hLen : payload.length ≤ frameMaxLen)
    (hCut : u16ToBeBytes payload.length ++ payload = before ++ after) (hAfter : after ≠ [])
    : readFrame postcard before = .pending := by
  have hMax : payload.length < 65536 := by
    apply Nat.lt_of_le_of_lt hLen
    decide
  have hPrefix := u16_fromBeBytes_toBeBytes payload.length hMax
  have hRange : ¬ (payload.length = 0 ∨ payload.length > frameMaxLen) := by omega
  have hAfterPos : 0 < after.length := List.length_pos_iff.mpr hAfter
  have hTotal : payload.length + 2 = before.length + after.length := by
    have := congrArg List.length hCut
    rw [List.length_append, List.length_append, length_u16ToBeBytes] at this
    omega
  match before with
  | [] => rfl
  | [_] => rfl
  | hi :: lo :: bytes =>
    unfold u16ToBeBytes at hCut
    simp only [List.cons_append, List.nil_append, List.cons.injEq] at hCut
    rcases hCut with ⟨hHi, hLo, _⟩
    simp only [List.length_cons] at hTotal
    have hShort : bytes.length < payload.length := by omega
    unfold readFrame
    simp only [← hHi, ← hLo, hPrefix, hRange, ↓reduceIte, hShort]

theorem clientNoiseFrame_of_le {ciphertext : List UInt8}
    (h : ciphertext.length ≤ wifiFramePayloadMaxLen)
    : clientNoiseFrame ciphertext = .ok (.noise ⟨ciphertext, h⟩) := by
  simp [clientNoiseFrame, HVec.fromSlice, h]

theorem writeFrame_noise {postcard : Postcard Request} (hDoc : postcard.Documented)
    (payload : NoisePayload)
    : ∃ bytes,
        writeFrame postcard (.noise payload) = .ok bytes
          ∧
        bytes ≠ []
          ∧
        (∀ rest, readFrame postcard (bytes ++ rest) = .frame (.noise payload) rest)
          ∧
        ∀ before after, bytes = before ++ after → after ≠ [] → readFrame postcard before = .pending
    := by
  rcases hDoc.encodes payload with ⟨encoded, hEncode, hDecode, hPos, hOverhead⟩
  have hLen : encoded.length ≤ frameMaxLen := by
    have := payload.fits
    unfold frameMaxLen
    omega
  have hMax : encoded.length < 65536 := by
    apply Nat.lt_of_le_of_lt hLen
    decide
  refine ⟨u16ToBeBytes encoded.length ++ encoded, ?_, ?_, ?_, ?_⟩
  . simp [writeFrame, hEncode, hMax]
  . simp [u16ToBeBytes]
  . intro rest
    apply readFrame_append
    . exact hDecode
    . exact hPos
    . exact hLen
  . intro before after hCut hAfter
    apply readFrame_cut _ encoded before after
    . exact hPos
    . exact hLen
    . exact hCut
    . exact hAfter

end Wifi
end Enody
