import Enody.Wifi.Impl.SendMessage
import Enody.Wifi.Lemmas.Frame

/-!
This module contains what the device at the other end of the wire makes of the frames of
`send_message`: when they arrive complete and in the order of their nonces, it receives exactly the
messages that were encrypted.
-/

namespace Enody
namespace Wifi

/--
The documented behaviour of postcard and snow. Decryption succeeds exactly when the nonce of the
ciphertext is the counter of the receiver.
-/
structure Crates.Documented (crates : Crates) : Prop where
  message : ∀ message bytes,
    crates.message.toAllocvec message = some bytes → crates.message.fromBytes bytes = some message
  request : crates.request.Documented
  length : ∀ nonce plaintext ciphertext,
    crates.noise.writeMessage nonce plaintext = .ok ciphertext
      →
    ciphertext.length = plaintext.length + noiseTagLen
  inOrder : ∀ nonce plaintext ciphertext,
    crates.noise.writeMessage nonce plaintext = .ok ciphertext
      →
    crates.noise.readMessage nonce ciphertext = .ok plaintext
  outOfOrder : ∀ nonce counter plaintext ciphertext,
    crates.noise.writeMessage nonce plaintext = .ok ciphertext
      →
    counter ≠ nonce
      →
    ∃ error, crates.noise.readMessage counter ciphertext = .error error

def frameOf (crates : Crates) (entry : Sealed) : List UInt8 :=
  match clientNoiseFrame entry.ciphertext with
  | .error _ => []
  | .ok frame =>
    match writeFrame crates.request frame with
    | .error _ => []
    | .ok bytes => bytes

def frames (crates : Crates) (entries : List Sealed) : List UInt8 :=
  entries.flatMap (frameOf crates)

structure SealedOk (crates : Crates) (nonce : Nat) (entry : Sealed) : Prop where
  sealed : ∃ plaintext,
    crates.message.toAllocvec entry.message = some plaintext
      ∧
    crates.noise.writeMessage nonce plaintext = .ok entry.ciphertext
      ∧
    plaintext.length ≤ wifiMessageMaxLen

theorem SealedOk.frame {crates : Crates} (hDoc : crates.Documented) {nonce : Nat} {entry : Sealed}
    (h : SealedOk crates nonce entry)
    : ∃ payload : NoisePayload,
        payload.items = entry.ciphertext
          ∧
        clientNoiseFrame entry.ciphertext = .ok (.noise payload)
          ∧
        writeFrame crates.request (.noise payload) = .ok (frameOf crates entry)
          ∧
        frameOf crates entry ≠ []
          ∧
        (∀ rest,
          readFrame crates.request (frameOf crates entry ++ rest) = .frame (.noise payload) rest)
          ∧
        ∀ before after,
          frameOf crates entry = before ++ after → after ≠ [] →
            readFrame crates.request before = .pending := by
  rcases h.sealed with ⟨plaintext, _, hWrite, hMax⟩
  have hLen : entry.ciphertext.length ≤ wifiFramePayloadMaxLen := by
    rw [hDoc.length _ _ _ hWrite]
    unfold wifiFramePayloadMaxLen
    omega
  have hFrame := clientNoiseFrame_of_le hLen
  rcases writeFrame_noise hDoc.request ⟨entry.ciphertext, hLen⟩ with ⟨bytes, hBytes, hRest⟩
  have hOf : frameOf crates entry = bytes := by
    simp [frameOf, hFrame, hBytes]
  rw [hOf]
  exact ⟨_, rfl, hFrame, hBytes, hRest⟩

namespace peerReceive

theorem go_frames {crates : Crates} (hDoc : crates.Documented) (entries : List Sealed)
    (partialFrame : List UInt8) (fuel counter : Nat)
    (hEntries : ∀ n entry, entries[n]? = some entry → SealedOk crates (counter + n) entry)
    (hPartial : readFrame crates.request partialFrame = .pending)
    (hFuel : (frames crates entries ++ partialFrame).length ≤ fuel)
    : go crates fuel counter (frames crates entries ++ partialFrame)
        =
      (entries.map Sealed.message, true) := by
  induction entries generalizing fuel counter with
  | nil =>
    cases fuel with
    | zero => rfl
    | succ fuel => simp [go, frames, hPartial]
  | cons entry entries ih =>
    have hEntry : SealedOk crates counter entry := hEntries 0 entry rfl
    rcases hEntry.frame hDoc with ⟨payload, hItems, _, _, hNonempty, hRead, _⟩
    rcases hEntry.sealed with ⟨plaintext, hEncode, hWrite, _⟩
    have hPos : 0 < (frameOf crates entry).length := List.length_pos_iff.mpr hNonempty
    have hSplit : frames crates (entry :: entries) ++ partialFrame
        = frameOf crates entry ++ (frames crates entries ++ partialFrame) := by
      simp [frames]
    rw [hSplit] at hFuel ⊢
    rw [List.length_append] at hFuel
    cases fuel with
    | zero => omega
    | succ fuel =>
      -- the counter goes up by one, as the nonces of the entries do
      have hRest := ih fuel (counter + 1)
        (by
          intro n other hOther
          have := hEntries (n + 1) other hOther
          rw [Nat.add_assoc, Nat.add_comm 1 n]
          exact this)
        (by omega)
      unfold go
      rw [hRead]
      simp only [hItems]
      rw [hDoc.inOrder _ _ _ hWrite]
      simp only [hDoc.message _ _ hEncode, hRest]
      simp

end peerReceive

theorem peerReceive_frames {crates : Crates} (hDoc : crates.Documented) (entries : List Sealed)
    (partialFrame : List UInt8)
    (hEntries : ∀ n entry, entries[n]? = some entry → SealedOk crates n entry)
    (hPartial : readFrame crates.request partialFrame = .pending)
    : peerReceive crates (frames crates entries ++ partialFrame)
        =
      (entries.map Sealed.message, true) := by
  unfold peerReceive
  apply peerReceive.go_frames hDoc
  . intro n entry hEntry
    rw [Nat.zero_add]
    apply hEntries
    exact hEntry
  . exact hPartial
  . exact Nat.le_refl _

section HostInfo

/-
postcard and snow on the messages of a client that only asks for host infos: the documented behaviour
can be met. Identifiers are below 256, a tag repeats the nonce, and other messages are refused.
-/

def hostInfo (identifier : UInt8) : Message .std :=
  .command ⟨BitVec.ofNat 128 identifier.toNat, none, none, .host .info⟩

def hostInfoPostcard : Postcard (Message .std) where
  toAllocvec
    | .command ⟨identifier, none, none, .host .info⟩ =>
      if identifier.toNat < 256 then
        some (0 :: 16 :: (List.replicate 15 0 ++ [UInt8.ofNat identifier.toNat, 0, 0, 1, 0]))
      else
        none
    | _ => none
  fromBytes
    | [0, 16, 0, 0, 0, 0, 0, 0, 0, 0, 0, 0, 0, 0, 0, 0, 0, identifier, 0, 0, 1, 0] =>
      some (hostInfo identifier)
    | _ => none

def varint (n : Nat) : List UInt8 :=
  if n < 128 then [UInt8.ofNat n] else [UInt8.ofNat (n % 128 + 128), UInt8.ofNat (n / 128)]

def takeVarint : List UInt8 → Option (Nat × List UInt8)
  | lo :: bytes =>
    if lo.toNat < 128 then
      some (lo.toNat, bytes)
    else
      match bytes with
      | hi :: bytes => some (lo.toNat - 128 + 128 * hi.toNat, bytes)
      | [] => none
  | [] => none

def noisePostcard : Postcard Request where
  toAllocvec
    | .noise payload => some (2 :: (varint payload.items.length ++ payload.items))
    | _ => none
  fromBytes
    | 2 :: bytes =>
      match takeVarint bytes with
      | some (len, items) => if items.length = len then (HVec.fromSlice items).map .noise else none
      | none => none
    | _ => none

def noiseTag (nonce : Nat) : List UInt8 := List.replicate noiseTagLen (UInt8.ofNat nonce)

def nonceTagNoise : Noise where
  writeMessage nonce plaintext :=
    if nonce < 256 then .ok (plaintext ++ noiseTag nonce) else .error (.other "State(Exhausted)")
  readMessage counter ciphertext :=
    let len := ciphertext.length - noiseTagLen
    if counter < 256 ∧ ciphertext.drop len = noiseTag counter then
      .ok (ciphertext.take len)
    else
      .error .decrypt

def hostInfoCrates : Crates := ⟨hostInfoPostcard, noisePostcard, nonceTagNoise⟩

theorem takeVarint_varint (n : Nat) (h : n < 16384) (bytes : List UInt8)
    : takeVarint (varint n ++ bytes) = some (n, bytes) := by
  unfold varint
  split
  . next hSmall =>
    have hLo : (UInt8.ofNat n).toNat = n := by
      rw [UInt8.toNat_ofNat']
      omega
    simp only [List.cons_append, List.nil_append, takeVarint, hLo, hSmall, ↓reduceIte]
  . have hLo : (UInt8.ofNat (n % 128 + 128)).toNat = n % 128 + 128 := by
      rw [UInt8.toNat_ofNat']
      omega
    have hHi : (UInt8.ofNat (n / 128)).toNat = n / 128 := by
      rw [UInt8.toNat_ofNat']
      omega
    have hLarge : ¬ n % 128 + 128 < 128 := by omega
    have hEq : n % 128 + 128 - 128 + 128 * (n / 128) = n := by omega
    simp only [List.cons_append, List.nil_append, takeVarint, hLo, hHi, hLarge, ↓reduceIte, hEq]

theorem noisePostcard_documented : noisePostcard.Documented where
  encodes := by
    intro payload
    have hFits := payload.fits
    have hMax : payload.items.length < 16384 := by
      apply Nat.lt_of_le_of_lt hFits
      decide
    have hVarint : (varint payload.items.length).length ≤ 2 := by
      unfold varint
      split
      . exact Nat.le_succ 1
      . exact Nat.le_refl 2
    refine ⟨_, rfl, ?_, ?_, ?_⟩
    . simp only [noisePostcard, takeVarint_varint _ hMax, ↓reduceIte]
      unfold HVec.fromSlice
      simp only [hFits, ↓reduceDIte, Option.map_some]
    . simp
    . simp only [List.length_cons, List.length_append]
      unfold postcardFrameOverheadLen
      omega

theorem hostInfoPostcard_fromBytes (message : Message .std) (bytes : List UInt8)
    (h : hostInfoPostcard.toAllocvec message = some bytes)
    : hostInfoPostcard.fromBytes bytes = some message := by
  unfold hostInfoPostcard at h
  simp only at h
  split at h
  . next identifier =>
    split at h
    . next hSmall =>
      injection h with h
      subst h
      have hId : BitVec.ofNat 128 (identifier.toNat % 256) = identifier := by
        apply BitVec.eq_of_toNat_eq
        rw [BitVec.toNat_ofNat]
        omega
      simp [hostInfoPostcard, hostInfo, hId]
    . contradiction
  . contradiction

theorem noiseTag_inj {nonce counter : Nat} (hn : nonce < 256) (hc : counter < 256)
    (h : noiseTag nonce = noiseTag counter)
    : counter = nonce := by
  unfold noiseTag at h
  have hByte : UInt8.ofNat nonce = UInt8.ofNat counter := by
    rw [List.replicate_inj] at h
    rcases h with ⟨_, hZero | hEq⟩
    . contradiction
    . exact hEq
  have hNat := congrArg UInt8.toNat hByte
  rw [UInt8.toNat_ofNat', UInt8.toNat_ofNat'] at hNat
  omega

theorem nonceTagNoise_write {nonce : Nat} {plaintext ciphertext : List UInt8}
    (h : nonceTagNoise.writeMessage nonce plaintext = .ok ciphertext)
    : nonce < 256 ∧ ciphertext = plaintext ++ noiseTag nonce := by
  simp only [nonceTagNoise] at h
  split at h
  . next hSmall =>
    injection h with h
    exact ⟨hSmall, h.symm⟩
  . contradiction

theorem nonceTagNoise_read (counter nonce : Nat) (plaintext : List UInt8)
    : nonceTagNoise.readMessage counter (plaintext ++ noiseTag nonce)
        =
      if counter < 256 ∧ noiseTag nonce = noiseTag counter then .ok plaintext else .error .decrypt
    := by
  have hLen : (plaintext ++ noiseTag nonce).length - noiseTagLen = plaintext.length := by
    simp [noiseTag]
  simp only [nonceTagNoise, hLen, List.drop_left, List.take_left]

theorem hostInfoCrates_documented : hostInfoCrates.Documented where
  message := hostInfoPostcard_fromBytes
  request := noisePostcard_documented
  length := by
    intro nonce plaintext ciphertext h
    rcases nonceTagNoise_write h with ⟨_, hEq⟩
    simp [hEq, noiseTag]
  inOrder := by
    intro nonce plaintext ciphertext h
    rcases nonceTagNoise_write h with ⟨hSmall, hEq⟩
    rw [hEq]
    simp [hostInfoCrates, nonceTagNoise_read, hSmall]
  outOfOrder := by
    intro nonce counter plaintext ciphertext h hNe
    rcases nonceTagNoise_write h with ⟨hSmall, hEq⟩
    exists .decrypt
    rw [hEq]
    simp only [hostInfoCrates, nonceTagNoise_read]
    split
    . next hTag =>
      apply absurd _ hNe
      exact noiseTag_inj hSmall hTag.left hTag.right
    . rfl

end HostInfo

end Wifi
end Enody
