/-
# The credential cipher

`CredentialCipher` of `app/infrastructure/crypto/credentials.py`. A dictionary is written as JSON,
sealed with AES-GCM under a fresh nonce and the fixed associated data, and the nonce and the sealing
are encoded in base64. Reading goes the same way back, and every exception on the way that is a
`ValueError` or an `InvalidTag` becomes a `CredentialCryptoError`. `json.loads` raises a
`RecursionError` as well, on data that is nested too deeply, and that one leaves `decrypt` as it is.

AES-GCM and the JSON of a dictionary are parameters, with what is relied on as properties of them.
-/

import Wolt.Python.Base64
import Wolt.Python.Value

namespace Wolt.Crypto

open Wolt.Python

/-! ## Exceptions -/

/-- The exceptions of `json.loads`. -/
inductive JsonError
  | jsonDecodeError
  | unicodeDecodeError
  | valueError
  | recursionError
  /-- Any other exception that is not a `ValueError`. -/
  | other
  deriving DecidableEq

/-- The class is `ValueError` or one of its subclasses. -/
def JsonError.isValueError : JsonError → Bool
  | jsonDecodeError | unicodeDecodeError | valueError => true
  | recursionError | other => false

/-- The exceptions of the calls that `decrypt` makes. -/
inductive Raised
  | unicodeEncodeError
  | binasciiError
  | invalidTag
  | valueError
  | json (error : JsonError)
  deriving DecidableEq

/-- `except (ValueError, InvalidTag, json.JSONDecodeError)`. -/
def Raised.isCaught : Raised → Bool
  | unicodeEncodeError | binasciiError | invalidTag | valueError => true
  | json error => error.isValueError

/-- `CredentialCryptoError`. -/
inductive CredentialCryptoError
  | keyNotHexadecimal
  | keyLength
  | decryptionFailed
  | payloadInvalid
  deriving DecidableEq

/-- The text of the error. -/
def CredentialCryptoError.message : CredentialCryptoError → String
  | keyNotHexadecimal => "WOLT_MASTER_KEY must be hexadecimal"
  | keyLength => "WOLT_MASTER_KEY must contain 32 random bytes"
  | decryptionFailed => "credential_decryption_failed"
  | payloadInvalid => "credential_payload_invalid"

/-- How `decrypt` raises. -/
inductive DecryptError
  | credentialCrypto (error : CredentialCryptoError)
  | uncaught (raised : Raised)
  deriving DecidableEq

/-! ## The key -/

/-- The value of a hexadecimal digit. -/
def hexDigit (c : Char) : Option ℕ :=
  let n := c.toNat
  if 48 ≤ n && n ≤ 57 then some (n - 48)
  else if 97 ≤ n && n ≤ 102 then some (n - 87)
  else if 65 ≤ n && n ≤ 70 then some (n - 55)
  else none

/-- ASCII whitespace. -/
def isHexBlank (c : Char) : Bool := c ∈ [' ', '\t', '\n', '\r', '\x0b', '\x0c']

/-- `bytes.fromhex`, which skips ASCII whitespace between bytes. -/
def fromhex : Text → Option Bytes
  | [] => some []
  | [c] => if isHexBlank c then some [] else none
  | c :: d :: rest =>
      if isHexBlank c then fromhex (d :: rest)
      else do
        let top ← hexDigit c
        let bottom ← hexDigit d
        let bytes ← fromhex rest
        return UInt8.ofNat (top * 16 + bottom) :: bytes

/-- `CredentialCipher`, by its key. -/
structure CredentialCipher where
  key : Bytes
  length_key : key.length = 32

/-- `CredentialCipher.__init__`. -/
def newCipher (hexKey : Text) : Except CredentialCryptoError CredentialCipher :=
  match fromhex hexKey with
  | none => .error .keyNotHexadecimal
  | some key => if h : key.length = 32 then .ok ⟨key, h⟩ else .error .keyLength

/-- The text spells the bytes: two digits for each of them, and blanks between them. -/
inductive Spells : Text → Bytes → Prop
  | nil : Spells [] []
  | blank {c : Char} {text : Text} {bytes : Bytes} (hblank : isHexBlank c = true)
      (h : Spells text bytes) : Spells (c :: text) bytes
  | byte {c d : Char} {top bottom : ℕ} {text : Text} {bytes : Bytes} (htop : hexDigit c = some top)
      (hbottom : hexDigit d = some bottom) (h : Spells text bytes) :
      Spells (c :: d :: text) (UInt8.ofNat (top * 16 + bottom) :: bytes)

theorem hexDigit_of_isHexBlank {c : Char} (h : isHexBlank c = true) : hexDigit c = none := by
  simp only [isHexBlank, decide_eq_true_eq, List.mem_cons, List.not_mem_nil, or_false] at h
  rcases h with rfl | rfl | rfl | rfl | rfl | rfl <;> rfl

theorem fromhex_eq_some_iff {text : Text} {bytes : Bytes} :
    fromhex text = some bytes ↔ Spells text bytes := by
  constructor
  · intro h
    fun_induction fromhex text generalizing bytes with
    | case1 =>
        obtain rfl := Option.some.inj h
        exact .nil
    | case2 c hblank =>
        obtain rfl := Option.some.inj h
        exact .blank hblank .nil
    | case3 c hother => cases h
    | case4 c d rest hblank ih => exact .blank hblank (ih h)
    | case5 c d rest hother ih =>
        simp only [Option.bind_eq_bind, Option.bind_eq_some_iff, Option.pure_def,
          Option.some.injEq] at h
        obtain ⟨top, htop, bottom, hbottom, spelled, hspelled, rfl⟩ := h
        exact .byte htop hbottom (ih hspelled)
  · intro h
    induction h with
    | nil => rfl
    | @blank c text bytes hblank hrest ih =>
        cases text with
        | nil =>
            obtain rfl := Option.some.inj ih
            simp [fromhex, hblank]
        | cons d rest => rw [fromhex, if_pos hblank, ih]
    | @byte c d top bottom text bytes htop hbottom hrest ih =>
        have hother : ¬ isHexBlank c = true := fun hblank => by
          rw [hexDigit_of_isHexBlank hblank] at htop
          cases htop
        rw [fromhex, if_neg hother, htop, hbottom, ih]
        rfl

/-- Which keys are accepted. -/
theorem newCipher_eq_ok_iff {hexKey : Text} {cipher : CredentialCipher} :
    newCipher hexKey = .ok cipher ↔ Spells hexKey cipher.key := by
  rw [← fromhex_eq_some_iff, newCipher]
  cases hkey : fromhex hexKey with
  | none => simp
  | some key =>
      by_cases hlength : key.length = 32
      · simp only [hlength, dif_pos, Except.ok.injEq, Option.some.injEq]
        exact ⟨fun h => h ▸ rfl, fun h => by cases cipher; cases h; rfl⟩
      · simp only [hlength, dif_neg, not_false_eq_true, reduceCtorEq, Option.some.injEq, false_iff]
        rintro rfl
        exact hlength cipher.length_key

/-! ## The libraries -/

/-- `AESGCM`. -/
structure AesGcm where
  /-- `AESGCM(key).encrypt(nonce, data, associated_data)`. -/
  encrypt (key nonce data aad : Bytes) : Bytes
  /-- `AESGCM(key).decrypt(nonce, data, associated_data)`. -/
  decrypt (key nonce data aad : Bytes) : Except Raised Bytes

/-- `decrypt` opens what `encrypt` sealed under the same key, nonce and associated data, and nothing
else. A nonce has at least eight bytes. -/
structure AesGcm.IsAuthenticated (aes : AesGcm) (key : Bytes) : Prop where
  opens : ∀ nonce data aad, 8 ≤ nonce.length →
    aes.decrypt key nonce (aes.encrypt key nonce data aad) aad = .ok data
  sealed : ∀ nonce data aad opened, aes.decrypt key nonce data aad = .ok opened →
    data = aes.encrypt key nonce opened aad
  raises : ∀ nonce data aad raised, aes.decrypt key nonce data aad = .error raised →
    raised = .invalidTag ∨ raised = .valueError

/-- The `json` module. -/
structure Json where
  /-- `json.dumps(values, sort_keys=True, separators=(",", ":")).encode("utf-8")`. -/
  dumps (values : Dict Text) : Bytes
  /-- `json.loads(data)`. -/
  loads (data : Bytes) : Except JsonError Value

/-- The items of a dictionary of texts, as JSON values. -/
def textItems (values : Dict Text) : List (Text × Value) :=
  values.map fun item => (item.1, .string item.2)

/-- Reading what was written gives the same dictionary, in the order in which it was written. -/
def Json.RoundTrips (json : Json) (values : Dict Text) : Prop :=
  json.loads (json.dumps values) = .ok (.object (textItems values.sortKeys))

/-! ## The cipher -/

/-- `AAD`, in ASCII. -/
def aad : Bytes := "wolt-device-credential-v1".toList.map fun c => UInt8.ofNat c.toNat

variable (aes : AesGcm) (json : Json) (cipher : CredentialCipher)

/-- `CredentialCipher.encrypt` with the nonce that `os.urandom(12)` draws. -/
def encrypt (nonce : Bytes) (values : Dict Text) : Text :=
  let plaintext := json.dumps values
  let encrypted := aes.encrypt cipher.key nonce plaintext aad
  urlsafeB64encode (nonce ++ encrypted)

/-- `base64.urlsafe_b64decode(payload.encode("ascii"))`. -/
def decodePayload (payload : Text) : Except Raised Bytes :=
  if payload.all fun c => c.toNat < 128 then
    match urlsafeB64decode payload with
    | some raw => .ok raw
    | none => .error .binasciiError
  else .error .unicodeEncodeError

/-- The body of the `try` in `decrypt`. -/
def opened (payload : Text) : Except Raised Value := do
  let raw ← decodePayload payload
  let plaintext ← aes.decrypt cipher.key (raw.take 12) (raw.drop 12) aad
  (json.loads plaintext).mapError .json

/-- `CredentialCipher.decrypt`. -/
def decrypt (payload : Text) : Except DecryptError (List (Text × Value)) :=
  match opened aes json cipher payload with
  | .error raised =>
      .error (if raised.isCaught then .credentialCrypto .decryptionFailed else .uncaught raised)
  | .ok (.object items) => .ok items
  | .ok _ => .error (.credentialCrypto .payloadInvalid)

/-- If the payload opens, `json.loads` raises nothing but `ValueError`s on what it opens to. -/
def OpensReadably (payload : Text) : Prop :=
  ∀ raw plaintext error, decodePayload payload = .ok raw →
    aes.decrypt cipher.key (raw.take 12) (raw.drop 12) aad = .ok plaintext →
    json.loads plaintext = .error error → error.isValueError = true

section Results

variable {aes json cipher}

theorem decodePayload_encode (bytes : Bytes) :
    decodePayload (urlsafeB64encode bytes) = .ok bytes := by
  have hascii : (urlsafeB64encode bytes).all (fun c => c.toNat < 128) = true := by
    rw [List.all_eq_true]
    exact fun c hc => decide_eq_true (isAscii_urlsafeB64encode bytes c hc)
  rw [decodePayload, if_pos hascii, urlsafeB64decode_encode]

theorem eq_of_decodePayload {payload : Text} {raised : Raised}
    (h : decodePayload payload = .error raised) :
    raised = .unicodeEncodeError ∨ raised = .binasciiError := by
  unfold decodePayload at h
  split at h
  · split at h
    · cases h
    · exact .inr (Except.error.inj h).symm
  · exact .inl (Except.error.inj h).symm

/-- What is sealed under the key is opened, and read as JSON. -/
theorem opened_sealed (haes : aes.IsAuthenticated cipher.key) {nonce : Bytes}
    (hnonce : nonce.length = 12) (data : Bytes) :
    opened aes json cipher (urlsafeB64encode (nonce ++ aes.encrypt cipher.key nonce data aad)) =
      (json.loads data).mapError .json := by
  have hopens := haes.opens nonce data aad (by omega)
  simp only [opened, decodePayload_encode, bind, Except.bind]
  rw [List.take_left' hnonce, List.drop_left' hnonce, hopens]

/-- What `encrypt` returns is opened to what the JSON was written from. -/
theorem opened_encrypt (haes : aes.IsAuthenticated cipher.key) {nonce : Bytes}
    (hnonce : nonce.length = 12) {values : Dict Text} (hround : json.RoundTrips values) :
    opened aes json cipher (encrypt aes json cipher nonce values) =
      .ok (.object (textItems values.sortKeys)) := by
  rw [encrypt, opened_sealed haes hnonce, hround]
  rfl

/-- An exception on the way is caught, or is raised by `json.loads` on what was opened. -/
theorem isCaught_or_of_opened (haes : aes.IsAuthenticated cipher.key) {payload : Text}
    {raised : Raised} (h : opened aes json cipher payload = .error raised) :
    raised.isCaught = true ∨ ∃ raw plaintext error, decodePayload payload = .ok raw ∧
      aes.decrypt cipher.key (raw.take 12) (raw.drop 12) aad = .ok plaintext ∧
      json.loads plaintext = .error error ∧ raised = .json error := by
  simp only [opened, bind, Except.bind] at h
  cases hraw : decodePayload payload with
  | error error =>
      rw [hraw] at h
      obtain rfl := Except.error.inj h
      obtain rfl | rfl := eq_of_decodePayload hraw <;> exact .inl rfl
  | ok raw =>
      rw [hraw] at h
      cases hplain : aes.decrypt cipher.key (raw.take 12) (raw.drop 12) aad with
      | error error =>
          simp only [hplain] at h
          obtain rfl := Except.error.inj h
          obtain rfl | rfl := haes.raises _ _ _ _ hplain <;> exact .inl rfl
      | ok plaintext =>
          simp only [hplain] at h
          cases hloads : json.loads plaintext with
          | error error =>
              rw [hloads] at h
              exact .inr ⟨raw, plaintext, error, rfl, hplain, hloads, (Except.error.inj h).symm⟩
          | ok value =>
              rw [hloads] at h
              cases h

/-- What is opened is JSON that was sealed under the key. -/
theorem exists_of_opened (haes : aes.IsAuthenticated cipher.key) {payload : Text} {value : Value}
    (h : opened aes json cipher payload = .ok value) :
    ∃ raw plaintext, decodePayload payload = .ok raw ∧
      raw.drop 12 = aes.encrypt cipher.key (raw.take 12) plaintext aad ∧
      json.loads plaintext = .ok value := by
  simp only [opened, bind, Except.bind] at h
  cases hraw : decodePayload payload with
  | error error =>
      rw [hraw] at h
      cases h
  | ok raw =>
      rw [hraw] at h
      cases hplain : aes.decrypt cipher.key (raw.take 12) (raw.drop 12) aad with
      | error error =>
          simp only [hplain] at h
          cases h
      | ok plaintext =>
          simp only [hplain] at h
          cases hloads : json.loads plaintext with
          | error error =>
              rw [hloads] at h
              cases h
          | ok read =>
              rw [hloads] at h
              obtain rfl := Except.ok.inj h
              exact ⟨raw, plaintext, rfl, haes.sealed _ _ _ _ hplain, hloads⟩

/-- What a payload opens to before its JSON is read. -/
theorem opened_eq {payload : Text} {raw plaintext : Bytes} (hraw : decodePayload payload = .ok raw)
    (hplain : aes.decrypt cipher.key (raw.take 12) (raw.drop 12) aad = .ok plaintext) :
    opened aes json cipher payload = (json.loads plaintext).mapError .json := by
  simp only [opened, hraw, bind, Except.bind, hplain]

/-- An exception is uncaught exactly if `json.loads` raises it and it is no `ValueError`. -/
theorem isCaught_iff (haes : aes.IsAuthenticated cipher.key) {payload : Text} :
    (∀ raised, opened aes json cipher payload = .error raised → raised.isCaught = true) ↔
      OpensReadably aes json cipher payload := by
  constructor
  · intro h raw plaintext error hraw hplain hloads
    refine h (.json error) ?_
    rw [opened_eq hraw hplain, hloads]
    rfl
  · intro h raised hraised
    obtain hcaught | ⟨raw, plaintext, error, hraw, hplain, hloads, rfl⟩ :=
      isCaught_or_of_opened haes hraised
    · exact hcaught
    · exact h raw plaintext error hraw hplain hloads

end Results

/-- **The credential cipher.** What is encrypted is decrypted to the same items. Whatever the
payload, `decrypt` returns a dictionary, and then the decoded bytes after the first twelve are the
sealing of a JSON object under the key, those twelve bytes and the associated data, or it raises a
`CredentialCryptoError`, exactly if the payload does not open to data on which `json.loads` raises
anything but a `ValueError`. -/
theorem credential_cipher (haes : aes.IsAuthenticated cipher.key) :
    (∀ values nonce, nonce.length = 12 → json.RoundTrips values →
      ∃ items, decrypt aes json cipher (encrypt aes json cipher nonce values) = .ok items ∧
        items.Perm (textItems values)) ∧
    ∀ payload,
      ((∃ items raw plaintext, decrypt aes json cipher payload = .ok items ∧
          decodePayload payload = .ok raw ∧
          raw.drop 12 = aes.encrypt cipher.key (raw.take 12) plaintext aad ∧
          json.loads plaintext = .ok (.object items)) ∨
        ∃ error, decrypt aes json cipher payload = .error (.credentialCrypto error)) ↔
      OpensReadably aes json cipher payload := by
  constructor
  · intro values nonce hnonce hround
    refine ⟨textItems values.sortKeys, ?_, (Dict.sortKeys_perm values).map _⟩
    rw [decrypt, opened_encrypt haes hnonce hround]
  · intro payload
    rw [← isCaught_iff haes]
    cases hopened : opened aes json cipher payload with
    | error raised =>
        cases hcaught : raised.isCaught <;> simp [decrypt, hopened, hcaught]
    | ok value =>
        refine iff_of_true ?_ (fun raised hraised => by cases hraised)
        cases value with
        | object items =>
            obtain ⟨raw, plaintext, hraw, hsealed, hloads⟩ := exists_of_opened haes hopened
            exact .inl ⟨items, raw, plaintext, by rw [decrypt, hopened], hraw, hsealed, hloads⟩
        | _ => exact .inr ⟨.payloadInvalid, by rw [decrypt, hopened]⟩

/-! ## One credential -/

/-- A key of 32 equal bytes. -/
def sampleCipher : CredentialCipher := ⟨List.replicate 32 0x11, rfl⟩

example : (newCipher (List.replicate 64 '1')).map CredentialCipher.key = .ok sampleCipher.key := by
  decide +kernel

/-- The nonce 0, 1, ..., 11. -/
def sampleNonce : Bytes := (List.range 12).map UInt8.ofNat

/-- The credentials of a device. -/
def sampleValues : Dict Text := [("password".toList, "top-secret".toList)]

/-- Their JSON. -/
def samplePlaintext : Bytes :=
  "\x7b\"password\":\"top-secret\"\x7d".toList.map fun c => UInt8.ofNat c.toNat

/-- The sealing of this plaintext by AES-256-GCM. -/
def sampleSealing : Bytes :=
  [104, 193, 198, 114, 8, 208, 66, 155, 102, 220, 241, 165, 230, 219, 152, 86, 228, 210, 101,
   11, 103,
    16, 38, 13, 212, 224, 49, 192, 82, 22, 187, 225, 37, 120, 236, 207, 238, 177, 244, 245, 200]

/-- The key, the nonce and the associated data of the sample. -/
def IsSample (key nonce data : Bytes) : Prop :=
  key = sampleCipher.key ∧ nonce = sampleNonce ∧ data = aad

instance (key nonce data : Bytes) : Decidable (IsSample key nonce data) :=
  inferInstanceAs (Decidable (_ ∧ _ ∧ _))

/-- AES-GCM on the sample, and a tag of zeros on all other inputs. -/
def sampleAes : AesGcm where
  encrypt key nonce data aad :=
    if IsSample key nonce aad ∧ data = samplePlaintext then sampleSealing
    else List.replicate 16 0 ++ data
  decrypt key nonce data aad :=
    if nonce.length < 8 then .error .valueError
    else if IsSample key nonce aad ∧ data = sampleSealing then .ok samplePlaintext
    else if data.take 16 = List.replicate 16 0 ∧
        ¬(IsSample key nonce aad ∧ data.drop 16 = samplePlaintext) then .ok (data.drop 16)
    else .error .invalidTag

theorem isAuthenticated_sampleAes (key : Bytes) : sampleAes.IsAuthenticated key where
  opens nonce data aad hnonce := by
    have hlong : ¬nonce.length < 8 := Nat.not_lt.2 hnonce
    have hzero : sampleSealing ≠ List.replicate 16 0 ++ data := by
      intro h
      have hfirst := congrArg List.head? h
      simp [sampleSealing] at hfirst
    simp only [sampleAes, if_neg hlong]
    split_ifs <;> simp_all
  sealed nonce data aad opened h := by
    simp only [sampleAes] at h ⊢
    split_ifs at h with hshort hsample htag
    · obtain rfl := Except.ok.inj h
      rw [if_pos ⟨hsample.1, rfl⟩, hsample.2]
    · obtain rfl := Except.ok.inj h
      rw [if_neg htag.2, ← htag.1, List.take_append_drop]
  raises nonce data aad raised h := by
    simp only [sampleAes] at h
    split_ifs at h with hshort
    · exact .inr (Except.error.inj h).symm
    · exact .inl (Except.error.inj h).symm

/-- Arrays within arrays, more than CPython follows. -/
def nestedArrays : Bytes := List.replicate 100000 0x5b

/-- The JSON of the sample, and of the nested arrays. -/
def sampleJson : Json where
  dumps _ := samplePlaintext
  loads data :=
    if data = samplePlaintext then .ok (.object (textItems sampleValues))
    else if data = nestedArrays then .error .recursionError
    else .error .jsonDecodeError

theorem roundTrips_sampleJson : sampleJson.RoundTrips sampleValues := rfl

theorem loads_nestedArrays : sampleJson.loads nestedArrays = .error .recursionError := by
  have hne : nestedArrays ≠ samplePlaintext := by
    intro h
    have hfirst := congrArg List.head? h
    rw [nestedArrays, List.head?_replicate] at hfirst
    cases hfirst
  simp [sampleJson, hne]

theorem credential_cipher_sample :
    encrypt sampleAes sampleJson sampleCipher sampleNonce sampleValues =
        "AAECAwQFBgcICQoLaMHGcgjQQptm3PGl5tuYVuTSZQtnECYN1OAxwFIWu-EleOzP7rH09cg=".toList ∧
      ∃ items, decrypt sampleAes sampleJson sampleCipher
          (encrypt sampleAes sampleJson sampleCipher sampleNonce sampleValues) = .ok items ∧
        items.Perm (textItems sampleValues) :=
  ⟨by decide +kernel,
    (credential_cipher sampleAes sampleJson sampleCipher (isAuthenticated_sampleAes _)).1
      sampleValues sampleNonce rfl roundTrips_sampleJson⟩

/-- A sealing of the nested arrays is genuine, and its `RecursionError` is not caught. -/
theorem decrypt_nestedArrays :
    sampleAes.IsAuthenticated sampleCipher.key ∧ sampleJson.RoundTrips sampleValues ∧
      decrypt sampleAes sampleJson sampleCipher (urlsafeB64encode
          (sampleNonce ++ sampleAes.encrypt sampleCipher.key sampleNonce nestedArrays aad)) =
        .error (.uncaught (.json .recursionError)) := by
  refine ⟨isAuthenticated_sampleAes _, roundTrips_sampleJson, ?_⟩
  rw [decrypt, opened_sealed (isAuthenticated_sampleAes _) rfl, loads_nestedArrays]
  rfl

end Wolt.Crypto
