/-
# The settings of the mail server

`save_smtp`, `smtp_view`, `test_smtp` and `_stored_smtp` of `app/application/identity_service.py` on
the row of `smtp_settings`, whose credentials are sealed with the master key, in processes that may
be started with another key or with none.

Over the row stands an account with the password in clear, which says what the settings are for: a
password stays until another one is given, and it is there for whoever has the key it was saved
under. Whatever is called in whatever order, one call after the other, the service answers as the
account does, and refuses what the columns of the table do not take.
-/

import Mathlib.Logic.Equiv.List
import Wolt.Crypto.Credentials
import Wolt.Identity.Mailer
import Wolt.Identity.SessionHistory
import Wolt.Program.CallHistory

namespace Wolt.Identity

open Wolt.Python Wolt.Crypto

/-! ## The row -/

/-- `SmtpInput`. -/
structure SmtpInput where
  host : Text
  port : ℤ
  security : Security
  fromEmail : Text
  fromName : Text
  publicBaseUrl : Text
  username : Text
  password : Text
  enabled : Bool
  deriving DecidableEq

/-- The row of `smtp_settings`. -/
structure SmtpRow where
  host : Text
  port : ℤ
  security : Security
  fromEmail : Text
  fromName : Text
  publicBaseUrl : Text
  encryptedCredentials : Text
  keyId : Text
  enabled : Bool
  updatedAt : ℕ
  deriving DecidableEq

/-- What `invite_user` and `request_password_reset` read of the row itself. -/
def SmtpRow.settings (row : SmtpRow) : SmtpSettings := ⟨row.enabled, row.publicBaseUrl⟩

/-- What `smtp_view` returns of a row. -/
structure SmtpDetails where
  enabled : Bool
  host : Text
  port : ℤ
  security : Security
  fromEmail : Text
  fromName : Text
  publicBaseUrl : Text
  username : Text
  passwordConfigured : Bool
  updatedAt : ℕ
  deriving DecidableEq

/-- `bool(value)`. -/
def truth : Value → Bool
  | .null => false
  | .bool value => value
  | .int value => value ≠ 0
  | .float value => value ≠ .finite 0
  | .string text => text ≠ []
  | .array items => !items.isEmpty
  | .object items => !items.isEmpty

/-- The libraries of the service. -/
structure MailLibrary where
  aes : AesGcm
  json : Json
  conversions : Conversions
  /-- `hashlib.sha256(key).hexdigest()[:16]`. -/
  keyId : Bytes → Text

/-! ## The service -/

section Service

variable (library : MailLibrary)

/-- `CredentialCipher.decrypt`, whose `CredentialCryptoError` no method expects. -/
def MailLibrary.decrypt (cipher : CredentialCipher) (payload : Text) :
    Except IdentityError (Dict Value) :=
  (Crypto.decrypt library.aes library.json cipher payload).mapError fun _ => .uncaughtCrypto

/-- `str(credentials.get(key, ""))`. -/
def MailLibrary.textOf (credentials : Dict Value) (key : Text) : Text :=
  library.conversions.str ((credentials.get key).getD (.string []))

/-- `_require_cipher`. -/
def requireCipher : Option CredentialCipher → Except IdentityError CredentialCipher
  | some cipher => .ok cipher
  | none => .error .masterKeyNotConfigured

/-- `smtp_view`; `none` where nothing is configured. -/
def MailLibrary.smtpView (cipher : Option CredentialCipher) :
    Option SmtpRow → Except IdentityError (Option SmtpDetails)
  | none => .ok none
  | some row => do
      let cipher ← requireCipher cipher
      let credentials ← library.decrypt cipher row.encryptedCredentials
      return some
        { enabled := row.enabled
          host := row.host
          port := row.port
          security := row.security
          fromEmail := row.fromEmail
          fromName := row.fromName
          publicBaseUrl := row.publicBaseUrl
          username := library.textOf credentials "username".toList
          passwordConfigured := ((credentials.get "password".toList).map truth).getD false
          updatedAt := row.updatedAt }

/-- The password that is stored; it is empty where none is. -/
def MailLibrary.storedPassword (cipher : Option CredentialCipher) :
    Option SmtpRow → Except IdentityError Text
  | none => .ok []
  | some row => do
      let cipher ← requireCipher cipher
      let credentials ← library.decrypt cipher row.encryptedCredentials
      return library.textOf credentials "password".toList

/-- The password that is given, or else the one that is stored. -/
def MailLibrary.effectivePassword (cipher : Option CredentialCipher) (row : Option SmtpRow)
    (values : SmtpInput) : Except IdentityError Text :=
  if values.password ≠ [] then .ok values.password else library.storedPassword cipher row

/-- The configuration for `SmtpMailer.send`. -/
def SmtpInput.configuration (values : SmtpInput) (password : Text) : SmtpConfiguration where
  host := values.host
  port := values.port
  security := values.security
  username := values.username
  password := password
  fromEmail := values.fromEmail
  fromName := values.fromName

/-- The configuration that `test_smtp` sends with. -/
def MailLibrary.testSmtp (cipher : Option CredentialCipher) (row : Option SmtpRow)
    (values : SmtpInput) : Except IdentityError SmtpConfiguration :=
  (library.effectivePassword cipher row values).map values.configuration

/-- A nonce that `os.urandom(12)` draws. -/
abbrev Nonce : Type := {bytes : Bytes // bytes.length = 12}

/-- The dictionary that is sealed. -/
def credentialItems (username password : Text) : Dict Text :=
  [("username".toList, username), ("password".toList, password)]

/-- The address of the service, without slashes at the end. -/
def SmtpInput.baseUrl (values : SmtpInput) : Text :=
  values.publicBaseUrl.rdropWhile fun char => char = '/'

/-- The columns that `save_smtp` writes. -/
def MailLibrary.newRow (cipher : CredentialCipher) (nonce : Nonce) (now : ℕ) (values : SmtpInput)
    (password : Text) : SmtpRow where
  host := values.host
  port := values.port
  security := values.security
  fromEmail := values.fromEmail
  fromName := values.fromName
  publicBaseUrl := values.baseUrl
  encryptedCredentials := Crypto.encrypt library.aes library.json cipher nonce.1
    (credentialItems values.username password)
  keyId := library.keyId cipher.key
  enabled := values.enabled
  updatedAt := now

/-- Why the table does not take these columns: a text is too long for its column or has a NUL, the
port is too large for an `integer`, or the check on the port fails. -/
def refuseColumns (host fromEmail fromName publicBaseUrl : Text) (port : ℤ) : Option Fault :=
  if 255 < host.length ∨ 320 < fromEmail.length ∨ 120 < fromName.length ∨
      500 < publicBaseUrl.length ∨ '\x00' ∈ host ++ fromEmail ++ fromName ++ publicBaseUrl ∨
      port < -2 ^ 31 ∨ 2 ^ 31 ≤ port
  then some .data
  else if 1 ≤ port ∧ port ≤ 65535 then none else some .integrity

/-- Why the table does not take the row of these values. -/
def SmtpInput.refuse (values : SmtpInput) : Option Fault :=
  refuseColumns values.host values.fromEmail values.fromName values.baseUrl values.port

/-- Why the table does not take the row. The credentials are of any length, and the key id has
sixteen digits. -/
def SmtpRow.refuse (row : SmtpRow) : Option Fault :=
  refuseColumns row.host row.fromEmail row.fromName row.publicBaseUrl row.port

/-- The row, once the table has taken it. -/
def SmtpRow.stored (row : SmtpRow) : Except IdentityError SmtpRow :=
  row.refuse.elim (.ok row) fun fault => .error (.uncaught fault)

/-- What `save_smtp` commits, if it does not raise. -/
def MailLibrary.savedRow (cipher : Option CredentialCipher) (row : Option SmtpRow) (nonce : Nonce)
    (now : ℕ) (values : SmtpInput) : Except IdentityError SmtpRow := do
  let key ← requireCipher cipher
  let password ← library.effectivePassword cipher row values
  (library.newRow key nonce now values password).stored

/-- What `_stored_smtp` returns. -/
def MailLibrary.storedSmtp (cipher : Option CredentialCipher) (row : Option SmtpRow) :
    Except IdentityError (SmtpSettings × SmtpConfiguration) :=
  match row with
  | none => .error .smtpNotConfigured
  | some row =>
      if row.enabled then do
        let cipher ← requireCipher cipher
        let values ← library.decrypt cipher row.encryptedCredentials
        return (row.settings,
          { host := row.host
            port := row.port
            security := row.security
            username := library.textOf values "username".toList
            password := library.textOf values "password".toList
            fromEmail := row.fromEmail
            fromName := row.fromName })
      else .error .smtpNotConfigured

end Service

/-! ## The row in the database -/

/-- What the cipher does to the stored credentials. -/
def MailLibrary.smtpCipher (library : MailLibrary) (cipher : Option CredentialCipher)
    (row : SmtpRow) : SmtpCipher :=
  match cipher with
  | none => .missing
  | some cipher =>
      match library.decrypt cipher row.encryptedCredentials with
      | .ok _ => .opens
      | .error _ => .refuses

theorem error_of_decrypt {library : MailLibrary} {cipher : CredentialCipher} {payload : Text}
    {error : IdentityError} (h : library.decrypt cipher payload = .error error) :
    error = .uncaughtCrypto := by
  unfold MailLibrary.decrypt at h
  cases hplain : Crypto.decrypt library.aes library.json cipher payload with
  | error raised =>
      rw [hplain] at h
      exact (Except.error.inj h).symm
  | ok items =>
      rw [hplain] at h
      cases h

/-- Whether the credentials are there for the service. -/
def checkCipher : SmtpCipher → Except IdentityError Unit
  | .missing => .error .masterKeyNotConfigured
  | .refuses => .error .uncaughtCrypto
  | .opens => .ok ()

/-- The session of `_stored_smtp`, run alone. -/
theorem atomically_storedSmtp (outcome : SmtpCipher) (data : Data) :
    ((Identity.storedSmtp outcome).atomically data).1 =
      data.smtp.elim (.error .smtpNotConfigured) fun stored =>
        if stored.enabled = true then (checkCipher outcome).map fun _ => stored
        else .error .smtpNotConfigured := by
  cases data with
  | mk lower hasSettings smtp users sessions recoveryCodes invitations resetTokens auditEvents =>
      cases smtp with
      | none => rfl
      | some stored =>
          obtain ⟨enabled, url⟩ := stored
          cases enabled <;> cases outcome <;> rfl

/-- The session of `_stored_smtp` returns the row, or refuses it, as the row says. -/
theorem fst_storedSmtp (library : MailLibrary) (cipher : Option CredentialCipher) (row : SmtpRow)
    {data : Data} (hrow : data.smtp = some row.settings) :
    ((Identity.storedSmtp (library.smtpCipher cipher row)).atomically data).1 =
      (library.storedSmtp cipher (some row)).map Prod.fst := by
  rw [atomically_storedSmtp, hrow]
  unfold MailLibrary.storedSmtp
  have henabled : row.settings.enabled = row.enabled := rfl
  simp only [henabled, Option.elim_some]
  split
  · cases cipher with
    | none => rfl
    | some cipher =>
        simp only [MailLibrary.smtpCipher, requireCipher, bind, Except.bind]
        cases hplain : library.decrypt cipher row.encryptedCredentials with
        | ok items => rfl
        | error error =>
            rw [error_of_decrypt hplain]
            rfl
  · rfl

/-- What `save_smtp` leaves of the row for the other services. -/
theorem settings_of_savedRow {library : MailLibrary} {cipher : Option CredentialCipher}
    {row : Option SmtpRow} {nonce : Nonce} {now : ℕ} {values : SmtpInput} {row' : SmtpRow}
    (h : library.savedRow cipher row nonce now values = .ok row') (actorId : ℕ) (clientIp : Text)
    (data : Data) :
    (saveSmtp values.enabled values.publicBaseUrl actorId clientIp data).smtp =
      some row'.settings := by
  cases cipher with
  | none => cases h
  | some cipher =>
      simp only [MailLibrary.savedRow, requireCipher, bind, Except.bind] at h
      cases hpassword : library.effectivePassword (some cipher) row values with
      | error error =>
          rw [hpassword] at h
          cases h
      | ok password =>
          rw [hpassword] at h
          dsimp only [SmtpRow.stored] at h
          cases hrefuse : (library.newRow cipher nonce now values password).refuse with
          | some fault =>
              rw [hrefuse] at h
              cases h
          | none =>
              rw [hrefuse] at h
              obtain rfl := Except.ok.inj h
              rfl

/-! ## Calls -/

/-- What can happen to the settings. A save ends before the next one begins: it reads the password
that is stored and writes it back without a lock, so that of two overlapping ones the later write
can bring an older password back. -/
inductive MailCall
  /-- The process is started with this key. -/
  | restart (cipher : Option CredentialCipher)
  | save (values : SmtpInput) (nonce : Nonce) (now : ℕ)
  | view
  | test (values : SmtpInput)
  /-- `_stored_smtp`, for an invitation or a reset. -/
  | stored

/-- What a call returns. -/
inductive MailAnswer
  | restarted
  | viewed (result : Except IdentityError (Option SmtpDetails))
  | tested (result : Except IdentityError SmtpConfiguration)
  | opened (result : Except IdentityError (SmtpSettings × SmtpConfiguration))

/-- The key of the process, and the row. -/
structure MailStore where
  cipher : Option CredentialCipher
  row : Option SmtpRow

/-- A call on the database while no other one is under way. -/
def MailLibrary.step (library : MailLibrary) (store : MailStore) : MailCall → MailAnswer × MailStore
  | .restart cipher => (.restarted, { store with cipher := cipher })
  | .save values nonce now =>
      match library.savedRow store.cipher store.row nonce now values with
      | .ok row => (.viewed (library.smtpView store.cipher (some row)), { store with row := some row })
      | .error error => (.viewed (.error error), store)
  | .view => (.viewed (library.smtpView store.cipher store.row), store)
  | .test values => (.tested (library.testSmtp store.cipher store.row values), store)
  | .stored => (.opened (library.storedSmtp store.cipher store.row), store)

/-! ## The account -/

/-- What the owner has configured, with the password in clear, and the key at that time. -/
structure MailAccount where
  values : SmtpInput
  cipher : CredentialCipher
  updatedAt : ℕ

/-- The key of the process, and the account. -/
structure MailLedger where
  cipher : Option CredentialCipher
  account : Option MailAccount

namespace MailAccount

/-- Whether a process with this key can read the password. -/
def unlock (account : MailAccount) : Option CredentialCipher → Except IdentityError Unit
  | none => .error .masterKeyNotConfigured
  | some cipher => if cipher.key = account.cipher.key then .ok () else .error .uncaughtCrypto

/-- The account, if it can be kept. -/
def kept (account : MailAccount) : Except IdentityError MailAccount :=
  account.values.refuse.elim (.ok account) fun fault => .error (.uncaught fault)

/-- What is shown of the account. -/
def details (account : MailAccount) : SmtpDetails where
  enabled := account.values.enabled
  host := account.values.host
  port := account.values.port
  security := account.values.security
  fromEmail := account.values.fromEmail
  fromName := account.values.fromName
  publicBaseUrl := account.values.baseUrl
  username := account.values.username
  passwordConfigured := account.values.password ≠ []
  updatedAt := account.updatedAt

end MailAccount

namespace MailLedger

/-- What is shown. -/
def view (ledger : MailLedger) : Except IdentityError (Option SmtpDetails) :=
  match ledger.account with
  | none => .ok none
  | some account => (account.unlock ledger.cipher).map fun _ => some account.details

/-- The password that counts: the one that is given, or else the one of the account. -/
def password (ledger : MailLedger) (values : SmtpInput) : Except IdentityError Text :=
  if values.password ≠ [] then .ok values.password
  else match ledger.account with
    | none => .ok []
    | some account => (account.unlock ledger.cipher).map fun _ => account.values.password

/-- The account that is to be. -/
def saved (ledger : MailLedger) (now : ℕ) (values : SmtpInput) : Except IdentityError MailAccount :=
  match ledger.cipher with
  | none => .error .masterKeyNotConfigured
  | some cipher => (ledger.password values).bind fun password =>
      MailAccount.kept ⟨{ values with password := password }, cipher, now⟩

/-- What mail is sent with. -/
def stored (ledger : MailLedger) : Except IdentityError (SmtpSettings × SmtpConfiguration) :=
  match ledger.account with
  | none => .error .smtpNotConfigured
  | some account =>
      if account.values.enabled then (account.unlock ledger.cipher).map fun _ =>
        (⟨account.values.enabled, account.values.baseUrl⟩,
          account.values.configuration account.values.password)
      else .error .smtpNotConfigured

/-- A call on the account. -/
def step (ledger : MailLedger) : MailCall → MailAnswer × MailLedger
  | .restart cipher => (.restarted, { ledger with cipher := cipher })
  | .save values _ now =>
      match ledger.saved now values with
      | .ok account =>
          (.viewed (.ok (some account.details)), { ledger with account := some account })
      | .error error => (.viewed (.error error), ledger)
  | .view => (.viewed ledger.view, ledger)
  | .test values => (.tested ((ledger.password values).map values.configuration), ledger)
  | .stored => (.opened ledger.stored, ledger)

end MailLedger

/-! ## The row as an account -/

/-- What is relied on: sealings are authentic and open under no other key, and the JSON of the
credentials reads back. -/
structure MailLibrary.IsSound (library : MailLibrary) : Prop where
  authenticated : ∀ cipher : CredentialCipher, library.aes.IsAuthenticated cipher.key
  keysApart : ∀ (cipher other : CredentialCipher) (nonce : Nonce) (data : Bytes),
    cipher.key ≠ other.key → library.aes.decrypt other.key nonce.1
      (library.aes.encrypt cipher.key nonce.1 data aad) aad = .error .invalidTag
  roundTrips : ∀ username password, library.json.RoundTrips (credentialItems username password)

section Refinement

variable {library : MailLibrary} (hlibrary : library.IsSound)

/-- The row holds the account. -/
def MailLibrary.Holds (library : MailLibrary) : Option SmtpRow → Option MailAccount → Prop
  | none, none => True
  | some row, some account => ∃ nonce : Nonce,
      row = library.newRow account.cipher nonce account.updatedAt account.values
        account.values.password
  | none, some _ | some _, none => False

/-- The credentials as they are read: sorted, as they were written. -/
def readCredentials (account : MailAccount) : Dict Value :=
  [("password".toList, .string account.values.password),
    ("username".toList, .string account.values.username)]

theorem sortKeys_credentialItems (username password : Text) :
    (credentialItems username password).sortKeys =
      [("password".toList, password), ("username".toList, username)] := by
  simp [credentialItems, Dict.sortKeys]
  decide

/-- A cipher is its key. -/
theorem cipher_eq_of_key {cipher cipher' : CredentialCipher} (h : cipher.key = cipher'.key) :
    cipher = cipher' := by
  obtain ⟨key, hlength⟩ := cipher
  obtain ⟨key', hlength'⟩ := cipher'
  obtain rfl : key = key' := h
  rfl

include hlibrary

/-- The key under which an account was saved opens it, and no other key does. -/
theorem decrypt_newRow (account : MailAccount) (nonce : Nonce) (cipher : CredentialCipher) :
    library.decrypt cipher (library.newRow account.cipher nonce account.updatedAt account.values
      account.values.password).encryptedCredentials =
      (account.unlock (some cipher)).map fun _ => readCredentials account := by
  have hunlock : account.unlock (some cipher) =
      if cipher.key = account.cipher.key then .ok () else .error .uncaughtCrypto := rfl
  rw [hunlock]
  split
  · rename_i hkey
    have hcipher : cipher = account.cipher := cipher_eq_of_key hkey
    have hround := hlibrary.roundTrips account.values.username account.values.password
    have hopened : opened library.aes library.json cipher (encrypt library.aes library.json
        account.cipher nonce.1 (credentialItems account.values.username account.values.password)) =
          .ok (.object (readCredentials account)) := by
      rw [hcipher, opened_encrypt (hlibrary.authenticated _) nonce.2 hround,
        sortKeys_credentialItems]
      rfl
    simp only [MailLibrary.decrypt, MailLibrary.newRow, Crypto.decrypt, hopened]
    rfl
  · rename_i hkey
    have hraised := hlibrary.keysApart account.cipher cipher nonce
      (library.json.dumps (credentialItems account.values.username account.values.password))
      (Ne.symm hkey)
    have hopened : opened library.aes library.json cipher (encrypt library.aes library.json
        account.cipher nonce.1 (credentialItems account.values.username account.values.password)) =
          .error .invalidTag := by
      simp only [opened, encrypt, decodePayload_encode, bind, Except.bind]
      rw [List.take_left' nonce.2, List.drop_left' nonce.2, hraised]
    simp only [MailLibrary.decrypt, MailLibrary.newRow, Crypto.decrypt, hopened]
    rfl

variable {row : Option SmtpRow} {account : Option MailAccount}

theorem smtpView_eq (hholds : library.Holds row account) (cipher : Option CredentialCipher) :
    library.smtpView cipher row = MailLedger.view ⟨cipher, account⟩ := by
  match row, account, hholds with
  | none, none, _ => rfl
  | some _, some account, ⟨nonce, rfl⟩ =>
      cases cipher with
      | none => rfl
      | some cipher =>
          simp only [MailLibrary.smtpView, requireCipher, bind, Except.bind, MailLedger.view,
            decrypt_newRow hlibrary]
          cases account.unlock (some cipher) with
          | error error => rfl
          | ok _ => rfl

theorem effectivePassword_eq (hholds : library.Holds row account)
    (cipher : Option CredentialCipher) (values : SmtpInput) :
    library.effectivePassword cipher row values = MailLedger.password ⟨cipher, account⟩ values := by
  unfold MailLibrary.effectivePassword MailLedger.password
  split
  · rfl
  · match row, account, hholds with
    | none, none, _ => rfl
    | some _, some account, ⟨nonce, rfl⟩ =>
        cases cipher with
        | none => rfl
        | some cipher =>
            simp only [MailLibrary.storedPassword, requireCipher, bind, Except.bind,
              decrypt_newRow hlibrary]
            cases account.unlock (some cipher) with
            | error error => rfl
            | ok _ => rfl

theorem storedSmtp_eq (hholds : library.Holds row account) (cipher : Option CredentialCipher) :
    library.storedSmtp cipher row = MailLedger.stored ⟨cipher, account⟩ := by
  match row, account, hholds with
  | none, none, _ => rfl
  | some _, some account, ⟨nonce, rfl⟩ =>
      have henabled : (library.newRow account.cipher nonce account.updatedAt account.values
          account.values.password).enabled = account.values.enabled := rfl
      simp only [MailLibrary.storedSmtp, MailLedger.stored, henabled]
      split
      · cases cipher with
        | none => rfl
        | some cipher =>
            simp only [requireCipher, bind, Except.bind, decrypt_newRow hlibrary]
            cases account.unlock (some cipher) with
            | error error => rfl
            | ok _ => rfl
      · rfl

/-- The row that is saved holds the account that is saved. -/
theorem savedRow_spec (hholds : library.Holds row account) (cipher : Option CredentialCipher)
    (nonce : Nonce) (now : ℕ) (values : SmtpInput) :
    (∃ row' account', library.savedRow cipher row nonce now values = .ok row' ∧
      MailLedger.saved ⟨cipher, account⟩ now values = .ok account' ∧
      library.Holds (some row') (some account') ∧ account'.unlock cipher = .ok ()) ∨
    ∃ error, library.savedRow cipher row nonce now values = .error error ∧
      MailLedger.saved ⟨cipher, account⟩ now values = .error error := by
  cases cipher with
  | none => exact .inr ⟨.masterKeyNotConfigured, rfl, rfl⟩
  | some key =>
      have hpassword := effectivePassword_eq hlibrary hholds (some key) values
      simp only [MailLibrary.savedRow, MailLedger.saved, requireCipher, bind, Except.bind,
        hpassword]
      cases MailLedger.password ⟨some key, account⟩ values with
      | error error => exact .inr ⟨error, rfl, rfl⟩
      | ok password =>
          let account' : MailAccount := ⟨{ values with password := password }, key, now⟩
          have hrow : (library.newRow key nonce now values password).refuse =
            account'.values.refuse := rfl
          change (∃ row' account'', SmtpRow.stored _ = .ok row' ∧ account'.kept = .ok account'' ∧ _) ∨
            ∃ error, SmtpRow.stored _ = .error error ∧ account'.kept = .error error
          rw [SmtpRow.stored, MailAccount.kept, hrow]
          cases account'.values.refuse with
          | some fault => exact .inr ⟨.uncaught fault, rfl, rfl⟩
          | none => exact .inl ⟨_, _, rfl, rfl, ⟨nonce, rfl⟩, if_pos rfl⟩

/-- The store and the ledger agree. -/
def MailStore.Agrees (library : MailLibrary) (store : MailStore) (ledger : MailLedger) : Prop :=
  store.cipher = ledger.cipher ∧ library.Holds store.row ledger.account

/-- A call on the row is a call on the account. -/
theorem step_eq {store : MailStore} {ledger : MailLedger} (h : store.Agrees library ledger)
    (call : MailCall) :
    (library.step store call).1 = (ledger.step call).1 ∧
      (library.step store call).2.Agrees library (ledger.step call).2 := by
  obtain ⟨cipher, row⟩ := store
  obtain ⟨cipher', account⟩ := ledger
  obtain ⟨rfl, hholds⟩ : cipher = cipher' ∧ library.Holds row account := h
  cases call with
  | restart cipher => exact ⟨rfl, rfl, hholds⟩
  | view => exact ⟨congrArg _ (smtpView_eq hlibrary hholds cipher), rfl, hholds⟩
  | stored => exact ⟨congrArg _ (storedSmtp_eq hlibrary hholds cipher), rfl, hholds⟩
  | test values =>
      have hpassword := effectivePassword_eq hlibrary hholds cipher values
      refine ⟨?_, rfl, hholds⟩
      simp only [MailLibrary.step, MailLedger.step, MailLibrary.testSmtp, hpassword]
  | save values nonce now =>
      rcases savedRow_spec hlibrary hholds cipher nonce now values with
        ⟨row', account', hrow, haccount, hsaved, hunlock⟩ | ⟨error, hrow, haccount⟩
      · have hview := smtpView_eq hlibrary hsaved cipher
        have hdetails : MailLedger.view ⟨cipher, some account'⟩ = .ok (some account'.details) := by
          simp only [MailLedger.view, hunlock, Except.map]
        simp only [MailLibrary.step, MailLedger.step, hrow, haccount, hview, hdetails, true_and]
        exact ⟨rfl, hsaved⟩
      · simp only [MailLibrary.step, MailLedger.step, hrow, haccount, true_and]
        exact ⟨rfl, hholds⟩

end Refinement

/-! ## Every run -/

/-- Nothing is configured yet. -/
def MailStore.initial : MailStore := ⟨none, none⟩

/-- Nothing is configured yet. -/
def MailLedger.initial : MailLedger := ⟨none, none⟩

/-- The answers of the service. -/
def MailLibrary.answers (library : MailLibrary) (calls : List MailCall) :
    List (MailCall × MailAnswer) :=
  CallHistory.answered library.step .initial calls

/-- The answers of the account. -/
def MailLedger.answers (calls : List MailCall) : List (MailCall × MailAnswer) :=
  CallHistory.answered MailLedger.step .initial calls

/-- **The settings are an account with a password.** Whatever is called in whatever order, in
processes with whatever keys, the service answers as the account does: a password that is saved is
used until another one is saved, a process with another key or with none is refused and changes
nothing, and the address of the service ends without a slash. -/
theorem mail_settings_in_every_run {library : MailLibrary} (hlibrary : library.IsSound)
    (calls : List MailCall) : library.answers calls = MailLedger.answers calls := by
  have hagrees : MailStore.initial.Agrees library MailLedger.initial := ⟨rfl, trivial⟩
  exact (CallHistory.answered_eq_of_simulation (MailStore.Agrees library)
    (fun _ _ call h => step_eq hlibrary h call) hagrees calls).1

/-! ## A password stays -/

/-- The call saves another password. -/
def MailCall.GivesPassword : MailCall → Prop
  | save values _ _ => values.password ≠ []
  | restart _ | view | test _ | stored => False

/-- The account has this password, under this key. -/
def MailLedger.Keeps (password : Text) (key : CredentialCipher) (ledger : MailLedger) : Prop :=
  ∃ account, ledger.account = some account ∧ account.values.password = password ∧
    account.cipher = key

/-- A call that gives no password leaves the password and its key as they are. -/
theorem keeps_step {ledger : MailLedger} {password : Text} {key : CredentialCipher}
    (h : ledger.Keeps password key) {call : MailCall} (hcall : ¬ call.GivesPassword) :
    (ledger.step call).2.Keeps password key := by
  cases call with
  | restart cipher => exact h
  | view => exact h
  | test values => exact h
  | stored => exact h
  | save values nonce now =>
      obtain ⟨cipher, account⟩ := ledger
      obtain ⟨account, rfl, hpassword, hkey⟩ := h
      have hempty : values.password = [] := not_not.1 hcall
      cases cipher with
      | none => exact ⟨account, rfl, hpassword, hkey⟩
      | some cipher =>
          by_cases hsame : cipher.key = account.cipher.key
          · have hcipher : cipher = account.cipher := cipher_eq_of_key hsame
            let account' : MailAccount :=
              ⟨{ values with password := account.values.password }, cipher, now⟩
            have hsaved : MailLedger.saved ⟨some cipher, some account⟩ now values =
                account'.kept := by
              simp [MailLedger.saved, MailLedger.password, hempty, MailAccount.unlock, hsame,
                Except.map, Except.bind, account']
            simp only [MailLedger.step, hsaved, MailAccount.kept]
            cases account'.values.refuse with
            | some fault => exact ⟨account, rfl, hpassword, hkey⟩
            | none => exact ⟨account', rfl, hpassword, hcipher.trans hkey⟩
          · have hsaved : MailLedger.saved ⟨some cipher, some account⟩ now values =
                .error .uncaughtCrypto := by
              simp [MailLedger.saved, MailLedger.password, hempty, MailAccount.unlock, hsame,
                Except.map, Except.bind]
            simp only [MailLedger.step, hsaved]
            exact ⟨account, rfl, hpassword, hkey⟩

theorem keeps_after {ledger : MailLedger} {password : Text} {key : CredentialCipher}
    (h : ledger.Keeps password key) {calls : List MailCall}
    (hcalls : ∀ call ∈ calls, ¬ call.GivesPassword) :
    (CallHistory.after MailLedger.step ledger calls).Keeps password key := by
  induction calls generalizing ledger with
  | nil => exact h
  | cons call calls ih =>
      exact ih (keeps_step h (hcalls call List.mem_cons_self))
        fun later hlater => hcalls later (List.mem_cons_of_mem _ hlater)

/-- A password that is saved is the password from then on. -/
theorem keeps_save {ledger : MailLedger} {key : CredentialCipher} {values : SmtpInput}
    {nonce : Nonce} {now : ℕ} (hgiven : values.password ≠ []) (htaken : values.refuse = none) :
    (CallHistory.after MailLedger.step ledger
      [.restart (some key), .save values nonce now]).Keeps values.password key := by
  have hsaved : MailLedger.saved ⟨some key, ledger.account⟩ now values =
      .ok ⟨values, key, now⟩ := by
    have hkept : MailAccount.kept ⟨values, key, now⟩ = .ok ⟨values, key, now⟩ := by
      rw [MailAccount.kept, htaken]
      rfl
    simp [MailLedger.saved, MailLedger.password, hgiven, Except.bind, hkept]
  have hstep : (MailLedger.step ⟨some key, ledger.account⟩ (.save values nonce now)).2 =
      ⟨some key, some ⟨values, key, now⟩⟩ := by
    simp only [MailLedger.step, hsaved]
  change ((MailLedger.step ⟨some key, ledger.account⟩ (.save values nonce now)).2).Keeps _ _
  rw [hstep]
  exact ⟨_, rfl, rfl, rfl⟩

/-- **A password is not lost.** Whatever has been called before, and whatever is called after it was
saved except that another one is saved, one call after the other, a process with the key sends with
this password. -/
theorem password_stays_in_every_run {library : MailLibrary} (hlibrary : library.IsSound)
    (before later : List MailCall) (key : CredentialCipher) (values probe : SmtpInput)
    (nonce : Nonce) (now : ℕ) (hgiven : values.password ≠ []) (htaken : values.refuse = none)
    (hlater : ∀ call ∈ later, ¬ call.GivesPassword) (hprobe : probe.password = []) :
    (library.answers (before ++ [.restart (some key), .save values nonce now] ++ later ++
      [.restart (some key), .test probe])).getLast? =
      some (.test probe, .tested (.ok (probe.configuration values.password))) := by
  rw [mail_settings_in_every_run hlibrary, MailLedger.answers, CallHistory.answered_append,
    List.getLast?_append]
  have hkeeps : (CallHistory.after MailLedger.step .initial
      (before ++ [.restart (some key), .save values nonce now] ++ later)).Keeps
        values.password key := by
    rw [CallHistory.after_append]
    refine keeps_after ?_ hlater
    rw [CallHistory.after_append]
    exact keeps_save hgiven htaken
  obtain ⟨account, haccount, hpassword, hkey⟩ := hkeeps
  have htested : MailLedger.password ⟨some key, some account⟩ probe = .ok values.password := by
    simp [MailLedger.password, hprobe, MailAccount.unlock, hkey, hpassword, Except.map]
  simp only [CallHistory.answered, MailLedger.step, haccount, htested]
  rfl

/-! ## Nobody is shown a password -/

/-- A mask in place of a password, if there is one. -/
def mask (password : Text) : Text := if password = [] then [] else ['*']

@[simp]
theorem mask_eq_nil {password : Text} : mask password = [] ↔ password = [] := by
  simp [mask]

/-- The input with a masked password. -/
def SmtpInput.masked (values : SmtpInput) : SmtpInput :=
  { values with password := mask values.password }

/-- The configuration without its password. -/
def SmtpConfiguration.masked (configuration : SmtpConfiguration) : SmtpConfiguration :=
  { configuration with password := [] }

/-- The call with a masked password. -/
def MailCall.masked : MailCall → MailCall
  | restart cipher => .restart cipher
  | save values nonce now => .save values.masked nonce now
  | view => .view
  | test values => .test values.masked
  | stored => .stored

/-- The answer but for the password that mail is sent with. -/
def MailAnswer.masked : MailAnswer → MailAnswer
  | restarted => .restarted
  | viewed result => .viewed result
  | tested result => .tested (result.map SmtpConfiguration.masked)
  | opened result => .opened (result.map fun found => (found.1, found.2.masked))

/-- The account with a masked password. -/
def MailAccount.masked (account : MailAccount) : MailAccount :=
  { account with values := account.values.masked }

/-- The ledger with a masked account. -/
def MailLedger.masked (ledger : MailLedger) : MailLedger :=
  { ledger with account := ledger.account.map MailAccount.masked }

@[simp]
theorem details_masked (account : MailAccount) : account.masked.details = account.details := by
  simp [MailAccount.details, MailAccount.masked, SmtpInput.masked, SmtpInput.baseUrl]

theorem password_masked (ledger : MailLedger) (values : SmtpInput) :
    ledger.masked.password values.masked = (ledger.password values).map mask := by
  have hempty : values.masked.password = [] ↔ values.password = [] := mask_eq_nil
  unfold MailLedger.password
  by_cases hgiven : values.password = []
  · rw [if_neg (not_not.2 (hempty.2 hgiven)), if_neg (not_not.2 hgiven)]
    cases ledger with
    | mk cipher account =>
        cases account with
        | none => rfl
        | some account =>
            change (account.unlock cipher).map (fun _ => mask account.values.password) =
              ((account.unlock cipher).map fun _ => account.values.password).map mask
            cases account.unlock cipher <;> rfl
  · rw [if_pos (mt hempty.1 hgiven), if_pos hgiven]
    rfl

/-- Whether an account can be kept does not depend on the password. -/
theorem kept_masked (account : MailAccount) :
    account.masked.kept = account.kept.map MailAccount.masked := by
  have hrefuse : account.masked.values.refuse = account.values.refuse := rfl
  unfold MailAccount.kept
  rw [hrefuse]
  cases account.values.refuse <;> rfl

theorem saved_masked (ledger : MailLedger) (now : ℕ) (values : SmtpInput) :
    ledger.masked.saved now values.masked = (ledger.saved now values).map MailAccount.masked := by
  have hpassword := password_masked ledger values
  unfold MailLedger.saved
  rw [hpassword]
  cases ledger with
  | mk cipher account =>
      cases cipher with
      | none => rfl
      | some cipher =>
          cases MailLedger.password ⟨some cipher, account⟩ values with
          | error error => rfl
          | ok password => exact kept_masked ⟨{ values with password := password }, cipher, now⟩

/-- A masked call on a masked account is answered alike. -/
theorem masked_step (ledger : MailLedger) (call : MailCall) :
    (ledger.step call).1.masked = (ledger.masked.step call.masked).1.masked ∧
      (ledger.step call).2.masked = (ledger.masked.step call.masked).2 := by
  cases call with
  | restart cipher => exact ⟨rfl, rfl⟩
  | view =>
      refine ⟨?_, rfl⟩
      cases ledger with
      | mk cipher account =>
          cases account with
          | none => rfl
          | some account =>
              exact congrArg MailAnswer.viewed
                (congrArg (fun details => (account.unlock cipher).map fun _ => some details)
                  (details_masked account).symm)
  | test values =>
      refine ⟨?_, rfl⟩
      have hpassword := password_masked ledger values
      simp only [MailLedger.step, MailCall.masked, MailAnswer.masked, hpassword]
      cases ledger.password values <;> rfl
  | stored =>
      refine ⟨?_, rfl⟩
      cases ledger with
      | mk cipher account =>
          cases account with
          | none => rfl
          | some account =>
              change MailAnswer.masked (.opened (if account.values.enabled = true then
                (account.unlock cipher).map _ else _)) = MailAnswer.masked (.opened
                  (if account.values.enabled = true then (account.unlock cipher).map _ else _))
              split
              · cases account.unlock cipher <;> rfl
              · rfl
  | save values nonce now =>
      have hsaved := saved_masked ledger now values
      simp only [MailLedger.step, MailCall.masked, hsaved]
      cases ledger.saved now values with
      | error error => exact ⟨rfl, rfl⟩
      | ok account =>
          refine ⟨?_, rfl⟩
          change MailAnswer.viewed _ = MailAnswer.viewed (.ok (some account.masked.details))
          rw [details_masked]

/-- **No answer tells a password.** Whatever is called in whatever order, the answers are the same
with masks in place of all passwords: but for the configurations that mail is sent with, they depend
on no more of a password than whether there is one. -/
theorem answers_masked_in_every_run {library : MailLibrary} (hlibrary : library.IsSound)
    (calls : List MailCall) :
    (library.answers calls).map (fun entry => entry.2.masked) =
      (library.answers (calls.map MailCall.masked)).map fun entry => entry.2.masked := by
  rw [mail_settings_in_every_run hlibrary, mail_settings_in_every_run hlibrary]
  have hcalls : List.Forall₂ (fun call call' => call' = MailCall.masked call) calls
      (calls.map MailCall.masked) := by
    rw [List.forall₂_map_right_iff]
    exact List.forall₂_same.2 fun _ _ => rfl
  have hinitial : MailLedger.initial = MailLedger.initial.masked := rfl
  have hanswers := (CallHistory.answered_of_simulation
    (fun ledger ledger' => ledger' = MailLedger.masked ledger) _
    (fun answer answer' => MailAnswer.masked answer = MailAnswer.masked answer')
    (fun ledger _ call _ hledger hcall => by
      subst hledger hcall
      exact ⟨(masked_step ledger call).1, (masked_step ledger call).2.symm⟩) hcalls hinitial).1
  exact List.forall₂_eq_eq_eq ▸ List.forall₂_map_left_iff.2
    (List.forall₂_map_right_iff.2 (hanswers.imp fun _ _ h => h.2))

/-! ## One server -/

/-- The settings of a server. -/
def sampleInput (password : Text) : SmtpInput where
  host := "mail.example.com".toList
  port := 587
  security := .starttls
  fromEmail := "wolt@example.com".toList
  fromName := "WOLT".toList
  publicBaseUrl := "https://wolt.example.com/".toList
  username := "wolt".toList
  password := password
  enabled := true

/-- The password. -/
def samplePassword : Text := "top-secret".toList

/-- Another key. -/
def otherCipher : CredentialCipher := ⟨List.replicate 32 0x22, rfl⟩

/-- The nonce 0, 1, ..., 11. -/
def mailNonce : Nonce := ⟨Crypto.sampleNonce, rfl⟩

/-- The bytes of an ASCII text. -/
def asciiBytes (text : String) : Bytes := text.toList.map fun c => UInt8.ofNat c.toNat

/-- The JSON of the credentials. -/
def mailPlaintext : Bytes :=
  asciiBytes "\x7b\"password\":\"top-secret\",\"username\":\"wolt\"\x7d"

/-- The sealing of this plaintext by AES-256-GCM. -/
def mailSealing : Bytes :=
  [104, 193, 198, 114, 8, 208, 66, 155, 102, 220, 241, 165, 230, 219, 152, 86, 228, 210, 101, 11,
    103, 16, 38, 13, 133, 194, 202, 12, 152, 50, 13, 79, 26, 215, 107, 142, 110, 114, 25, 187, 2,
    173, 107, 69, 158, 154, 81, 47, 109, 0, 160, 30, 24, 19, 102, 56, 21, 242, 77]

/-- The JSON with a mask. -/
def maskedPlaintext : Bytes := asciiBytes "\x7b\"password\":\"*\",\"username\":\"wolt\"\x7d"

/-- Its sealing. -/
def maskedSealing : Bytes :=
  [104, 193, 198, 114, 8, 208, 66, 155, 102, 220, 241, 165, 230, 133, 213, 10, 235, 212, 115, 13,
    103, 27, 51, 66, 204, 194, 133, 93, 138, 47, 15, 90, 85, 207, 178, 43, 170, 68, 82, 65, 230, 15,
    252, 19, 173, 226, 58, 26, 166, 173]

/-- AES-GCM on a sample. -/
def sealingOf (plaintext : Bytes) : Option Bytes :=
  if plaintext = mailPlaintext then some mailSealing
  else if plaintext = maskedPlaintext then some maskedSealing
  else none

/-- The way back. -/
def plaintextOf (sealing : Bytes) : Option Bytes :=
  if sealing = mailSealing then some mailPlaintext
  else if sealing = maskedSealing then some maskedPlaintext
  else none

theorem plaintextOf_eq_some {sealing plaintext : Bytes} :
    plaintextOf sealing = some plaintext ↔ sealingOf plaintext = some sealing := by
  have hplaintexts : mailPlaintext ≠ maskedPlaintext := by decide +kernel
  have hsealings : mailSealing ≠ maskedSealing := by decide +kernel
  unfold plaintextOf sealingOf
  split_ifs <;> simp_all [eq_comm]

theorem head?_of_sealingOf {plaintext sealing : Bytes} (h : sealingOf plaintext = some sealing) :
    sealing.head? = some 104 := by
  unfold sealingOf at h
  split_ifs at h <;> obtain rfl := Option.some.inj h <;> rfl

/-- What is found, on the samples only. -/
def onSamples (key nonce aad : Bytes) (found : Option Bytes) : Option Bytes :=
  if IsSample key nonce aad then found else none

theorem onSamples_eq_some {key nonce aad bytes : Bytes} {found : Option Bytes} :
    onSamples key nonce aad found = some bytes ↔ IsSample key nonce aad ∧ found = some bytes := by
  unfold onSamples
  split_ifs with h <;> simp [h]

/-- How all other sealings begin. -/
def otherHeader (key : Bytes) : Bytes := 0 :: key

/-- AES-GCM on the samples; all other sealings are the data after a header. -/
def mailAes : AesGcm where
  encrypt key nonce data aad :=
    (onSamples key nonce aad (sealingOf data)).getD (otherHeader key ++ data)
  decrypt key nonce data aad :=
    if nonce.length < 8 then .error .valueError
    else match onSamples key nonce aad (plaintextOf data) with
      | some plaintext => .ok plaintext
      | none =>
          let rest := data.drop (otherHeader key).length
          if data = otherHeader key ++ rest ∧ onSamples key nonce aad (sealingOf rest) = none
          then .ok rest
          else .error .invalidTag

/-- Nothing that begins with a header is a sample. -/
theorem plaintextOf_otherHeader (key nonce aad key' data : Bytes) :
    onSamples key nonce aad (plaintextOf (otherHeader key' ++ data)) = none := by
  by_contra h
  obtain ⟨plaintext, hplaintext⟩ := Option.ne_none_iff_exists'.1 h
  have hsealing := plaintextOf_eq_some.1 (onSamples_eq_some.1 hplaintext).2
  have hzero : some (0 : UInt8) = some 104 := head?_of_sealingOf hsealing
  revert hzero
  decide

/-- A dictionary as a list of character codes. -/
def itemCodes (values : Dict Text) : List (List ℕ × List ℕ) :=
  values.map fun item => (item.1.map Char.toNat, item.2.map Char.toNat)

/-- The dictionary with these character codes. -/
def ofCodes (codes : List (List ℕ × List ℕ)) : Dict Text :=
  codes.map fun item => (item.1.map Char.ofNat, item.2.map Char.ofNat)

theorem ofCodes_itemCodes (values : Dict Text) : ofCodes (itemCodes values) = values := by
  have htext : ∀ text : Text, (text.map Char.toNat).map Char.ofNat = text := fun text => by
    simp [Function.comp_def]
  simp [ofCodes, itemCodes, Function.comp_def]

/-- JSON on the samples; all other credentials are written as a number. -/
def mailJson : Json where
  dumps values :=
    if values = credentialItems "wolt".toList samplePassword then mailPlaintext
    else if values = credentialItems "wolt".toList ['*'] then maskedPlaintext
    else List.replicate (Encodable.encode (itemCodes values)) 0
  loads data :=
    if data = mailPlaintext then .ok (.object (textItems
      (credentialItems "wolt".toList samplePassword).sortKeys))
    else if data = maskedPlaintext then .ok (.object (textItems
      (credentialItems "wolt".toList ['*']).sortKeys))
    else if data = List.replicate data.length 0 then
      match (Encodable.decode data.length : Option (List (List ℕ × List ℕ))) with
      | some codes => .ok (.object (textItems (ofCodes codes).sortKeys))
      | none => .error .jsonDecodeError
    else .error .jsonDecodeError

/-- The libraries of the sample. -/
def mailLibrary : MailLibrary where
  aes := mailAes
  json := mailJson
  conversions := ⟨fun _ => [], fun _ => none, fun _ => none, fun n => some n⟩
  keyId key := if key = sampleCipher.key then "02d449a31fbb267c".toList else []

theorem isAuthenticated_mailAes (key : Bytes) : mailAes.IsAuthenticated key where
  opens nonce data aad hnonce := by
    have hlong : ¬nonce.length < 8 := Nat.not_lt.2 hnonce
    simp only [mailAes, if_neg hlong]
    cases hsealed : onSamples key nonce aad (sealingOf data) with
    | some sealing =>
        obtain ⟨hsample, hsealing⟩ := onSamples_eq_some.1 hsealed
        rw [Option.getD_some, onSamples_eq_some.2 ⟨hsample, plaintextOf_eq_some.2 hsealing⟩]
    | none =>
        rw [Option.getD_none, plaintextOf_otherHeader, List.drop_left' rfl, if_pos ⟨rfl, hsealed⟩]
  sealed nonce data aad opened h := by
    simp only [mailAes] at h ⊢
    by_cases hshort : nonce.length < 8
    · rw [if_pos hshort] at h
      cases h
    · rw [if_neg hshort] at h
      cases hopened : onSamples key nonce aad (plaintextOf data) with
      | some plaintext =>
          rw [hopened] at h
          obtain rfl := Except.ok.inj h
          obtain ⟨hsample, hplaintext⟩ := onSamples_eq_some.1 hopened
          rw [onSamples_eq_some.2 ⟨hsample, plaintextOf_eq_some.1 hplaintext⟩, Option.getD_some]
      | none =>
          rw [hopened] at h
          dsimp only at h
          split_ifs at h with hheader
          obtain rfl := Except.ok.inj h
          rw [hheader.2, Option.getD_none, ← hheader.1]
  raises nonce data aad raised h := by
    simp only [mailAes] at h
    by_cases hshort : nonce.length < 8
    · rw [if_pos hshort] at h
      exact .inr (Except.error.inj h).symm
    · rw [if_neg hshort] at h
      cases hopened : onSamples key nonce aad (plaintextOf data) with
      | some plaintext =>
          rw [hopened] at h
          cases h
      | none =>
          rw [hopened] at h
          dsimp only at h
          split_ifs at h
          exact .inl (Except.error.inj h).symm

theorem isSound_mailLibrary : mailLibrary.IsSound where
  authenticated cipher := isAuthenticated_mailAes cipher.key
  keysApart cipher other nonce data hkeys := by
    have hnonce := nonce.2
    have hlong : ¬nonce.1.length < 8 := by omega
    change mailAes.decrypt other.key nonce.1 (mailAes.encrypt cipher.key nonce.1 data aad) aad = _
    simp only [mailAes, if_neg hlong]
    cases hsealed : onSamples cipher.key nonce.1 aad (sealingOf data) with
    | some sealing =>
        obtain ⟨hsample, hsealing⟩ := onSamples_eq_some.1 hsealed
        have hother : onSamples other.key nonce.1 aad (plaintextOf sealing) = none :=
          if_neg fun h => hkeys (hsample.1.trans h.1.symm)
        rw [Option.getD_some, hother, if_neg]
        rintro ⟨hheader, -⟩
        have hzero := head?_of_sealingOf hsealing
        rw [hheader, otherHeader, List.cons_append, List.head?_cons] at hzero
        revert hzero
        decide
    | none =>
        rw [Option.getD_none, plaintextOf_otherHeader, if_neg]
        rintro ⟨hheader, -⟩
        have hlengths : (otherHeader cipher.key).length = (otherHeader other.key).length := by
          rw [otherHeader, otherHeader, List.length_cons, List.length_cons, cipher.length_key,
            other.length_key]
        exact hkeys (List.cons.inj (List.append_inj_left hheader hlengths)).2
  roundTrips username password := by
    have hbraces : (123 : UInt8) ∈ mailPlaintext ∧ (123 : UInt8) ∈ maskedPlaintext := by
      decide +kernel
    have hother : ∀ n bytes, (123 : UInt8) ∈ bytes → List.replicate n (0 : UInt8) ≠ bytes := by
      rintro n _ hbrace rfl
      have hzero : (123 : UInt8) = 0 := List.eq_of_mem_replicate hbrace
      revert hzero
      decide
    have hplaintexts : maskedPlaintext ≠ mailPlaintext := by decide +kernel
    unfold Json.RoundTrips
    change mailJson.loads (mailJson.dumps _) = _
    by_cases hsample : credentialItems username password =
        credentialItems "wolt".toList samplePassword
    · simp only [mailJson, hsample, if_true]
    · by_cases hmasked : credentialItems username password = credentialItems "wolt".toList ['*']
      · rw [hmasked] at hsample ⊢
        simp only [mailJson, if_neg hsample, if_neg hplaintexts, if_true]
      · simp only [mailJson, if_neg hsample, if_neg hmasked, if_neg (hother _ _ hbraces.1),
          if_neg (hother _ _ hbraces.2), List.length_replicate, if_true, Encodable.encodek,
          ofCodes_itemCodes]

/-- Sealed with a key, not opened with another one, and opened with the first one again. -/
def sampleCalls : List MailCall :=
  [.restart (some sampleCipher), .save (sampleInput samplePassword) mailNonce 5, .view,
    .restart (some otherCipher), .save (sampleInput []) mailNonce 6, .view, .restart none, .stored,
    .restart (some sampleCipher), .stored]

/-- What the service seals is what AES-256-GCM makes of the credentials. -/
example :
    (mailLibrary.newRow sampleCipher mailNonce 5 (sampleInput samplePassword)
      samplePassword).encryptedCredentials =
      ("AAECAwQFBgcICQoLaMHGcgjQQptm3PGl5tuYVuTSZQtnECYNhcLKDJgyDU8a12uObnIZuwKta0WemlEvbQCg" ++
        "HhgTZjgV8k0=").toList := by
  decide +kernel

theorem mail_settings_in_every_run_sampleCalls :
    mailLibrary.answers sampleCalls = MailLedger.answers sampleCalls :=
  mail_settings_in_every_run isSound_mailLibrary sampleCalls

/-- What happens to the password that was saved. -/
def laterCalls : List MailCall :=
  [.restart (some otherCipher), .save (sampleInput []) mailNonce 6, .view, .restart none, .stored]

theorem password_stays_in_every_run_laterCalls :
    (mailLibrary.answers ([.view] ++ [.restart (some sampleCipher),
      .save (sampleInput samplePassword) mailNonce 5] ++ laterCalls ++
        [.restart (some sampleCipher), .test (sampleInput [])])).getLast? =
      some (.test (sampleInput []),
        .tested (.ok ((sampleInput []).configuration samplePassword))) := by
  have hgiven : (sampleInput samplePassword).password ≠ [] := List.cons_ne_nil _ _
  have hlater : ∀ call ∈ laterCalls, ¬ call.GivesPassword := by
    have hsave : (sampleInput []).password = [] := rfl
    simp only [laterCalls, List.forall_mem_cons, MailCall.GivesPassword, hsave, ne_eq,
      not_true_eq_false, not_false_eq_true, List.not_mem_nil, false_imp_iff, implies_true, and_true]
  exact password_stays_in_every_run isSound_mailLibrary [.view] laterCalls sampleCipher
    (sampleInput samplePassword) (sampleInput []) mailNonce 5 hgiven (by decide) hlater rfl

theorem answers_masked_in_every_run_sampleCalls :
    (mailLibrary.answers sampleCalls).map (fun entry => entry.2.masked) =
      (mailLibrary.answers (sampleCalls.map MailCall.masked)).map fun entry => entry.2.masked :=
  answers_masked_in_every_run isSound_mailLibrary sampleCalls

end Wolt.Identity
