/-
# The public answer to a reset request

`POST /auth/password-reset/request` of `app/web/identity_routes.py`, with the limiter before it, the
service and the mailer behind it. A mail is only sent for an account that may reset its password, so
whatever the delivery does to the answer tells whether there is such an account. The route hides the
errors that the mailer turns into its own; any other exception of the delivery shows.
-/

import Wolt.Identity.LastOwner
import Wolt.Identity.Tables
import Mathlib.Algebra.Order.Ring.Rat

namespace Wolt.Identity

open Wolt.Python Program.Leaves

/-! ## The limiter -/

/-- `LoginAttemptLimiter`: the times of the attempts of every key, the oldest first. -/
structure LoginAttemptLimiter where
  limit : ℕ
  windowSeconds : ℚ
  attempts : Text → List ℚ

namespace LoginAttemptLimiter

/-- The attempts of the key after those before the window have been dropped. -/
def recent (limiter : LoginAttemptLimiter) (key : Text) (now : ℚ) : List ℚ :=
  (limiter.attempts key).dropWhile fun attempt => attempt < now - limiter.windowSeconds

/-- `LoginAttemptLimiter.allow`. -/
def allow (limiter : LoginAttemptLimiter) (key : Text) (now : ℚ) : Bool × LoginAttemptLimiter :=
  let attempts := limiter.recent key now
  if limiter.limit ≤ attempts.length then
    (false, { limiter with attempts := Function.update limiter.attempts key attempts })
  else (true, { limiter with attempts := Function.update limiter.attempts key (attempts ++ [now]) })

/-- `LoginAttemptLimiter.clear`. -/
def clear (limiter : LoginAttemptLimiter) (key : Text) : LoginAttemptLimiter :=
  { limiter with attempts := Function.update limiter.attempts key [] }

/-- `LoginAttemptLimiter(limit, window_seconds)`. -/
def new (limit : ℕ) (windowSeconds : ℚ) : LoginAttemptLimiter := ⟨limit, windowSeconds, fun _ => []⟩

/-- `LoginAttemptLimiter(limit=3, window_seconds=300)`. -/
def reset : LoginAttemptLimiter := ⟨3, 300, fun _ => []⟩

end LoginAttemptLimiter

/-! ## The route -/

/-- What the client sees of an answer. -/
structure Response where
  status : ℕ
  body : Text
  deriving DecidableEq

/-- `{"status": "accepted"}` with the status of the route. -/
def Response.accepted : Response := ⟨202, "\x7b\"status\":\"accepted\"\x7d".toList⟩

/-- What the server answers when an exception leaves the route. -/
def Response.internalServerError : Response := ⟨500, "Internal Server Error".toList⟩

/-- The answer of `request_reset` to what the service did: it catches `EmailDeliveryError`. -/
def resetResponse : Except IdentityError Unit → Response
  | .ok _ => .accepted
  | .error .mailNotSent => .accepted
  | .error _ => .internalServerError

variable (crypto : Crypto)

/-- `request_reset`. -/
def requestReset (limiter : LoginAttemptLimiter) (clock : ℚ) (cipher : SmtpCipher)
    (delivery : SmtpOutcome) (email : Text) (resetId : ℕ) (draw : Draw) (data : Data) :
    Response × LoginAttemptLimiter × Data :=
  let (allowed, limiter) := limiter.allow draw.clientIp clock
  if !allowed then (.accepted, limiter, data)
  else
    let (result, data) :=
      (requestPasswordReset crypto cipher delivery email resetId draw).atomically data
    (resetResponse result, limiter, data)

/-- A mail is sent: mails can be sent, and the address is that of an enabled user with a
password. -/
def sendsReset (cipher : SmtpCipher) (email : Text) (data : Data) : Bool :=
  data.smtp.any SmtpSettings.enabled && cipher = .opens &&
    (Query.answer (.enabledUserByEmail (crypto.lower (strip email))) data).any fun (_, user) =>
      user.passwordHash.isSome

/-! ## What the service answers -/

/-- The token and the primary key that are drawn for a reset are new. -/
structure IsFreshReset (resetId : ℕ) (draw : Draw) (data : Data) : Prop where
  id : data.resetTokens.lookup resetId = none
  token : data.resetTokens.find (fun reset => reset.tokenHash = crypto.tokenHash draw.token) = none

/-- The answer of `IdentityService.request_password_reset`: where a mail is sent, that of the
mailer. -/
def resetResult (cipher : SmtpCipher) (delivery : SmtpOutcome) (email : Text) (data : Data) :
    Except IdentityError Unit :=
  if data.smtp.any SmtpSettings.enabled && cipher = .missing then .error .masterKeyNotConfigured
  else if data.smtp.any SmtpSettings.enabled && cipher = .refuses then .error .uncaughtCrypto
  else if sendsReset crypto cipher email data then delivery.result
  else .ok ()

section Answers

variable {crypto : Crypto} {cipher : SmtpCipher} {delivery : SmtpOutcome} {email : Text}
    {resetId : ℕ}
  {draw : Draw} {data data' : Data}

theorem answers_storedSmtp (cipher : SmtpCipher) (data : Data) :
    (storedSmtp cipher).Leaves (fun result left => left = data ∧
      match result with
      | .ok _ => data.smtp.any SmtpSettings.enabled = true ∧ cipher = .opens
      | .error .smtpNotConfigured => data.smtp.any SmtpSettings.enabled = false
      | .error error => data.smtp.any SmtpSettings.enabled = true ∧
          (error = .masterKeyNotConfigured ∧ cipher = .missing ∨
            error = .uncaughtCrypto ∧ cipher = .refuses)) (data, data) := by
  refine of_withSession (of_select (of_orThrow (fun hnone => ⟨rfl, ?_⟩) fun stored hstored => ?_))
  · rw [show data.smtp = none from hnone]
    rfl
  · have hsmtp : data.smtp = some stored := hstored
    refine of_require (fun hdisabled => ⟨rfl, ?_⟩) fun henabled => ?_
    · simpa [hsmtp] using hdisabled
    have hany : data.smtp.any SmtpSettings.enabled = true := by simpa [hsmtp] using henabled
    refine of_require (fun hmissing => ⟨rfl, hany, .inl ⟨rfl, not_not.1 hmissing⟩⟩) fun hthere => ?_
    refine of_require (fun hrefuses => ⟨rfl, hany, .inr ⟨rfl, ?_⟩⟩) fun hopens =>
      of_finish ⟨rfl, hany, hopens⟩
    cases cipher <;> simp_all

/-- A fresh token is inserted also after those before it have been used up. -/
theorem accepts_insertReset (hfresh : IsFreshReset crypto resetId draw data) {userId : ℕ}
    {user : User} (huser : data.users.lookup userId = some user) {ids : List ℕ} {expiresAt : ℕ} :
    Change.refuse (.insertReset resetId ⟨userId, crypto.tokenHash draw.token, expiresAt, none⟩)
      (Change.apply (.useResets ids draw.now) data) = none := by
  have hid : (useAll data.resetTokens ids draw.now).lookup resetId = none := by
    rw [lookup_useAll, hfresh.id]
    split <;> rfl
  have htoken : (useAll data.resetTokens ids draw.now).find (fun reset =>
      reset.tokenHash = crypto.tokenHash draw.token) = none := by
    rw [Table.find_eq_none_iff]
    intro id reset hreset
    rw [lookup_useAll] at hreset
    have hold := Table.find_eq_none_iff.1 hfresh.token
    split at hreset
    · obtain ⟨old, hlookup, rfl⟩ := Option.map_eq_some_iff.1 hreset
      exact hold id old hlookup
    · exact hold id reset hreset
  simp [Change.refuse, Change.apply, hid, htoken, huser]

/-- The transaction reports whether the address is that of an account that may reset. -/
theorem answers_insertReset (hfresh : IsFreshReset crypto resetId draw data) :
    (insertReset crypto email resetId draw).Leaves (fun result _ =>
      result = .ok ((Query.answer (.enabledUserByEmail (crypto.lower (strip email))) data).any
        fun (_, user) => user.passwordHash.isSome)) (data, data) := by
  refine of_withSession (of_select ?_)
  generalize hanswer : (schema.answer (.enabledUserByEmail (crypto.lower (strip email))) data :
    Option (ℕ × User)) = found
  rw [show Query.answer (.enabledUserByEmail (crypto.lower (strip email))) data = found from hanswer]
  cases found with
  | none => exact of_finish rfl
  | some found =>
      obtain ⟨userId, user⟩ := found
      have huser : data.users.lookup userId = some user := (of_rowWhere hanswer).1
      dsimp only
      split
      · rename_i hpassword
        exact of_finish (by simp [hpassword])
      · rename_i hpassword
        refine of_select (of_sendChange nofun fun _ => ?_)
        refine of_sendChange (fun fault hfault => ?_) fun _ => ?_
        · cases (accepts_insertReset hfresh huser).symm.trans hfault
        · refine of_sendChange nofun fun _ => of_commit (of_finish ?_)
          simp [Option.isSome_iff_ne_none, hpassword]

/-- What `request_password_reset` answers. -/
theorem answers_requestPasswordReset (hfresh : IsFreshReset crypto resetId draw data) :
    ((requestPasswordReset crypto cipher delivery email resetId draw).atomically data).1 =
      resetResult crypto cipher delivery email data := by
  have hleaves : (requestPasswordReset crypto cipher delivery email resetId draw).Leaves
      (fun result _ => result = resetResult crypto cipher delivery email data) (data, data) := by
    refine of_closed_bind ((isClosed_smtpConfigured cipher).tryCatch isClosed_onMissingSmtp)
      (of_closed_tryCatch (isClosed_smtpConfigured cipher) ?_)
    refine of_closed_bind (Program.isClosed_withSession _) ?_
    refine (answers_storedSmtp cipher data).mono fun result stored hstored => ?_
    obtain ⟨rfl, hresult⟩ := hstored
    cases result with
    | error error =>
        cases error with
        | smtpNotConfigured =>
            have hdisabled : stored.smtp.any SmtpSettings.enabled = false := hresult
            refine of_finish (of_finish ?_)
            simp [resetResult, sendsReset, hdisabled]
        | masterKeyNotConfigured =>
            obtain ⟨henabled, ⟨_, rfl⟩ | ⟨⟨⟩, _⟩⟩ := hresult
            exact of_finish (by simp [resetResult, henabled])
        | uncaughtCrypto =>
            obtain ⟨henabled, ⟨⟨⟩, _⟩ | ⟨_, rfl⟩⟩ := hresult
            exact of_finish (by simp [resetResult, henabled])
        | _ => obtain ⟨_, ⟨⟨⟩, _⟩ | ⟨⟨⟩, _⟩⟩ := hresult
    | ok smtp =>
        obtain ⟨henabled, rfl⟩ := hresult
        refine of_finish (of_closed_bind (Program.isClosed_withSession _) ?_)
        refine (answers_insertReset hfresh).mono fun result left hreset => ?_
        subst hreset
        have hsends : sendsReset crypto .opens email stored =
            (Query.answer (.enabledUserByEmail (crypto.lower (strip email))) stored).any
              fun (_, user) => user.passwordHash.isSome := by
          rw [sendsReset, henabled]
          rfl
        dsimp only
        rw [← hsends]
        cases hmail : sendsReset crypto .opens email stored with
        | false => exact of_finish (by simp [resetResult, hmail])
        | true =>
            unfold sendMail
            exact of_finish (by simp [resetResult, hmail])
  exact hleaves.atomically

/-! ## Two databases -/

/-- The databases differ in users, sessions, invitations and reset tokens only. -/
def DifferInAccounts (data data' : Data) : Prop :=
  data' = { data with
    users := data'.users
    sessions := data'.sessions
    invitations := data'.invitations
    resetTokens := data'.resetTokens }

theorem DifferInAccounts.smtp (h : DifferInAccounts data data') : data'.smtp = data.smtp :=
  (congrArg Data.smtp h).trans rfl

/-- The route answers with the server's error only to what it does not catch. -/
theorem resetResponse_eq_accepted_iff {result : Except IdentityError Unit} :
    resetResponse result = .accepted ↔ result = .ok () ∨ result = .error .mailNotSent := by
  rcases result with (_ | _) | ⟨⟨⟩⟩ <;>
    simp [resetResponse, Response.accepted, Response.internalServerError]

/-- Sending a mail shows only in the exceptions that the mailer does not expect. -/
theorem resetResponse_delivery_iff :
    resetResponse delivery.result = .accepted ↔ delivery ≠ .otherException := by
  rw [resetResponse_eq_accepted_iff]
  cases delivery <;> simp [SmtpOutcome.result]

/-- The answer of the route where the limiter lets the request pass. -/
theorem response_of_allowed {limiter : LoginAttemptLimiter} {clock : ℚ}
    (hfresh : IsFreshReset crypto resetId draw data)
    (hallowed : (limiter.allow draw.clientIp clock).1 = true) :
    (requestReset crypto limiter clock cipher delivery email resetId draw data).1 =
      resetResponse (resetResult crypto cipher delivery email data) := by
  rw [← answers_requestPasswordReset hfresh, requestReset]
  simp only [hallowed]
  rfl

/-- **What the answer reveals.** Over two databases that differ in the accounts, the answers are the
same exactly if the delivery of the mail raises no exception but those that the mailer expects, or
the limiter refuses the request, or a mail is sent in both cases or in neither. -/
theorem response_eq_iff (limiter : LoginAttemptLimiter) (clock : ℚ) (cipher : SmtpCipher)
    (delivery : SmtpOutcome) (email : Text) (hdiffer : DifferInAccounts data data')
    (hfresh : IsFreshReset crypto resetId draw data)
    (hfresh' : IsFreshReset crypto resetId draw data') :
    (requestReset crypto limiter clock cipher delivery email resetId draw data).1 =
        (requestReset crypto limiter clock cipher delivery email resetId draw data').1 ↔
      delivery ≠ .otherException ∨ (limiter.allow draw.clientIp clock).1 = false ∨
        sendsReset crypto cipher email data = sendsReset crypto cipher email data' := by
  cases hallowed : (limiter.allow draw.clientIp clock).1 with
  | false => simp [requestReset, hallowed]
  | true =>
      rw [response_of_allowed hfresh hallowed, response_of_allowed hfresh' hallowed]
      simp only [resetResult, hdiffer.smtp, reduceCtorEq, false_or]
      split
      · -- without the credentials no mail is sent in either case
        rename_i hmissing
        have hcipher : cipher = .missing := by simp_all
        simp [sendsReset, hcipher]
      split
      · rename_i hrefuses
        have hcipher : cipher = .refuses := by simp_all
        simp [sendsReset, hcipher]
      · have hhidden : resetResponse (.ok ()) = .accepted := rfl
        cases sendsReset crypto cipher email data <;> cases sendsReset crypto cipher email data' <;>
          simp only [Bool.false_eq_true, if_false, if_true, hhidden, reduceCtorEq, or_false,
            or_true]
        · rw [eq_comm, resetResponse_delivery_iff]
        · exact resetResponse_delivery_iff

end Answers

/-! ## A password that is not ASCII -/

/-- Mails can be sent, and there is an account of this address. -/
def mailingData : Data :=
  { sampleData with smtp := some ⟨true, "https://wolt.example.org".toList⟩ }

/-- There is none. -/
def vacantData : Data := { mailingData with users := ∅ }

/-- What is drawn for the request. -/
def resetDraw : Draw := ⟨"198.51.100.7".toList, 1000, 0, "token".toList, 0⟩

theorem isFreshReset_mailingData : IsFreshReset sampleCrypto 0 resetDraw mailingData :=
  ⟨by decide +kernel, by decide +kernel⟩

theorem isFreshReset_vacantData : IsFreshReset sampleCrypto 0 resetDraw vacantData :=
  ⟨by decide +kernel, by decide +kernel⟩

theorem differInAccounts_vacantData : DifferInAccounts mailingData vacantData := rfl

/-- A refused recipient shows in neither answer. -/
theorem response_eq_of_smtpException :
    (requestReset sampleCrypto .reset 0 .opens .smtpException "ada@example.org".toList 0 resetDraw
        mailingData).1 =
      (requestReset sampleCrypto .reset 0 .opens .smtpException "ada@example.org".toList 0 resetDraw
        vacantData).1 :=
  (response_eq_iff .reset 0 .opens .smtpException "ada@example.org".toList
    differInAccounts_vacantData isFreshReset_mailingData isFreshReset_vacantData).2
      (.inl (by decide))

/-- The login with a password that is not ASCII raises a `UnicodeEncodeError`, which shows where
there is an account and only there. -/
theorem encode_error_reveals_account :
    DifferInAccounts mailingData vacantData ∧
      IsFreshReset sampleCrypto 0 resetDraw mailingData ∧
      IsFreshReset sampleCrypto 0 resetDraw vacantData ∧
      (requestReset sampleCrypto .reset 0 .opens .otherException "ada@example.org".toList 0
        resetDraw
        mailingData).1 = .internalServerError ∧
      (requestReset sampleCrypto .reset 0 .opens .otherException "ada@example.org".toList 0
        resetDraw
        vacantData).1 = .accepted := by
  refine ⟨differInAccounts_vacantData, isFreshReset_mailingData, isFreshReset_vacantData, ?_,
    ?_⟩ <;> decide +kernel

end Wolt.Identity
