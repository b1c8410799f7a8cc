import Meshloom.Dict
import Meshloom.PyValue

/-! Where notifications go and how their secrets are patched and hidden
(`coerce_notification_destinations`, `merge_notification_destinations` and
`redact_notification_destinations` of `app/telemetry_alerts.py`, with the records of
`app/models.py`). -/
namespace Meshloom.NotificationSecrets

def redactedSecret : List Char := List.replicate 8 '*'

inductive SmtpMode where
  | none
  | starttls
  | ssl
  deriving DecidableEq

def SmtpMode.text : SmtpMode → List Char
  | .none => "none".toList
  | .starttls => "starttls".toList
  | .ssl => "ssl".toList

structure NotificationEmailDest where
  host : List Char
  port : Int
  mode : SmtpMode
  user : List Char
  password : List Char
  fromAddress : List Char
  toAddress : List Char
  deriving DecidableEq

structure NotificationWebhookDest where
  url : List Char
  hmacSecret : List Char
  deriving DecidableEq

structure NotificationDestinations where
  email : NotificationEmailDest
  webhook : NotificationWebhookDest
  deriving DecidableEq

/-- The defaults of the records. -/
def defaultDestinations : NotificationDestinations where
  email := ⟨[], 587, .starttls, [], [], [], []⟩
  webhook := ⟨[], []⟩

abbrev Section := Dict String PyValue

/-- A value under a key of a payload: a mapping or anything else. -/
inductive Part where
  | mapping (entries : Section)
  | other (value : PyValue)

abbrev Payload := Dict String Part

/-- How the validation of records reads a text and a number. -/
structure Validation where
  str : PyValue → Option (List Char)
  int : PyValue → Option Int
  str_string : ∀ s, str (.string s) = some s
  int_int : ∀ n, int (.int n) = some n

/-- A field of a type that is read with `read`, with its default when it is absent. -/
def field (read : PyValue → Option α) (default : α) : Option PyValue → Option α
  | none => some default
  | some value => read value

/-- `Literal["none", "starttls", "ssl"]` -/
def readMode : PyValue → Option SmtpMode
  | .string s => [SmtpMode.none, .starttls, .ssl].find? fun mode => mode.text = s
  | _ => none

section Validate
variable (py : Validation)

/-- `NotificationEmailDest.model_validate`; keys that no field has are passed over. -/
def validateEmail (d : Section) : Option NotificationEmailDest := do
  let host ← field py.str [] (d.get? "host")
  let port ← field py.int 587 (d.get? "port")
  let mode ← field readMode .starttls (d.get? "mode")
  let user ← field py.str [] (d.get? "user")
  let password ← field py.str [] (d.get? "password")
  let fromAddress ← field py.str [] ((d.get? "from").or (d.get? "from_address"))
  let toAddress ← field py.str [] (d.get? "to")
  some { host, port, mode, user, password, fromAddress, toAddress }

def validateWebhook (d : Section) : Option NotificationWebhookDest := do
  let url ← field py.str [] (d.get? "url")
  let hmacSecret ← field py.str [] (d.get? "hmac_secret")
  some { url, hmacSecret }

/-- A record in a field: only a mapping is one. -/
def readPart (validate : Section → Option α) : Part → Option α
  | .mapping d => validate d
  | .other _ => none

/-- `NotificationDestinations.model_validate` of a payload with both keys. -/
def validate (email webhook : Part) : Option NotificationDestinations := do
  let email ← readPart (validateEmail py) email
  let webhook ← readPart (validateWebhook py) webhook
  some { email, webhook }

end Validate

def emailDump (email : NotificationEmailDest) : Section :=
  .ofList [("host", .string email.host), ("port", .int email.port),
    ("mode", .string email.mode.text), ("user", .string email.user),
    ("password", .string email.password), ("from", .string email.fromAddress),
    ("to", .string email.toAddress)]

def webhookDump (webhook : NotificationWebhookDest) : Section :=
  .ofList [("url", .string webhook.url), ("hmac_secret", .string webhook.hmacSecret)]

/-- `model_dump(by_alias=True)` -/
def modelDump (d : NotificationDestinations) : Payload :=
  .ofList [("email", .mapping (emailDump d.email)), ("webhook", .mapping (webhookDump d.webhook))]

/-- A field of a patch that was set, maybe to null. -/
abbrev Patched (α : Type) := Option (Option α)

structure NotificationEmailDestUpdate where
  host : Patched (List Char)
  port : Patched Int
  mode : Patched SmtpMode
  user : Patched (List Char)
  password : Patched (List Char)
  fromAddress : Patched (List Char)
  toAddress : Patched (List Char)

structure NotificationWebhookDestUpdate where
  url : Patched (List Char)
  hmacSecret : Patched (List Char)

structure NotificationDestinationsUpdate where
  email : Patched NotificationEmailDestUpdate
  webhook : Patched NotificationWebhookDestUpdate

/-- The entry of a field in a dump without the fields that were not set. -/
def setField (key : String) (dump : α → PyValue) : Patched α → List (String × PyValue)
  | none => []
  | some none => [(key, .null)]
  | some (some value) => [(key, dump value)]

def NotificationEmailDestUpdate.dump (u : NotificationEmailDestUpdate) : Section :=
  .ofList (setField "host" .string u.host ++ setField "port" .int u.port ++
    setField "mode" (fun mode => .string mode.text) u.mode ++ setField "user" .string u.user ++
    setField "password" .string u.password ++ setField "from" .string u.fromAddress ++
    setField "to" .string u.toAddress)

def NotificationWebhookDestUpdate.dump (u : NotificationWebhookDestUpdate) : Section :=
  .ofList (setField "url" .string u.url ++ setField "hmac_secret" .string u.hmacSecret)

def setPart (key : String) (dump : α → Section) : Patched α → List (String × Part)
  | none => []
  | some none => [(key, .other .null)]
  | some (some value) => [(key, .mapping (dump value))]

/-- What a patch may be. Of destinations all fields are set, as of those that are redacted. -/
inductive Patch where
  | mapping (payload : Payload)
  | destinations (d : NotificationDestinations)
  | update (u : NotificationDestinationsUpdate)

/-- `dict(incoming)` or `model_dump(exclude_unset=True, by_alias=True)` -/
def Patch.payload : Patch → Payload
  | .mapping payload => payload
  | .destinations d => modelDump d
  | .update u =>
    .ofList (setPart "email" NotificationEmailDestUpdate.dump u.email ++
      setPart "webhook" NotificationWebhookDestUpdate.dump u.webhook)

/-- Whether a value of a patch is taken over: null is not, and for a secret its hidden form is not
either. -/
def taken (secret key : String) : PyValue → Bool
  | .null => false
  | .string s => !(key = secret && s = redactedSecret)
  | _ => true

/-- The loop over the entries of `email` or of `webhook`. -/
def mergePart (secret : String) (stored : Section) : Option Part → Section
  | some (.mapping patch) => Dict.overlay (taken secret) stored patch
  | _ => stored

section Functions
variable (py : Validation)

/-- `{**DEFAULT_NOTIFICATION_DESTINATIONS, **parsed}`, validated, or else the defaults. -/
def coerceNotificationDestinations (parsed : Payload) : NotificationDestinations :=
  let raw := Dict.overlay (fun _ _ => true) (modelDump defaultDestinations) parsed
  ((raw.get? "email").bind fun email =>
    (raw.get? "webhook").bind fun webhook => validate py email webhook).getD defaultDestinations

def mergeNotificationDestinations (stored : NotificationDestinations) (incoming : Patch) :
    NotificationDestinations :=
  let payload := incoming.payload
  coerceNotificationDestinations py
    (((modelDump stored).set "email"
        (.mapping (mergePart "password" (emailDump stored.email) (payload.get? "email")))).set
      "webhook"
        (.mapping (mergePart "hmac_secret" (webhookDump stored.webhook) (payload.get? "webhook"))))

def redactSecret (secret : List Char) : List Char := if secret ≠ [] then redactedSecret else []

/-- What is raised is `none`. -/
def redactNotificationDestinations (dest : NotificationDestinations) :
    Option NotificationDestinations :=
  validate py
    (.mapping ((emailDump dest.email).set "password" (.string (redactSecret dest.email.password))))
    (.mapping ((webhookDump dest.webhook).set "hmac_secret"
      (.string (redactSecret dest.webhook.hmacSecret))))

end Functions

/-- The fields of a section with what makes a value acceptable. -/
abbrev Fields := List (String × (PyValue → Bool))

def emailFields (py : Validation) : Fields :=
  [("host", fun v => (py.str v).isSome), ("port", fun v => (py.int v).isSome),
    ("mode", fun v => (readMode v).isSome), ("user", fun v => (py.str v).isSome),
    ("password", fun v => (py.str v).isSome), ("from", fun v => (py.str v).isSome),
    ("to", fun v => (py.str v).isSome)]

def webhookFields (py : Validation) : Fields :=
  [("url", fun v => (py.str v).isSome), ("hmac_secret", fun v => (py.str v).isSome)]

/-- What a patch brings for a field is taken over only when it is acceptable. -/
def PartAcceptable (fields : Fields) (secret : String) : Option Part → Prop
  | some (.mapping patch) => ∀ f ∈ fields, ∀ value, patch.get? f.1 = some value →
      taken secret f.1 value = true → f.2 value = true
  | _ => True

def Acceptable (py : Validation) (payload : Payload) : Prop :=
  PartAcceptable (emailFields py) "password" (payload.get? "email") ∧
    PartAcceptable (webhookFields py) "hmac_secret" (payload.get? "webhook")

/-- A patch leaves a secret out or gives null for it. -/
def Omits (secret : String) : Option Part → Prop
  | some (.mapping patch) => patch.get? secret = none ∨ patch.get? secret = some .null
  | _ => True

/-- A patch gives an empty text for a secret. -/
def Clears (secret : String) : Option Part → Prop
  | some (.mapping patch) => patch.get? secret = some (.string [])
  | _ => False

/-- What a patch leaves out is kept and what it empties is cleared. -/
structure SecretsKept (stored merged : NotificationDestinations) (payload : Payload) : Prop where
  passwordKept : Omits "password" (payload.get? "email") →
    merged.email.password = stored.email.password
  passwordCleared : Clears "password" (payload.get? "email") → merged.email.password = []
  hmacSecretKept : Omits "hmac_secret" (payload.get? "webhook") →
    merged.webhook.hmacSecret = stored.webhook.hmacSecret
  hmacSecretCleared : Clears "hmac_secret" (payload.get? "webhook") →
    merged.webhook.hmacSecret = []

/-- No secret that a patch leaves out is stored. -/
def NothingToKeep (stored : NotificationDestinations) (payload : Payload) : Prop :=
  (Omits "password" (payload.get? "email") → stored.email.password = []) ∧
    (Omits "hmac_secret" (payload.get? "webhook") → stored.webhook.hmacSecret = [])

/-- The destinations differ only in the content of secrets that are not empty. -/
structure SameButSecrets (d d' : NotificationDestinations) : Prop where
  email : { d.email with password := [] } = { d'.email with password := [] }
  password : d.email.password = [] ↔ d'.email.password = []
  webhook : { d.webhook with hmacSecret := [] } = { d'.webhook with hmacSecret := [] }
  hmacSecret : d.webhook.hmacSecret = [] ↔ d'.webhook.hmacSecret = []

section Sections
variable {py : Validation} {d : Section} {email : NotificationEmailDest}
  {webhook : NotificationWebhookDest}

@[simp]
theorem readMode_text (mode : SmtpMode) : readMode (.string mode.text) = some mode := by
  cases mode <;> decide

@[simp]
theorem emailDump_get? (email : NotificationEmailDest) (key : String) :
    (emailDump email).get? key =
      if key = "to" then some (.string email.toAddress)
      else if key = "from" then some (.string email.fromAddress)
      else if key = "password" then some (.string email.password)
      else if key = "user" then some (.string email.user)
      else if key = "mode" then some (.string email.mode.text)
      else if key = "port" then some (.int email.port)
      else if key = "host" then some (.string email.host)
      else none := by
  simp [emailDump, Dict.ofList]

@[simp]
theorem webhookDump_get? (webhook : NotificationWebhookDest) (key : String) :
    (webhookDump webhook).get? key =
      if key = "hmac_secret" then some (.string webhook.hmacSecret)
      else if key = "url" then some (.string webhook.url)
      else none := by
  simp [webhookDump, Dict.ofList]

theorem validateEmail_eq_some : validateEmail py d = some email ↔
    field py.str [] (d.get? "host") = some email.host ∧
    field py.int 587 (d.get? "port") = some email.port ∧
    field readMode .starttls (d.get? "mode") = some email.mode ∧
    field py.str [] (d.get? "user") = some email.user ∧
    field py.str [] (d.get? "password") = some email.password ∧
    field py.str [] ((d.get? "from").or (d.get? "from_address")) = some email.fromAddress ∧
    field py.str [] (d.get? "to") = some email.toAddress := by
  obtain ⟨host, port, mode, user, password, fromAddress, toAddress⟩ := email
  simp [validateEmail, Option.bind_eq_some_iff]

theorem validateWebhook_eq_some : validateWebhook py d = some webhook ↔
    field py.str [] (d.get? "url") = some webhook.url ∧
    field py.str [] (d.get? "hmac_secret") = some webhook.hmacSecret := by
  obtain ⟨url, hmacSecret⟩ := webhook
  simp [validateWebhook, Option.bind_eq_some_iff]

theorem validateEmail_isSome : (validateEmail py d).isSome ↔
    (field py.str [] (d.get? "host")).isSome ∧ (field py.int 587 (d.get? "port")).isSome ∧
    (field readMode .starttls (d.get? "mode")).isSome ∧ (field py.str [] (d.get? "user")).isSome ∧
    (field py.str [] (d.get? "password")).isSome ∧
    (field py.str [] ((d.get? "from").or (d.get? "from_address"))).isSome ∧
    (field py.str [] (d.get? "to")).isSome := by
  constructor
  · intro valid
    obtain ⟨email, valid⟩ := Option.isSome_iff_exists.mp valid
    obtain ⟨host, port, mode, user, password, fromAddress, toAddress⟩ :=
      validateEmail_eq_some.mp valid
    simp [host, port, mode, user, password, fromAddress, toAddress]
  · simp only [Option.isSome_iff_exists]
    rintro ⟨⟨host, hasHost⟩, ⟨port, hasPort⟩, ⟨mode, hasMode⟩, ⟨user, hasUser⟩,
      ⟨password, hasPassword⟩, ⟨fromAddress, hasFrom⟩, ⟨toAddress, hasTo⟩⟩
    exact ⟨⟨host, port, mode, user, password, fromAddress, toAddress⟩,
      validateEmail_eq_some.mpr ⟨hasHost, hasPort, hasMode, hasUser, hasPassword, hasFrom, hasTo⟩⟩

theorem validateWebhook_isSome : (validateWebhook py d).isSome ↔
    (field py.str [] (d.get? "url")).isSome ∧
    (field py.str [] (d.get? "hmac_secret")).isSome := by
  constructor
  · intro valid
    obtain ⟨webhook, valid⟩ := Option.isSome_iff_exists.mp valid
    obtain ⟨url, hmacSecret⟩ := validateWebhook_eq_some.mp valid
    simp [url, hmacSecret]
  · simp only [Option.isSome_iff_exists]
    rintro ⟨⟨url, hasUrl⟩, ⟨hmacSecret, hasSecret⟩⟩
    exact ⟨⟨url, hmacSecret⟩, validateWebhook_eq_some.mpr ⟨hasUrl, hasSecret⟩⟩

/-- A field with a good stored value is good when what is taken over for it is. -/
theorem read_taken {read : PyValue → Option α} {stored : PyValue} (good : (read stored).isSome)
    (patched : Option PyValue) (takes : PyValue → Bool) :
    (read ((patched.filter takes).getD stored)).isSome ↔
      ∀ value, patched = some value → takes value = true → (read value).isSome := by
  cases patched with
  | none => simpa using good
  | some value =>
      by_cases is_taken : takes value = true
      · simp [Option.filter, is_taken]
      · simpa [Option.filter, is_taken] using good

/-- A section is valid after a patch exactly when the patch is acceptable for it. -/
theorem validateEmail_merge (email : NotificationEmailDest) (part : Option Part) :
    (validateEmail py (mergePart "password" (emailDump email) part)).isSome ↔
      PartAcceptable (emailFields py) "password" part := by
  have dumped : (validateEmail py (emailDump email)).isSome := by
    simp [validateEmail_isSome, field, py.str_string, py.int_int]
  cases part with
  | none => simpa [mergePart, PartAcceptable] using dumped
  | some part =>
      cases part with
      | other value => simpa [mergePart, PartAcceptable] using dumped
      | mapping patch =>
          simp only [validateEmail_isSome, mergePart, Dict.get?_overlay, emailDump_get?]
          simp [PartAcceptable, emailFields, field, read_taken, py.str_string, py.int_int]

theorem validateWebhook_merge (webhook : NotificationWebhookDest) (part : Option Part) :
    (validateWebhook py (mergePart "hmac_secret" (webhookDump webhook) part)).isSome ↔
      PartAcceptable (webhookFields py) "hmac_secret" part := by
  have dumped : (validateWebhook py (webhookDump webhook)).isSome := by
    simp [validateWebhook_isSome, field, py.str_string]
  cases part with
  | none => simpa [mergePart, PartAcceptable] using dumped
  | some part =>
      cases part with
      | other value => simpa [mergePart, PartAcceptable] using dumped
      | mapping patch =>
          simp only [validateWebhook_isSome, mergePart, Dict.get?_overlay, webhookDump_get?]
          simp [PartAcceptable, webhookFields, field, read_taken, py.str_string]

/-- What a section has for its secret after a patch that leaves it out. -/
theorem secret_omitted {secret : String} {stored : Section} {part : Option Part}
    (omitted : Omits secret part) : (mergePart secret stored part).get? secret = stored.get? secret := by
  cases part with
  | none => rfl
  | some part =>
      cases part with
      | other value => rfl
      | mapping patch =>
          rw [mergePart, Dict.get?_overlay]
          obtain absent | null := omitted
          · rw [absent, Option.filter_none, Option.none_or]
          · rw [null, Option.filter_some_neg (by rfl), Option.none_or]

theorem secret_cleared {secret : String} {stored : Section} {part : Option Part}
    (cleared : Clears secret part) :
    (mergePart secret stored part).get? secret = some (.string []) := by
  cases part with
  | none => exact cleared.elim
  | some part =>
      cases part with
      | other value => exact cleared.elim
      | mapping patch =>
          have given : patch.get? secret = some (.string []) := cleared
          have is_taken : taken secret secret (.string []) = true := by
            simp [taken, redactedSecret, List.replicate]
          rw [mergePart, Dict.get?_overlay, given, Option.filter_some_pos is_taken, Option.some_or]

end Sections

section Merge
variable {py : Validation} {stored : NotificationDestinations} {incoming : Patch}
  {email : NotificationEmailDest} {webhook : NotificationWebhookDest}

/-- What a patch leaves is validated section by section. -/
theorem merge_eq : mergeNotificationDestinations py stored incoming =
    (validate py
      (.mapping (mergePart "password" (emailDump stored.email) (incoming.payload.get? "email")))
      (.mapping (mergePart "hmac_secret" (webhookDump stored.webhook)
        (incoming.payload.get? "webhook")))).getD defaultDestinations := by
  rw [mergeNotificationDestinations, coerceNotificationDestinations]
  simp [Dict.get?_overlay, Option.filter]

theorem merge_of (validEmail : validateEmail py
      (mergePart "password" (emailDump stored.email) (incoming.payload.get? "email")) = some email)
    (validWebhook : validateWebhook py (mergePart "hmac_secret" (webhookDump stored.webhook)
      (incoming.payload.get? "webhook")) = some webhook) :
    mergeNotificationDestinations py stored incoming = ⟨email, webhook⟩ := by
  simp [merge_eq, validate, readPart, validEmail, validWebhook]

/-- An acceptable patch keeps and clears the secrets as it says. -/
theorem kept_of_acceptable (acceptable : Acceptable py incoming.payload) :
    SecretsKept stored (mergeNotificationDestinations py stored incoming) incoming.payload := by
  obtain ⟨email, validEmail⟩ :=
    Option.isSome_iff_exists.mp ((validateEmail_merge stored.email _).mpr acceptable.1)
  obtain ⟨webhook, validWebhook⟩ := Option.isSome_iff_exists.mp
    ((validateWebhook_merge stored.webhook _).mpr acceptable.2)
  rw [merge_of validEmail validWebhook]
  obtain ⟨-, -, -, -, password, -, -⟩ := validateEmail_eq_some.mp validEmail
  obtain ⟨-, hmacSecret⟩ := validateWebhook_eq_some.mp validWebhook
  refine ⟨fun omitted => ?_, fun cleared => ?_, fun omitted => ?_, fun cleared => ?_⟩
  · rw [secret_omitted omitted] at password
    simpa [field, py.str_string, eq_comm] using password
  · rw [secret_cleared cleared] at password
    simpa [field, py.str_string, eq_comm] using password
  · rw [secret_omitted omitted] at hmacSecret
    simpa [field, py.str_string, eq_comm] using hmacSecret
  · rw [secret_cleared cleared] at hmacSecret
    simpa [field, py.str_string, eq_comm] using hmacSecret

/-- A patch that is not acceptable leaves the defaults. -/
theorem merge_default (unacceptable : ¬ Acceptable py incoming.payload) :
    mergeNotificationDestinations py stored incoming = defaultDestinations := by
  have invalid : validate py
      (.mapping (mergePart "password" (emailDump stored.email) (incoming.payload.get? "email")))
      (.mapping (mergePart "hmac_secret" (webhookDump stored.webhook)
        (incoming.payload.get? "webhook"))) = none := by
    by_contra valid
    obtain ⟨d, valid⟩ := Option.ne_none_iff_exists'.mp valid
    obtain ⟨email, validEmail, valid⟩ := Option.bind_eq_some_iff.mp valid
    obtain ⟨webhook, validWebhook, -⟩ := Option.bind_eq_some_iff.mp valid
    exact unacceptable ⟨(validateEmail_merge _ _).mp (Option.isSome_of_eq_some validEmail),
      (validateWebhook_merge _ _).mp (Option.isSome_of_eq_some validWebhook)⟩
  rw [merge_eq, invalid, Option.getD_none]

theorem kept_iff : SecretsKept stored (mergeNotificationDestinations py stored incoming)
      incoming.payload ↔
    Acceptable py incoming.payload ∨ NothingToKeep stored incoming.payload := by
  by_cases acceptable : Acceptable py incoming.payload
  · exact iff_of_true (kept_of_acceptable acceptable) (.inl acceptable)
  · rw [merge_default acceptable, or_iff_right acceptable]
    constructor
    · intro kept
      exact ⟨fun omitted => (kept.passwordKept omitted).symm,
        fun omitted => (kept.hmacSecretKept omitted).symm⟩
    · intro nothing
      exact ⟨fun omitted => (nothing.1 omitted).symm, fun _ => rfl,
        fun omitted => (nothing.2 omitted).symm, fun _ => rfl⟩

end Merge

section Redaction
variable {py : Validation}

/-- The destinations with hidden secrets. -/
def hidden (d : NotificationDestinations) : NotificationDestinations where
  email := { d.email with password := redactSecret d.email.password }
  webhook := { d.webhook with hmacSecret := redactSecret d.webhook.hmacSecret }

theorem redact_eq (d : NotificationDestinations) :
    redactNotificationDestinations py d = some (hidden d) := by
  have validEmail : validateEmail py ((emailDump d.email).set "password"
      (.string (redactSecret d.email.password))) = some (hidden d).email := by
    simp [validateEmail_eq_some, hidden, field, py.str_string, py.int_int]
  have validWebhook : validateWebhook py ((webhookDump d.webhook).set "hmac_secret"
      (.string (redactSecret d.webhook.hmacSecret))) = some (hidden d).webhook := by
    simp [validateWebhook_eq_some, hidden, field, py.str_string]
  simp [redactNotificationDestinations, validate, readPart, validEmail, validWebhook]

@[simp]
theorem redactSecret_redactSecret (secret : List Char) :
    redactSecret (redactSecret secret) = redactSecret secret := by
  unfold redactSecret
  split
  · decide
  · rfl

theorem hidden_hidden (d : NotificationDestinations) : hidden (hidden d) = hidden d := by
  simp [hidden]

/-- A hidden secret that comes back leaves the one that is stored. -/
theorem secret_back (secret : List Char) :
    (if redactSecret secret = redactedSecret then none
      else some (PyValue.string (redactSecret secret))).getD (.string secret) = .string secret := by
  by_cases empty : secret = []
  · have differs : redactSecret [] ≠ redactedSecret := by decide
    rw [empty, if_neg differs]
    rfl
  · have hides : redactSecret secret = redactedSecret := if_pos empty
    rw [if_pos hides, Option.getD_none]

theorem merge_hidden (d : NotificationDestinations) :
    mergeNotificationDestinations py d (.destinations (hidden d)) = d := by
  have email : (Patch.destinations (hidden d)).payload.get? "email" =
      some (.mapping (emailDump (hidden d).email)) := rfl
  have webhook : (Patch.destinations (hidden d)).payload.get? "webhook" =
      some (.mapping (webhookDump (hidden d).webhook)) := rfl
  refine merge_of ?_ ?_
  · rw [email, mergePart, validateEmail_eq_some]
    simp [Dict.get?_overlay, hidden, field, secret_back, Option.filter, taken, py.str_string,
      py.int_int]
  · rw [webhook, mergePart, validateWebhook_eq_some]
    simp [Dict.get?_overlay, hidden, field, secret_back, Option.filter, taken, py.str_string]

theorem redactSecret_congr {secret secret' : List Char} (same : secret = [] ↔ secret' = []) :
    redactSecret secret = redactSecret secret' := by
  unfold redactSecret
  simp [same]

theorem hidden_of_same {d d' : NotificationDestinations} (same : SameButSecrets d d') :
    hidden d = hidden d' := by
  have email : (hidden d).email = (hidden d').email := by
    have others := same.email
    simp only [NotificationEmailDest.mk.injEq] at others
    simp only [hidden, NotificationEmailDest.mk.injEq, redactSecret_congr same.password]
    simpa using others
  have webhook : (hidden d).webhook = (hidden d').webhook := by
    have others := same.webhook
    simp only [NotificationWebhookDest.mk.injEq] at others
    simp only [hidden, NotificationWebhookDest.mk.injEq, redactSecret_congr same.hmacSecret]
    simpa using others
  calc hidden d = ⟨(hidden d).email, (hidden d).webhook⟩ := rfl
    _ = hidden d' := by rw [email, webhook]

/-- Hidden destinations that are sent back change nothing, hiding hides no more than that a secret
is empty, and a patch keeps and clears the secrets as it says exactly when what it brings is
acceptable or it leaves out no secret that is stored. -/
theorem secrets_kept_iff (py : Validation) :
    (∀ d, ∃ r, redactNotificationDestinations py d = some r ∧
      mergeNotificationDestinations py d (.destinations r) = d ∧
      redactNotificationDestinations py r = some r) ∧
    (∀ d d', SameButSecrets d d' →
      redactNotificationDestinations py d = redactNotificationDestinations py d') ∧
    ∀ stored incoming, SecretsKept stored (mergeNotificationDestinations py stored incoming)
      incoming.payload ↔
        Acceptable py incoming.payload ∨ NothingToKeep stored incoming.payload := by
  refine ⟨fun d => ⟨hidden d, redact_eq d, merge_hidden d, ?_⟩, fun d d' same => ?_,
    fun stored incoming => kept_iff⟩
  · rw [redact_eq, hidden_hidden]
  · rw [redact_eq, redact_eq, hidden_of_same same]

private def jsonOnly : Validation where
  str := fun
    | .string s => some s
    | _ => none
  int := fun
    | .int n => some n
    | _ => none
  str_string _ := rfl
  int_int _ := rfl

/-- A patch of the port alone, with a text that is no number, drops the stored password. -/
theorem secret_dropped :
    let stored := { defaultDestinations with
      email := { defaultDestinations.email with password := ['p', 'w'] } }
    let incoming := Patch.mapping (.ofList [("email", .mapping (.ofList
      [("port", .string ['a', 'b', 'c'])]))])
    ¬ SecretsKept stored (mergeNotificationDestinations jsonOnly stored incoming)
      incoming.payload := by
  intro stored incoming kept
  have omitted : Omits "password" (incoming.payload.get? "email") := .inl rfl
  have password := kept.passwordKept omitted
  have dropped : (mergeNotificationDestinations jsonOnly stored incoming).email.password = [] := rfl
  rw [dropped] at password
  cases password

end Redaction

section Typed
variable {py : Validation}

/-- A value that a field of a patch dumps is acceptable when the field's own values are. -/
theorem setField_acceptable {α : Type} {key key' secret : String} {dump : α → PyValue}
    {patched : Patched α} {value : PyValue} (good : PyValue → Bool)
    (goods : ∀ a, good (dump a) = true) (member : (key', value) ∈ setField key dump patched)
    (is_taken : taken secret key' value = true) : key' = key ∧ good value = true := by
  cases patched with
  | none => cases member
  | some patched =>
      cases patched with
      | none =>
          cases List.mem_singleton.mp member
          cases is_taken
      | some a =>
          cases List.mem_singleton.mp member
          exact ⟨rfl, goods a⟩

theorem email_acceptable (u : NotificationEmailDestUpdate) :
    PartAcceptable (emailFields py) "password" (some (.mapping u.dump)) := by
  have entries : ∀ key value, u.dump.get? key = some value → taken "password" key value = true →
      ∀ f ∈ emailFields py, f.1 = key → f.2 value = true := by
    intro key value found is_taken
    have text (s : List Char) : (py.str (.string s)).isSome = true := by simp [py.str_string]
    have number (n : Int) : (py.int (.int n)).isSome = true := by simp [py.int_int]
    have mode (m : SmtpMode) : (readMode (.string m.text)).isSome = true := by simp
    have member := Dict.mem_of_get?_ofList found
    simp only [List.mem_append] at member
    obtain (((((member | member) | member) | member) | member) | member) | member := member
    · obtain ⟨rfl, good⟩ :=
        setField_acceptable (fun v => (py.str v).isSome) text member is_taken
      simp [emailFields, good]
    · obtain ⟨rfl, good⟩ :=
        setField_acceptable (fun v => (py.int v).isSome) number member is_taken
      simp [emailFields, good]
    · obtain ⟨rfl, good⟩ :=
        setField_acceptable (fun v => (readMode v).isSome) mode member is_taken
      simp [emailFields, good]
    all_goals
      obtain ⟨rfl, good⟩ :=
        setField_acceptable (fun v => (py.str v).isSome) text member is_taken
      simp [emailFields, good]
  exact fun f member value found is_taken => entries f.1 value found is_taken f member rfl

theorem webhook_acceptable (u : NotificationWebhookDestUpdate) :
    PartAcceptable (webhookFields py) "hmac_secret" (some (.mapping u.dump)) := by
  have entries : ∀ key value, u.dump.get? key = some value →
      taken "hmac_secret" key value = true →
      ∀ f ∈ webhookFields py, f.1 = key → f.2 value = true := by
    intro key value found is_taken
    have text (s : List Char) : (py.str (.string s)).isSome = true := by simp [py.str_string]
    have member := Dict.mem_of_get?_ofList found
    simp only [List.mem_append] at member
    obtain member | member := member
    all_goals
      obtain ⟨rfl, good⟩ :=
        setField_acceptable (fun v => (py.str v).isSome) text member is_taken
      simp [webhookFields, good]
  exact fun f member value found is_taken => entries f.1 value found is_taken f member rfl

/-- A mapping under a key of a dump is the dump of that part. -/
theorem mapping_of_setPart {α : Type} {key key' : String} {dump : α → Section}
    {patched : Patched α} {entries : Section}
    (member : (key', .mapping entries) ∈ setPart key dump patched) :
    key' = key ∧ ∃ a, entries = dump a := by
  cases patched with
  | none => cases member
  | some patched =>
      cases patched with
      | none => cases List.mem_singleton.mp member
      | some a =>
          cases List.mem_singleton.mp member
          exact ⟨rfl, a, rfl⟩

/-- A patch that was validated is acceptable. -/
theorem update_acceptable (u : NotificationDestinationsUpdate) :
    Acceptable py (Patch.update u).payload := by
  constructor
  · cases given : (Patch.update u).payload.get? "email" with
    | none => trivial
    | some part =>
        cases part with
        | other value => trivial
        | mapping entries =>
            obtain member | member := List.mem_append.mp (Dict.mem_of_get?_ofList given)
            · obtain ⟨-, email, rfl⟩ := mapping_of_setPart member
              exact email_acceptable email
            · exact absurd (mapping_of_setPart member).1 (by decide)
  · cases given : (Patch.update u).payload.get? "webhook" with
    | none => trivial
    | some part =>
        cases part with
        | other value => trivial
        | mapping entries =>
            obtain member | member := List.mem_append.mp (Dict.mem_of_get?_ofList given)
            · exact absurd (mapping_of_setPart member).1 (by decide)
            · obtain ⟨-, webhook, rfl⟩ := mapping_of_setPart member
              exact webhook_acceptable webhook

end Typed

end Meshloom.NotificationSecrets
