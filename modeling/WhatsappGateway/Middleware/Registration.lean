import WhatsappGateway.Config
import WhatsappGateway.Lib.Fields
import WhatsappGateway.Lib.Strings
import WhatsappGateway.Ratelimiter.RetryAfter
import WhatsappGateway.Usecase.ReadCache

/-!
Registration and the bearer tokens it hands out. A registration that knows the secret key gets
a token for the phone number it names, and a request with such a token acts on the account of
that phone number until the token expires. Registrations are limited for each address, by a
limiter that is in memory: it and the configuration last until the gateway is restarted.
-/

namespace WhatsappGateway.Middleware

open Lib Ratelimiter Usecase
open SendMessage (internalFailure)

/-! ### Tokens -/

/-- The claims of a token. Its dates are whole seconds. -/
structure TokenClaims extends AuthClaims where
  subject : String
  issuedAt : Int
  notBefore : Option Int := none
  expiresAt : Option Int
deriving DecidableEq, Repr

/-- `jwt.NewNumericDate`. -/
def newNumericDate (time : Int) : Int := time / Duration.second

/-- What the token library does, as documented. `parseUnverified` decodes a token into its
claims, and says whether its method is one of the HMAC methods; `verify` is the check of its
signature by that method. -/
structure JwtLibrary where
  signedString : String → TokenClaims → Option String
  parseUnverified : String → Option (Bool × TokenClaims)
  verify : String → String → Bool
  parse_signed : ∀ {key : String} {claims : TokenClaims} {token : String},
    signedString key claims = some token → parseUnverified token = some (true, claims)
  verify_signed : ∀ {key : String} {claims : TokenClaims} {token : String},
    signedString key claims = some token → verify token key = true

inductive ParseError where
  | tokenMalformed
  | tokenUnverifiable
  | signatureInvalid
  | invalidClaims (expired notValidYet : Bool)
deriving DecidableEq, Repr

/-- `ParseWithClaims` with a key function that accepts the HMAC methods only. -/
def parseWithClaims (lib : JwtLibrary) (key : String) (now : Int) (token : String) :
    Except ParseError TokenClaims :=
  match lib.parseUnverified token with
  | none => .error .tokenMalformed
  | some (hmac, claims) =>
    if ¬hmac then .error .tokenUnverifiable
    else if ¬lib.verify token key then .error .signatureInvalid
    else
      let expired := claims.expiresAt.any fun date => date * Duration.second ≤ now
      let notValidYet := claims.notBefore.any fun date => now < date * Duration.second
      if expired ∨ notValidYet then .error (.invalidClaims expired notValidYet)
      else .ok claims

/-- The errors of `ValidateToken`: an expired token, and those of the check of the claims. -/
inductive ValidationError where
  | tokenExpired
  | rejected (err : TokenError)
deriving DecidableEq, Repr

structure JWTManager where
  secretKey : String
  issuer : String
  tokenDuration : Option Int
deriving DecidableEq, Repr

namespace JWTManager

/-- The clock is read for the date of issue, and again for the expiry. -/
def claims (m : JWTManager) (phoneNumber : String) (now later : Int) : TokenClaims where
  phoneNumber := phoneNumber
  issuer := m.issuer
  subject := phoneNumber
  issuedAt := newNumericDate now
  expiresAt := m.tokenDuration.map fun duration => newNumericDate (later + duration)

def generateTokens (lib : JwtLibrary) (m : JWTManager) (phoneNumber : String)
    (now later : Int) : Option String :=
  lib.signedString m.secretKey (m.claims phoneNumber now later)

def validateToken (lib : JwtLibrary) (m : JWTManager) (now : Int) (token : String) :
    Except ValidationError String :=
  match parseWithClaims lib m.secretKey now token with
  | .error (.invalidClaims true _) => .error .tokenExpired
  | .error _ => .error (.rejected .tokenInvalid)
  | .ok claims => (Usecase.validateToken m.issuer claims.toAuthClaims).mapError .rejected

end JWTManager

/-! ### The middleware -/

/-- The token of an `Authorization` header. -/
def extractBearerToken (authHeader : String) : Except String String :=
  if authHeader = "" then .error "authorization required"
  else
    match authHeader.toList.splitOn ' ' with
    | [scheme, token] =>
      if scheme.map Strings.toLower = "bearer".toList then .ok (String.ofList token)
      else .error "invalid authorization header format (must be Bearer token)"
    | _ => .error "invalid authorization header format (must be Bearer token)"

/-- What becomes of a request: it acts on an account, or is answered with status 401. -/
inductive AuthReply where
  | next (phoneNumber : String)
  | unauthorized (message : String)
deriving DecidableEq, Repr

def ValidationError.message : ValidationError → String
  | .tokenExpired => "Token has expired"
  | .rejected .tokenInvalid => "Invalid token"
  | .rejected .missingClaims => "Invalid token"

def jwtAuthentication (lib : JwtLibrary) (m : JWTManager) (authHeader : String) (now : Int) :
    AuthReply :=
  match extractBearerToken authHeader with
  | .error message => .unauthorized message
  | .ok token =>
    match m.validateToken lib now token with
    | .error err => .unauthorized err.message
    | .ok phoneNumber => .next phoneNumber

/-! ### Registration -/

/-- What registration reads of the configuration, with the defaults of its fields. -/
structure AuthConfig where
  loaded : Config := {}
  jwtSecret : String := "secret"
  jwtIssuer : String := "whatsapp-gateway"
  basicAuthSecretKey : String := "secret"
  registerRateLimitEnabled : Bool := true
  registerRateLimitRequests : Int := 5
  registerRateLimitDurationSeconds : Int := 60
deriving DecidableEq, Repr

namespace AuthConfig

def getJwtDuration (cfg : AuthConfig) : Int :=
  cfg.loaded.normalize.jwtDurationMinutes * (60 * Duration.second)

def provideJWTManager (cfg : AuthConfig) : JWTManager :=
  ⟨cfg.jwtSecret, cfg.jwtIssuer, some cfg.getJwtDuration⟩

def registerLimiter (cfg : AuthConfig) : MemoryLimiter where
  limit := if cfg.registerRateLimitRequests ≤ 0 then 5 else cfg.registerRateLimitRequests
  window :=
    let window := Duration.seconds cfg.registerRateLimitDurationSeconds
    if window ≤ 0 then 60 * Duration.second else window
  keyPrefix := "whatsapp:gateway:register:"

end AuthConfig

/-- The `Retry-After` header of a refusal: whole seconds, and one more. -/
def retryAfterSeconds (res : Result) : Int := res.retryAfter.tdiv Duration.second + 1

/-- `NewRegisterRateLimiter`: the windows it leaves, and the header when it refuses. -/
def limitRegister (cfg : AuthConfig) (windows : Windows) (ip : String) (now later : Int) :
    Windows × Option Int :=
  if ¬cfg.registerRateLimitEnabled then (windows, none)
  else
    let (windows, res) := cfg.registerLimiter.allowN windows ip 1 now later
    (windows, if res.allowed then none else some (retryAfterSeconds res))

/-- `Register` of the use case. -/
def registerToken (lib : JwtLibrary) (cfg : AuthConfig) (req : RegistrationRequest)
    (now later : Int) : Except Fault String := do
  let claims ← register cfg.basicAuthSecretKey cfg.jwtIssuer req
  match cfg.provideJWTManager.generateTokens lib claims.phoneNumber now later with
  | none => .error (.domain (internalFailure "failed to generate token"))
  | some token => return token

inductive RegisterReply where
  | tooManyRequests (retryAfter : Int)
  | badRequest
  | failed (err : Fault)
  | created (token : String)
deriving DecidableEq, Repr

/-! ### Runs -/

/-- A registration that was given a token, under the configuration of the time. -/
structure Registered where
  config : AuthConfig
  request : RegistrationRequest
  issuedAt : Int
  expiresFrom : Int
  token : String
deriving DecidableEq, Repr

/-- The gateway, and the registrations so far that were given a token. -/
structure ApiState where
  config : AuthConfig
  windows : Windows
  registered : List Registered

def ApiState.start (config : AuthConfig) : ApiState := ⟨config, MemoryLimiter.init, []⟩

/-- A registration reads the clock in the limiter, and then for its token. Its body may fail to
parse. Requests are served concurrently, but registrations meet in the limiter only. -/
inductive ApiEvent where
  | register (ip : String) (body : Option RegistrationRequest)
      (now later issuedAt expiresFrom : Int)
  | request (authHeader : String) (now : Int)
  | restart (config : AuthConfig)
deriving DecidableEq, Repr

namespace ApiState

variable (lib : JwtLibrary)

def registerReply (s : ApiState) (ip : String) (body : Option RegistrationRequest)
    (now later issuedAt expiresFrom : Int) : RegisterReply :=
  match (limitRegister s.config s.windows ip now later).2 with
  | some retryAfter => .tooManyRequests retryAfter
  | none =>
    match body with
    | none => .badRequest
    | some req =>
      match registerToken lib s.config req issuedAt expiresFrom with
      | .error err => .failed err
      | .ok token => .created token

/-- The registration as it is remembered, when it was given a token. -/
def newlyRegistered (s : ApiState) (ip : String) (body : Option RegistrationRequest)
    (now later issuedAt expiresFrom : Int) : List Registered :=
  match body, s.registerReply lib ip body now later issuedAt expiresFrom with
  | some req, .created token => [⟨s.config, req, issuedAt, expiresFrom, token⟩]
  | _, _ => []

def step (s : ApiState) : ApiEvent → Option ApiState
  | .register ip body now later issuedAt expiresFrom =>
    if now ≤ later ∧ later ≤ issuedAt ∧ issuedAt ≤ expiresFrom then
      some { s with
        windows := (limitRegister s.config s.windows ip now later).1
        registered :=
          s.newlyRegistered lib ip body now later issuedAt expiresFrom ++ s.registered }
    else none
  | .request _ _ => some s
  | .restart config => some ⟨config, MemoryLimiter.init, s.registered⟩

def requestReply (s : ApiState) (authHeader : String) (now : Int) : AuthReply :=
  jwtAuthentication lib s.config.provideJWTManager authHeader now

/-- Nobody else holds the gateway's keys: a token that is presented and whose signature is good
under the present key was handed out with that key. -/
def Unforged (s : ApiState) : ApiEvent → Prop
  | .request authHeader _ => ∀ token, extractBearerToken authHeader = .ok token →
      lib.verify token s.config.jwtSecret = true →
      ∃ r ∈ s.registered, r.token = token ∧ r.config.jwtSecret = s.config.jwtSecret
  | _ => True

end ApiState

/-- The first instant at which the token has expired. -/
def Registered.expiry (r : Registered) : Int :=
  newNumericDate (r.expiresFrom + r.config.getJwtDuration) * Duration.second

/-- The header is the word `Bearer`, in letters of either case, a blank and the token. -/
def Presents (authHeader token : String) : Prop :=
  ∃ scheme, scheme.map Strings.toLower = "bearer".toList ∧ ' ' ∉ token.toList ∧
    authHeader.toList = scheme ++ ' ' :: token.toList

theorem presents_bearer {token : String} (hunspaced : ' ' ∉ token.toList) :
    Presents ("bearer " ++ token) token := by
  have hscheme : "bearer ".toList = "bearer".toList ++ [' '] := by simp
  refine ⟨"bearer".toList, by decide +kernel, hunspaced, ?_⟩
  rw [String.toList_append, hscheme, List.append_assoc]
  rfl

/-- The registration opens the account to a request with the header at the instant `now`. -/
structure Registered.Opens (r : Registered) (config : AuthConfig) (authHeader : String)
    (now : Int) (phoneNumber : String) : Prop where
  allowed : r.request.secretKey = r.config.basicAuthSecretKey
  named : r.request.phoneNumber = phoneNumber
  accepted : Accepted phoneNumber
  signed : r.config.jwtSecret = config.jwtSecret
  issued : r.config.jwtIssuer = config.jwtIssuer
  presented : Presents authHeader r.token
  alive : now < r.expiry

/-! ### What a token is worth -/

section Headers

variable {authHeader token : String} {scheme : List Char}

theorem blank_not_mem_scheme (h : scheme.map Strings.toLower = "bearer".toList) : ' ' ∉ scheme := by
  intro hmem
  have hlower : Strings.toLower ' ' ∈ "bearer".toList := h ▸ List.mem_map_of_mem hmem
  revert hlower
  decide

theorem extractBearerToken_ok :
    extractBearerToken authHeader = .ok token ↔ Presents authHeader token := by
  constructor
  · intro hok
    unfold extractBearerToken at hok
    split_ifs at hok with hempty
    split at hok
    · next scheme chars hsplit =>
      split_ifs at hok with hscheme
      obtain rfl := Except.ok.inj hok
      obtain ⟨htext, -, hchars⟩ := splitOn_eq_pair.mp hsplit
      refine ⟨scheme, hscheme, ?_, ?_⟩
      · rwa [String.toList_ofList]
      · rwa [String.toList_ofList]
    · cases hok
  · rintro ⟨scheme, hscheme, htoken, htext⟩
    have hsplit : authHeader.toList.splitOn ' ' = [scheme, token.toList] :=
      splitOn_eq_pair.mpr ⟨htext, blank_not_mem_scheme hscheme, htoken⟩
    have hsome : authHeader ≠ "" := by
      rintro rfl
      simp at htext
    rw [extractBearerToken, if_neg hsome, hsplit]
    simp only [if_pos hscheme, String.ofList_toList]

end Headers

section Tokens

variable {lib : JwtLibrary} {cfg config : AuthConfig} {req : RegistrationRequest} {r : Registered}
  {m : JWTManager} {token authHeader phoneNumber : String} {now later : Int}

theorem registerToken_ok :
    registerToken lib cfg req now later = .ok token ↔
      req.secretKey = cfg.basicAuthSecretKey ∧
        cfg.provideJWTManager.generateTokens lib req.phoneNumber now later = some token := by
  unfold registerToken register
  by_cases hkey : req.secretKey = cfg.basicAuthSecretKey
  · rw [if_neg (not_not.mpr hkey), ok_bind]
    simp only [hkey, true_and]
    cases cfg.provideJWTManager.generateTokens lib req.phoneNumber now later with
    | none => simp
    | some generated => simp [pure, Except.pure]
  · rw [if_pos hkey]
    exact iff_of_false nofun fun h => hkey h.1

/-- The registration knew the secret key, and its token is the one that was generated. -/
structure Registered.Sound (lib : JwtLibrary) (r : Registered) : Prop where
  allowed : r.request.secretKey = r.config.basicAuthSecretKey
  generated : r.config.provideJWTManager.generateTokens lib r.request.phoneNumber r.issuedAt
    r.expiresFrom = some r.token

theorem jwtDuration_bounds (cfg : AuthConfig) :
    60 * Duration.second ≤ cfg.getJwtDuration ∧
      cfg.getJwtDuration ≤ Config.maxJWTDurationMinutes * (60 * Duration.second) := by
  unfold AuthConfig.getJwtDuration Config.normalize Config.maxJWTDurationMinutes Duration.second
  simp only
  split_ifs <;> omega

/-- A token lasts, and never longer than a year. -/
theorem Registered.expiry_bounds (r : Registered) :
    r.expiresFrom < r.expiry ∧
      r.expiry ≤ r.expiresFrom + Config.maxJWTDurationMinutes * (60 * Duration.second) := by
  obtain ⟨hleast, hmost⟩ := jwtDuration_bounds r.config
  unfold Registered.expiry newNumericDate
  unfold Config.maxJWTDurationMinutes Duration.second at *
  omega

/-- The library accepts the signature of a token under its own key, and then its dates decide. -/
theorem parse_registered (hr : r.Sound lib) :
    parseWithClaims lib r.config.jwtSecret now r.token =
      if r.expiry ≤ now then .error (.invalidClaims true false)
      else .ok (r.config.provideJWTManager.claims r.request.phoneNumber r.issuedAt
        r.expiresFrom) := by
  have hparse := lib.parse_signed hr.generated
  have hverify : lib.verify r.token r.config.jwtSecret = true := lib.verify_signed hr.generated
  simp only [parseWithClaims, hparse, hverify]
  by_cases hexpired : r.expiry ≤ now
  · have hdate : newNumericDate (r.expiresFrom + r.config.getJwtDuration) * Duration.second ≤ now :=
      hexpired
    simp [JWTManager.claims, AuthConfig.provideJWTManager, hexpired, hdate]
  · have hdate :
        ¬newNumericDate (r.expiresFrom + r.config.getJwtDuration) * Duration.second ≤ now :=
      hexpired
    simp [JWTManager.claims, AuthConfig.provideJWTManager, hexpired, hdate]

theorem validate_registered (hr : r.Sound lib) (hkey : r.config.jwtSecret = m.secretKey) :
    m.validateToken lib now r.token =
      if r.expiry ≤ now then .error .tokenExpired
      else (Usecase.validateToken m.issuer
        ⟨r.request.phoneNumber, r.config.jwtIssuer⟩).mapError .rejected := by
  rw [JWTManager.validateToken, ← hkey, parse_registered hr]
  split_ifs
  · rfl
  · rfl

/-- A token whose signature is not good is invalid, expired or not. -/
theorem validate_unverified (hverify : lib.verify token m.secretKey = false) :
    m.validateToken lib now token = .error (.rejected .tokenInvalid) := by
  unfold JWTManager.validateToken parseWithClaims
  cases lib.parseUnverified token with
  | none => rfl
  | some parsed =>
    obtain ⟨hmac, claims⟩ := parsed
    cases hmac with
    | false => rfl
    | true => simp [hverify]

theorem validateToken_mapError_ok {issuer : String} {claims : AuthClaims} :
    (Usecase.validateToken issuer claims).mapError ValidationError.rejected = .ok phoneNumber ↔
      claims.issuer = issuer ∧ claims.phoneNumber = phoneNumber ∧ Accepted phoneNumber := by
  unfold Usecase.validateToken
  rw [accepted_iff]
  split_ifs with hissuer hempty
  · exact iff_of_false nofun fun h => hissuer h.1
  · refine iff_of_false nofun fun h => ?_
    exact h.2.2 (h.2.1 ▸ hempty)
  · rw [not_not] at hissuer
    simp only [Except.mapError, Except.ok.injEq, hissuer, true_and]
    constructor
    · rintro rfl
      exact ⟨rfl, hempty⟩
    · exact fun h => h.1

theorem jwtAuthentication_next :
    jwtAuthentication lib m authHeader now = .next phoneNumber ↔
      ∃ token, Presents authHeader token ∧ m.validateToken lib now token = .ok phoneNumber := by
  simp only [← extractBearerToken_ok]
  unfold jwtAuthentication
  cases extractBearerToken authHeader with
  | error message => simp
  | ok token =>
    cases hvalid : m.validateToken lib now token with
    | error err => simp [hvalid]
    | ok phone => simp [hvalid]

theorem message_expired (err : ValidationError) :
    err.message = "Token has expired" ↔ err = .tokenExpired := by
  cases err with
  | tokenExpired => exact iff_of_true rfl rfl
  | rejected err =>
    cases err with
    | tokenInvalid => exact iff_of_false (by decide) nofun
    | missingClaims => exact iff_of_false (by decide) nofun

theorem jwtAuthentication_expired :
    jwtAuthentication lib m authHeader now = .unauthorized "Token has expired" ↔
      ∃ token, Presents authHeader token ∧
        m.validateToken lib now token = .error .tokenExpired := by
  simp only [← extractBearerToken_ok]
  unfold jwtAuthentication
  cases hextract : extractBearerToken authHeader with
  | error message =>
    have hother : message ≠ "Token has expired" := by
      unfold extractBearerToken at hextract
      rintro rfl
      split_ifs at hextract
      · exact absurd (Except.error.inj hextract) (by decide)
      · split at hextract
        · split_ifs at hextract
          exact absurd (Except.error.inj hextract) (by decide)
        · exact absurd (Except.error.inj hextract) (by decide)
    simp [hother]
  | ok token =>
    cases hvalid : m.validateToken lib now token with
    | error err => simp [hvalid, message_expired]
    | ok phone => simp [hvalid]

end Tokens

/-! ### Who acts on an account -/

section Runs

variable {lib : JwtLibrary} {config : AuthConfig} {s s' : ApiState} {event : ApiEvent}
  {events : List ApiEvent} {r : Registered} {authHeader phoneNumber : String} {now : Int}

open ApiState

theorem newlyRegistered_sound {ip : String} {body : Option RegistrationRequest}
    {now later issuedAt expiresFrom : Int}
    (hr : r ∈ s.newlyRegistered lib ip body now later issuedAt expiresFrom) : r.Sound lib := by
  unfold newlyRegistered at hr
  split at hr
  · next req token hreply =>
    obtain rfl := List.mem_singleton.mp hr
    unfold registerReply at hreply
    split at hreply
    · cases hreply
    · simp only at hreply
      split at hreply
      · cases hreply
      next generated hgenerated =>
      obtain rfl := RegisterReply.created.inj hreply
      obtain ⟨hkey, htoken⟩ := registerToken_ok.mp hgenerated
      exact ⟨hkey, htoken⟩
  · cases hr

theorem step_sound (hstep : s.step lib event = some s') (hs : ∀ r ∈ s.registered, r.Sound lib) :
    ∀ r ∈ s'.registered, r.Sound lib := by
  cases event with
  | register ip body now later issuedAt expiresFrom =>
    simp only [ApiState.step] at hstep
    split_ifs at hstep
    obtain rfl := Option.some.inj hstep
    intro r hr
    rcases List.mem_append.mp hr with hnew | hold
    · exact newlyRegistered_sound hnew
    · exact hs r hold
  | request authHeader now =>
    obtain rfl := Option.some.inj hstep
    exact hs
  | restart config =>
    obtain rfl := Option.some.inj hstep
    exact hs

theorem run_sound (hrun : Run (step lib) (Unforged lib) (.start config) events s) :
    ∀ r ∈ s.registered, r.Sound lib := by
  have hstart : ∀ r ∈ (ApiState.start config).registered, r.Sound lib := by
    intro r hr
    cases hr
  apply hrun.invariant hstart
  intro s event s' _ hstep hs
  exact step_sound hstep hs

/-- A presented token that is not rejected outright was given to a registration under the
present key. -/
theorem presented_registered {token : String} (hunforged : s.Unforged lib (.request authHeader now))
    (hpresented : Presents authHeader token)
    (hvalid : s.config.provideJWTManager.validateToken lib now token ≠
      .error (.rejected .tokenInvalid)) :
    ∃ r ∈ s.registered, r.token = token ∧ r.config.jwtSecret = s.config.jwtSecret := by
  apply hunforged token (extractBearerToken_ok.mpr hpresented)
  by_contra hverify
  exact hvalid (validate_unverified (Bool.not_eq_true _ ▸ hverify))

theorem validate_ok (hr : r.Sound lib) (hkey : r.config.jwtSecret = s.config.jwtSecret) :
    s.config.provideJWTManager.validateToken lib now r.token = .ok phoneNumber ↔
      now < r.expiry ∧ r.config.jwtIssuer = s.config.jwtIssuer ∧
        r.request.phoneNumber = phoneNumber ∧ Accepted phoneNumber := by
  rw [validate_registered hr hkey]
  split_ifs with hexpired
  · exact iff_of_false nofun fun h => absurd hexpired (not_le.mpr h.1)
  · rw [validateToken_mapError_ok]
    simp only [not_le.mp hexpired, true_and]
    exact Iff.rfl

theorem validate_expired (hr : r.Sound lib) (hkey : r.config.jwtSecret = s.config.jwtSecret) :
    s.config.provideJWTManager.validateToken lib now r.token = .error .tokenExpired ↔
      r.expiry ≤ now := by
  rw [validate_registered hr hkey]
  split_ifs with hexpired
  · exact iff_of_true rfl hexpired
  · refine iff_of_false ?_ hexpired
    cases Usecase.validateToken s.config.provideJWTManager.issuer
        ⟨r.request.phoneNumber, r.config.jwtIssuer⟩ with
    | error err => exact nofun
    | ok phone => exact nofun

section Sample

def sampleTime : Int := 1750000000 * Duration.second

def sampleClaims : TokenClaims :=
  (AuthConfig.provideJWTManager {}).claims "6281234567890" (sampleTime + 25) (sampleTime + 40)

/-- These claims as they are signed with the key `secret`. -/
def sampleToken : String :=
  "eyJhbGciOiJIUzI1NiIsInR5cCI6IkpXVCJ9." ++
  "eyJwaG9uZV9udW1iZXIiOiI2MjgxMjM0NTY3ODkwIiwiaXNzIjoid2hhdHNhcHAtZ2F0ZXdheSIsInN1" ++
  "YiI6IjYyODEyMzQ1Njc4OTAiLCJleHAiOjE3NTAwODY0MDAsImlhdCI6MTc1MDAwMDAwMH0." ++
  "YC3n3XI5M12ezSScj0unkjVIPpjTSE2NFe69gnouubA"

theorem sampleToken_unspaced : ' ' ∉ sampleToken.toList := by
  unfold sampleToken
  simp only [String.toList_append, List.mem_append, not_or]
  exact ⟨⟨⟨by decide +kernel, by decide +kernel⟩, by decide +kernel⟩, by decide +kernel⟩

/-- A library that knows this token only. -/
def sampleLibrary : JwtLibrary where
  signedString key claims :=
    if key = "secret" ∧ claims = sampleClaims then some sampleToken else none
  parseUnverified token := if token = sampleToken then some (true, sampleClaims) else none
  verify token key := token = sampleToken ∧ key = "secret"
  parse_signed h := by
    split_ifs at h with hsigned
    obtain rfl := Option.some.inj h
    rw [if_pos rfl, hsigned.2]
  verify_signed h := by
    split_ifs at h with hsigned
    obtain rfl := Option.some.inj h
    exact decide_eq_true ⟨rfl, hsigned.1⟩

/-- A registration, and a restart with the same configuration. -/
def sampleEvents : List ApiEvent :=
  [.register "203.0.113.7" (some ⟨"6281234567890", "secret"⟩) (sampleTime + 5) (sampleTime + 10)
    (sampleTime + 25) (sampleTime + 40), .restart {}]

def sampleState : ApiState := final (step sampleLibrary) (.start {}) sampleEvents

def sampleRegistered : Registered :=
  ⟨{}, ⟨"6281234567890", "secret"⟩, sampleTime + 25, sampleTime + 40, sampleToken⟩

end Sample

end Runs

/-! ### When a refused registration is to come again -/

/-- Another registration does not come from the address. -/
def Quiet (ip : String) (_ : ApiState) : ApiEvent → Prop
  | .register other _ _ _ _ _ => other ≠ ip
  | _ => True

/-- Nor is the gateway restarted. -/
def Undisturbed (ip : String) (s : ApiState) (event : ApiEvent) : Prop :=
  Quiet ip s event ∧ ∀ config, event ≠ .restart config

/-- A registration from the address is not refused at the instant `retried`. -/
def Admits (lib : JwtLibrary) (ip : String) (s : ApiState) (retried : Int) : Prop :=
  ∀ body later issuedAt expiresFrom seconds,
    s.registerReply lib ip body retried later issuedAt expiresFrom ≠ .tooManyRequests seconds

/-- It is. -/
def Refuses (lib : JwtLibrary) (ip : String) (s : ApiState) (retried : Int) : Prop :=
  ∀ body later issuedAt expiresFrom, ∃ seconds,
    s.registerReply lib ip body retried later issuedAt expiresFrom = .tooManyRequests seconds

section Retries

variable {lib : JwtLibrary} {cfg : AuthConfig} {s s' : ApiState} {event : ApiEvent}
  {windows : Windows} {entry : MemoryEntry} {ip other : String} {body : Option RegistrationRequest}
  {now later issuedAt expiresFrom retried seconds : Int}

/-- The window of the address has room for a registration. -/
def Room (cfg : AuthConfig) (windows : Windows) (ip : String) (now : Int) : Prop :=
  (cfg.registerLimiter.current (windows (cfg.registerLimiter.keyPrefix ++ ip)) now).count + 1 ≤
    cfg.registerLimiter.limit

theorem one_le_registerLimit (cfg : AuthConfig) : 1 ≤ cfg.registerLimiter.limit := by
  unfold AuthConfig.registerLimiter
  simp only
  split_ifs <;> omega

theorem limitRegister_eq_some :
    (limitRegister cfg windows ip now later).2 = some seconds ↔
      cfg.registerRateLimitEnabled = true ∧ ¬Room cfg windows ip now ∧
        retryAfterSeconds (cfg.registerLimiter.allowN windows ip 1 now later).2 = seconds := by
  have hroom : (cfg.registerLimiter.allowN windows ip 1 now later).2.allowed = true ↔
      Room cfg windows ip now := MemoryLimiter.allowN_allowed
  rw [← hroom]
  unfold limitRegister
  by_cases henabled : cfg.registerRateLimitEnabled = true
  · rw [if_neg (not_not.mpr henabled)]
    dsimp only
    split_ifs with hallowed
    · exact iff_of_false nofun fun h => h.2.1 hallowed
    · rw [Option.some.injEq]
      exact ⟨fun h => ⟨henabled, hallowed, h⟩, fun h => h.2.2⟩
  · rw [if_pos henabled]
    exact iff_of_false nofun fun h => henabled h.1

theorem registerReply_tooMany :
    s.registerReply lib ip body now later issuedAt expiresFrom = .tooManyRequests seconds ↔
      (limitRegister s.config s.windows ip now later).2 = some seconds := by
  unfold ApiState.registerReply
  cases (limitRegister s.config s.windows ip now later).2 with
  | some retryAfter => simp
  | none =>
    refine iff_of_false ?_ nofun
    cases body with
    | none => exact nofun
    | some req =>
      dsimp only
      cases registerToken lib s.config req issuedAt expiresFrom with
      | error err => exact nofun
      | ok token => exact nofun

theorem admits_iff :
    Admits lib ip s retried ↔
      (s.config.registerRateLimitEnabled = true → Room s.config s.windows ip retried) := by
  simp only [Admits, ne_eq, registerReply_tooMany, limitRegister_eq_some]
  constructor
  · intro hadmits henabled
    by_contra hfull
    exact hadmits none retried retried retried _ ⟨henabled, hfull, rfl⟩
  · rintro hroom - later - - seconds ⟨henabled, hfull, -⟩
    exact hfull (hroom henabled)

theorem refuses_iff :
    Refuses lib ip s retried ↔
      s.config.registerRateLimitEnabled = true ∧ ¬Room s.config s.windows ip retried := by
  simp only [Refuses, registerReply_tooMany, limitRegister_eq_some]
  constructor
  · intro hrefuses
    obtain ⟨seconds, henabled, hfull, -⟩ := hrefuses none retried retried retried
    exact ⟨henabled, hfull⟩
  · rintro ⟨henabled, hfull⟩ body later issuedAt expiresFrom
    exact ⟨_, henabled, hfull, rfl⟩

/-- The windows of a gateway that has just been started have room. -/
theorem room_init : Room cfg MemoryLimiter.init ip now := by
  have hlimit := one_le_registerLimit cfg
  simpa [Room, MemoryLimiter.init, MemoryLimiter.current_none] using hlimit

/-- A registration from elsewhere leaves the window of the address alone. -/
theorem limitRegister_frame (hother : other ≠ ip) :
    (limitRegister cfg windows other now later).1 (cfg.registerLimiter.keyPrefix ++ ip) =
      windows (cfg.registerLimiter.keyPrefix ++ ip) := by
  unfold limitRegister
  split_ifs
  · exact MemoryLimiter.allowN_frame hother
  · rfl

theorem room_frame (hother : other ≠ ip) :
    Room cfg (limitRegister cfg windows other now later).1 ip retried ↔
      Room cfg windows ip retried := by
  unfold Room
  rw [limitRegister_frame hother]

theorem quiet_admits (hquiet : Quiet ip s event) (hstep : s.step lib event = some s')
    (hadmits : Admits lib ip s retried) : Admits lib ip s' retried := by
  rw [admits_iff] at hadmits ⊢
  cases event with
  | register other body now later issuedAt expiresFrom =>
    simp only [ApiState.step] at hstep
    split_ifs at hstep
    obtain rfl := Option.some.inj hstep
    intro henabled
    exact (room_frame hquiet).mpr (hadmits henabled)
  | request authHeader now =>
    obtain rfl := Option.some.inj hstep
    exact hadmits
  | restart config =>
    obtain rfl := Option.some.inj hstep
    exact fun _ => room_init

theorem undisturbed_refuses (hquiet : Undisturbed ip s event) (hstep : s.step lib event = some s')
    (hrefuses : Refuses lib ip s retried) : Refuses lib ip s' retried := by
  rw [refuses_iff] at hrefuses ⊢
  cases event with
  | register other body now later issuedAt expiresFrom =>
    simp only [ApiState.step] at hstep
    split_ifs at hstep
    obtain rfl := Option.some.inj hstep
    exact ⟨hrefuses.1, (room_frame hquiet.1).not.mpr hrefuses.2⟩
  | request authHeader now =>
    obtain rfl := Option.some.inj hstep
    exact hrefuses
  | restart config => exact absurd rfl (hquiet.2 config)

/-- The whole seconds of a time, and one more, are longer than it. -/
theorem lt_wholeSeconds (time : Int) :
    time < (time.tdiv Duration.second + 1) * Duration.second := by
  have hsplit := Int.mul_tdiv_add_tmod time Duration.second
  have hrest := Int.tmod_lt_of_pos time (by decide : 0 < Duration.second)
  rw [Int.add_mul, one_mul, Int.mul_comm (time.tdiv Duration.second)]
  omega

theorem wholeSeconds_le {time : Int} (hsome : 0 < time.tdiv Duration.second) :
    time.tdiv Duration.second * Duration.second ≤ time := by
  have hsplit := Int.mul_tdiv_add_tmod time Duration.second
  have hleast := Int.lt_tmod_of_pos time (by decide : 0 < Duration.second)
  have hpos : 0 ≤ time := by
    have hone := Int.mul_le_mul_of_nonneg_left hsome (by decide : 0 ≤ Duration.second)
    omega
  have hrest := Int.tmod_nonneg Duration.second hpos
  rw [Int.mul_comm]
  omega

/-- After a refusal there is room once the window has ended, and the header tells when that is. -/
theorem refused_window (hrefused : s.registerReply lib ip body now later issuedAt expiresFrom =
      .tooManyRequests seconds)
    (hstep : s.step lib (.register ip body now later issuedAt expiresFrom) = some s') :
    ∃ ends, seconds = (ends - later).tdiv Duration.second + 1 ∧
      s'.config.registerRateLimitEnabled = true ∧
      ∀ retried, Room s'.config s'.windows ip retried ↔ ends < retried := by
  obtain ⟨henabled, hfull, hseconds⟩ :=
    limitRegister_eq_some.mp (registerReply_tooMany.mp hrefused)
  have hlimit := one_le_registerLimit s.config
  have hdenied : (s.config.registerLimiter.allowN s.windows ip 1 now later).2.allowed = false := by
    rwa [← Bool.not_eq_true, MemoryLimiter.allowN_allowed]
  obtain ⟨entry, hentry, hrunning, hcount⟩ := MemoryLimiter.denied_running hlimit hdenied
  have hdeny : s.config.registerLimiter.allowN s.windows ip 1 now later = _ :=
    MemoryLimiter.allowN_denied (not_le.mp hfull)
  rw [hentry, MemoryLimiter.current_of_running hrunning] at hdeny
  simp only [ApiState.step] at hstep
  split_ifs at hstep
  obtain rfl := Option.some.inj hstep
  refine ⟨entry.expiresAt, ?_, henabled, fun retried => ?_⟩
  · rw [← hseconds, hdeny, retryAfterSeconds]
  · have hleft : (limitRegister s.config s.windows ip now later).1 =
        Function.update s.windows (s.config.registerLimiter.keyPrefix ++ ip) (some entry) := by
      rw [limitRegister, if_neg (not_not.mpr henabled), hdeny]
    rw [hleft]
    exact MemoryLimiter.grants_iff.symm.trans
      (MemoryLimiter.grants_after hlimit hcount (Function.update_self ..))

/-- The header of a refused registration is right to the second. A client that waits as long as
it says is not refused again, whatever happens before it comes back, as long as no registration
from its own address does; and one that comes more than a second too early is refused again,
unless the gateway is restarted. -/
theorem refused_registration_retry
    (hrefused : s.registerReply lib ip body now later issuedAt expiresFrom =
      .tooManyRequests seconds)
    (hstep : s.step lib (.register ip body now later issuedAt expiresFrom) = some s') :
    Honest (ApiState.step lib) (Quiet ip) (Admits lib ip) s'
        (later + seconds * Duration.second) ∧
      (2 ≤ seconds → ∀ events t retried, Run (ApiState.step lib) (Undisturbed ip) s' events t →
        retried ≤ later + (seconds - 1) * Duration.second → Refuses lib ip t retried) := by
  obtain ⟨ends, hseconds, henabled, hroom⟩ := refused_window hrefused hstep
  constructor
  · rw [honest_iff fun _ _ _ _ => quiet_admits]
    intro retried hdue
    rw [admits_iff, hroom]
    have hlonger := lt_wholeSeconds (ends - later)
    rw [← hseconds] at hlonger
    omega
  · intro htwo events t retried hrun hearly
    have hshorter := wholeSeconds_le (by omega : 0 < (ends - later).tdiv Duration.second)
    rw [eq_sub_of_add_eq hseconds.symm] at hshorter
    have hstart : Refuses lib ip s' retried := by
      rw [refuses_iff, hroom]
      exact ⟨henabled, by omega⟩
    apply hrun.invariant hstart
    intro s event s' hquiet hstep
    exact undisturbed_refuses hquiet hstep

section Sample

/-- One registration a minute. -/
def sampleConfig : AuthConfig := { registerRateLimitRequests := 1 }

def sampleRegister (now : Int) : ApiEvent :=
  .register "203.0.113.7" none now (now + 100) (now + 200) (now + 300)

def attemptedState : ApiState :=
  final (ApiState.step sampleLibrary) (.start sampleConfig) [sampleRegister 0]

def refusedState : ApiState :=
  final (ApiState.step sampleLibrary) attemptedState [sampleRegister 500]

/-- The second attempt is refused for another 60 seconds. -/
theorem refused_registration_retry_minute :
    Honest (ApiState.step sampleLibrary) (Quiet "203.0.113.7")
      (Admits sampleLibrary "203.0.113.7") refusedState (600 + 60 * Duration.second) := by
  have hrefused : attemptedState.registerReply sampleLibrary "203.0.113.7" none 500 600 700 800 =
      .tooManyRequests 60 := by decide +kernel
  have hexec : exec (ApiState.step sampleLibrary) attemptedState [sampleRegister 500] =
      some refusedState := exec_eq_final (by decide +kernel)
  have hstep : attemptedState.step sampleLibrary (sampleRegister 500) = some refusedState :=
    (Option.bind_fun_some _).symm.trans hexec
  exact (refused_registration_retry hrefused hstep).1

end Sample

end Retries

end WhatsappGateway.Middleware
