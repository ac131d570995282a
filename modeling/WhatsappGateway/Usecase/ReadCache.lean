import WhatsappGateway.Lib.Run
import WhatsappGateway.Ratelimiter.Limiters
import WhatsappGateway.Usecase.GroupRequests

/-!
The reads that ask the WhatsApp server. They share one cache, and a read that misses it
spends a token of its account before it asks. Reads of any accounts run at the same time:
the lookup, the budget, the call and the insertion of one read are separate steps.
-/

namespace WhatsappGateway.Usecase

open Lib SendMessage

structure RegistrationRequest where
  phoneNumber : String
  secretKey : String
deriving DecidableEq, Repr

structure AuthClaims where
  phoneNumber : String
  issuer : String
deriving DecidableEq, Repr

/-- The claims of the token which a registration gives. The binding tags of the request
are not evaluated: its body is only decoded. -/
def register (basicAuthSecretKey issuer : String) (req : RegistrationRequest) :
    Except Fault AuthClaims :=
  if req.secretKey ≠ basicAuthSecretKey then .error (.forbidden "invalid secret key")
  else .ok ⟨req.phoneNumber, issuer⟩

inductive TokenError where
  | tokenInvalid
  | missingClaims
deriving DecidableEq, Repr

/-- What is checked of a token whose signature and expiry are in order. -/
def validateToken (issuer : String) (claims : AuthClaims) : Except TokenError String :=
  if claims.issuer ≠ issuer then .error .tokenInvalid
  else if claims.phoneNumber = "" then .error .missingClaims
  else .ok claims.phoneNumber

/-- A phone number that a registered token carries into the reads. -/
def Accepted (phoneNumber : String) : Prop :=
  ∃ secretKey issuer req claims, register secretKey issuer req = .ok claims ∧
    validateToken issuer claims = .ok phoneNumber

theorem accepted_iff (phoneNumber : String) : Accepted phoneNumber ↔ phoneNumber ≠ "" := by
  constructor
  · rintro ⟨secretKey, issuer, req, claims, -, hvalid⟩
    unfold validateToken at hvalid
    split at hvalid
    · cases hvalid
    · split at hvalid
      · cases hvalid
      next hsome =>
      obtain rfl := Except.ok.inj hvalid
      exact hsome
  · intro hsome
    exact ⟨"", "", ⟨phoneNumber, ""⟩, ⟨phoneNumber, ""⟩, rfl, by simp [validateToken, hsome]⟩

/-- An account: a phone number which registration and the token check accept. -/
abbrev Account := { phoneNumber : String // Accepted phoneNumber }

/-- The types of the cached responses. -/
inductive ResponseType where
  | groupList
  | groupInfo
  | subGroupList
  | communityParticipants
  | contactInfo
  | avatar
  | groupJoinRequests
deriving DecidableEq, Repr

inductive Query where
  | listGroups
  | getGroupInfo (chat : String)
  | listSubGroups (chat : String)
  | listCommunityParticipants (chat : String)
  | getContactInfo (chat msisdn : String)
  | getAvatar (chat msisdn : String) (preview : Bool) (existingID : String)
  | getGroupInviteInfo (code : String)
  | listJoinRequests (chat msisdn : String)
deriving DecidableEq, Repr

def Query.responseType : Query → ResponseType
  | .listGroups => .groupList
  | .getGroupInfo _ | .getGroupInviteInfo _ => .groupInfo
  | .listSubGroups _ => .subGroupList
  | .listCommunityParticipants _ => .communityParticipants
  | .getContactInfo .. => .contactInfo
  | .getAvatar .. => .avatar
  | .listJoinRequests .. => .groupJoinRequests

/-- The code of an invite preview. -/
def inviteCode (cfg : GroupConfig) (code : String) : Except Fault String := do
  requireGroupManagement cfg
  let code := trimSpace code
  if code = "" then .error (.domain (badRequest "code is required"))
  else return code

/-- The key under which a read is cached. An avatar's freshness check bypasses the cache. -/
def Query.cacheKey (env : Env) (cfg : GroupConfig) (phoneNumber : String) :
    Query → Except Fault (Option String)
  | .listGroups => .ok (some ("groups:" ++ phoneNumber))
  | .getGroupInfo chat => do
    let target ← resolveGroupJID env chat ""
    return some ("groupinfo:" ++ phoneNumber ++ ":" ++ target)
  | .listSubGroups chat => do
    let target ← resolveGroupJID env chat ""
    return some ("subgroups:" ++ phoneNumber ++ ":" ++ target)
  | .listCommunityParticipants chat => do
    let target ← resolveGroupJID env chat ""
    return some ("communityparts:" ++ phoneNumber ++ ":" ++ target)
  | .getContactInfo chat msisdn => do
    let target ← resolveTarget env chat msisdn
    if hasGroupServer target then
      .error (.domain (badRequest ("chat must be a user, not a group: " ++ env.quote target)))
    else return some ("contactinfo:" ++ phoneNumber ++ ":" ++ target)
  | .getAvatar chat msisdn preview existingID => do
    let target ← resolveTarget env chat msisdn
    if existingID ≠ "" then return none
    else return some ("avatar:" ++ phoneNumber ++ ":" ++ target ++ ":" ++ toString preview)
  | .getGroupInviteInfo code => do
    let code ← inviteCode cfg code
    return some ("inviteinfo:" ++ phoneNumber ++ ":" ++ code)
  | .listJoinRequests chat msisdn => do
    requireGroupManagement cfg
    let target ← resolveGroupJID env chat msisdn
    return some ("joinreqs:" ++ phoneNumber ++ ":" ++ target)

/-- A cached response, and (which the source does not record) the account whose read put
it there. -/
structure CacheEntry (V : Type) where
  val : V
  type : ResponseType
  expiresAt : Int
  cachedBy : Account

abbrev TTLCache (V : Type) := String → Option (CacheEntry V)

/-- The time for which responses are cached. -/
def newTTL (ttl : Int) : Int := if ttl ≤ 0 then 300 * Duration.second else ttl

def TTLCache.get {V : Type} (cache : TTLCache V) (key : String) (now : Int) :
    Option (CacheEntry V) :=
  (cache key).filter fun entry => !(now > entry.expiresAt)

def TTLCache.set {V : Type} (cache : TTLCache V) (key : String) (entry : CacheEntry V) :
    TTLCache V :=
  Function.update cache key (some entry)

/-- `cached` and `fresh` are reads that have returned a value. -/
inductive ReadPhase (V : Type) where
  | missed (key : Option String)
  | allowed (key : Option String)
  | fetched (key : String) (val : V)
  | cached (val : V) (cachedBy : Account)
  | fresh (val : V)
  | failed (err : Fault)

structure Read (V : Type) where
  account : Account
  query : Query
  phase : ReadPhase V

structure ReadState (V : Type) where
  cache : TTLCache V
  reads : Nat → Option (Read V)

namespace ReadState

variable {V : Type}

def init (V : Type) : ReadState V where
  cache := fun _ => none
  reads := fun _ => none

def setRead (s : ReadState V) (i : Nat) (read : Read V) : ReadState V :=
  { s with reads := Function.update s.reads i (some read) }

end ReadState

inductive ReadAction (V : Type) where
  | lookUp (i : Nat) (account : Account) (query : Query) (now : Int)
  | spend (i : Nat) (res : Except String Ratelimiter.Result)
  | call (i : Nat) (res : Except String V)
  | store (i : Nat) (now : Int)

/-- A limiter that fails lets the read through. -/
def spendReadBudget (res : Except String Ratelimiter.Result) : Except Fault Unit :=
  match res with
  | .error _ => .ok ()
  | .ok res =>
    if res.allowed then .ok ()
    else .error (.tooManyRequests ("read query budget exceeded; retry after " ++
      toString (res.retryAfter.tdiv Duration.second + 1) ++ "s"))

/-- What a read does first: it is turned away, it is served from the cache, or it misses.
An entry of another type is a miss. -/
def lookUp {V : Type} (env : Env) (cfg : GroupConfig) (cache : TTLCache V) (account : Account)
    (query : Query) (now : Int) : ReadPhase V :=
  match query.cacheKey env cfg account.1 with
  | .error err => .failed err
  | .ok none => .missed none
  | .ok (some key) =>
    match cache.get key now with
    | none => .missed (some key)
    | some entry =>
      if entry.type = query.responseType then .cached entry.val entry.cachedBy
      else .missed (some key)

def readStep {V : Type} (env : Env) (cfg : GroupConfig) (ttl : Int) (s : ReadState V) :
    ReadAction V → Option (ReadState V)
  | .lookUp i account query now =>
    match s.reads i with
    | some _ => none
    | none => some (s.setRead i ⟨account, query, lookUp env cfg s.cache account query now⟩)
  | .spend i res =>
    match s.reads i with
    | some ⟨account, query, .missed key⟩ =>
      match spendReadBudget res with
      | .ok () => some (s.setRead i ⟨account, query, .allowed key⟩)
      | .error err => some (s.setRead i ⟨account, query, .failed err⟩)
    | _ => none
  | .call i res =>
    match s.reads i with
    | some ⟨account, query, .allowed key⟩ =>
      match res, key with
      -- only a success is cached
      | .error err, _ => some (s.setRead i ⟨account, query, .failed (.failed err)⟩)
      | .ok val, none => some (s.setRead i ⟨account, query, .fresh val⟩)
      | .ok val, some key => some (s.setRead i ⟨account, query, .fetched key val⟩)
    | _ => none
  | .store i now =>
    match s.reads i with
    | some ⟨account, query, .fetched key val⟩ =>
      let entry := ⟨val, query.responseType, now + newTTL ttl, account⟩
      some { (s.setRead i ⟨account, query, .fresh val⟩) with cache := s.cache.set key entry }
    | _ => none

end WhatsappGateway.Usecase
