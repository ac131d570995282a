import Mathlib.Algebra.Order.Group.Int
import Mathlib.Data.List.Infix
import WhatsappGateway.Lib.Expiring
import WhatsappGateway.Lib.Query
import WhatsappGateway.Lib.Run

/-!
The sessions of the documentation's console: a login hands out a token, which opens the pages
below the base path for 24 hours. Requests are served concurrently. One that comes without a
session is answered some time after its cookie was looked up, and a sweep removes the expired
sessions in between.

A visitor who is sent to the login page is to end up on the page that was asked for, however
often the password was wrong. The page's script takes part in that, so it is modelled too.
-/

namespace WhatsappGateway.Middleware

open Lib
open Query (Bytes Pair parseQuery utf8)

/-- 24 hours in nanoseconds. -/
def docsSessionTTL : Int := 24 * 60 * 60 * 1000000000

structure DocumentationSession where
  sessions : String → Option Int
  username : String
  password : String

def newDocsSessionAuth (username password : String) : DocumentationSession :=
  ⟨fun _ => none, username, password⟩

/-- A reader of query strings: fiber's, or a browser's. It finds the value of a parameter in
whatever `net/url` parses. -/
structure QueryReader where
  read : List Char → String → String
  reads : ∀ {query : List Char} {pairs : List Pair} {key value : String},
    parseQuery query = some pairs → Query.get pairs (utf8 key.toList) = utf8 value.toList →
      read query key = value

/-- What the handler reads of a request. Without a cookie, `cookie` is empty. -/
structure DocsRequest where
  method : String
  path : String
  query : List Char
  cookie : String
  username : String
  password : String
deriving DecidableEq, Repr

structure SessionCookie where
  value : String
  expires : Int
deriving DecidableEq, Repr

inductive DocsReply where
  | next
  | loginPage
  | redirect (location : String) (cookie : Option SessionCookie)
deriving DecidableEq, Repr

/-- The 32 random bytes of a token. -/
abbrev TokenDraw := { bytes : Bytes // bytes.length = 32 }

def hexLower (n : Nat) : Char := Char.ofNat (if n < 10 then 48 + n else 87 + n)

def hexEncodeToString (bytes : Bytes) : String :=
  String.ofList (bytes.flatMap fun b => [hexLower (b.toNat / 16), hexLower (b.toNat % 16)])

/-- `url.QueryEscape`. -/
def queryEscape (text : String) : String := String.ofList (Query.escape (utf8 text.toList))

def loginPath (basePath : String) : String := basePath ++ "/login"

namespace DocumentationSession

def isValidSession (s : DocumentationSession) (now : Int) (token : String) : Bool :=
  match s.sessions token with
  | some expiry => now < expiry
  | none => false

def createSession (s : DocumentationSession) (now : Int) (draw : TokenDraw) :
    DocumentationSession × String :=
  let token := hexEncodeToString draw.val
  ({ s with sessions := Function.update s.sessions token (some (now + docsSessionTTL)) }, token)

/-- A tick of `cleanupExpiredSessions`. -/
def sweep (s : DocumentationSession) (now : Int) : DocumentationSession :=
  { s with
    sessions := fun token => (s.sessions token).filter fun expiry => ¬expiry < now }

end DocumentationSession

/-- A redirect that is followed stays below the base path; another one is dropped. -/
def allowedRedirect (basePath redirect : String) : String :=
  if redirect = "" then ""
  else if ¬basePath.toList <+: redirect.toList then ""
  else if "://".toList <:+: redirect.toList then ""
  else redirect

def getRedirectPath (reader : QueryReader) (req : DocsRequest) (basePath : String) : String :=
  allowedRedirect basePath (reader.read req.query "redirect")

/-- A login; the cookie's expiry is read off the clock `later` than that of the session. -/
def handleLogin (reader : QueryReader) (basePath : String) (s : DocumentationSession)
    (req : DocsRequest) (draw : TokenDraw) (now later : Int) : DocumentationSession × DocsReply :=
  if req.username = s.username ∧ req.password = s.password then
    let (s, token) := s.createSession now draw
    let redirect := getRedirectPath reader req basePath
    (s, .redirect (if redirect = "" then basePath else redirect)
      (some ⟨token, later + docsSessionTTL⟩))
  else
    let redirect := getRedirectPath reader req basePath
    let loginURL := loginPath basePath ++ "?error=1"
    (s, .redirect (if redirect ≠ "" then loginURL ++ "&redirect=" ++ queryEscape redirect
      else loginURL) none)

/-- The handler's first part: the cookie opens the page. -/
def validCookie (s : DocumentationSession) (now : Int) (req : DocsRequest) : Bool :=
  req.cookie ≠ "" && s.isValidSession now req.cookie

/-- The handler's second part. -/
def handleWithoutSession (reader : QueryReader) (basePath : String) (s : DocumentationSession)
    (req : DocsRequest) (draw : TokenDraw) (now later : Int) : DocumentationSession × DocsReply :=
  if req.method = "POST" ∧ req.path = loginPath basePath then
    handleLogin reader basePath s req draw now later
  else if req.path = loginPath basePath then (s, .loginPage)
  else (s, .redirect (loginPath basePath ++ "?redirect=" ++ queryEscape req.path) none)

/-! ### Requests that are served concurrently -/

structure DocsAnswer where
  request : DocsRequest
  time : Int
  reply : DocsReply

/-- The token that an answer hands out. -/
def DocsAnswer.token (a : DocsAnswer) : Option String :=
  match a.reply with
  | .redirect _ (some cookie) => some cookie.value
  | _ => none

/-- The sessions, the last reading of the clock, the requests whose cookie opened nothing and
that have no answer yet, and the answers, the newest first. -/
structure DocsRun where
  auth : DocumentationSession
  clock : Int
  waiting : List DocsRequest
  answers : List DocsAnswer

inductive DocsAction where
  | arrive (req : DocsRequest) (now : Int)
  | answer (req : DocsRequest) (draw : TokenDraw) (now later : Int)
  | sweep (now : Int)

namespace DocsRun

def init (username password : String) (now : Int) : DocsRun :=
  ⟨newDocsSessionAuth username password, now, [], []⟩

def step (reader : QueryReader) (basePath : String) (s : DocsRun) : DocsAction → Option DocsRun
  | .arrive req now =>
    if validCookie s.auth now req then
      some { s with clock := now, answers := ⟨req, now, .next⟩ :: s.answers }
    else some { s with clock := now, waiting := req :: s.waiting }
  | .answer req draw now later =>
    if req ∈ s.waiting then
      let (auth, reply) := handleWithoutSession reader basePath s.auth req draw now later
      some ⟨auth, now, s.waiting.erase req, ⟨req, now, reply⟩ :: s.answers⟩
    else none
  | .sweep now => some { s with auth := s.auth.sweep now, clock := now }

/-- The clock does not go back. -/
def InOrder (s : DocsRun) : DocsAction → Prop
  | .arrive _ now | .sweep now => s.clock ≤ now
  | .answer _ _ now later => s.clock ≤ now ∧ now ≤ later

instance (s : DocsRun) : ∀ a, Decidable (s.InOrder a)
  | .arrive .. | .sweep _ => inferInstanceAs (Decidable (_ ≤ _))
  | .answer .. => inferInstanceAs (Decidable (_ ∧ _))

end DocsRun

/-- The request logs in: it is sent to the login page with the user and the password. -/
structure DocsRequest.LogsIn (username password basePath : String) (req : DocsRequest) : Prop where
  method : req.method = "POST"
  path : req.path = loginPath basePath
  username : req.username = username
  password : req.password = password

/-- The tokens that were handed out, with the time of the session. -/
def logins (answers : List DocsAnswer) : List (String × Int) :=
  answers.filterMap fun a => a.token.map fun token => (token, a.time)

variable {reader : QueryReader} {basePath username password : String} {req : DocsRequest}
  {now : Int} {s t : DocsRun}

/-! ### What an answer does to the sessions -/

theorem hexEncodeToString_ne (draw : TokenDraw) : hexEncodeToString draw.val ≠ "" := by
  intro hempty
  have hlist : draw.val.flatMap (fun b => [hexLower (b.toNat / 16), hexLower (b.toNat % 16)]) = [] :=
    String.ofList_eq_empty_iff.mp hempty
  cases hbytes : draw.val with
  | nil =>
    have hlength := draw.property
    rw [hbytes] at hlength
    exact absurd hlength (by decide)
  | cons b bytes =>
    rw [hbytes, List.flatMap_cons] at hlist
    exact absurd hlist (by simp)

/-- An answer hands out a token to a login and to nothing else, and keeps it. -/
theorem handleWithoutSession_cases (reader : QueryReader) (basePath : String)
    (auth : DocumentationSession) (req : DocsRequest) (draw : TokenDraw) (now later : Int) :
    (∃ location, handleWithoutSession reader basePath auth req draw now later =
        ((auth.createSession now draw).1, .redirect location
          (some ⟨hexEncodeToString draw.val, later + docsSessionTTL⟩)) ∧
      req.LogsIn auth.username auth.password basePath) ∨
    ∃ reply, handleWithoutSession reader basePath auth req draw now later = (auth, reply) ∧
      ∀ location cookie, reply ≠ .redirect location (some cookie) := by
  unfold handleWithoutSession
  split
  next hpost =>
    unfold handleLogin
    split
    next hcreds => exact .inl ⟨_, rfl, hpost.1, hpost.2, hcreds.1, hcreds.2⟩
    next =>
      refine .inr ⟨_, rfl, fun _ _ h => ?_⟩
      cases h
  next =>
    split
    next => exact .inr ⟨_, rfl, fun _ _ h => nomatch h⟩
    next =>
      refine .inr ⟨_, rfl, fun _ _ h => ?_⟩
      cases h

theorem token_eq_none {a : DocsAnswer}
    (h : ∀ location cookie, a.reply ≠ .redirect location (some cookie)) : a.token = none := by
  unfold DocsAnswer.token
  split
  next location cookie hreply => exact absurd hreply (h location cookie)
  next => rfl

/-! ### The sessions stand for the logins -/

/-- The sessions are those of the logins that were answered, less some that have expired. -/
structure DocsInv (username password basePath : String) (s : DocsRun) : Prop where
  user : s.auth.username = username
  pass : s.auth.password = password
  remembers : Remembers docsSessionTTL s.clock (lastOf (logins s.answers)) s.auth.sessions
  sorted : (logins s.answers).Pairwise fun newer older => older.2 ≤ newer.2
  earlier : ∀ login ∈ logins s.answers, login.2 ≤ s.clock
  handed : ∀ a ∈ s.answers, ∀ token, a.token = some token →
    token ≠ "" ∧ a.request.LogsIn username password basePath

namespace DocsInv

theorem init (username password basePath : String) (now : Int) :
    DocsInv username password basePath (DocsRun.init username password now) where
  user := rfl
  pass := rfl
  remembers := .empty
  sorted := .nil
  earlier := fun _ h => nomatch h
  handed := fun _ h => nomatch h

theorem at_later (h : DocsInv username password basePath s) (hnow : s.clock ≤ now)
    (waiting : List DocsRequest) :
    DocsInv username password basePath { s with clock := now, waiting } where
  user := h.user
  pass := h.pass
  remembers := h.remembers.at_later hnow
  sorted := h.sorted
  earlier login hlogin := (h.earlier login hlogin).trans hnow
  handed := h.handed

/-- An answer without a token. -/
theorem reply (h : DocsInv username password basePath s) {a : DocsAnswer} (ha : a.token = none) :
    DocsInv username password basePath { s with answers := a :: s.answers } := by
  have hlogins : logins (a :: s.answers) = logins s.answers := by
    rw [logins, List.filterMap_cons_none (by rw [ha, Option.map_none]), logins]
  refine ⟨h.user, h.pass, ?_, ?_, ?_, ?_⟩
  · rw [hlogins]
    exact h.remembers
  · rw [hlogins]
    exact h.sorted
  · rw [hlogins]
    exact h.earlier
  · intro b hb token htoken
    rcases List.mem_cons.mp hb with rfl | hb
    · rw [ha] at htoken
      cases htoken
    · exact h.handed b hb token htoken

/-- A login's answer. -/
theorem login (h : DocsInv username password basePath s)
    (hlogs : req.LogsIn username password basePath) (draw : TokenDraw) (location : String)
    (expires : Int) :
    DocsInv username password basePath
      { s with
        auth := (s.auth.createSession s.clock draw).1
        answers := ⟨req, s.clock,
          .redirect location (some ⟨hexEncodeToString draw.val, expires⟩)⟩ :: s.answers } := by
  set a : DocsAnswer :=
    ⟨req, s.clock, .redirect location (some ⟨hexEncodeToString draw.val, expires⟩)⟩
  have hlogins : logins (a :: s.answers) =
      (hexEncodeToString draw.val, s.clock) :: logins s.answers := rfl
  refine ⟨h.user, h.pass, ?_, ?_, ?_, ?_⟩
  · rw [hlogins, lastOf_cons]
    exact h.remembers.mark (hexEncodeToString draw.val)
  · rw [hlogins]
    exact h.sorted.cons h.earlier
  · rw [hlogins, List.forall_mem_cons]
    exact ⟨le_rfl, h.earlier⟩
  · intro b hb token htoken
    rcases List.mem_cons.mp hb with rfl | hb
    · cases htoken
      exact ⟨hexEncodeToString_ne draw, hlogs⟩
    · exact h.handed b hb token htoken

theorem sweep (h : DocsInv username password basePath s) :
    DocsInv username password basePath { s with auth := s.auth.sweep s.clock } where
  user := h.user
  pass := h.pass
  remembers := by
    refine h.remembers.evict ?_ ?_
    · intro token expiry hentry
      exact (Option.filter_eq_some_iff.mp hentry).1
    · intro token expiry hentry hlive
      refine Option.filter_eq_some_iff.mpr ⟨hentry, ?_⟩
      rw [decide_eq_true_iff]
      exact hlive.not_gt
  sorted := h.sorted
  earlier := h.earlier
  handed := h.handed

theorem step (hguard : DocsRun.InOrder s a) (hstep : DocsRun.step reader basePath s a = some t)
    (h : DocsInv username password basePath s) : DocsInv username password basePath t := by
  cases a with
  | arrive req now =>
    rw [DocsRun.step] at hstep
    split at hstep
    · cases hstep
      exact (h.at_later hguard s.waiting).reply rfl
    · cases hstep
      exact h.at_later hguard _
  | answer req draw now later =>
    rw [DocsRun.step] at hstep
    split at hstep
    next =>
      have hlater := h.at_later hguard.1 (s.waiting.erase req)
      rcases handleWithoutSession_cases reader basePath s.auth req draw now later with
        ⟨location, hanswer, hlogs⟩ | ⟨reply, hanswer, hreply⟩
      · rw [hanswer] at hstep
        cases hstep
        rw [h.user, h.pass] at hlogs
        exact hlater.login hlogs draw location _
      · rw [hanswer] at hstep
        cases hstep
        exact hlater.reply (token_eq_none hreply)
    next => cases hstep
  | sweep now =>
    cases hstep
    exact (h.at_later hguard s.waiting).sweep

end DocsInv

theorem isValidSession_iff (auth : DocumentationSession) (now : Int) (token : String) :
    auth.isValidSession now token = true ↔
      ∃ expiry, auth.sessions token = some expiry ∧ now < expiry := by
  unfold DocumentationSession.isValidSession
  cases auth.sessions token with
  | none => simp
  | some expiry => simp

/-- In any run of requests and sweeps, a cookie opens the pages exactly when a login with the
right user and password was answered with it less than 24 hours ago. -/
theorem docs_served_iff {start : Int} {as : List DocsAction}
    (run : Run (DocsRun.step reader basePath) DocsRun.InOrder
      (DocsRun.init username password start) as s)
    (hnow : s.clock ≤ now) (req : DocsRequest) :
    validCookie s.auth now req = true ↔
      ∃ a ∈ s.answers, a.token = some req.cookie ∧
        a.request.LogsIn username password basePath ∧ now < a.time + docsSessionTTL := by
  have hinv : DocsInv username password basePath s :=
    run.invariant (DocsInv.init username password basePath start)
      fun _ _ _ hguard hstep => DocsInv.step hguard hstep
  rw [validCookie, Bool.and_eq_true, decide_eq_true_iff, isValidSession_iff,
    (hinv.remembers.at_later hnow).live_iff, exists_live_iff hinv.sorted]
  constructor
  · rintro ⟨-, login, hlogin, hkey, hlive⟩
    obtain ⟨a, ha, hmap⟩ := List.mem_filterMap.mp hlogin
    obtain ⟨token, htoken, rfl⟩ := Option.map_eq_some_iff.mp hmap
    obtain rfl : token = req.cookie := hkey
    exact ⟨a, ha, htoken, (hinv.handed a ha _ htoken).2, hlive⟩
  · rintro ⟨a, ha, htoken, -, hlive⟩
    refine ⟨(hinv.handed a ha _ htoken).1, (req.cookie, a.time), ?_, rfl, hlive⟩
    exact List.mem_filterMap.mpr ⟨a, ha, by rw [htoken, Option.map_some]⟩

section Sample

/-- The text of a value; what is no UTF-8 has none. -/
def textOf (value : Bytes) : String :=
  match value.toByteArray.utf8Decode? with
  | some chars => String.ofList chars.toList
  | none => ""

theorem textOf_utf8 (text : String) : textOf (utf8 text.toList) = text := by
  have hdecode : (utf8 text.toList).toByteArray.utf8Decode? = some text.toList.toArray :=
    List.utf8Decode?_utf8Encode
  rw [textOf, hdecode]
  exact String.ofList_toList

/-- A reader that reads what `net/url` parses, and nothing else. -/
def urlReader : QueryReader where
  read query key :=
    match parseQuery query with
    | some pairs => textOf (Query.get pairs (utf8 key.toList))
    | none => ""
  reads {query pairs key value} hparse hget := by
    rw [hparse]
    dsimp only
    rw [hget, textOf_utf8]

def sampleDraw : TokenDraw := ⟨List.replicate 32 7, rfl⟩

/-- A login is answered, a sweep runs, and the cookie is good. -/
def sampleLogin : DocsRequest := ⟨"POST", "/docs/login", [], "", "admin", "secret"⟩

def sampleActions : List DocsAction :=
  [.arrive sampleLogin 1, .answer sampleLogin sampleDraw 2 3, .sweep 4]

def sampleRun : DocsRun :=
  final (DocsRun.step urlReader "/docs") (DocsRun.init "admin" "secret" 0) sampleActions

theorem docs_served_iff_login :
    validCookie sampleRun.auth 9 { sampleLogin with cookie := hexEncodeToString sampleDraw.val } =
        true ↔
      ∃ a ∈ sampleRun.answers, a.token = some (hexEncodeToString sampleDraw.val) ∧
        a.request.LogsIn "admin" "secret" "/docs" ∧ 9 < a.time + docsSessionTTL :=
  docs_served_iff (Run.to_final (by decide) (by decide)) (by decide) _

end Sample

/-! ### The page that was asked for -/

/-- The query string of an address. -/
def searchOf (location : String) : List Char := (location.toList.dropWhile (· ≠ '?')).tail

/-- Where the form of the login page is sent to: its script keeps the redirect, and without one
the form goes to the address of the page. -/
def formQuery (params : QueryReader) (search : List Char) : List Char :=
  let redirect := params.read search "redirect"
  if redirect ≠ "" then
    "redirect=".toList ++ (utf8 redirect.toList).flatMap Query.uriByte
  else search

/-- The form is sent from the login page at `search`. -/
def submit (params : QueryReader) (basePath : String) (search : List Char)
    (username password : String) : DocsRequest :=
  ⟨"POST", loginPath basePath, formQuery params search, "", username, password⟩

/-- An attempt to log in, with the sessions that it comes upon. -/
structure Attempt where
  auth : DocumentationSession
  username : String
  password : String
  draw : TokenDraw
  now : Int
  later : Int

def Attempt.reply (reader params : QueryReader) (basePath : String) (search : List Char)
    (a : Attempt) : DocsReply :=
  (handleWithoutSession reader basePath a.auth
    (submit params basePath search a.username a.password) a.draw a.now a.later).2

def Attempt.Right (a : Attempt) : Prop :=
  a.username = a.auth.username ∧ a.password = a.auth.password

/-- The address of the login page after some attempts. -/
def searchAfter (reader params : QueryReader) (basePath : String) :
    List Char → List Attempt → List Char
  | search, [] => search
  | search, a :: attempts =>
    match a.reply reader params basePath search with
    | .redirect location _ => searchAfter reader params basePath (searchOf location) attempts
    | _ => search

variable {params : QueryReader} {page redirect : String} {search : List Char}

theorem parseQuery_redirect {code : UInt8 → List Char} (hcode : Query.Codes code)
    (redirect : String) :
    parseQuery ("redirect=".toList ++ (utf8 redirect.toList).flatMap code) =
      some [⟨utf8 "redirect".toList, utf8 redirect.toList⟩] :=
  hcode.parseQuery_param "redirect".toList (by decide) (by simp) _

/-- Either reader finds the redirect in a query, however it is escaped. -/
theorem read_redirect (reader : QueryReader) {code : UInt8 → List Char}
    (hcode : Query.Codes code) (redirect : String) :
    reader.read ("redirect=".toList ++ (utf8 redirect.toList).flatMap code) "redirect" =
      redirect := by
  exact reader.reads (parseQuery_redirect hcode redirect) (Query.get_cons_self _ _ [])

theorem searchOf_loginPath (hbase : '?' ∉ basePath.toList) (search : List Char) :
    searchOf (loginPath basePath ++ "?" ++ String.ofList search) = search := by
  have hpath : ∀ c ∈ (loginPath basePath).toList, decide (c ≠ '?') = true := by
    intro c hc
    rw [loginPath, String.toList_append, List.mem_append] at hc
    rw [decide_eq_true_iff]
    rcases hc with hc | hc
    · rintro rfl
      exact hbase hc
    · rintro rfl
      exact absurd hc (by decide)
  simp only [searchOf, String.toList_append, String.toList_ofList, List.append_assoc]
  rw [List.dropWhile_append_of_pos hpath]
  rfl

/-- The redirect that a login from the page at `search` asks for. -/
def Seeks (reader params : QueryReader) (search : List Char) (redirect : String) : Prop :=
  reader.read (formQuery params search) "redirect" = redirect

/-- The script hands on what the page's address holds. -/
theorem seeks_of_read (hparams : params.read search "redirect" = redirect)
    (hreader : redirect = "" → reader.read search "redirect" = "") :
    Seeks reader params search redirect := by
  unfold Seeks formQuery
  rw [hparams]
  dsimp only
  by_cases hempty : redirect = ""
  · rw [if_neg (not_not.mpr hempty), hreader hempty, hempty]
  · rw [if_pos hempty, read_redirect reader Query.uriByte_codes]

theorem allowedRedirect_idem (basePath redirect : String) :
    allowedRedirect basePath (allowedRedirect basePath redirect) =
      allowedRedirect basePath redirect := by
  by_cases hempty : redirect = ""
  · simp [allowedRedirect, hempty]
  · by_cases hbelow : basePath.toList <+: redirect.toList
    · by_cases hscheme : "://".toList <:+: redirect.toList
      · simp only [allowedRedirect, hempty, hbelow, hscheme, not_true, if_true, if_false]
      · simp only [allowedRedirect, hempty, hbelow, hscheme, not_true, if_false]
    · simp only [allowedRedirect, hempty, hbelow, not_false_iff, if_true, if_false]

theorem parseQuery_error :
    parseQuery "error=1".toList = some [⟨utf8 "error".toList, utf8 "1".toList⟩] :=
  Query.parseQuery_of_not_mem (by decide) (by decide) (by decide)

theorem error_ne_redirect : utf8 "error".toList ≠ utf8 "redirect".toList := by decide

/-- The login page's address after an error holds the redirect as well. -/
theorem read_error (reader : QueryReader) (redirect : String) :
    reader.read ("error=1".toList ++ '&' :: ("redirect=".toList ++
      Query.escape (utf8 redirect.toList))) "redirect" = redirect := by
  have hparse := Query.parseQuery_append parseQuery_error
    (parseQuery_redirect Query.escapeByte_codes redirect)
  refine reader.reads hparse ?_
  rw [List.singleton_append, Query.get_cons_of_ne error_ne_redirect, Query.get_cons_self]

theorem read_error_only (reader : QueryReader) :
    reader.read "error=1".toList "redirect" = "" := by
  refine reader.reads parseQuery_error ?_
  decide

/-- A wrong password leads back to the login page, which seeks what is left of the redirect. -/
theorem reply_wrong {a : Attempt} (hwrong : ¬a.Right) (hbase : '?' ∉ basePath.toList)
    (hseeks : Seeks reader params search redirect) :
    ∃ location, a.reply reader params basePath search = .redirect location none ∧
      Seeks reader params (searchOf location) (allowedRedirect basePath redirect) := by
  have hget : getRedirectPath reader (submit params basePath search a.username a.password)
      basePath = allowedRedirect basePath redirect := by
    rw [← hseeks]
    rfl
  have hcreds : ¬((submit params basePath search a.username a.password).username =
      a.auth.username ∧ (submit params basePath search a.username a.password).password =
      a.auth.password) := hwrong
  rw [Attempt.reply, handleWithoutSession, if_pos ⟨rfl, rfl⟩, handleLogin, if_neg hcreds, hget]
  refine ⟨_, rfl, ?_⟩
  by_cases hempty : allowedRedirect basePath redirect = ""
  · have haddress : loginPath basePath ++ "?error=1" =
        loginPath basePath ++ "?" ++ String.ofList "error=1".toList := by
      rw [String.ofList_toList, String.append_assoc]
      rfl
    rw [if_neg (not_not.mpr hempty), haddress, searchOf_loginPath hbase, hempty]
    exact seeks_of_read (read_error_only params) fun _ => read_error_only reader
  · have haddress : loginPath basePath ++ "?error=1" ++ "&redirect=" ++
        queryEscape (allowedRedirect basePath redirect) =
        loginPath basePath ++ "?" ++ String.ofList ("error=1".toList ++ '&' ::
          ("redirect=".toList ++ Query.escape (utf8 (allowedRedirect basePath redirect).toList))) := by
      rw [← String.toList_inj]
      simp [queryEscape]
    rw [if_pos hempty, haddress, searchOf_loginPath hbase]
    exact seeks_of_read (read_error params _) fun h => absurd h hempty

/-- The page that a redirect leads to after the login. -/
def landingPage (basePath redirect : String) : String :=
  if allowedRedirect basePath redirect = "" then basePath else allowedRedirect basePath redirect

theorem reply_right {a : Attempt} (hright : a.Right)
    (hseeks : Seeks reader params search redirect) :
    a.reply reader params basePath search = .redirect (landingPage basePath redirect)
      (some ⟨hexEncodeToString a.draw.val, a.later + docsSessionTTL⟩) := by
  have hget : getRedirectPath reader (submit params basePath search a.username a.password)
      basePath = allowedRedirect basePath redirect := by
    rw [← hseeks]
    rfl
  have hcreds : (submit params basePath search a.username a.password).username =
      a.auth.username ∧ (submit params basePath search a.username a.password).password =
      a.auth.password := hright
  rw [Attempt.reply, handleWithoutSession, if_pos ⟨rfl, rfl⟩, handleLogin, if_pos hcreds, hget]
  rfl

/-- After wrong attempts the page still seeks what is left of the redirect. -/
theorem seeks_after (hbase : '?' ∉ basePath.toList) {attempts : List Attempt}
    (hwrong : ∀ a ∈ attempts, ¬a.Right) (hseeks : Seeks reader params search redirect) :
    ∃ sought, Seeks reader params (searchAfter reader params basePath search attempts) sought ∧
      allowedRedirect basePath sought = allowedRedirect basePath redirect := by
  induction attempts generalizing search redirect with
  | nil => exact ⟨redirect, hseeks, rfl⟩
  | cons a attempts ih =>
    obtain ⟨ha, hattempts⟩ := List.forall_mem_cons.mp hwrong
    obtain ⟨location, hreply, hnext⟩ := reply_wrong ha hbase hseeks
    obtain ⟨sought, hsought, hallowed⟩ := ih hattempts hnext
    refine ⟨sought, ?_, hallowed.trans (allowedRedirect_idem basePath redirect)⟩
    rw [searchAfter, hreply]
    exact hsought

/-- A visitor who is sent to the login page logs in after any number of wrong attempts, and
is sent on to the page that was asked for, or to the base path where that one is not allowed. -/
theorem login_returns (hbase : '?' ∉ basePath.toList) (auth : DocumentationSession)
    (req : DocsRequest) (hpage : req.path ≠ loginPath basePath) (attempts : List Attempt)
    (hwrong : ∀ a ∈ attempts, ¬a.Right) (last : Attempt) (hright : last.Right) (draw : TokenDraw)
    (now later : Int) :
    ∃ location,
      handleWithoutSession reader basePath auth req draw now later =
        (auth, .redirect location none) ∧
      last.reply reader params basePath
          (searchAfter reader params basePath (searchOf location) attempts) =
        .redirect (landingPage basePath req.path)
          (some ⟨hexEncodeToString last.draw.val, last.later + docsSessionTTL⟩) := by
  have haddress : loginPath basePath ++ "?redirect=" ++ queryEscape req.path =
      loginPath basePath ++ "?" ++ String.ofList ("redirect=".toList ++
        Query.escape (utf8 req.path.toList)) := by
    rw [← String.toList_inj]
    simp [queryEscape]
  have hfirst (reader : QueryReader) :
      reader.read ("redirect=".toList ++ Query.escape (utf8 req.path.toList)) "redirect" =
        req.path :=
    read_redirect reader Query.escapeByte_codes req.path
  have hseeks : Seeks reader params
      (searchOf (loginPath basePath ++ "?redirect=" ++ queryEscape req.path)) req.path := by
    rw [haddress, searchOf_loginPath hbase]
    exact seeks_of_read (hfirst params) fun hempty => (hfirst reader).trans hempty
  obtain ⟨sought, hsought, hallowed⟩ := seeks_after hbase hwrong hseeks
  refine ⟨_, ?_, (reply_right hright hsought).trans ?_⟩
  · rw [handleWithoutSession, if_neg fun h => hpage h.2, if_neg hpage]
  · rw [landingPage, landingPage, hallowed]

section Sample

/-- Asking for a page; one wrong password, then the right one. -/
def sampleVisit : DocsRequest := ⟨"GET", "/docs/yaml", [], "", "", ""⟩

def sampleAttempt (password : String) : Attempt :=
  ⟨newDocsSessionAuth "admin" "secret", "admin", password, sampleDraw, 1, 1⟩

theorem login_returns_second :
    ∃ location,
      handleWithoutSession urlReader "/docs" (newDocsSessionAuth "admin" "secret") sampleVisit
          sampleDraw 0 0 = (newDocsSessionAuth "admin" "secret", .redirect location none) ∧
      (sampleAttempt "secret").reply urlReader urlReader "/docs"
          (searchAfter urlReader urlReader "/docs" (searchOf location) [sampleAttempt "secrets"]) =
        .redirect (landingPage "/docs" "/docs/yaml")
          (some ⟨hexEncodeToString sampleDraw.val, 1 + docsSessionTTL⟩) :=
  login_returns (by decide) _ _ (by decide) _
    (by simp [Attempt.Right, sampleAttempt, newDocsSessionAuth]) (sampleAttempt "secret")
    ⟨rfl, rfl⟩ _ _ _

end Sample

end WhatsappGateway.Middleware
