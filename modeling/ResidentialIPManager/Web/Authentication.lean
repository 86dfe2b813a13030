import ResidentialIPManager.Domain.Settings
import Mathlib.Data.List.Induction

/-! # Sessions of the control panel

The two routing tables, `login`, `logout` and `requireAuth` over the map of sessions. A
request is served in one step at its time. The map is never pruned, so what it says of a
token is what the history says: the last login that issued the token, unless a logout
with it followed.
-/
namespace ResidentialIPManager.Web.Auth
open Text Domain

inductive Endpoint where
  | logout
  | me
  | status
  | nodes
  | refreshNodes
  | classifyNodes
  | probeNodes
  | environment
  | verifyExit
  | proxyStatus
  | proxyStart
  | proxyStop
  | connect
  | disconnect
  | logs
  | subscriptionPreview
  deriving DecidableEq, Repr

inductive Route where
  | index
  | login
  | requireAuth (endpoint : Endpoint)
  | subscription
  | notFound
  deriving DecidableEq, Repr

/-- The server has its own address and may have one for subscriptions only. -/
inductive Listener where
  | server
  | subscription
  deriving DecidableEq, Repr

def requireAuthPaths : List (GoString × Endpoint) :=
  [(lit "/api/logout", .logout), (lit "/api/me", .me), (lit "/api/status", .status),
    (lit "/api/nodes", .nodes), (lit "/api/nodes/refresh", .refreshNodes),
    (lit "/api/nodes/classify", .classifyNodes), (lit "/api/nodes/probe", .probeNodes),
    (lit "/api/environment", .environment), (lit "/api/exit/verify", .verifyExit),
    (lit "/api/proxy/status", .proxyStatus), (lit "/api/proxy/start", .proxyStart),
    (lit "/api/proxy/stop", .proxyStop), (lit "/api/connect", .connect),
    (lit "/api/disconnect", .disconnect), (lit "/api/logs", .logs),
    (lit "/api/subscription/preview", .subscriptionPreview)]

def subscriptionPaths : List GoString :=
  [lit "/sub/vmess", lit "/sub/quantumult-x", lit "/sub/clash"]

/-- `Handler` and `subscriptionHandler`: the pattern `/` takes what no other one does, and
`index` then looks at the path again. -/
def route (listener : Listener) (path : GoString) : Route :=
  if path ∈ subscriptionPaths then .subscription
  else
    match listener with
    | .subscription => .notFound
    | .server =>
      if path = lit "/api/login" then .login
      else
        match requireAuthPaths.lookup path with
        | some endpoint => .requireAuth endpoint
        | none => if path = lit "/" then .index else .notFound

/-- A request: its `rim_session` cookie, the credentials its body decodes to, and what
`randomToken` returns if it comes to that. -/
structure Request where
  listener : Listener := .server
  path : GoString
  method : GoString := lit "GET"
  cookie : Option GoString := none
  credentials : Option (GoString × GoString) := none
  random : Option GoString := none

inductive Response where
  | error (status : Nat) (message : GoString)
  | loggedIn (sessionID : GoString)
  | ran (endpoint : Endpoint)
  | page
  deriving DecidableEq, Repr

/-- The map of sessions: the expiry of each token. -/
abbrev Sessions := GoString → Option Time

def day : Duration := 86400 * second

def sessionValid (sessions : Sessions) (now : Time) (value : GoString) : Bool :=
  match sessions value with
  | some expires => decide (now < expires)
  | none => false

def methodNotAllowed : Response := .error 405 (lit "method not allowed")

def login (auth : AuthConfig) (sessions : Sessions) (now : Time) (r : Request) :
    Sessions × Response :=
  if r.method ≠ lit "POST" then (sessions, methodNotAllowed)
  else
    match r.credentials with
    | none => (sessions, .error 400 (lit "invalid JSON"))
    | some (username, password) =>
      if username ≠ auth.username ∨ password ≠ auth.password then
        (sessions, .error 401 (lit "用户名或密码不正确"))
      else
        match r.random with
        | none => (sessions, .error 500 (lit "无法创建登录会话"))
        | some sessionID => (Function.update sessions sessionID (some (now + day)), .loggedIn sessionID)

def logout (sessions : Sessions) (r : Request) : Sessions :=
  if r.method ≠ lit "POST" then sessions
  else
    match r.cookie with
    | some value => Function.update sessions value none
    | none => sessions

def Endpoint.effect (sessions : Sessions) (r : Request) : Endpoint → Sessions
  | .logout => Auth.logout sessions r
  | _ => sessions

def requireAuth (sessions : Sessions) (now : Time) (r : Request) (endpoint : Endpoint) :
    Sessions × Response :=
  match r.cookie with
  | none => (sessions, .error 401 (lit "login required"))
  | some value =>
    if sessionValid sessions now value then (endpoint.effect sessions r, .ran endpoint)
    else (sessions, .error 401 (lit "login required"))

def serve (auth : AuthConfig) (sessions : Sessions) (now : Time) (r : Request) :
    Sessions × Response :=
  match route r.listener r.path with
  | .login => login auth sessions now r
  | .requireAuth endpoint => requireAuth sessions now r endpoint
  | .index => (sessions, .page)
  | .subscription => (sessions, .page)
  | .notFound => (sessions, .error 404 (lit "404 page not found"))

structure Served where
  time : Time
  request : Request
  response : Response

def sessionsAfter (auth : AuthConfig) : Sessions → List (Time × Request) → Sessions
  | sessions, [] => sessions
  | sessions, (now, r) :: rest => sessionsAfter auth (serve auth sessions now r).1 rest

def serveAll (auth : AuthConfig) : Sessions → List (Time × Request) → List Served
  | _, [] => []
  | sessions, (now, r) :: rest =>
    ⟨now, r, (serve auth sessions now r).2⟩ :: serveAll auth (serve auth sessions now r).1 rest

/-- The request is a successful login that issued the token. -/
def Served.Issues (e : Served) (token : GoString) : Prop := e.response = .loggedIn token

/-- The request is an authenticated POST logout that carries the token. -/
def Served.Revokes (e : Served) (token : GoString) : Prop :=
  e.response = .ran .logout ∧ e.request.method = lit "POST" ∧ e.request.cookie = some token

/-- A login at `t0` issued the token, and no logout with it followed. -/
def HeldSince (history : List Served) (token : GoString) (t0 : Time) : Prop :=
  ∃ earlier e later, history = earlier ++ e :: later ∧ e.Issues token ∧ e.time = t0 ∧
    ∀ x ∈ later, ¬ x.Revokes token

section Runs

variable {auth : AuthConfig} {sessions : Sessions} {token : GoString} {t0 now : Time}
  {history : List Served} {e : Served} {r : Request}

theorem serveAll_append (xs ys : List (Time × Request)) :
    serveAll auth sessions (xs ++ ys) =
      serveAll auth sessions xs ++ serveAll auth (sessionsAfter auth sessions xs) ys := by
  induction xs generalizing sessions with
  | nil => rfl
  | cons x xs ih => simp [serveAll, sessionsAfter, ih]

theorem sessionsAfter_append (xs ys : List (Time × Request)) :
    sessionsAfter auth sessions (xs ++ ys) =
      sessionsAfter auth (sessionsAfter auth sessions xs) ys := by
  induction xs generalizing sessions with
  | nil => rfl
  | cons x xs ih => simp [sessionsAfter, ih]

theorem serveAll_eq_append {requests : List (Time × Request)} {before after : List Served}
    (h : serveAll auth sessions requests = before ++ e :: after) :
    ∃ xs ys, requests = xs ++ (e.time, e.request) :: ys ∧ before = serveAll auth sessions xs ∧
      e.response = (serve auth (sessionsAfter auth sessions xs) e.time e.request).2 := by
  induction before generalizing sessions requests with
  | nil =>
    cases requests with
    | nil => cases h
    | cons x requests =>
      obtain ⟨rfl, -⟩ := List.cons.inj h
      exact ⟨[], requests, rfl, rfl, rfl⟩
  | cons b before ih =>
    cases requests with
    | nil => cases h
    | cons x requests =>
      obtain ⟨rfl, hrest⟩ := List.cons.inj h
      obtain ⟨xs, ys, rfl, rfl, hresponse⟩ := ih hrest
      exact ⟨x :: xs, ys, rfl, rfl, hresponse⟩

theorem mem_serveAll {requests : List (Time × Request)} (h : e ∈ serveAll auth sessions requests) :
    (e.time, e.request) ∈ requests := by
  obtain ⟨before, after, heq⟩ := List.append_of_mem h
  obtain ⟨xs, ys, rfl, -, -⟩ := serveAll_eq_append heq
  simp

theorem not_heldSince_nil : ¬ HeldSince [] token t0 := by
  rintro ⟨earlier, e, later, h, -⟩
  simp at h

/-- The last request decides: it issues the token, or leaves what held before. -/
theorem heldSince_concat : HeldSince (history ++ [e]) token t0 ↔
    e.Issues token ∧ e.time = t0 ∨ HeldSince history token t0 ∧ ¬ e.Revokes token := by
  constructor
  · rintro ⟨earlier, x, later, h, hissues, htime, hlater⟩
    rcases List.eq_nil_or_concat later with rfl | ⟨later, last, rfl⟩
    · obtain ⟨rfl, hx⟩ := List.append_inj' h rfl
      obtain rfl := (List.cons.inj hx).1
      exact .inl ⟨hissues, htime⟩
    · rw [List.concat_eq_append, ← List.cons_append, ← List.append_assoc] at h
      obtain ⟨rfl, hlast⟩ := List.append_inj' h rfl
      obtain rfl := (List.cons.inj hlast).1
      refine .inr ⟨⟨earlier, x, later, rfl, hissues, htime, ?_⟩, hlater _ (by simp)⟩
      intro y hy
      exact hlater y (by simp [hy])
  · rintro (⟨hissues, htime⟩ | ⟨⟨earlier, x, later, rfl, hissues, htime, hlater⟩, hnot⟩)
    · exact ⟨history, e, [], rfl, hissues, htime, by simp⟩
    · refine ⟨earlier, x, later ++ [e], by simp, hissues, htime, ?_⟩
      intro y hy
      rcases List.mem_append.mp hy with hm | hm
      · exact hlater y hm
      · rw [List.mem_singleton.mp hm]
        exact hnot

theorem HeldSince.time_mem (h : HeldSince history token t0) : ∃ x ∈ history, x.time = t0 := by
  obtain ⟨earlier, x, later, rfl, -, htime, -⟩ := h
  exact ⟨x, by simp, htime⟩

inductive Change (sessions : Sessions) (now : Time) (r : Request) : Sessions × Response → Prop
  | issued (token : GoString) :
      Change sessions now r (Function.update sessions token (some (now + day)), .loggedIn token)
  | revoked (token : GoString) (hpost : r.method = lit "POST") (hcookie : r.cookie = some token) :
      Change sessions now r (Function.update sessions token none, .ran .logout)
  | kept (response : Response) (hissued : ∀ token, response ≠ .loggedIn token)
      (hrevoked : response = .ran .logout → r.method ≠ lit "POST") :
      Change sessions now r (sessions, response)

theorem requireAuth_ran_iff {endpoint : Endpoint} :
    (requireAuth sessions now r endpoint).2 = .ran endpoint ↔
      ∃ token expires, r.cookie = some token ∧ sessions token = some expires ∧ now < expires := by
  unfold requireAuth sessionValid
  cases hcookie : r.cookie with
  | none => simp
  | some value =>
    cases hget : sessions value with
    | none => simp [hget]
    | some expires =>
      by_cases hnow : now < expires
      · simp [hget, hnow]
      · simp [hget, hnow]

theorem login_change (auth : AuthConfig) (sessions : Sessions) (now : Time) (r : Request) :
    Change sessions now r (login auth sessions now r) := by
  unfold login methodNotAllowed
  split_ifs
  · exact .kept _ nofun nofun
  · split
    · exact .kept _ nofun nofun
    · split_ifs
      · exact .kept _ nofun nofun
      · split
        · exact .kept _ nofun nofun
        · exact .issued _

theorem requireAuth_change (sessions : Sessions) (now : Time) (r : Request) (endpoint : Endpoint) :
    Change sessions now r (requireAuth sessions now r endpoint) := by
  unfold requireAuth
  split
  · exact .kept _ nofun nofun
  · next value hcookie =>
    split_ifs
    · by_cases hlogout : endpoint = .logout
      · by_cases hpost : r.method = lit "POST"
        · simp only [hlogout, Endpoint.effect, Auth.logout, hpost, ne_eq, not_true_eq_false,
            if_false, hcookie]
          exact .revoked value hpost hcookie
        · simp only [hlogout, Endpoint.effect, Auth.logout, ne_eq, hpost, not_false_eq_true, if_true]
          exact .kept _ nofun fun _ => hpost
      · have heffect : endpoint.effect sessions r = sessions := by
          cases endpoint <;> first | rfl | exact absurd rfl hlogout
        rw [heffect]
        exact .kept _ nofun fun h => absurd (Response.ran.inj h) hlogout
    · exact .kept _ nofun nofun

theorem serve_change (auth : AuthConfig) (sessions : Sessions) (now : Time) (r : Request) :
    Change sessions now r (serve auth sessions now r) := by
  unfold serve
  split
  · exact login_change auth sessions now r
  · exact requireAuth_change sessions now r _
  · exact .kept _ nofun nofun
  · exact .kept _ nofun nofun
  · exact .kept _ nofun nofun

structure Records (sessions : Sessions) (history : List Served) : Prop where
  held : ∀ token expires, sessions token = some expires →
    ∃ t0, expires = t0 + day ∧ HeldSince history token t0
  kept : ∀ token t0, HeldSince history token t0 →
    ∃ expires, sessions token = some expires ∧ t0 + day ≤ expires

theorem records_nil : Records (fun _ => none) [] where
  held _ _ h := by cases h
  kept _ _ h := absurd h not_heldSince_nil

theorem Records.issue (h : Records sessions history) (hclock : ∀ x ∈ history, x.time ≤ now)
    (issued : GoString) : Records (Function.update sessions issued (some (now + day)))
      (history ++ [⟨now, r, .loggedIn issued⟩]) := by
  constructor
  · intro token expires hget
    by_cases heq : token = issued
    · rw [heq, Function.update_self] at hget
      refine ⟨now, (Option.some.inj hget).symm, heldSince_concat.mpr (.inl ⟨?_, rfl⟩)⟩
      rw [Served.Issues, heq]
    · rw [Function.update_of_ne heq] at hget
      obtain ⟨t0, hexp, hheld⟩ := h.held token expires hget
      exact ⟨t0, hexp, heldSince_concat.mpr (.inr ⟨hheld, fun hr => nomatch hr.1⟩)⟩
  · intro token t0 hheld
    by_cases heq : token = issued
    · rw [heq, Function.update_self]
      refine ⟨now + day, rfl, ?_⟩
      obtain ⟨x, hx, rfl⟩ := hheld.time_mem
      rcases List.mem_append.mp hx with hm | hm
      · exact Int.add_le_add_right (hclock x hm) day
      · rw [List.mem_singleton.mp hm]
    · rw [Function.update_of_ne heq]
      rcases heldSince_concat.mp hheld with ⟨hissues, -⟩ | ⟨hbefore, -⟩
      · exact absurd (Response.loggedIn.inj hissues).symm heq
      · exact h.kept token t0 hbefore

theorem Records.revoke (h : Records sessions history) {revoked : GoString}
    (hpost : r.method = lit "POST") (hcookie : r.cookie = some revoked) :
    Records (Function.update sessions revoked none) (history ++ [⟨now, r, .ran .logout⟩]) := by
  constructor
  · intro token expires hget
    by_cases heq : token = revoked
    · rw [heq, Function.update_self] at hget
      cases hget
    · rw [Function.update_of_ne heq] at hget
      obtain ⟨t0, hexp, hheld⟩ := h.held token expires hget
      refine ⟨t0, hexp, heldSince_concat.mpr (.inr ⟨hheld, fun hr => heq ?_⟩)⟩
      exact Option.some.inj (hr.2.2.symm.trans hcookie)
  · intro token t0 hheld
    rcases heldSince_concat.mp hheld with ⟨hissues, -⟩ | ⟨hbefore, hnot⟩
    · cases hissues
    · have hne : token ≠ revoked := by
        rintro rfl
        exact hnot ⟨rfl, hpost, hcookie⟩
      rw [Function.update_of_ne hne]
      exact h.kept token t0 hbefore

theorem Records.keep (h : Records sessions history) {response : Response}
    (hissued : ∀ token, response ≠ .loggedIn token)
    (hrevoked : response = .ran .logout → r.method ≠ lit "POST") :
    Records sessions (history ++ [⟨now, r, response⟩]) := by
  constructor
  · intro token expires hget
    obtain ⟨t0, hexp, hheld⟩ := h.held token expires hget
    exact ⟨t0, hexp, heldSince_concat.mpr (.inr ⟨hheld, fun hr => hrevoked hr.1 hr.2.1⟩)⟩
  · intro token t0 hheld
    rcases heldSince_concat.mp hheld with ⟨hissues, -⟩ | ⟨hbefore, -⟩
    · exact absurd hissues (hissued token)
    · exact h.kept token t0 hbefore

/-- One request at a time that is not before the earlier ones keeps the map in step. -/
theorem Records.concat {result : Sessions × Response} (h : Records sessions history)
    (hclock : ∀ x ∈ history, x.time ≤ now) (hchange : Change sessions now r result) :
    Records result.1 (history ++ [⟨now, r, result.2⟩]) := by
  cases hchange with
  | issued token => exact h.issue hclock token
  | revoked token hpost hcookie => exact h.revoke hpost hcookie
  | kept response hissued hrevoked => exact h.keep hissued hrevoked

/-- The map is in step after every run with a clock that does not go back. -/
theorem records_serveAll {requests : List (Time × Request)}
    (hclock : requests.Pairwise fun a b => a.1 ≤ b.1) :
    Records (sessionsAfter auth (fun _ => none) requests)
      (serveAll auth (fun _ => none) requests) := by
  induction requests using List.reverseRecOn with
  | nil => exact records_nil
  | append_singleton requests x ih =>
    rw [List.pairwise_append] at hclock
    have htimes : ∀ y ∈ serveAll auth (fun _ => none) requests, y.time ≤ x.1 := by
      intro y hy
      exact hclock.2.2 _ (mem_serveAll hy) x (List.mem_singleton_self x)
    rw [serveAll_append, sessionsAfter_append]
    exact (ih hclock.1).concat htimes (serve_change auth _ x.1 x.2)

end Runs

/-- Over every run, a handler behind `requireAuth` runs exactly for the requests whose
cookie is a token of a login less than a day ago that no logout has revoked. -/
theorem requireAuth_runs_iff {auth : AuthConfig} {requests : List (Time × Request)}
    {before after : List Served} {e : Served} {endpoint : Endpoint}
    (hclock : requests.Pairwise fun a b => a.1 ≤ b.1)
    (hrun : serveAll auth (fun _ => none) requests = before ++ e :: after)
    (hroute : route e.request.listener e.request.path = .requireAuth endpoint) :
    e.response = .ran endpoint ↔ ∃ token t0, e.request.cookie = some token ∧ t0 ≤ e.time ∧
      e.time < t0 + day ∧ HeldSince before token t0 := by
  obtain ⟨xs, ys, rfl, rfl, hresponse⟩ := serveAll_eq_append hrun
  rw [List.pairwise_append] at hclock
  obtain ⟨hxs, -, hbefore⟩ := hclock
  have hrecords : Records (sessionsAfter auth (fun _ => none) xs) _ := records_serveAll hxs
  rw [serve, hroute] at hresponse
  rw [hresponse, requireAuth_ran_iff]
  constructor
  · rintro ⟨token, expires, hcookie, hget, hnow⟩
    obtain ⟨t0, rfl, hheld⟩ := hrecords.held token expires hget
    obtain ⟨x, hx, rfl⟩ := hheld.time_mem
    exact ⟨token, x.time, hcookie, hbefore _ (mem_serveAll hx) _ List.mem_cons_self, hnow, hheld⟩
  · rintro ⟨token, t0, hcookie, -, hnow, hheld⟩
    obtain ⟨expires, hget, hle⟩ := hrecords.kept token t0 hheld
    exact ⟨token, expires, hcookie, hget, lt_of_lt_of_le hnow hle⟩

def panel : AuthConfig := ⟨lit "admin", lit "secret"⟩

/-- A login and, an hour later, a request with its cookie. -/
def panelLogin : Request where
  path := lit "/api/login"
  method := lit "POST"
  credentials := some (lit "admin", lit "secret")
  random := some (lit "5eed")

def panelStatus : Request where
  path := lit "/api/status"
  cookie := some (lit "5eed")

theorem requireAuth_runs_after_login :
    HeldSince [⟨0, panelLogin, .loggedIn (lit "5eed")⟩] (lit "5eed") 0 ∧
    ∃ token t0, panelStatus.cookie = some token ∧ t0 ≤ 3600 * second ∧
      3600 * second < t0 + day ∧ HeldSince [⟨0, panelLogin, .loggedIn (lit "5eed")⟩] token t0 := by
  have hclock : [((0 : Time), panelLogin), (3600 * second, panelStatus)].Pairwise
      fun a b => a.1 ≤ b.1 := by simp [second]
  have hrun : serveAll panel (fun _ => none) [(0, panelLogin), (3600 * second, panelStatus)] =
      [⟨0, panelLogin, .loggedIn (lit "5eed")⟩] ++
        ⟨3600 * second, panelStatus, .ran .status⟩ :: [] := by
    rfl
  exact ⟨⟨[], _, [], rfl, rfl, rfl, by simp⟩,
    (requireAuth_runs_iff hclock hrun (by decide)).mp rfl⟩

end ResidentialIPManager.Web.Auth
