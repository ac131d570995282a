import WhatsappGateway.Lib.Exclusion
import WhatsappGateway.Lib.Run

/-!
The clients in memory, by phone number. A call that registers a phone number looks it up
in the store, restores or makes a device, creates a client, attaches the event handler and
puts the client into the store. Only the lookup and the insertion hold the store's lock,
so calls for one phone number may take these steps in any order.
-/

namespace WhatsappGateway.Whatsapp.Clients

open Lib Exclusion

/-- A device of the database, by the user of its JID when it is paired. -/
structure Device where
  user : Option String
deriving DecidableEq, Repr

/-- A client, by the number of its creation. -/
structure Client where
  id : Nat
  device : Device
deriving DecidableEq, Repr

abbrev ClientStore := String → Option Client

namespace ClientStore

def get (clients : ClientStore) (phoneNumber : String) : Option Client := clients phoneNumber

def set (clients : ClientStore) (phoneNumber : String) (client : Client) : ClientStore :=
  Function.update clients phoneNumber (some client)

end ClientStore

/-- The phone number in the user of a JID, without the server and a leading plus sign. -/
def decomposeJID (jid : String) : String :=
  match jid.toList.takeWhile (· ≠ '@') with
  | '+' :: phoneNumber => String.ofList phoneNumber
  | phoneNumber => String.ofList phoneNumber

/-- The stored device of a phone number. When the devices cannot be read there is none. -/
def findDeviceByPhone (devices : Except String (List Device)) (phoneNumber : String) :
    Option Device :=
  match devices with
  | .error _ => none
  | .ok devices => devices.find? fun device => device.user.map decomposeJID = some phoneNumber

def newDevice : Device where
  user := none

/-- Where a call for the phone number stands. -/
inductive CallPhase where
  | called (device : Option Device)
  | checked (device : Option Device)
  | ready (device : Device)
  | created (client : Client)
  | wired (client : Client)
  | returned (client : Option Client)
deriving DecidableEq, Repr

namespace CallPhase

/-- The call has found no client, and has not yet put one into the store. -/
def inside : CallPhase → Bool
  | .checked _ | .ready _ | .created _ | .wired _ => true
  | .called _ | .returned _ => false

/-- The client that the call has created. -/
def client : CallPhase → Option Client
  | .created client | .wired client => some client
  | .returned client => client
  | .called _ | .checked _ | .ready _ => none

/-- The client to which the call has attached the event handler. -/
def attached : CallPhase → Option Client
  | .wired client => some client
  | .returned client => client
  | .called _ | .checked _ | .ready _ | .created _ => none

end CallPhase

/-- The store, the calls for one phone number, and the clients created and wired for it. -/
structure StoreState where
  clients : ClientStore
  calls : Nat → Option CallPhase
  created : List Client
  wired : List Client

namespace StoreState

def init (clients : ClientStore) : StoreState where
  clients := clients
  calls := fun _ => none
  created := []
  wired := []

def setCall (s : StoreState) (i : Nat) (phase : CallPhase) : StoreState :=
  { s with calls := Function.update s.calls i (some phase) }

end StoreState

/-- The steps of a call. `registerClient` is the lookup of `RegisterClient`, and
`initClient` a call of `InitClient` at startup with a device of the database. `elsewhere`
is what a call for another phone number puts into the store. -/
inductive StoreAction where
  | registerClient (i : Nat)
  | initClient (i : Nat) (device : Device)
  | check (i : Nat)
  | prepare (i : Nat) (devices : Except String (List Device))
  | create (i : Nat)
  | addEventHandler (i : Nat)
  | set (i : Nat)
  | elsewhere (phoneNumber : String) (client : Client)

def storeStep (phoneNumber : String) (s : StoreState) : StoreAction → Option StoreState
  | .registerClient i =>
    match s.calls i with
    | some _ => none
    | none =>
      match s.clients.get phoneNumber with
      | none => some (s.setCall i (.called none))
      | some _ => some (s.setCall i (.returned none))
  | .initClient i device =>
    match s.calls i with
    | some _ => none
    | none => some (s.setCall i (.called (some device)))
  | .check i =>
    match s.calls i with
    | some (.called device) =>
      match s.clients.get phoneNumber with
      | none => some (s.setCall i (.checked device))
      | some _ => some (s.setCall i (.returned none))
    | _ => none
  | .prepare i devices =>
    match s.calls i with
    | some (.checked (some device)) => some (s.setCall i (.ready device))
    | some (.checked none) =>
      some (s.setCall i (.ready ((findDeviceByPhone devices phoneNumber).getD newDevice)))
    | _ => none
  | .create i =>
    match s.calls i with
    | some (.ready device) =>
      let client := ⟨s.created.length, device⟩
      some { (s.setCall i (.created client)) with created := client :: s.created }
    | _ => none
  | .addEventHandler i =>
    match s.calls i with
    | some (.created client) =>
      some { (s.setCall i (.wired client)) with wired := client :: s.wired }
    | _ => none
  | .set i =>
    match s.calls i with
    | some (.wired client) =>
      some { (s.setCall i (.returned (some client))) with
        clients := s.clients.set phoneNumber client }
    | _ => none
  | .elsewhere other client =>
    if other = phoneNumber then none
    else some { s with clients := s.clients.set other client }

/-- At most one client is created and wired, and what a call that has returned created is
the client in the store. -/
structure OneClient (phoneNumber : String) (s : StoreState) : Prop where
  created : s.created.length ≤ 1
  wired : s.wired.length ≤ 1
  stored : ∀ i client, s.calls i = some (.returned (some client)) →
    s.clients.get phoneNumber = some client

/-- A call finds no client only while no other call is between its own check and its
insertion. -/
def ChecksAlone (phoneNumber : String) (s : StoreState) : StoreAction → Prop
  | .check _ => s.clients.get phoneNumber = none → Vacant CallPhase.inside s.calls
  | _ => True

theorem StoreState.setCall_at {s : StoreState} {i j : Nat} {p q : CallPhase}
    (h : (s.setCall i p).calls j = some q) : j = i ∧ q = p ∨ j ≠ i ∧ s.calls j = some q := by
  simp only [setCall] at h
  by_cases hj : j = i
  · subst hj
    rw [Function.update_self] at h
    exact .inl ⟨rfl, (Option.some.inj h).symm⟩
  · rw [Function.update_of_ne hj] at h
    exact .inr ⟨hj, h⟩

/-- The calls take turns: while one of them is between its check and its insertion, the
store has no client and nothing but what this call made exists. -/
structure Turns (phoneNumber : String) (s : StoreState) : Prop where
  exclusive : Exclusive CallPhase.inside s.calls
  busy : ∀ i p, s.calls i = some p → p.inside = true →
    s.clients phoneNumber = none ∧ s.created = p.client.toList ∧ s.wired = p.attached.toList ∧
      ∀ j client, s.calls j ≠ some (.returned (some client))
  vacant : Vacant CallPhase.inside s.calls → s.wired = s.created ∧
    (s.created = [] ∨ ∃ client, s.created = [client] ∧ s.clients phoneNumber = some client)
  returned : ∀ i client, s.calls i = some (.returned (some client)) → client ∈ s.created

namespace Turns

variable {phoneNumber : String} {s : StoreState} {i : Nat} {p q : CallPhase}

theorem init (phoneNumber : String) (clients : ClientStore) :
    Turns phoneNumber (.init clients) :=
  ⟨nofun, nofun, fun _ => ⟨rfl, .inl rfl⟩, nofun⟩

/-- A call that is outside stays outside. -/
theorem outside (h : Turns phoneNumber s)
    (hold : ∀ p, s.calls i = some p → p.inside = false)
    (hinside : q.inside = false) (hclient : q.client = none) :
    Turns phoneNumber (s.setCall i q) := by
  have hvacant : Vacant CallPhase.inside (s.setCall i q).calls → Vacant CallPhase.inside s.calls := by
    intro hafter j p hp
    by_cases hj : j = i
    · exact hold p (hj ▸ hp)
    · exact hafter j p (by simpa [StoreState.setCall, Function.update_of_ne hj] using hp)
  have hreturned : ∀ j client, (s.setCall i q).calls j = some (.returned (some client)) →
      s.calls j = some (.returned (some client)) := by
    intro j client hj
    obtain ⟨rfl, rfl⟩ | ⟨-, hbefore⟩ := StoreState.setCall_at hj
    · cases hclient
    · exact hbefore
  refine ⟨?_, ?_, ?_, ?_⟩
  · apply h.exclusive.of_nobodyEnters
    apply NobodyEnters.update
    intro hin
    rw [hinside] at hin
    cases hin
  · intro j p hp hin
    obtain ⟨rfl, rfl⟩ | ⟨-, hbefore⟩ := StoreState.setCall_at hp
    · rw [hinside] at hin
      cases hin
    · obtain ⟨hnone, hcreated, hwired, hno⟩ := h.busy j p hbefore hin
      exact ⟨hnone, hcreated, hwired, fun k client hk => hno k client (hreturned k client hk)⟩
  · intro hafter
    exact h.vacant (hvacant hafter)
  · intro j client hj
    exact h.returned j client (hreturned j client hj)

/-- A call that finds no client goes inside, when nobody else is there. -/
theorem enter (h : Turns phoneNumber s) (hvacant : Vacant CallPhase.inside s.calls)
    (hnone : s.clients phoneNumber = none) (device : Option Device) :
    Turns phoneNumber (s.setCall i (.checked device)) := by
  obtain ⟨hwired, hcreated | ⟨client, -, hstored⟩⟩ := h.vacant hvacant
  · rw [hcreated] at hwired
    have hothers : ∀ j, j ≠ i → (s.setCall i (.checked device)).calls j = s.calls j :=
      fun j hj => Function.update_of_ne hj _ _
    have hno : ∀ j client, (s.setCall i (.checked device)).calls j ≠
        some (.returned (some client)) := by
      intro j client hj
      obtain ⟨-, hphase⟩ | ⟨-, hbefore⟩ := StoreState.setCall_at hj
      · cases hphase
      · have hmem := h.returned j client hbefore
        rw [hcreated] at hmem
        cases hmem
    refine ⟨hvacant.enter hothers, ?_, ?_, fun j client hj => absurd hj (hno j client)⟩
    · intro j p hp hin
      obtain ⟨-, rfl⟩ | ⟨-, hbefore⟩ := StoreState.setCall_at hp
      · exact ⟨hnone, hcreated, hwired, hno⟩
      · rw [hvacant j p hbefore] at hin
        cases hin
    · intro hafter
      have hin := hafter i (.checked device) (Function.update_self _ _ _)
      cases hin
  · rw [hnone] at hstored
    cases hstored

/-- A call that is inside goes on, and nothing changes but what it makes. -/
theorem advance {t : StoreState} (h : Turns phoneNumber s) (hcall : s.calls i = some p)
    (hp : p.inside = true) (hq : q.inside = true)
    (hcalls : t.calls = (s.setCall i q).calls) (hclients : t.clients = s.clients)
    (hcreated : t.created = q.client.toList) (hwired : t.wired = q.attached.toList) :
    Turns phoneNumber t := by
  obtain ⟨hnone, -, -, hno⟩ := h.busy i p hcall hp
  have hno' : ∀ j client, t.calls j ≠ some (.returned (some client)) := by
    intro j client hj
    rw [hcalls] at hj
    obtain ⟨-, rfl⟩ | ⟨-, hbefore⟩ := StoreState.setCall_at hj
    · cases hq
    · exact hno j client hbefore
  refine ⟨?_, ?_, ?_, fun j client hj => absurd hj (hno' j client)⟩
  · rw [hcalls]
    apply h.exclusive.of_nobodyEnters
    exact NobodyEnters.update fun _ => ⟨p, hcall, hp⟩
  · intro j other hother hin
    rw [hcalls] at hother
    obtain ⟨-, rfl⟩ | ⟨hj, hbefore⟩ := StoreState.setCall_at hother
    · exact ⟨hclients ▸ hnone, hcreated, hwired, hno'⟩
    · exact absurd (h.exclusive j i other p hbefore hcall hin hp) hj
  · intro hafter
    rw [hcalls] at hafter
    have hin := hafter i q (Function.update_self _ _ _)
    rw [hq] at hin
    cases hin

/-- The call that is inside puts its client into the store, and returns. -/
theorem leave {client : Client} (h : Turns phoneNumber s)
    (hcall : s.calls i = some (.wired client)) :
    Turns phoneNumber { (s.setCall i (.returned (some client))) with
      clients := s.clients.set phoneNumber client } := by
  obtain ⟨-, hcreated, hwired, hno⟩ := h.busy i _ hcall rfl
  have hvacant : Vacant CallPhase.inside (s.setCall i (.returned (some client))).calls := by
    apply h.exclusive.leave hcall rfl (fun j hj => Function.update_of_ne hj _ _)
    intro q hq
    obtain ⟨-, rfl⟩ | ⟨hi, -⟩ := StoreState.setCall_at hq
    · rfl
    · exact absurd rfl hi
  refine ⟨hvacant.exclusive, ?_, ?_, ?_⟩
  · intro j p hp hin
    have hout := hvacant j p hp
    rw [hout] at hin
    cases hin
  · intro _
    refine ⟨hwired.trans hcreated.symm, .inr ⟨client, hcreated, ?_⟩⟩
    exact Function.update_self _ _ _
  · intro j other hj
    obtain ⟨-, hphase⟩ | ⟨-, hbefore⟩ := StoreState.setCall_at hj
    · cases hphase
      have hmem : client ∈ s.created := by
        rw [hcreated]
        exact List.mem_singleton_self client
      exact hmem
    · exact absurd hbefore (hno j other)

/-- Calls for other phone numbers are of no account. -/
theorem elsewhere {other : String} {client : Client} (h : Turns phoneNumber s)
    (hother : other ≠ phoneNumber) :
    Turns phoneNumber { s with clients := s.clients.set other client } := by
  have hsame : s.clients.set other client phoneNumber = s.clients phoneNumber :=
    Function.update_of_ne hother.symm _ _
  refine ⟨h.exclusive, ?_, ?_, h.returned⟩
  · intro i p hp hin
    simp only [hsame]
    exact h.busy i p hp hin
  · intro hvacant
    simp only [hsame]
    exact h.vacant hvacant

theorem step {t : StoreState} {a : StoreAction} (h : Turns phoneNumber s)
    (halone : ChecksAlone phoneNumber s a) (hstep : storeStep phoneNumber s a = some t) :
    Turns phoneNumber t := by
  cases a with
  | registerClient i =>
    simp only [storeStep] at hstep
    split at hstep
    · cases hstep
    next hcall =>
    have hold : ∀ p, s.calls i = some p → p.inside = false := by
      intro p hp
      rw [hcall] at hp
      cases hp
    split at hstep
    · obtain rfl := Option.some.inj hstep
      exact h.outside hold rfl rfl
    · obtain rfl := Option.some.inj hstep
      exact h.outside hold rfl rfl
  | initClient i device =>
    simp only [storeStep] at hstep
    split at hstep
    · cases hstep
    next hcall =>
    obtain rfl := Option.some.inj hstep
    apply h.outside _ rfl rfl
    intro p hp
    rw [hcall] at hp
    cases hp
  | check i =>
    simp only [storeStep] at hstep
    split at hstep
    next device hcall =>
      split at hstep
      next hnone =>
        obtain rfl := Option.some.inj hstep
        exact h.enter (halone hnone) hnone device
      next hsome =>
        obtain rfl := Option.some.inj hstep
        apply h.outside _ rfl rfl
        intro p hp
        rw [hcall] at hp
        obtain rfl := Option.some.inj hp
        rfl
    · cases hstep
  | prepare i devices =>
    simp only [storeStep] at hstep
    split at hstep
    next device hcall =>
      obtain rfl := Option.some.inj hstep
      obtain ⟨-, hcreated, hwired, -⟩ := h.busy i _ hcall rfl
      exact h.advance hcall rfl rfl rfl rfl hcreated hwired
    next hcall =>
      obtain rfl := Option.some.inj hstep
      obtain ⟨-, hcreated, hwired, -⟩ := h.busy i _ hcall rfl
      exact h.advance hcall rfl rfl rfl rfl hcreated hwired
    · cases hstep
  | create i =>
    simp only [storeStep] at hstep
    split at hstep
    next device hcall =>
      obtain rfl := Option.some.inj hstep
      obtain ⟨-, hcreated, hwired, -⟩ := h.busy i _ hcall rfl
      have hmade := congrArg (List.cons (Client.mk s.created.length device)) hcreated
      exact @advance _ _ _ _ (.created ⟨s.created.length, device⟩) _ h hcall rfl rfl rfl rfl hmade
        hwired
    · cases hstep
  | addEventHandler i =>
    simp only [storeStep] at hstep
    split at hstep
    next client hcall =>
      obtain rfl := Option.some.inj hstep
      obtain ⟨-, hcreated, hwired, -⟩ := h.busy i _ hcall rfl
      have hattached := congrArg (List.cons client) hwired
      exact @advance _ _ _ _ (.wired client) _ h hcall rfl rfl rfl rfl hcreated hattached
    · cases hstep
  | set i =>
    simp only [storeStep] at hstep
    split at hstep
    next client hcall =>
      obtain rfl := Option.some.inj hstep
      exact h.leave hcall
    · cases hstep
  | elsewhere other client =>
    simp only [storeStep] at hstep
    split at hstep
    · cases hstep
    next hother =>
    obtain rfl := Option.some.inj hstep
    exact h.elsewhere hother

/-- While the calls take turns there is one client. -/
theorem oneClient (h : Turns phoneNumber s) : OneClient phoneNumber s := by
  by_cases hvacant : Vacant CallPhase.inside s.calls
  · obtain ⟨hwired, hcreated⟩ := h.vacant hvacant
    have hcount : s.created.length ≤ 1 := by
      obtain hnil | ⟨client, hone, -⟩ := hcreated
      · simp [hnil]
      · simp [hone]
    refine ⟨hcount, by rwa [hwired], ?_⟩
    intro i client hreturned
    have hmem := h.returned i client hreturned
    obtain hnil | ⟨stored, hone, hstored⟩ := hcreated
    · rw [hnil] at hmem
      cases hmem
    · rw [hone, List.mem_singleton] at hmem
      rw [hmem]
      exact hstored
  · simp only [Vacant, not_forall, Bool.not_eq_false] at hvacant
    obtain ⟨i, p, hp, hin⟩ := hvacant
    obtain ⟨-, hcreated, hwired, hno⟩ := h.busy i p hp hin
    refine ⟨?_, ?_, fun j client hj => absurd hj (hno j client)⟩
    · rw [hcreated]
      cases p.client <;> simp
    · rw [hwired]
      cases p.attached <;> simp

end Turns

/-- In every run in which no call finds the store empty while another one is between its
check and its insertion, one client is created, and it is the one in the store. -/
theorem registered_once {phoneNumber : String} {clients : ClientStore} {as : List StoreAction}
    {t : StoreState}
    (run : Run (storeStep phoneNumber) (ChecksAlone phoneNumber) (.init clients) as t) :
    OneClient phoneNumber t := by
  have hturns : Turns phoneNumber t :=
    run.invariant (Turns.init phoneNumber clients)
      fun _ _ _ halone hstep hturns => hturns.step halone hstep
  exact hturns.oneClient

/-- Two login requests, one after the other. -/
def loginTwice : List StoreAction :=
  [.registerClient 0, .check 0, .prepare 0 (.ok []), .create 0, .addEventHandler 0, .set 0,
    .registerClient 1]

theorem loginTwice_alone :
    Guarded (storeStep "628111") (ChecksAlone "628111") (.init fun _ => none) loginTwice := by
  simp only [loginTwice, Guarded, ChecksAlone, storeStep, StoreState.init, StoreState.setCall,
    ClientStore.get, Option.mem_some_iff, forall_eq', Function.update_self, true_and,
    forall_const]
  refine ⟨?_, by simp⟩
  intro i p hp
  by_cases hi : i = 0
  · subst hi
    rw [Function.update_self] at hp
    obtain rfl := Option.some.inj hp
    rfl
  · rw [Function.update_of_ne hi] at hp
    cases hp

theorem loginTwice_one : OneClient "628111"
    (final (storeStep "628111") (.init fun _ => none) loginTwice) :=
  registered_once (Run.to_final (by decide +kernel) loginTwice_alone)

/-- Calls for one phone number create one client, however they are interleaved. -/
def RegisteredOnce : Prop :=
  ∀ phoneNumber clients as t,
    Run (storeStep phoneNumber) (fun _ _ => True) (.init clients) as t → OneClient phoneNumber t

/-- A QR code and a pairing code are asked for at the same time. -/
def loginBoth : List StoreAction :=
  [.registerClient 0, .registerClient 1, .check 0, .check 1, .prepare 0 (.ok []),
    .prepare 1 (.ok []), .create 0, .addEventHandler 0, .set 0, .create 1, .addEventHandler 1,
    .set 1]

theorem loginBoth_two : ¬ RegisteredOnce := by
  intro hall
  have hone := hall "628111" (fun _ => none) loginBoth _
    (Run.to_final_free (by decide +kernel))
  have htwo : (final (storeStep "628111") (.init fun _ => none) loginBoth).created.length = 2 := by
    decide +kernel
  have hcreated := hone.created
  omega

end WhatsappGateway.Whatsapp.Clients
