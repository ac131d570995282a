import Mathlib.Data.List.AList
import WhatsappGateway.Lib.Fallible
import WhatsappGateway.Lib.Sorted
import WhatsappGateway.Whatsapp.ClientErrors
import WhatsappGateway.Whatsapp.ClientStore
import WhatsappGateway.Whatsapp.SessionInventory

/-!
The list of all sessions. Clients in memory, devices and persisted statuses are maps, each with
phones of its own. Their phones are collected and sorted, so that the list is the same in
whichever order the maps are gone through, and agrees with the lookup of a single phone.
-/

namespace WhatsappGateway.Whatsapp.Inventory

open Lib

/-- A map by phone. -/
abbrev PhoneMap (β : Type) := AList fun _ : String => β

/-- An order in which a map is gone through. -/
structure Iteration {β : Type} (m : PhoneMap β) where
  phones : List String
  perm : phones.Perm m.keys

/-- The map that a loop over rows leaves. The last row of a phone counts. -/
def putAll {β : Type} (m : PhoneMap β) (rows : List (String × β)) : PhoneMap β :=
  rows.foldl (fun m row => m.insert row.1 row.2) m

/-! ### The sources -/

/-- A client in memory; its device is that of its store. -/
structure LiveClient where
  store : Option Clients.Device
  connected : Bool
  loggedIn : Bool
deriving DecidableEq, Repr

def LiveClient.clientState (cli : LiveClient) : ClientState :=
  ⟨(cli.store.bind Clients.Device.user).isSome, cli.connected, cli.loggedIn⟩

structure Sources where
  inMem : PhoneMap ClientState
  devices : PhoneMap Int
  status : PhoneMap SessionStatus

/-- What the sources are gathered from: the rows of the two tables, the clients, with nil ones
among them, and the instant of the gathering. -/
structure SourceRows where
  statuses : Except Err (List (String × SessionStatus))
  deviceRows : Except Err (List Clients.Device)
  clients : PhoneMap (Option LiveClient)
  now : Int

def liveClient (rows : SourceRows) (phone : String) : Option (String × ClientState) :=
  (rows.clients.lookup phone).join.map fun cli => (phone, cli.clientState)

/-- A device without a JID is passed over. -/
def deviceEntry (now : Int) (d : Clients.Device) : Option (String × Int) :=
  d.user.map fun user => (Clients.decomposeJID user, now)

def sessionSources (rows : SourceRows) (order : Iteration rows.clients) : Except Err Sources := do
  let statuses ← rows.statuses
  let deviceRows ← rows.deviceRows
  return { inMem := putAll ∅ (order.phones.filterMap (liveClient rows))
           devices := putAll ∅ (deviceRows.filterMap (deviceEntry rows.now))
           status := putAll ∅ statuses }

/-! ### The list and the single lookup -/

/-- The set of phones, filled from the three maps in turn. -/
def collectPhones (inMem devices status : List String) : PhoneMap Unit :=
  let add (phones : PhoneMap Unit) (keys : List String) := putAll phones (keys.map (·, ()))
  add (add (add ∅ inMem) devices) status

/-- The orders of the four loops of a merge. -/
structure Sources.Orders (s : Sources) where
  inMem : Iteration s.inMem
  devices : Iteration s.devices
  status : Iteration s.status
  phones : Iteration (collectPhones inMem.phones devices.phones status.phones)

def Sources.item (s : Sources) (phone : String) (now : Int) : SessionInventoryItem :=
  deriveItem phone (fun phone => s.inMem.lookup phone) (fun phone => s.devices.lookup phone)
    (fun phone => s.status.lookup phone) now

def mergeInventory (s : Sources) (orders : s.Orders) (now : Int) : List SessionInventoryItem :=
  let sorted := sortOn id orders.phones.phones
  sorted.map fun p => s.item p now

/-- `SessionInventory` of the client. -/
def sessionInventory (sources : Except Err Sources) (orders : ∀ s : Sources, s.Orders)
    (now : Int) : Except Err (List SessionInventoryItem) :=
  sources.map fun s => mergeInventory s (orders s) now

/-- `GetOneSession` of the client: nothing for a phone that no source has. -/
def getOneSession (sources : Except Err Sources) (phone : String) (now : Int) :
    Except Err (Option SessionInventoryItem) :=
  sources.map fun s =>
    let a := (s.inMem.lookup phone).isSome
    let b := (s.devices.lookup phone).isSome
    let d := (s.status.lookup phone).isSome
    if !a && !b && !d then none else some (s.item phone now)

variable {β : Type} {m : PhoneMap β} {rows : List (String × β)} {phone : String} {now : Int}

/-! ### Phones of a map -/

theorem mem_putAll : phone ∈ putAll m rows ↔ phone ∈ m ∨ phone ∈ rows.map Prod.fst := by
  induction rows generalizing m with
  | nil => simp [putAll]
  | cons row rows ih =>
    have hstep : putAll m (row :: rows) = putAll (m.insert row.1 row.2) rows := rfl
    rw [hstep, ih, AList.mem_insert, List.map_cons, List.mem_cons, or_assoc, or_left_comm]

theorem Iteration.mem_iff (order : Iteration m) : phone ∈ order.phones ↔ phone ∈ m :=
  order.perm.mem_iff.trans AList.mem_keys.symm

theorem Iteration.nodup (order : Iteration m) : order.phones.Nodup :=
  order.perm.nodup_iff.mpr m.keys_nodup

theorem mem_collectPhones {inMem devices status : List String} :
    phone ∈ collectPhones inMem devices status ↔
      phone ∈ inMem ∨ phone ∈ devices ∨ phone ∈ status := by
  have hkeys : ∀ keys : List String, (keys.map (·, ())).map Prod.fst = keys := by
    intro keys
    rw [List.map_map]
    exact List.map_id keys
  simp only [collectPhones, mem_putAll, hkeys, AList.notMem_empty, false_or, or_assoc]

/-! ### The merge -/

section Merge

variable {s : Sources}

/-- The phone occurs in a source. -/
def Sources.Knows (s : Sources) (phone : String) : Prop :=
  phone ∈ s.inMem ∨ phone ∈ s.devices ∨ phone ∈ s.status

theorem Sources.Orders.mem_phones (orders : s.Orders) :
    phone ∈ orders.phones.phones ↔ s.Knows phone := by
  rw [orders.phones.mem_iff, mem_collectPhones, orders.inMem.mem_iff, orders.devices.mem_iff,
    orders.status.mem_iff, Sources.Knows]

theorem Sources.Orders.mem_sorted (orders : s.Orders) :
    phone ∈ sortOn id orders.phones.phones ↔ s.Knows phone :=
  (sortOn_perm id _).mem_iff.trans orders.mem_phones

theorem Sources.Orders.ascending (orders : s.Orders) :
    (sortOn id orders.phones.phones).Pairwise (· < ·) := by
  have hdistinct : (orders.phones.phones.map id).Nodup := by
    rw [List.map_id]
    exact orders.phones.nodup
  exact sortOn_strict hdistinct

theorem getOneSession_known (hknown : s.Knows phone) :
    getOneSession (.ok s) phone now = .ok (some (s.item phone now)) := by
  rw [Sources.Knows, ← AList.lookup_isSome, ← AList.lookup_isSome, ← AList.lookup_isSome] at hknown
  unfold getOneSession Except.map
  rcases hknown with h | h | h <;> simp [h]

theorem getOneSession_unknown (hunknown : ¬ s.Knows phone) :
    getOneSession (.ok s) phone now = .ok none := by
  rw [Sources.Knows, not_or, not_or, ← AList.lookup_eq_none, ← AList.lookup_eq_none,
    ← AList.lookup_eq_none] at hunknown
  obtain ⟨hinMem, hdevices, hstatus⟩ := hunknown
  simp [getOneSession, Except.map, hinMem, hdevices, hstatus]

/-- In whichever order the maps are gone through, the list has each phone of a source once, in
ascending order, with the item that the single lookup gives; and the single lookup gives none
exactly for the other phones. -/
theorem mergeInventory_complete (s : Sources) (orders : s.Orders) (now : Int) :
    (∃ phones : List String, phones.Pairwise (· < ·) ∧
        (∀ phone, phone ∈ phones ↔ s.Knows phone) ∧
        mergeInventory s orders now = phones.map (fun phone => s.item phone now) ∧
        ∀ phone ∈ phones, getOneSession (.ok s) phone now = .ok (some (s.item phone now))) ∧
      ∀ phone, getOneSession (.ok s) phone now = .ok none ↔ ¬ s.Knows phone := by
  refine ⟨⟨_, orders.ascending, fun _ => orders.mem_sorted, rfl, ?_⟩, ?_⟩
  · exact fun phone hphone => getOneSession_known (orders.mem_sorted.mp hphone)
  · intro phone
    constructor
    · intro habsent hknown
      rw [getOneSession_known hknown] at habsent
      cases habsent
    · exact getOneSession_unknown

end Merge

/-! ### The gathered sources -/

section Gathered

variable {rows : SourceRows} {order : Iteration rows.clients} {s : Sources}

/-- The phone has a client in memory, a device or a persisted status. -/
def SourceRows.Occurs (rows : SourceRows) (phone : String) : Prop :=
  (∃ cli, rows.clients.lookup phone = some (some cli)) ∨
    (∃ devices, rows.deviceRows = .ok devices ∧
      ∃ d ∈ devices, d.user.map Clients.decomposeJID = some phone) ∨
    ∃ statuses, rows.statuses = .ok statuses ∧ phone ∈ statuses.map Prod.fst

theorem sessionSources_ok (hgathered : sessionSources rows order = .ok s) :
    ∃ statuses devices, rows.statuses = .ok statuses ∧ rows.deviceRows = .ok devices ∧
      s = { inMem := putAll ∅ (order.phones.filterMap (liveClient rows))
            devices := putAll ∅ (devices.filterMap (deviceEntry rows.now))
            status := putAll ∅ statuses } := by
  simp only [sessionSources, bind_eq_ok] at hgathered
  obtain ⟨statuses, hstatuses, devices, hdevices, hsources⟩ := hgathered
  exact ⟨statuses, devices, hstatuses, hdevices, (Except.ok.inj hsources).symm⟩

theorem mem_liveClients (order : Iteration rows.clients) :
    phone ∈ (order.phones.filterMap (liveClient rows)).map Prod.fst ↔
      ∃ cli, rows.clients.lookup phone = some (some cli) := by
  constructor
  · intro hmem
    obtain ⟨⟨_, state⟩, hentry, rfl⟩ := List.mem_map.mp hmem
    obtain ⟨key, _, hlive⟩ := List.mem_filterMap.mp hentry
    obtain ⟨cli, hlookup, heq⟩ := Option.map_eq_some_iff.mp hlive
    cases heq
    exact ⟨cli, Option.join_eq_some_iff.mp hlookup⟩
  · rintro ⟨cli, hlookup⟩
    have hkey : phone ∈ order.phones := by
      rw [order.mem_iff, ← AList.lookup_isSome, hlookup]
      rfl
    refine List.mem_map.mpr ⟨(phone, cli.clientState), ?_, rfl⟩
    refine List.mem_filterMap.mpr ⟨phone, hkey, ?_⟩
    rw [liveClient, hlookup]
    rfl

theorem mem_deviceEntries {devices : List Clients.Device} :
    phone ∈ (devices.filterMap (deviceEntry now)).map Prod.fst ↔
      ∃ d ∈ devices, d.user.map Clients.decomposeJID = some phone := by
  rw [List.map_filterMap, List.mem_filterMap]
  apply exists_congr
  intro d
  rw [deviceEntry, Option.map_map]
  rfl

/-- The gathered sources know the phones of the rows and of the clients, and no others. -/
theorem sessionSources_knows (hgathered : sessionSources rows order = .ok s) (phone : String) :
    s.Knows phone ↔ rows.Occurs phone := by
  obtain ⟨statuses, devices, hstatuses, hdevices, rfl⟩ := sessionSources_ok hgathered
  simp only [Sources.Knows, SourceRows.Occurs, mem_putAll, AList.notMem_empty, false_or,
    mem_liveClients, mem_deviceEntries, hstatuses, hdevices, Except.ok.injEq, exists_eq_left']

/-- The list has the phones of the rows and of the clients. -/
theorem sessionInventory_phones (hgathered : sessionSources rows order = .ok s)
    (orders : ∀ s : Sources, s.Orders) (now : Int) :
    ∃ phones : List String, phones.Pairwise (· < ·) ∧
      (∀ phone, phone ∈ phones ↔ rows.Occurs phone) ∧
      sessionInventory (sessionSources rows order) orders now =
        .ok (phones.map fun phone => s.item phone now) := by
  refine ⟨_, (orders s).ascending, ?_, ?_⟩
  · exact fun phone => (orders s).mem_sorted.trans (sessionSources_knows hgathered phone)
  · rw [hgathered]
    rfl

end Gathered

end WhatsappGateway.Whatsapp.Inventory
