import WhatsappGateway.Lib.Loop
import WhatsappGateway.Lib.Sorted
import WhatsappGateway.Whatsapp.ClientErrors

/-!
The pages of an account's contacts. The store is a map, which each request goes through in an
order of its own; the pages are cut from the sorted list, so that they fit together.
-/

namespace WhatsappGateway.Usecase.ContactPages

open Lib Whatsapp

structure ContactInfo where
  pushName : String
  fullName : String
  firstName : String
  businessName : String
deriving DecidableEq, Repr

structure ContactListItem where
  jid : String
  pushName : String
  fullName : String
  firstName : String
  businessName : String
deriving DecidableEq, Repr

structure ContactListResponse where
  contacts : List ContactListItem
  count : Int
  total : Int
  note : String
deriving DecidableEq, Repr

/-- What the client checks of a session: `hasContacts` when there is a store, with contacts. -/
structure Session where
  isLoggedIn : Bool
  hasContacts : Bool
deriving DecidableEq, Repr

def contactItem (contact : String × ContactInfo) : ContactListItem :=
  ⟨contact.1, contact.2.pushName, contact.2.fullName, contact.2.firstName,
    contact.2.businessName⟩

/-- `ListContacts` of the client: the entries of the map as they come, each with its JID. -/
def clientContacts (cli : Option Session)
    (getAllContacts : Except Err (List (String × ContactInfo))) :
    Except Mapped (List ContactListItem) :=
  match cli with
  | none => .error ⟨⟨.notFound, .new errClientNotFound⟩, false⟩
  | some cli =>
    if !cli.isLoggedIn then .error ⟨⟨.unauthorized, .new "client not logged in"⟩, false⟩
    else if !cli.hasContacts then .error ⟨⟨.conflict, .new "session store not ready"⟩, false⟩
    else
      match getAllContacts with
      | .error err =>
        if err.is .deviceDeleted then .error (mapWhatsmeowErr err)
        else .error (mapWhatsmeowErr (.wrap "failed to list contacts" err))
      | .ok contacts => .ok (contacts.map contactItem)

def defaultContactPageLimit : Int := 100

def maxContactPageLimit : Int := 500

def contactsNote : String :=
  "Reflects the account's locally-synced contacts; may be incomplete until history sync completes."

def pageLimit (limit : Int) : Int :=
  let limit := if limit ≤ 0 then defaultContactPageLimit else limit
  if limit > maxContactPageLimit then maxContactPageLimit else limit

/-- `ListContacts` of the usecase. The sort is not stable, but the JIDs differ. The end of a page
is at most 500 past the total, which is the length of a slice, so that it does not overflow. -/
def listContacts (items : Except Mapped (List ContactListItem)) (limit offset : Int) :
    Except Mapped ContactListResponse :=
  items.map fun items =>
    let sorted := sortOn ContactListItem.jid items
    let total : Int := items.length
    let start := min (if offset < 0 then 0 else offset) total
    let stop := min (start + pageLimit limit) total
    let page := (sorted.drop start.toNat).take (stop - start).toNat
    { contacts := page, count := page.length, total := total, note := contactsNote }

/-- The contacts of an account, which have different JIDs. -/
structure ContactStore where
  entries : List (String × ContactInfo)
  distinct : (entries.map Prod.fst).Nodup

/-- An order in which the map is gone through. -/
structure ContactStore.Iteration (store : ContactStore) where
  entries : List (String × ContactInfo)
  perm : entries.Perm store.entries

/-- The sorted contacts. -/
def ContactStore.sorted (store : ContactStore) : List ContactListItem :=
  sortOn ContactListItem.jid (store.entries.map contactItem)

/-- What a caller has got so far; `total` is that of the last response. -/
structure Paging where
  requests : Nat := 0
  offset : Int := 0
  total : Option Int := none
  contacts : List ContactListItem := []

/-- The caller asks for the next page, until the offset has reached the total. An error ends it. -/
def nextPage (respond : Nat → Int → Except Mapped ContactListResponse) (s : Paging) :
    Option Paging :=
  if s.total.any fun total => s.offset ≥ total then none
  else
    match respond s.requests s.offset with
    | .error _ => none
    | .ok resp =>
      some {
        requests := s.requests + 1
        offset := s.offset + resp.count
        total := some resp.total
        contacts := s.contacts ++ resp.contacts }

/-- The response to each request, in which the store is gone through in an order of its own. -/
def pages (store : ContactStore) (orders : Nat → store.Iteration) (limit : Int) (request : Nat)
    (offset : Int) : Except Mapped ContactListResponse :=
  listContacts (clientContacts (some ⟨true, true⟩) (.ok (orders request).entries)) limit offset

variable {store : ContactStore} {orders : Nat → store.Iteration} {limit : Int}

theorem pageLimit_pos (limit : Int) : 0 < pageLimit limit := by
  unfold pageLimit defaultContactPageLimit maxContactPageLimit
  dsimp only
  split_ifs <;> omega

theorem map_jid_contactItem (entries : List (String × ContactInfo)) :
    (entries.map contactItem).map ContactListItem.jid = entries.map Prod.fst := by
  rw [List.map_map]
  rfl

/-- The order of the map makes no difference. -/
theorem sorted_iteration (order : store.Iteration) :
    sortOn ContactListItem.jid (order.entries.map contactItem) = store.sorted := by
  apply sortOn_eq_of_perm (order.perm.map contactItem)
  rw [map_jid_contactItem]
  exact store.distinct

theorem length_sorted : store.sorted.length = store.entries.length := by
  rw [ContactStore.sorted, (sortOn_perm _ _).length_eq, List.length_map]

/-- From an offset within the list, a page is what comes next, up to the limit. -/
theorem pages_eq {request offset : Nat} (hoffset : offset ≤ store.entries.length) :
    pages store orders limit request offset = .ok {
      contacts := (store.sorted.drop offset).take (pageLimit limit).toNat
      count := ((store.sorted.drop offset).take (pageLimit limit).toNat).length
      total := store.entries.length
      note := contactsNote } := by
  have hlength : ((orders request).entries.map contactItem).length = store.entries.length := by
    rw [List.length_map, (orders request).perm.length_eq]
  have hpos := pageLimit_pos limit
  have hstart : min (if (offset : Int) < 0 then 0 else (offset : Int)) store.entries.length =
      offset := by
    rw [if_neg (by omega)]
    omega
  have hpage : (store.sorted.drop offset).take
      (min ((offset : Int) + pageLimit limit) store.entries.length - offset).toNat =
        (store.sorted.drop offset).take (pageLimit limit).toNat := by
    rw [List.take_eq_take_iff, List.length_drop, length_sorted]
    omega
  unfold pages clientContacts listContacts
  simp only [Bool.not_true, Bool.false_eq_true, if_false, Except.map]
  rw [sorted_iteration, hlength, hstart, Int.toNat_natCast, hpage]

/-- What has been got is the beginning of the sorted list, and its length is the offset. -/
structure Paged (store : ContactStore) (s : Paging) (offset : Nat) : Prop where
  offset_eq : s.offset = offset
  offset_le : offset ≤ store.entries.length
  contacts : s.contacts = store.sorted.take offset
  total : ∀ total, s.total = some total → total = store.entries.length

/-- A request adds a page. -/
theorem Paged.request {s : Paging} {offset : Nat} (h : Paged store s offset)
    (hmore : ¬ (s.total.any fun total => s.offset ≥ total) = true) :
    ∃ t, nextPage (pages store orders limit) s = some t ∧
      Paged store t (offset + min (pageLimit limit).toNat (store.entries.length - offset)) ∧
      t.total = some (store.entries.length : Int) := by
  have hlength : ((store.sorted.drop offset).take (pageLimit limit).toNat).length =
      min (pageLimit limit).toNat (store.entries.length - offset) := by
    rw [List.length_take, List.length_drop, length_sorted]
  have hle := h.offset_le
  unfold nextPage
  rw [if_neg hmore, h.offset_eq, pages_eq hle]
  refine ⟨_, rfl, ⟨?_, by omega, ?_, ?_⟩, rfl⟩
  · rw [hlength]
    push_cast
    rfl
  · have hwhole : (store.sorted.drop offset).take (pageLimit limit).toNat =
        (store.sorted.drop offset).take
          (min (pageLimit limit).toNat (store.entries.length - offset)) := by
      rw [List.take_eq_take_iff, List.length_drop, length_sorted]
      omega
    rw [h.contacts, hwhole, List.take_add]
  · exact fun total htotal => (Option.some.inj htotal).symm

/-- One request: the caller is done, with all contacts, or gets at least one more of them or, at
first, the total. -/
theorem Paged.step {s : Paging} {offset : Nat} (h : Paged store s offset) :
    (nextPage (pages store orders limit) s = none ∧ s.contacts = store.sorted ∧
        s.total = some (store.entries.length : Int)) ∨
      ∃ t next, nextPage (pages store orders limit) s = some t ∧ Paged store t next ∧
        t.total = some (store.entries.length : Int) ∧ (s.total = none ∨ offset < next) := by
  have hle := h.offset_le
  by_cases hover : (s.total.any fun total => s.offset ≥ total) = true
  · obtain ⟨total, htotal, hreached⟩ := (Option.any_eq_true _ _).mp hover
    obtain rfl := h.total total htotal
    have hoffset : store.entries.length ≤ offset := by
      have hge := of_decide_eq_true hreached
      rw [h.offset_eq] at hge
      omega
    refine .inl ⟨if_pos hover, ?_, htotal⟩
    rw [h.contacts, List.take_of_length_le (by rwa [length_sorted])]
  · obtain ⟨t, hnext, hpaged, htotal⟩ := h.request hover
    refine .inr ⟨t, _, hnext, hpaged, htotal, ?_⟩
    cases hseen : s.total with
    | none => exact .inl rfl
    | some total =>
      right
      have hpos := pageLimit_pos limit
      obtain rfl := h.total total hseen
      have hbelow : ¬ (offset : Int) ≥ store.entries.length := by
        rw [hseen, h.offset_eq] at hover
        simpa using hover
      omega

/-- Before the first response one more request is to come than contacts. -/
def remaining (store : ContactStore) (s : Paging) : Nat :=
  match s.total with
  | none => store.entries.length + 1
  | some _ => store.entries.length - s.offset.toNat

theorem remaining_lt {s : Paging} (h : ∃ offset, Paged store s offset) :
    (nextPage (pages store orders limit) s = none ∧ s.contacts = store.sorted ∧
        s.total = some (store.entries.length : Int)) ∨
      ∃ t, nextPage (pages store orders limit) s = some t ∧ (∃ offset, Paged store t offset) ∧
        remaining store t < remaining store s := by
  obtain ⟨offset, hpaged⟩ := h
  rcases hpaged.step with hdone | ⟨t, next, hnext, hnextPaged, htotal, hmore⟩
  · exact .inl hdone
  · refine .inr ⟨t, hnext, ⟨next, hnextPaged⟩, ?_⟩
    have hle := hnextPaged.offset_le
    rw [remaining, remaining, htotal, hnextPaged.offset_eq]
    cases hseen : s.total with
    | none =>
      dsimp only
      omega
    | some total =>
      have hlt : offset < next := hmore.resolve_left (by rw [hseen]; exact Option.some_ne_none _)
      rw [hpaged.offset_eq]
      dsimp only
      omega

/-- However the map is gone through for each request, and whatever the limit, the pages end, and
they are the sorted contacts, each of them once. -/
theorem pages_complete (store : ContactStore) (orders : Nat → store.Iteration) (limit : Int) :
    ∃ last, EndsIn (nextPage (pages store orders limit)) {} last ∧
      last.contacts = store.sorted ∧ last.total = some (store.entries.length : Int) ∧
      last.contacts.Perm (store.entries.map contactItem) ∧
      last.contacts.Pairwise fun a b => a.jid < b.jid := by
  have hstart : ∃ offset, Paged store {} offset := by
    refine ⟨0, ⟨rfl, Nat.zero_le _, rfl, ?_⟩⟩
    intro total htotal
    cases htotal
  obtain ⟨last, hends, hcontacts, htotal⟩ :=
    endsIn_of_measure (remaining store) (fun _ => remaining_lt) hstart
  refine ⟨last, hends, hcontacts, htotal, ?_, ?_⟩
  · rw [hcontacts]
    exact sortOn_perm _ _
  · rw [hcontacts]
    apply sortOn_strict
    rw [map_jid_contactItem]
    exact store.distinct

end WhatsappGateway.Usecase.ContactPages
