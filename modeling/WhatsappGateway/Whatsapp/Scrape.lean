import WhatsappGateway.Whatsapp.Metrics

/-!
What a scrape of the metrics reads. The text of each scrape is that of labelled samples, and each
counter in it is as it was when the scrape came to it.
-/

namespace WhatsappGateway.Metrics

open Lib Exposition Whatsapp Events Duration

variable {graphic : Char → Bool} {cfg : RetryConfig} {s t : System} {a : Action}
  {actions : List Action}

/-! ### The text of a scrape -/

theorem result_injective : Function.Injective result := by
  intro a b h
  cases a <;> cases b <;> first | rfl | exact absurd h (by decide)

theorem SendRecord.labels_injective : Function.Injective SendRecord.labels := by
  rintro ⟨_, _, _⟩ ⟨_, _, _⟩ h
  simp only [SendRecord.labels, List.cons.injEq, Prod.mk.injEq, true_and, and_true] at h
  obtain ⟨rfl, rfl, hresult⟩ := h
  rw [result_injective hresult]

theorem WebhookRecord.labels_injective : Function.Injective WebhookRecord.labels := by
  rintro ⟨_, _, _⟩ ⟨_, _, _⟩ h
  simp only [WebhookRecord.labels, List.cons.injEq, Prod.mk.injEq, true_and, and_true] at h
  obtain ⟨hresult, rfl, rfl⟩ := h
  rw [result_injective hresult]

theorem printable_ascii {text : String} (h : ∀ c ∈ text.toList, 32 ≤ c.toNat ∧ c.toNat < 127) :
    Printable graphic text := by
  intro c hc
  obtain ⟨hlow, hhigh⟩ := h c hc
  left
  rw [isPrint, if_pos (by omega)]
  simp [hlow, hhigh]

theorem printable_result (failed : Bool) : Printable graphic (result failed) := by
  cases failed <;> exact printable_ascii (by simp [result])

theorem SendRecord.labels_formed {r : SendRecord} (htype : Printable graphic r.msgType)
    (hmode : Printable graphic r.mode) : Labels graphic r.labels where
  nonempty := List.cons_ne_nil _ _
  names := by simp [SendRecord.labels]
  values := by simp [SendRecord.labels, htype, hmode, printable_result]

theorem WebhookRecord.labels_formed {r : WebhookRecord} (hmode : Printable graphic r.mode)
    (hevent : Printable graphic r.event) : Labels graphic r.labels where
  nonempty := List.cons_ne_nil _ _
  names := by simp [WebhookRecord.labels]
  values := by simp [WebhookRecord.labels, hmode, hevent, printable_result]

/-- The samples of a counter. -/
def counterSamples (name : String) (vals : Counter) (order : Tally.Order vals) : List Sample :=
  (sortOn id order.keys).map fun key =>
    ⟨metricsNamespace ++ "_" ++ name, keyLabels key, (vals.lookup key).getD 0⟩

def sessionSamples (states : Counter) (order : Tally.Order states) : List Sample :=
  (sortOn id order.keys).map fun state =>
    ⟨metricsNamespace ++ "_sessions", [("state", state)], (states.lookup state).getD 0⟩

def counterLines (name help : String) (vals : Counter) (order : Tally.Order vals) : List Line :=
  let full := metricsNamespace ++ "_" ++ name
  .comment ("HELP " ++ full ++ " " ++ help) :: .comment ("TYPE " ++ full ++ " counter") ::
    (counterSamples name vals order).map .sample

def sessionLines (states : Counter) (order : Tally.Order states) : List Line :=
  .comment ("HELP " ++ (metricsNamespace ++ "_sessions") ++
      " Current WhatsApp sessions by state (per instance).") ::
    .comment ("TYPE " ++ (metricsNamespace ++ "_sessions") ++ " gauge") ::
    (sessionSamples states order).map .sample

/-- The text that consists of the lines. -/
def textOf (graphic : Char → Bool) (lines : List Line) : String :=
  String.join (lines.map fun line => line.text graphic ++ "\n")

theorem mem_sortOn {xs : List String} {x : String} : x ∈ sortOn id xs ↔ x ∈ xs :=
  (sortOn_perm id xs).mem_iff

theorem textOf_comment {text : String} {lines : List Line} :
    textOf graphic (.comment text :: lines) = "# " ++ text ++ "\n" ++ textOf graphic lines := by
  rw [textOf, List.map_cons, String.join_cons, textOf, Line.text]

theorem textOf_append {first second : List Line} :
    textOf graphic (first ++ second) = textOf graphic first ++ textOf graphic second := by
  rw [textOf, List.map_append, String.join_append, textOf, textOf]

theorem textOf_samples (samples : List Sample) :
    textOf graphic (samples.map .sample) =
      String.join (samples.map fun s => s.text graphic ++ "\n") := by
  rw [textOf, List.map_map]
  rfl

theorem writeCounter_lines {name help : String} {vals : Counter} {order : Tally.Order vals}
    (hkeys : ∀ key ∈ order.keys, labelsText graphic (keyLabels key) = key) :
    writeCounter name help vals order = textOf graphic (counterLines name help vals order) := by
  have hsamples : String.join ((sortOn id order.keys).map fun key =>
      metricsNamespace ++ "_" ++ name ++ key ++ " " ++ toString ((vals.lookup key).getD 0) ++
        "\n") = textOf graphic ((counterSamples name vals order).map .sample) := by
    rw [textOf_samples, counterSamples, List.map_map]
    refine congrArg String.join (List.map_congr_left fun key hkey => ?_)
    rw [Function.comp_apply, Sample.text, hkeys key (mem_sortOn.mp hkey)]
  rw [counterLines, textOf_comment, textOf_comment, ← hsamples, writeCounter]
  apply String.toList_injective
  simp

theorem writeSessions_lines {states : Counter} {order : ∀ m : Counter, Tally.Order m} :
    writeSessions graphic (some states) order =
      textOf graphic (sessionLines states (order states)) := by
  have hsamples : String.join ((sortOn id (order states).keys).map fun s =>
      metricsNamespace ++ "_sessions" ++ "\x7bstate=" ++ quote graphic s ++ "\x7d " ++
        toString ((states.lookup s).getD 0) ++ "\n") =
      textOf graphic ((sessionSamples states (order states)).map .sample) := by
    rw [textOf_samples, sessionSamples, List.map_map]
    refine congrArg String.join (List.map_congr_left fun state hstate => ?_)
    apply String.toList_injective
    simp [Sample.text, labelsText, labelText]
  rw [sessionLines, textOf_comment, textOf_comment, ← hsamples, writeSessions]
  apply String.toList_injective
  simp

theorem filterMap_samples (samples : List Sample) :
    (samples.map Line.sample).filterMap Line.sample? = samples := by
  rw [List.filterMap_map]
  exact List.filterMap_some

theorem counterLines_formed {name help : String} {vals : Counter} {order : Tally.Order vals}
    (hname : ∀ c ∈ name.toList, c ≠ '{' ∧ c ≠ '\n' ∧ c ≠ '#') (hhelp : '\n' ∉ help.toList)
    (hkeys : ∀ key ∈ order.keys, Labels graphic (keyLabels key)) :
    ∀ line ∈ counterLines name help vals order, line.WellFormed graphic := by
  have hnewline : '\n' ∉ name.toList := fun hmem => (hname _ hmem).2.1 rfl
  intro line hline
  rcases List.mem_cons.mp hline with rfl | hline
  · simp [Line.WellFormed, metricsNamespace, hnewline, hhelp]
  rcases List.mem_cons.mp hline with rfl | hline
  · simp [Line.WellFormed, metricsNamespace, hnewline]
  obtain ⟨sample, hsample, rfl⟩ := List.mem_map.mp hline
  obtain ⟨key, hkey, rfl⟩ := List.mem_map.mp hsample
  refine ⟨fun c hc => ?_, hkeys key (mem_sortOn.mp hkey)⟩
  rw [String.toList_append, String.toList_append, List.mem_append, List.mem_append] at hc
  rcases hc with (hc | hc) | hc
  · revert c
    simp [metricsNamespace]
  · revert c
    simp
  · exact hname c hc

theorem sessionLines_formed {states : Counter} {order : Tally.Order states}
    (hstates : ∀ state ∈ order.keys, Printable graphic state) :
    ∀ line ∈ sessionLines states order, line.WellFormed graphic := by
  intro line hline
  rcases List.mem_cons.mp hline with rfl | hline
  · simp [Line.WellFormed, metricsNamespace]
  rcases List.mem_cons.mp hline with rfl | hline
  · simp [Line.WellFormed, metricsNamespace]
  obtain ⟨sample, hsample, rfl⟩ := List.mem_map.mp hline
  obtain ⟨state, hstate, rfl⟩ := List.mem_map.mp hsample
  refine ⟨?_, List.cons_ne_nil _ _, ?_, ?_⟩
  · simp [metricsNamespace]
  · simp
  · simpa using hstates state (mem_sortOn.mp hstate)

/-- Snapshots whose keys stand for labels. -/
structure Renderable (graphic : Char → Bool) (messages webhooks states : Counter)
    (sends : List SendRecord) (records : List WebhookRecord) : Prop where
  messages : messages.Counts ((sends.map SendRecord.labels).map (labelsText graphic))
  webhooks : webhooks.Counts ((records.map WebhookRecord.labels).map (labelsText graphic))
  sendLabels : ∀ labels ∈ sends.map SendRecord.labels, Labels graphic labels
  webhookLabels : ∀ labels ∈ records.map WebhookRecord.labels, Labels graphic labels
  states : ∀ state ∈ states.keys, Printable graphic state

theorem key_formed {vals : Counter} {recorded : List (List (String × String))}
    {order : Tally.Order vals} (hcounts : vals.Counts (recorded.map (labelsText graphic)))
    (hformed : ∀ labels ∈ recorded, Labels graphic labels) :
    ∀ key ∈ order.keys, labelsText graphic (keyLabels key) = key ∧
      Labels graphic (keyLabels key) := by
  intro key hkey
  obtain ⟨labels, hmem, htext, hlabels⟩ :=
    exists_labels hcounts hformed (order.perm.mem_iff.mp hkey)
  rw [hlabels]
  exact ⟨htext, hformed labels hmem⟩

theorem Renderable.samples {messages webhooks states : Counter} {sends : List SendRecord}
    {records : List WebhookRecord} (h : Renderable graphic messages webhooks states sends records)
    (order : ∀ m : Counter, Tally.Order m) :
    readSamples (render graphic messages webhooks (some states) order) =
      some (counterSamples "messages_total" messages (order messages) ++
        (counterSamples "webhook_deliveries_total" webhooks (order webhooks) ++
          sessionSamples states (order states))) := by
  have hsends : ∀ key ∈ (order messages).keys, _ := key_formed h.messages h.sendLabels
  have hrecords : ∀ key ∈ (order webhooks).keys, _ := key_formed h.webhooks h.webhookLabels
  have hstates : ∀ state ∈ (order states).keys, Printable graphic state := fun state hstate =>
    h.states state ((order states).perm.mem_iff.mp hstate)
  rw [render, writeCounter_lines fun key hkey => (hsends key hkey).1,
    writeCounter_lines fun key hkey => (hrecords key hkey).1, writeSessions_lines,
    ← textOf_append, ← textOf_append, textOf, readSamples_lines]
  · simp only [counterLines, sessionLines, List.filterMap_append, List.filterMap_cons,
      Line.sample?, filterMap_samples, List.append_assoc]
  · intro line hline
    rcases List.mem_append.mp hline with hline | hline
    · rcases List.mem_append.mp hline with hline | hline
      · exact counterLines_formed (by simp) (by simp) (fun key hkey => (hsends key hkey).2) line
          hline
      · exact counterLines_formed (by simp) (by simp) (fun key hkey => (hrecords key hkey).2) line
          hline
    · exact sessionLines_formed hstates line hline

theorem counter_other {name other : String} {vals : Counter} {order : Tally.Order vals}
    {labels : List (String × String)} (hother : metricsNamespace ++ "_" ++ name ≠ other) :
    valueOf (counterSamples name vals order) other labels = none := by
  refine valueOf_other_name fun sample hsample => ?_
  obtain ⟨key, -, rfl⟩ := List.mem_map.mp hsample
  exact hother

theorem session_other {other : String} {states : Counter} {order : Tally.Order states}
    {labels : List (String × String)} (hother : metricsNamespace ++ "_sessions" ≠ other) :
    valueOf (sessionSamples states order) other labels = none := by
  refine valueOf_other_name fun sample hsample => ?_
  obtain ⟨key, -, rfl⟩ := List.mem_map.mp hsample
  exact hother

theorem session_value {states : Counter} {order : Tally.Order states} (state : String) :
    valueOf (sessionSamples states order) (metricsNamespace ++ "_sessions") [("state", state)] =
      states.lookup state := by
  have hmem : state ∈ sortOn id order.keys ↔ (states.lookup state).isSome = true := by
    rw [mem_sortOn, order.perm.mem_iff, AList.lookup_isSome, AList.mem_keys]
  cases hlookup : states.lookup state with
  | none =>
    rw [hlookup] at hmem
    refine valueOf_absent fun other hother hsame => ?_
    simp only [List.cons.injEq, Prod.mk.injEq, true_and, and_true] at hsame
    exact Bool.false_ne_true (hmem.mp (hsame ▸ hother))
  | some n =>
    rw [hlookup] at hmem
    have hpresent : valueOf (sessionSamples states order) (metricsNamespace ++ "_sessions")
        [("state", state)] = some ((states.lookup state).getD 0) :=
      valueOf_present (hmem.mpr rfl) fun other _ hsame => by simpa using hsame
    rw [hpresent, hlookup, Option.getD_some]

/-! ### The gauge -/

def statesOf : Except Err (List SessionInventoryItem) → List String
  | .error _ => []
  | .ok sessions => sessions.map SessionInventoryItem.state

theorem lookup_zeros (states : List String) (start : Counter) (state : String) :
    (states.foldl (fun states state => states.insert state 0) start).lookup state =
      if state ∈ states then some 0 else start.lookup state := by
  induction states generalizing start with
  | nil => rfl
  | cons first states ih =>
    rw [List.foldl_cons, ih]
    by_cases hsame : state = first
    · rw [hsame, AList.lookup_insert]
      simp
    · rw [AList.lookup_insert_ne hsame]
      simp [hsame]

theorem tallyStates_lookup (inventory : Except Err (List SessionInventoryItem)) (state : String) :
    (tallyStates inventory).lookup state =
      if state ∈ sessionStates ∨ state ∈ statesOf inventory then
        some (wrap64 ((statesOf inventory).count state)) else none := by
  have hfold : tallyStates inventory = (statesOf inventory).foldl Tally.inc
      (sessionStates.foldl (fun states state => states.insert state 0) ∅) := by
    cases inventory <;> rfl
  have hempty : (∅ : Counter).lookup state = none := rfl
  rw [hfold, Tally.lookup_foldl_inc, lookup_zeros, hempty]
  by_cases hmem : state ∈ statesOf inventory
  · simp only [hmem, or_true, if_true]
    split <;> simp
  · rw [if_neg hmem, List.count_eq_zero_of_not_mem hmem]
    simp [hmem, wrap64]

theorem mem_tallyStates {inventory : Except Err (List SessionInventoryItem)} {state : String} :
    state ∈ (tallyStates inventory).keys ↔ state ∈ sessionStates ∨ state ∈ statesOf inventory := by
  rw [← AList.mem_keys, ← AList.lookup_isSome, tallyStates_lookup]
  split <;> simp_all

/-! ### What a scrape reads -/

/-- What the samples of a text say. -/
structure ReadBack (samples : List Sample) (sends : List SendRecord)
    (records : List WebhookRecord) (states : List String) : Prop where
  messages : ∀ r : SendRecord,
    valueOf samples "whatsapp_gateway_messages_total" r.labels = shown (sends.count r)
  webhooks : ∀ r : WebhookRecord,
    valueOf samples "whatsapp_gateway_webhook_deliveries_total" r.labels = shown (records.count r)
  sessions : ∀ state, valueOf samples "whatsapp_gateway_sessions" [("state", state)] =
    if state ∈ sessionStates ∨ state ∈ states then some (wrap64 (states.count state)) else none

theorem counter_value {name : String} {vals : Counter} {order : Tally.Order vals}
    {recorded : List (List (String × String))} {labels : List (String × String)}
    (hcounts : vals.Counts (recorded.map (labelsText graphic)))
    (hformed : ∀ labels ∈ recorded, Labels graphic labels) :
    valueOf (counterSamples name vals order) (metricsNamespace ++ "_" ++ name) labels =
      shown (recorded.count labels) :=
  valueOf_counter hcounts (fun _ => by rw [mem_sortOn, order.perm.mem_iff]) hformed

theorem Renderable.readBack {messages webhooks : Counter} {sends : List SendRecord}
    {records : List WebhookRecord} {inventory : Except Err (List SessionInventoryItem)}
    (h : Renderable graphic messages webhooks (tallyStates inventory) sends records)
    (order : ∀ m : Counter, Tally.Order m) :
    ∃ samples, readSamples (render graphic messages webhooks (some (tallyStates inventory)) order) =
        some samples ∧ ReadBack samples sends records (statesOf inventory) := by
  have hmessages (r : SendRecord) : valueOf (counterSamples "messages_total" messages
      (order messages)) (metricsNamespace ++ "_" ++ "messages_total") r.labels = _ :=
    counter_value h.messages h.sendLabels
  have hwebhooks (r : WebhookRecord) : valueOf (counterSamples "webhook_deliveries_total" webhooks
      (order webhooks)) (metricsNamespace ++ "_" ++ "webhook_deliveries_total") r.labels = _ :=
    counter_value h.webhooks h.webhookLabels
  refine ⟨_, h.samples order, ?_, ?_, ?_⟩
  · intro r
    rw [valueOf_append_right, ← List.count_map_of_injective sends _ SendRecord.labels_injective]
    · exact hmessages r
    · rw [valueOf_append_right]
      · exact counter_other (by decide)
      · exact session_other (by decide)
  · intro r
    rw [valueOf_append_left, valueOf_append_right,
      ← List.count_map_of_injective records _ WebhookRecord.labels_injective]
    · exact hwebhooks r
    · exact session_other (by decide)
    · exact counter_other (by decide)
  · intro state
    rw [valueOf_append_left, valueOf_append_left, ← tallyStates_lookup]
    · exact session_value state
    · exact counter_other (by decide)
    · exact counter_other (by decide)

/-- The texts that an action puts into the metrics need no other escapes than those of the
format. -/
def Action.Exposable (graphic : Char → Bool) : Action → Prop
  | .recordSend msgType mode _ => Printable graphic msgType ∧ Printable graphic mode
  | .sendAsync webhook => Printable graphic webhook.event
  | .scrapeSessions _ inventory _ => ∀ state ∈ statesOf inventory, Printable graphic state
  | _ => True

/-- The runs from the start in which all such texts are. -/
abbrev ExposedRun (graphic : Char → Bool) (cfg : RetryConfig) : List Action → System → Prop :=
  Run (step graphic cfg) (fun _ a => a.Exposable graphic) .init

/-- Where a scrape has come to, and what it has seen on the way. -/
inductive Scraped (graphic : Char → Bool) (cfg : RetryConfig) (actions : List Action) :
    Scrape → Prop where
  | messages {first : List Action} {messages : Counter} (hfirst : first <+: actions)
      (hmessages : CountsSends graphic messages first) :
      Scraped graphic cfg actions (.messages messages)
  | webhooks {first second : List Action} {u : System} {messages webhooks : Counter}
      (hfirst : first <+: second) (hsecond : second <+: actions)
      (hrun : ExposedRun graphic cfg second u) (hmessages : CountsSends graphic messages first)
      (hwebhooks : CountsWebhooks graphic webhooks (u.records cfg)) :
      Scraped graphic cfg actions (.webhooks messages webhooks)
  | served {first second third : List Action} {u : System} {messages webhooks : Counter} {j : Nat}
      {inventory : Except Err (List SessionInventoryItem)}
      {order : ∀ m : Counter, Tally.Order m}
      (hfirst : first <+: second) (hsecond : second <+: third)
      (hthird : third ++ [.scrapeSessions j inventory order] <+: actions)
      (hrun : ExposedRun graphic cfg second u) (hmessages : CountsSends graphic messages first)
      (hwebhooks : CountsWebhooks graphic webhooks (u.records cfg)) :
      Scraped graphic cfg actions
        (.served (render graphic messages webhooks (some (tallyStates inventory)) order))

theorem Scraped.later {scrape : Scrape} (h : Scraped graphic cfg actions scrape) (a : Action) :
    Scraped graphic cfg (actions ++ [a]) scrape := by
  have hlater := List.prefix_append actions [a]
  cases h with
  | messages hfirst hmessages => exact .messages (hfirst.trans hlater) hmessages
  | webhooks hfirst hsecond hrun hmessages hwebhooks =>
    exact .webhooks hfirst (hsecond.trans hlater) hrun hmessages hwebhooks
  | served hfirst hsecond hthird hrun hmessages hwebhooks =>
    exact .served hfirst hsecond (hthird.trans hlater) hrun hmessages hwebhooks

structure Kept (graphic : Char → Bool) (cfg : RetryConfig) (actions : List Action) (s : System) :
    Prop where
  run : ExposedRun graphic cfg actions s
  exposable : ∀ a ∈ actions, a.Exposable graphic
  messages : CountsSends graphic s.messages actions
  webhooks : CountsWebhooks graphic s.webhooks (s.records cfg)
  scrapes : ∀ scrape ∈ s.scrapes, Scraped graphic cfg actions scrape

theorem Kept.init (graphic : Char → Bool) (cfg : RetryConfig) : Kept graphic cfg [] .init where
  run := .nil _
  exposable := by
    intro _ h
    cases h
  messages := .empty
  webhooks := .empty
  scrapes := by
    intro _ h
    cases h

theorem Stepped.scrapes (h : Stepped graphic cfg s a t) (hkept : Kept graphic cfg actions s) :
    ∀ scrape ∈ t.scrapes, Scraped graphic cfg (actions ++ [a]) scrape := by
  have hlater : ∀ scrape ∈ s.scrapes, Scraped graphic cfg (actions ++ [a]) scrape :=
    fun scrape hscrape => (hkept.scrapes scrape hscrape).later a
  cases h with
  | scrape =>
    intro scrape hscrape
    rcases List.mem_append.mp hscrape with hold | hnew
    · exact hlater scrape hold
    · rw [List.mem_singleton.mp hnew]
      exact .messages (List.prefix_append _ _) hkept.messages
  | scrapeWebhooks hscrape =>
    intro scrape hmem
    rcases List.mem_or_eq_of_mem_set hmem with hold | rfl
    · exact hlater scrape hold
    · cases hkept.scrapes _ (List.mem_of_getElem? hscrape) with
      | messages hfirst hmessages =>
        exact .webhooks hfirst (List.prefix_append _ _) hkept.run hmessages hkept.webhooks
  | scrapeSessions inventory order hscrape =>
    intro scrape hmem
    rcases List.mem_or_eq_of_mem_set hmem with hold | rfl
    · exact hlater scrape hold
    · cases hkept.scrapes _ (List.mem_of_getElem? hscrape) with
      | webhooks hfirst hsecond hrun hmessages hwebhooks =>
        exact .served hfirst hsecond (List.prefix_refl _) hrun hmessages hwebhooks
  | _ => exact hlater

theorem Kept.step (h : Kept graphic cfg actions s) (hguard : a.Exposable graphic)
    (hstep : step graphic cfg s a = some t) : Kept graphic cfg (actions ++ [a]) t where
  run := h.run.append (.single hguard hstep)
  exposable := by
    intro b hb
    rcases List.mem_append.mp hb with hold | hnew
    · exact h.exposable b hold
    · rwa [List.mem_singleton.mp hnew]
  messages := (step_stepped hstep).messages h.messages
  webhooks := (step_stepped hstep).webhooks h.webhooks
  scrapes := (step_stepped hstep).scrapes h

theorem Kept.run_from {before : List Action}
    (hrun : Run (Metrics.step graphic cfg) (fun _ a => a.Exposable graphic) s actions t)
    (h : Kept graphic cfg before s) : Kept graphic cfg (before ++ actions) t := by
  induction hrun generalizing before with
  | nil =>
    rw [List.append_nil]
    exact h
  | cons hguard hstep _ ih =>
    rw [List.append_cons]
    exact ih (h.step hguard hstep)

theorem printable_sessionState {state : String} (h : state ∈ sessionStates) :
    Printable graphic state := by
  simp only [sessionStates, List.mem_cons, List.not_mem_nil, or_false] at h
  rcases h with rfl | rfl | rfl | rfl | rfl <;> exact printable_ascii (by simp)

theorem records_formed (h : ExposedRun graphic cfg actions s)
    (hexposable : ∀ a ∈ actions, a.Exposable graphic) :
    ∀ labels ∈ (s.records cfg).map WebhookRecord.labels, Labels graphic labels := by
  intro labels hlabels
  obtain ⟨r, hr, rfl⟩ := List.mem_map.mp hlabels
  obtain ⟨hmode, hevent⟩ := record_about hr
  have hdirect : Printable graphic "direct" := printable_ascii (by simp)
  rw [← hmode] at hdirect
  refine WebhookRecord.labels_formed hdirect ?_
  rcases hevent with hincoming | ⟨webhook, hwebhook, hevent⟩
  · rw [hincoming]
    exact printable_ascii (by simp [eventMessageIncoming])
  · rw [← hevent]
    obtain ⟨directActions, hdirectRun, -, hwebhooks⟩ := run_delivery h
    have hkept : SlotsKept cfg ([] ++ directActions) s.delivery :=
      (SlotsKept.init cfg).run hdirectRun
    have hmem := hkept.webhooks.mem_iff.mp hwebhook
    rw [List.nil_append, hwebhooks] at hmem
    obtain ⟨a, ha, hsome⟩ := List.mem_filterMap.mp hmem
    have hguard := hexposable a ha
    cases a with
    | sendAsync other =>
      obtain rfl := Option.some.inj hsome
      exact hguard
    | _ => cases hsome

theorem sends_formed (hexposable : ∀ a ∈ actions, a.Exposable graphic) :
    ∀ labels ∈ (actions.filterMap Action.send?).map SendRecord.labels, Labels graphic labels := by
  intro labels hlabels
  obtain ⟨r, hr, rfl⟩ := List.mem_map.mp hlabels
  obtain ⟨a, ha, hsome⟩ := List.mem_filterMap.mp hr
  have hguard := hexposable a ha
  cases a with
  | recordSend msgType mode failed =>
    obtain rfl := Option.some.inj hsome
    exact SendRecord.labels_formed hguard.1 hguard.2
  | _ => cases hsome

section Sample

/-- A send, and two webhooks of which one is delivered, and a scrape that sees only the first
webhook. -/
def scraped : List Action :=
  [.recordSend "text" "direct" false,
    .sendAsync ⟨"https://example.com/a", "", "session.connected", ""⟩,
    .sendAsync ⟨"https://example.com/b", "", "session.connected", ""⟩,
    .sendReturns 0 acceptedSecondTime, .scrape, .recordSent 0, .scrapeWebhooks 0, .endSend 0,
    .scrapeSessions 0 (.ok []) fun m => ⟨m.keys, .refl _⟩]

def scrapedState : System := final (step (fun _ => false) {}) .init scraped

theorem scraped_exposable : ∀ a ∈ scraped, a.Exposable fun _ => false := by
  have hevent : Printable (fun _ => false) "session.connected" := printable_ascii (by simp)
  have hsend : Printable (fun _ => false) "text" ∧ Printable (fun _ => false) "direct" :=
    ⟨printable_ascii (by simp), printable_ascii (by simp)⟩
  simp only [scraped, List.forall_mem_cons, Action.Exposable, statesOf]
  exact ⟨hsend, hevent, hevent, trivial, trivial, trivial, trivial, trivial, nofun, nofun⟩

theorem guarded_of_forall {P : Action → Prop} (h : ∀ a ∈ actions, P a) :
    Guarded (step graphic cfg) (fun _ a => P a) s actions := by
  induction actions generalizing s with
  | nil => trivial
  | cons a actions ih =>
    exact ⟨h a List.mem_cons_self, fun _ _ => ih fun b hb => h b (List.mem_cons_of_mem a hb)⟩

end Sample

end WhatsappGateway.Metrics
