import AutonomousApi.PaymentLaws

/-! Deliveries of payment webhooks, in any order and with any repetitions. An event is found again by the
envelope's key or by the provider's id for it, the ledger goes by the event's key or by its generated
id, and none of these names the provider. -/

namespace AutonomousApi.FinancialHardening

open RecordTable Runs

variable {Payload : Type} {config : Config Payload}

/-- A provider's name for an event, and the key it was delivered under. -/
structure Delivered where
  provider : String
  providerEventId : String
  key : Option String
  deriving DecidableEq

def Delivered.origin (delivered : Delivered) : String × String := (delivered.provider, delivered.providerEventId)

def PaymentEvent.origin (event : PaymentEvent) : String × String := (event.provider, event.providerEventId)

/-- The engine, and what was delivered to it. -/
structure Session where
  engine : Engine := {}
  delivered : List Delivered := []

structure Delivery (Payload : Type) where
  envelope : PaymentWebhookEnvelope Payload
  eventId : String
  ledgerId : String

def deliveredAs (envelopeKey : Option String) (raw : RawEvent) : Delivered :=
  { provider := raw.provider.getD "unknown", providerEventId := raw.providerEventId.getD "",
    key := keyOf envelopeKey raw.idempotencyKey }

/-- A key is used for one event of one provider. -/
def Disciplined (session : Session) (now : Delivered) : Prop :=
  ∀ earlier ∈ session.delivered, stated now.key → earlier.key = now.key → earlier.origin = now.origin

instance (session : Session) (now : Delivered) : Decidable (Disciplined session now) :=
  inferInstanceAs (Decidable (∀ earlier ∈ session.delivered, _ → _ → _))

/-- A delivery that is refused leaves everything as it is. -/
def deliver (config : Config Payload) (session : Session) (delivery : Delivery Payload) : Option Session :=
  if Fresh session.engine (.webhook delivery.envelope delivery.eventId delivery.ledgerId : Command Payload) then
    match accepted config delivery.envelope with
    | .error _ => some session
    | .ok raw =>
        let now := deliveredAs delivery.envelope.idempotencyKey raw
        if Disciplined session now then
          some {
            engine := (ingestWebhook config session.engine delivery.envelope delivery.eventId delivery.ledgerId).1
            delivered := session.delivered ++ [now] }
        else none
  else none

/-- The entries of an event: one with its amount and currency, if its status is one that is ledgered. -/
def LedgeredOnce (engine : Engine) (event : PaymentEvent) : Prop :=
  ∀ entryType ∈ entryTypeOf event.status, ∃ entry ∈ engine.ledger.entries,
    entry = paymentEntry event entryType entry.ledgerId ∧
      ∀ other ∈ engine.ledger.entries, other.sourceEventId = some event.eventId → other = entry

instance (engine : Engine) (event : PaymentEvent) : Decidable (LedgeredOnce engine event) :=
  inferInstanceAs (Decidable (∀ entryType ∈ entryTypeOf event.status, ∃ entry ∈ engine.ledger.entries,
    entry = paymentEntry event entryType entry.ledgerId ∧
      ∀ other ∈ engine.ledger.entries, other.sourceEventId = some event.eventId → other = entry))

/-- Every delivered event was processed once and is in the ledger once. -/
def Once (session : Session) : Prop :=
  ∀ delivered ∈ session.delivered, ∃ event ∈ session.engine.eventsByProviderEventId, event.origin = delivered.origin ∧
    (∀ other ∈ session.engine.eventsByProviderEventId, other.origin = delivered.origin → other = event) ∧
    LedgeredOnce session.engine event

instance (session : Session) : Decidable (Once session) :=
  inferInstanceAs (Decidable (∀ delivered ∈ session.delivered, ∃ event ∈ session.engine.eventsByProviderEventId,
    event.origin = delivered.origin ∧
      (∀ other ∈ session.engine.eventsByProviderEventId, other.origin = delivered.origin → other = event) ∧
      LedgeredOnce session.engine event))

/-- The provider's id is not another provider's already, and the key of an event that is new is not the id
that the engine gave to an earlier event for the ledger. -/
def Distinguished (config : Config Payload) (session : Session) (delivery : Delivery Payload) : Prop :=
  ∀ raw, accepted config delivery.envelope = .ok raw →
    let now := deliveredAs delivery.envelope.idempotencyKey raw
    (∀ event ∈ session.engine.eventsByProviderEventId, event.providerEventId = now.providerEventId →
      event.provider = now.provider) ∧
    (now.providerEventId ∉ session.engine.eventsByProviderEventId.map PaymentEvent.providerEventId → stated now.key →
      (entryTypeOf (mapStatus config.table (raw.rawStatus.getD ""))).isSome →
      ∀ event ∈ session.engine.eventsByProviderEventId, ¬ stated event.idempotencyKey →
        (entryTypeOf event.status).isSome → now.key ≠ some event.eventId)

def PaymentEvent.delivered (event : PaymentEvent) : Delivered :=
  { provider := event.provider, providerEventId := event.providerEventId, key := event.idempotencyKey }

/-- What all deliveries keep. -/
structure Sound (session : Session) : Prop where
  keyed : Keyed PaymentEvent.providerEventId session.engine.eventsByProviderEventId
  ids : (session.engine.eventsByProviderEventId.map PaymentEvent.eventId).Nodup
  known : ∀ event ∈ session.engine.eventsByProviderEventId, event.delivered ∈ session.delivered
  byKey : ∀ indexed ∈ session.engine.eventsByIdempotency,
    indexed.2 ∈ session.engine.eventsByProviderEventId ∧ indexed.2.idempotencyKey = some indexed.1
  present : ∀ delivered ∈ session.delivered,
    delivered.providerEventId ∈ session.engine.eventsByProviderEventId.map PaymentEvent.providerEventId
  keys : ∀ key, key ∈ session.engine.ledger.idempotencyKeys ↔ ∃ event ∈ session.engine.eventsByProviderEventId,
    (entryTypeOf event.status).isSome ∧ ledgerKey event = key
  entries : ∀ entry ∈ session.engine.ledger.entries, ∃ event ∈ session.engine.eventsByProviderEventId,
    ∃ entryType ∈ entryTypeOf event.status, entry = paymentEntry event entryType entry.ledgerId

theorem sound_start : Sound {} where
  keyed := List.nodup_nil
  ids := List.nodup_nil
  known _ member := absurd member List.not_mem_nil
  byKey _ member := absurd member List.not_mem_nil
  present _ member := absurd member List.not_mem_nil
  keys key := by
    constructor
    · exact fun member => absurd member List.not_mem_nil
    · rintro ⟨event, member, -⟩
      exact absurd member List.not_mem_nil
  entries _ member := absurd member List.not_mem_nil

variable {session following : Session} {delivery : Delivery Payload} {event : PaymentEvent} {now : Delivered}

/-- An event is found again exactly when the provider's id is there: a key leads to no other. -/
theorem Sound.processed_iff (sound : Sound session) {envelopeKey : Option String} {raw : RawEvent}
    (disciplined : Disciplined session (deliveredAs envelopeKey raw)) :
    processedEvent session.engine envelopeKey raw.providerEventId = none ↔
      raw.providerEventId.getD "" ∉ session.engine.eventsByProviderEventId.map PaymentEvent.providerEventId := by
  rw [processedEvent]
  by_cases keyed : stated envelopeKey
  · rw [if_pos keyed]
    cases held : find Prod.fst session.engine.eventsByIdempotency (envelopeKey.getD "") with
    | none => exact find_eq_none_iff
    | some indexed =>
        obtain ⟨member, named⟩ := mem_of_find held
        obtain ⟨inside, key⟩ := sound.byKey indexed member
        have same : envelopeKey = some indexed.1 := by
          cases envelopeKey with
          | none => exact absurd rfl keyed
          | some text => exact congrArg some named.symm
        have used : (deliveredAs envelopeKey raw).key = envelopeKey := if_pos keyed
        have keyedNow : stated (deliveredAs envelopeKey raw).key := by
          rw [used]
          exact keyed
        have origin := disciplined _ (sound.known indexed.2 inside) keyedNow (key.trans (used.trans same).symm)
        have here : indexed.2.providerEventId = raw.providerEventId.getD "" := congrArg Prod.snd origin
        simp only [reduceCtorEq, false_iff, not_not]
        exact List.mem_map.mpr ⟨indexed.2, inside, here⟩
  · rw [if_neg keyed]
    exact find_eq_none_iff

theorem deliver_cases (sound : Sound session) (taken : deliver config session delivery = some following) :
    (following = session ∧ ∀ raw, accepted config delivery.envelope ≠ .ok raw) ∨
      ∃ raw, accepted config delivery.envelope = .ok raw ∧
        Disciplined session (deliveredAs delivery.envelope.idempotencyKey raw) ∧
        Fresh session.engine (.webhook delivery.envelope delivery.eventId delivery.ledgerId : Command Payload) ∧
        following.delivered = session.delivered ++ [deliveredAs delivery.envelope.idempotencyKey raw] ∧
        following.engine =
          if raw.providerEventId.getD "" ∈ session.engine.eventsByProviderEventId.map PaymentEvent.providerEventId then
            session.engine
          else withPayment session.engine
            (paymentEvent config.table delivery.envelope.idempotencyKey raw delivery.eventId) delivery.ledgerId := by
  rw [deliver] at taken
  split at taken
  case isFalse => cases taken
  case isTrue fresh =>
      cases checked : accepted config delivery.envelope with
      | error error =>
          rw [checked] at taken
          cases taken
          refine .inl ⟨rfl, fun raw other => ?_⟩
          cases other
      | ok raw =>
          rw [checked] at taken
          dsimp only at taken
          split at taken
          case isFalse => cases taken
          case isTrue disciplined =>
              cases taken
              refine .inr ⟨raw, rfl, disciplined, fresh, rfl, ?_⟩
              rw [ingestWebhook, checked]
              dsimp only
              cases found : processedEvent session.engine delivery.envelope.idempotencyKey raw.providerEventId with
              | none => rw [if_neg ((sound.processed_iff disciplined).mp found), withPayment]
              | some event =>
                  have present := mt (sound.processed_iff disciplined).mpr (found ▸ Option.some_ne_none event)
                  rw [if_pos (not_not.mp present)]

/-- A delivery that is new adds its event, with its key, and its entry unless the key is taken. -/
theorem Sound.withPayment (sound : Sound session)
    (fresh : Fresh session.engine (.webhook delivery.envelope event.eventId delivery.ledgerId : Command Payload))
    (absent : event.providerEventId ∉ session.engine.eventsByProviderEventId.map PaymentEvent.providerEventId)
    (engine : following.engine = withPayment session.engine event delivery.ledgerId)
    (delivered : following.delivered = session.delivered ++ [event.delivered]) : Sound following := by
  obtain ⟨named, newId, newKey, newEntry⟩ := fresh
  have events : following.engine.eventsByProviderEventId = session.engine.eventsByProviderEventId ++ [event] := by
    rw [engine, withPayment_events absent]
  have indexed : following.engine.eventsByIdempotency = (register session.engine event).eventsByIdempotency := by
    rw [engine, withPayment_byKey]
  have old {other : PaymentEvent} (member : other ∈ session.engine.eventsByProviderEventId) :
      other ∈ following.engine.eventsByProviderEventId := events ▸ List.mem_append_left _ member
  have new : event ∈ following.engine.eventsByProviderEventId := events ▸ List.mem_append_right _ List.mem_cons_self
  refine ⟨?_, ?_, ?_, ?_, ?_, ?_, ?_⟩
  · rw [events, ← put_absent absent]
    exact sound.keyed.put
  · rw [events, List.map_append, List.nodup_append]
    refine ⟨sound.ids, List.nodup_singleton _, ?_⟩
    rintro id before _ last rfl
    exact newId (List.mem_singleton.mp last ▸ before)
  · intro other member
    rw [events] at member
    rw [delivered]
    rcases List.mem_append.mp member with before | last
    · exact List.mem_append_left _ (sound.known other before)
    · rw [List.mem_singleton.mp last]
      exact List.mem_append_right _ List.mem_cons_self
  · intro pair member
    have earlier (before : pair ∈ session.engine.eventsByIdempotency) :
        pair.2 ∈ following.engine.eventsByProviderEventId ∧ pair.2.idempotencyKey = some pair.1 :=
      ⟨old (sound.byKey pair before).1, (sound.byKey pair before).2⟩
    rw [indexed, register] at member
    dsimp only at member
    split at member
    case isFalse => exact earlier member
    case isTrue keyed =>
        rcases mem_put member with rfl | before
        · refine ⟨new, ?_⟩
          cases held : event.idempotencyKey with
          | none => exact absurd (held ▸ rfl) keyed
          | some key => rfl
        · exact earlier before
  · intro now member
    rw [delivered] at member
    rcases List.mem_append.mp member with before | last
    · obtain ⟨other, inside, named⟩ := List.mem_map.mp (sound.present now before)
      exact List.mem_map.mpr ⟨other, old inside, named⟩
    · rw [List.mem_singleton.mp last]
      exact List.mem_map_of_mem new
  · intro key
    rw [engine, withPayment_keys named newEntry, sound.keys, ← engine]
    simp only [events, List.mem_append, List.mem_singleton, or_and_right, exists_or, exists_eq_left]
  · intro entry member
    rw [engine, withPayment_entries named newEntry] at member
    rcases member with before | ⟨-, entryType, ledgered, rfl⟩
    · obtain ⟨other, inside, own⟩ := sound.entries entry before
      exact ⟨other, old inside, own⟩
    · exact ⟨event, new, entryType, ledgered, rfl⟩

theorem Sound.kept (sound : Sound session) (taken : deliver config session delivery = some following) :
    Sound following := by
  rcases deliver_cases sound taken with ⟨rfl, -⟩ | ⟨raw, -, disciplined, fresh, delivered, engine⟩
  · exact sound
  · split at engine
    case isFalse absent => exact sound.withPayment fresh absent engine delivered
    case isTrue present =>
        obtain ⟨engine', delivered'⟩ := following
        cases engine
        cases delivered
        refine ⟨sound.keyed, sound.ids, fun event member => List.mem_append_left _ (sound.known event member),
            sound.byKey, fun now member => ?_, sound.keys, sound.entries⟩
        rcases List.mem_append.mp member with before | last
        · exact sound.present now before
        · rw [List.mem_singleton.mp last]
          exact present

variable {ledgerId : String}

/-- No entry of the ledger names an event id that is new. -/
theorem Sound.sourced (sound : Sound session)
    (newId : event.eventId ∉ session.engine.eventsByProviderEventId.map PaymentEvent.eventId)
    {entry : FinancialLedgerEntry} (member : entry ∈ session.engine.ledger.entries) :
    entry.sourceEventId ≠ some event.eventId := by
  obtain ⟨owner, inside, entryType, -, own⟩ := sound.entries entry member
  intro same
  rw [own] at same
  have named : owner.eventId = event.eventId := Option.some.inj same
  exact newId (named ▸ List.mem_map_of_mem inside)

theorem ledgeredOnce_old (named : event.eventId ≠ "")
    (fresh : ledgerId ∉ session.engine.ledger.entries.map FinancialLedgerEntry.ledgerId)
    (newId : event.eventId ∉ session.engine.eventsByProviderEventId.map PaymentEvent.eventId) {earlier : PaymentEvent}
    (member : earlier ∈ session.engine.eventsByProviderEventId) (once : LedgeredOnce session.engine earlier) :
    LedgeredOnce (withPayment session.engine event ledgerId) earlier := by
  intro entryType ledgered
  obtain ⟨entry, inside, own, single⟩ := once entryType ledgered
  refine ⟨entry, (withPayment_entries named fresh).mpr (.inl inside), own, fun other member' source => ?_⟩
  rcases (withPayment_entries named fresh).mp member' with before | ⟨-, kind, -, rfl⟩
  · exact single other before source
  · have same : event.eventId = earlier.eventId := Option.some.inj source
    exact absurd (same ▸ List.mem_map_of_mem member) newId

/-- The new event gets its entry exactly when its key is free. -/
theorem ledgeredOnce_new (sound : Sound session) (named : event.eventId ≠ "")
    (fresh : ledgerId ∉ session.engine.ledger.entries.map FinancialLedgerEntry.ledgerId)
    (newId : event.eventId ∉ session.engine.eventsByProviderEventId.map PaymentEvent.eventId) :
    LedgeredOnce (withPayment session.engine event ledgerId) event ↔
      ((entryTypeOf event.status).isSome → ledgerKey event ∉ session.engine.ledger.idempotencyKeys) := by
  constructor
  · intro once ledgered
    obtain ⟨entryType, kind⟩ := Option.isSome_iff_exists.mp ledgered
    obtain ⟨entry, inside, own, -⟩ := once entryType kind
    rcases (withPayment_entries named fresh).mp inside with before | ⟨free, -⟩
    · refine absurd ?_ (sound.sourced newId before)
      rw [own]
      rfl
    · exact free
  · intro free entryType ledgered
    have key := free (Option.isSome_iff_exists.mpr ⟨entryType, ledgered⟩)
    refine ⟨_, (withPayment_entries named fresh).mpr (.inr ⟨key, entryType, ledgered, rfl⟩), rfl, ?_⟩
    intro other member source
    rcases (withPayment_entries named fresh).mp member with before | ⟨-, kind, kindly, rfl⟩
    · exact absurd source (sound.sourced newId before)
    · cases ledgered.symm.trans kindly
      rfl

/-- A key that is taken although its delivery is new is the id of an earlier event without a key. -/
theorem Sound.key_free_iff (sound : Sound session) (disciplined : Disciplined session event.delivered)
    (newKey : event.eventId ∉ session.engine.ledger.idempotencyKeys)
    (absent : event.providerEventId ∉ session.engine.eventsByProviderEventId.map PaymentEvent.providerEventId) :
    ledgerKey event ∉ session.engine.ledger.idempotencyKeys ↔ (stated event.idempotencyKey →
      ∀ earlier ∈ session.engine.eventsByProviderEventId, ¬ stated earlier.idempotencyKey →
        (entryTypeOf earlier.status).isSome → event.idempotencyKey ≠ some earlier.eventId) := by
  rw [sound.keys]
  by_cases keyed : stated event.idempotencyKey
  · obtain ⟨key, held⟩ : ∃ key, event.idempotencyKey = some key := by
      cases held : event.idempotencyKey with
      | none => exact absurd (held ▸ rfl) keyed
      | some key => exact ⟨key, rfl⟩
    have own : ledgerKey event = key := by rw [ledgerKey, if_pos keyed, held, Option.getD_some]
    rw [own, held]
    constructor
    · intro free _ earlier member keyless ledgered same
      refine free ⟨earlier, member, ledgered, ?_⟩
      rw [ledgerKey, if_neg keyless, Option.some.inj same]
    · rintro free ⟨earlier, member, ledgered, taken⟩
      by_cases also : stated earlier.idempotencyKey
      · have same : earlier.idempotencyKey = event.idempotencyKey := by
          rw [held, ← taken, ledgerKey, if_pos also]
          cases other : earlier.idempotencyKey with
          | none => exact absurd (other ▸ rfl) also
          | some key => rfl
        have origin := disciplined _ (sound.known earlier member) keyed same
        have here : earlier.providerEventId = event.providerEventId := congrArg Prod.snd origin
        exact absent (here ▸ List.mem_map_of_mem member)
      · refine free (held ▸ keyed) earlier member also ledgered ?_
        rw [← taken, ledgerKey, if_neg also]
  · have own : ledgerKey event = event.eventId := if_neg keyed
    rw [own, ← sound.keys]
    exact ⟨fun _ stated => absurd stated keyed, fun _ => newKey⟩

/-- A delivery under a provider's id that is there stands for the event that has it, if it has its provider. -/
theorem once_present_iff (sound : Sound session) (once : Once session)
    (present : now.providerEventId ∈ session.engine.eventsByProviderEventId.map PaymentEvent.providerEventId) :
    Once { session with delivered := session.delivered ++ [now] } ↔
      ∀ event ∈ session.engine.eventsByProviderEventId, event.providerEventId = now.providerEventId →
        event.provider = now.provider := by
  constructor
  · intro after event member named
    obtain ⟨found, inside, origin, -⟩ := after now (List.mem_append_right _ List.mem_cons_self)
    have also : found.providerEventId = now.providerEventId := congrArg Prod.snd origin
    rw [sound.keyed.unique member inside (named.trans also.symm)]
    exact congrArg Prod.fst origin
  · intro same delivered member
    rcases List.mem_append.mp member with before | last
    · exact once delivered before
    · obtain ⟨event, inside, named⟩ := List.mem_map.mp present
      have origin : event.origin = now.origin := Prod.ext (same event inside named) named
      obtain ⟨own, -, -, unique, ledgered⟩ := once event.delivered (sound.known event inside)
      rw [List.mem_singleton.mp last]
      refine ⟨event, inside, origin, fun other also alike => ?_, unique event inside rfl ▸ ledgered⟩
      exact sound.keyed.unique also inside ((congrArg Prod.snd alike).trans named.symm)

theorem once_absent_iff (sound : Sound session) (once : Once session)
    (disciplined : Disciplined session event.delivered)
    (fresh : Fresh session.engine (.webhook delivery.envelope event.eventId delivery.ledgerId : Command Payload))
    (absent : event.providerEventId ∉ session.engine.eventsByProviderEventId.map PaymentEvent.providerEventId) :
    Once { engine := withPayment session.engine event delivery.ledgerId,
           delivered := session.delivered ++ [event.delivered] } ↔
      (stated event.idempotencyKey → (entryTypeOf event.status).isSome →
        ∀ earlier ∈ session.engine.eventsByProviderEventId, ¬ stated earlier.idempotencyKey →
          (entryTypeOf earlier.status).isSome → event.idempotencyKey ≠ some earlier.eventId) := by
  obtain ⟨named, newId, newKey, newEntry⟩ := fresh
  have key := sound.key_free_iff disciplined newKey absent
  have entry := @ledgeredOnce_new session event delivery.ledgerId sound named newEntry newId
  have events : (withPayment session.engine event delivery.ledgerId).eventsByProviderEventId = _ :=
    withPayment_events absent
  -- an event that was there has another provider's id
  have apart {earlier : PaymentEvent} (member : earlier ∈ session.engine.eventsByProviderEventId) :
      earlier.origin ≠ event.origin := by
    intro same
    have named : earlier.providerEventId = event.providerEventId := congrArg Prod.snd same
    exact absent (named ▸ List.mem_map_of_mem member)
  constructor
  · intro after keyed ledgered
    obtain ⟨found, inside, origin, -, ledgeredOnce⟩ :=
        after event.delivered (List.mem_append_right _ List.mem_cons_self)
    rw [events] at inside
    rcases List.mem_append.mp inside with before | last
    · exact absurd origin (apart before)
    · rw [List.mem_singleton.mp last] at ledgeredOnce
      exact key.mp (entry.mp ledgeredOnce ledgered) keyed
  · intro free delivered member
    rcases List.mem_append.mp member with before | last
    · obtain ⟨earlier, inside, origin, unique, ledgered⟩ := once delivered before
      refine ⟨earlier, events ▸ List.mem_append_left _ inside, origin, fun other also alike => ?_,
        ledgeredOnce_old named newEntry newId inside ledgered⟩
      rw [events] at also
      rcases List.mem_append.mp also with there | new
      · exact unique other there alike
      · rw [List.mem_singleton.mp new] at alike
        exact absurd (origin.trans alike.symm) (apart inside)
    · rw [List.mem_singleton.mp last]
      refine ⟨event, events ▸ List.mem_append_right _ List.mem_cons_self, rfl, fun other also alike => ?_,
        entry.mpr fun ledgered => key.mpr fun keyed => free keyed ledgered⟩
      rw [events] at also
      rcases List.mem_append.mp also with there | new
      · exact absurd alike (apart there)
      · exact List.mem_singleton.mp new

theorem once_step_iff (sound : Sound session) (once : Once session)
    (taken : deliver config session delivery = some following) : Once following ↔
    Distinguished config session delivery := by
  rcases deliver_cases sound taken with ⟨rfl, refused⟩ | ⟨raw, checked, disciplined, fresh, delivered, engine⟩
  · exact ⟨fun _ raw checked => absurd checked (refused raw), fun _ => once⟩
  · obtain ⟨engine', delivered'⟩ := following
    dsimp only at engine delivered
    have single : Distinguished config session delivery ↔ _ :=
      ⟨fun all => all raw checked, fun here other also => Except.ok.inj (checked.symm.trans also) ▸ here⟩
    rw [single, delivered]
    by_cases present : raw.providerEventId.getD "" ∈
        session.engine.eventsByProviderEventId.map PaymentEvent.providerEventId
    · rw [if_pos present] at engine
      rw [engine, once_present_iff sound once present]
      exact ⟨fun same => ⟨same, fun absent => absurd present absent⟩, And.left⟩
    · rw [if_neg present] at engine
      rw [engine]
      have exactly := @once_absent_iff _ session delivery
        (paymentEvent config.table delivery.envelope.idempotencyKey raw delivery.eventId) sound once disciplined fresh
        present
      refine exactly.trans ⟨fun free => ⟨fun event member same => ?_, fun _ => free⟩, fun both => both.2 present⟩
      have named : event.providerEventId = raw.providerEventId.getD "" := same
      exact absurd (named ▸ List.mem_map_of_mem member) present

/-- A delivery under a name that was delivered before changes nothing. -/
theorem redelivered (sound : Sound session) (taken : deliver config session delivery = some following) {raw : RawEvent}
    (checked : accepted config delivery.envelope = .ok raw)
    (before : (deliveredAs delivery.envelope.idempotencyKey raw).origin ∈ session.delivered.map Delivered.origin) :
    following.engine = session.engine := by
  rcases deliver_cases sound taken with ⟨rfl, -⟩ | ⟨raw', also, -, -, -, engine⟩
  · rfl
  · cases checked.symm.trans also
    obtain ⟨earlier, member, same⟩ := List.mem_map.mp before
    have named : earlier.providerEventId = raw.providerEventId.getD "" := congrArg Prod.snd same
    rw [engine, if_pos (named ▸ sound.present earlier member)]

/-- All along a run every delivered event is processed once and in the ledger once, exactly when each delivery
is distinguished; a redelivery changes nothing in any case. -/
theorem delivered_once (config : Config Payload) (deliveries : List (Delivery Payload)) {final : Session}
    (finished : run (deliver config) {} deliveries = some final) :
    ((∀ before after middle, deliveries = before ++ after → run (deliver config) {} before = some middle →
      Once middle) ↔
      ∀ before delivery after middle, deliveries = before ++ delivery :: after →
        run (deliver config) {} before = some middle → Distinguished config middle delivery) ∧
    ∀ before delivery after middle raw following, deliveries = before ++ delivery :: after →
      run (deliver config) {} before = some middle → accepted config delivery.envelope = .ok raw →
      (deliveredAs delivery.envelope.idempotencyKey raw).origin ∈ middle.delivered.map Delivered.origin →
      deliver config middle delivery = some following → following.engine = middle.engine := by
  constructor
  · refine @holds_along_iff _ _ (deliver config) (Distinguished config) {} final Sound Once sound_start ?_
      (fun sound taken => sound.kept taken) once_step_iff deliveries finished
    intro delivered member
    exact absurd member List.not_mem_nil
  · intro before delivery after middle raw following _ reached checked earlier taken
    exact redelivered (run_invariant sound_start (fun sound taken => sound.kept taken) reached) taken checked earlier

/-- An adapter whose payloads are normalized already. -/
def direct : Config RawEvent where
  adapter := { normalizeEvent := some, verifySignature := fun _ => true }

def paidBy (provider : String) (amount : Rat) (key : Option String) (providerEventId eventId ledgerId : String) :
    Delivery RawEvent where
  envelope :=
    { provider, providerEventId, signature := some "signature", idempotencyKey := key,
      payload :=
        { provider := some provider, providerEventId := some providerEventId, rawStatus := some "paid",
          amount := some amount, orderId := some "order" } }
  eventId := eventId
  ledgerId := ledgerId

/-- The same payment is delivered again under another key. -/
theorem payment_redelivered : ∃ first second,
    deliver direct {} (paidBy "bank" 100 none "event" "payev_1" "le_1") = some first ∧
      deliver direct first (paidBy "bank" 100 (some "key") "event" "payev_2" "le_2") = some second ∧
      second.engine = first.engine := by
  obtain ⟨first, taken⟩ := Option.isSome_iff_exists.mp
    (show (deliver direct {} (paidBy "bank" 100 none "event" "payev_1" "le_1")).isSome by decide)
  have both : (run (deliver direct) {} [paidBy "bank" 100 none "event" "payev_1" "le_1",
      paidBy "bank" 100 (some "key") "event" "payev_2" "le_2"]).isSome := by
    decide
  obtain ⟨final, finished⟩ := Option.isSome_iff_exists.mp both
  obtain ⟨middle, reached, again⟩ := Option.bind_eq_some_iff.mp finished
  obtain ⟨second, redelivery, -⟩ := Option.bind_eq_some_iff.mp again
  cases taken.symm.trans reached
  have delivered : first.delivered = [⟨"bank", "event", none⟩] := by
    have computed : (deliver direct {} (paidBy "bank" 100 none "event" "payev_1" "le_1")).map Session.delivered =
        some [⟨"bank", "event", none⟩] := by
      decide
    rw [taken] at computed
    exact Option.some.inj computed
  refine ⟨first, second, taken, redelivery, ?_⟩
  refine (delivered_once direct _ finished).2 [_] _ [] first _ second rfl ?_ rfl ?_ redelivery
  · rw [run, taken]
    rfl
  · rw [delivered]
    exact List.mem_cons_self

/-- Two providers use one id, and a key is what the engine called an earlier payment: the second payment is not
processed, or it is not in the ledger. -/
theorem payments_confused :
    (∃ final, run (deliver direct) {} [paidBy "bank" 100 (some "first") "event" "payev_1" "le_1",
        paidBy "card" 50 (some "second") "event" "payev_2" "le_2"] = some final ∧ ¬ Once final) ∧
      ∃ final, run (deliver direct) {} [paidBy "bank" 100 none "event" "payev_1" "le_1",
        paidBy "bank" 50 (some "payev_1") "other" "payev_2" "le_2"] = some final ∧ ¬ Once final := by
  have shared : (run (deliver direct) {} [paidBy "bank" 100 (some "first") "event" "payev_1" "le_1",
      paidBy "card" 50 (some "second") "event" "payev_2" "le_2"]).map (fun session => decide (Once session)) =
        some false := by
    decide
  have forged : (run (deliver direct) {} [paidBy "bank" 100 none "event" "payev_1" "le_1",
      paidBy "bank" 50 (some "payev_1") "other" "payev_2" "le_2"]).map (fun session => decide (Once session)) =
        some false := by
    decide
  obtain ⟨first, ran, lost⟩ := Option.map_eq_some_iff.mp shared
  obtain ⟨second, went, missed⟩ := Option.map_eq_some_iff.mp forged
  exact ⟨⟨first, ran, of_decide_eq_false lost⟩, second, went, of_decide_eq_false missed⟩

end AutonomousApi.FinancialHardening
