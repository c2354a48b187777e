import AutonomousApi.OrderedMap
import Mathlib.Data.List.Induction
import Mathlib.Data.Rat.Floor

/-! The sliding-window limiter (middleware/rate_limit.py) over exact times. What it stores is pruned at every call
and by `cleanup`; what it decides is a function of the calls it accepted within the last window (`Tracks`), however
often and wherever it was pruned. -/

namespace AutonomousApi.RateLimiting

open OrderedMap

structure RateLimiter where
  maxRequests : Int
  windowSeconds : Rat
  requests : Dict String (List Rat) := []

structure RateLimitInfo where
  limit : Int
  remaining : Int
  retryAfter : Int
  windowSeconds : Rat
  deriving DecidableEq

/-- `int` of an exact number. -/
def truncated (number : Rat) : Int := if 0 ≤ number then ⌊number⌋ else ⌈number⌉

def withinWindow (windowSeconds currentTime : Rat) (times : List Rat) : List Rat :=
  times.filter fun time => currentTime - time < windowSeconds

/-- The answer to a call, from the recent calls of its client. The oldest of none is never asked for, since the limit is
positive. -/
def answer (maxRequests : Int) (windowSeconds currentTime : Rat) (recent : List Rat) : Bool × RateLimitInfo :=
  if maxRequests ≤ recent.length then
    let oldest := recent.min?.getD currentTime
    (true, ⟨maxRequests, 0, truncated (windowSeconds - (currentTime - oldest)) + 1, windowSeconds⟩)
  else (false, ⟨maxRequests, maxRequests - (recent.length + 1), 0, windowSeconds⟩)

def isRateLimited (limiter : RateLimiter) (currentTime : Rat) (clientIp : String) :
    (Bool × RateLimitInfo) × RateLimiter :=
  let recent := withinWindow limiter.windowSeconds currentTime (group limiter.requests clientIp)
  let answered := answer limiter.maxRequests limiter.windowSeconds currentTime recent
  let kept := if answered.1 then recent else recent ++ [currentTime]
  (answered, { limiter with requests := assign limiter.requests clientIp kept })

def cleanup (limiter : RateLimiter) (currentTime : Rat) : RateLimiter :=
  let pruned := limiter.requests.map fun entry => (entry.1, withinWindow limiter.windowSeconds currentTime entry.2)
  { limiter with requests := pruned.filter fun entry => !entry.2.isEmpty }

inductive Event where
  | call (clientIp : String)
  | cleanup
  deriving DecidableEq

structure Decision where
  clientIp : String
  time : Rat
  limited : Bool
  info : RateLimitInfo
  deriving DecidableEq

def decisions (limiter : RateLimiter) : List (Rat × Event) → List Decision
  | [] => []
  | (time, .cleanup) :: rest => decisions (cleanup limiter time) rest
  | (time, .call clientIp) :: rest =>
      let answered := isRateLimited limiter time clientIp
      ⟨clientIp, time, answered.1.1, answered.1.2⟩ :: decisions answered.2 rest

section

/-! What the limiter is for: it answers from the accepted calls alone. -/

def acceptedTimes (clientIp : String) (made : List Decision) : List Rat :=
  (made.filter fun decision => decision.clientIp = clientIp ∧ ¬ decision.limited).map (·.time)

variable (maxRequests : Int) (windowSeconds : Rat)

/-- The decision on a call after the decisions made before. -/
def nextDecision (made : List Decision) (time : Rat) (clientIp : String) : Decision :=
  let answered := answer maxRequests windowSeconds time
    (withinWindow windowSeconds time (acceptedTimes clientIp made))
  ⟨clientIp, time, answered.1, answered.2⟩

def ledger (made : List Decision) : List (Rat × Event) → List Decision
  | [] => []
  | (_, .cleanup) :: rest => ledger made rest
  | (time, .call clientIp) :: rest =>
      let decision := nextDecision maxRequests windowSeconds made time clientIp
      decision :: ledger (made ++ [decision]) rest

end

section

variable {windowSeconds now later : Rat} {limiter : RateLimiter} {made : List Decision}

theorem withinWindow_twice (ordered : now ≤ later) (times : List Rat) :
    withinWindow windowSeconds later (withinWindow windowSeconds now times) =
      withinWindow windowSeconds later times := by
  rw [withinWindow, withinWindow, List.filter_filter, withinWindow]
  congr 1
  funext time
  rw [Bool.and_eq_left_iff_imp, decide_eq_true_eq, decide_eq_true_eq]
  intro inside
  linarith

theorem withinWindow_append (times more : List Rat) : withinWindow windowSeconds now (times ++ more) =
    withinWindow windowSeconds now times ++ withinWindow windowSeconds now more := List.filter_append ..

/-- From a time on, what is stored for a client and what was accepted from it agree on every window. -/
structure Tracks (limiter : RateLimiter) (made : List Decision) (now : Rat) : Prop where
  agree : ∀ clientIp later, now ≤ later →
    withinWindow limiter.windowSeconds later (group limiter.requests clientIp) =
      withinWindow limiter.windowSeconds later (acceptedTimes clientIp made)
  distinct : (keys limiter.requests).Nodup

theorem group_assign (dict : Dict String (List Rat)) (key wanted : String) (times : List Rat) :
    group (assign dict key times) wanted = if key = wanted then times else group dict wanted := by
  rw [group, get_assign]
  split_ifs <;> rfl

theorem acceptedTimes_append (decision : Decision) (clientIp : String) :
    acceptedTimes clientIp (made ++ [decision]) = acceptedTimes clientIp made ++
      if decision.clientIp = clientIp ∧ ¬ decision.limited then [decision.time] else [] := by
  rw [acceptedTimes, List.filter_append, List.map_append]
  by_cases counts : decision.clientIp = clientIp ∧ ¬ decision.limited
  · rw [if_pos counts, List.filter_cons_of_pos (by simpa using counts)]
    rfl
  · rw [if_neg counts, List.filter_cons_of_neg (by simpa using counts)]
    rfl

theorem Tracks.decision (tracks : Tracks limiter made now) {time : Rat} (ordered : now ≤ time) (clientIp : String) :
    nextDecision limiter.maxRequests limiter.windowSeconds made time clientIp =
      ⟨clientIp, time, (isRateLimited limiter time clientIp).1.1, (isRateLimited limiter time clientIp).1.2⟩ := by
  rw [nextDecision, isRateLimited, tracks.agree clientIp time ordered]

theorem Tracks.call (tracks : Tracks limiter made now) {time : Rat} (ordered : now ≤ time) (clientIp : String) :
    Tracks (isRateLimited limiter time clientIp).2
      (made ++ [nextDecision limiter.maxRequests limiter.windowSeconds made time clientIp]) time where
  agree := by
    intro wanted later after
    rw [tracks.decision ordered, acceptedTimes_append]
    have known := tracks.agree wanted later (le_trans ordered after)
    simp only [isRateLimited, group_assign]
    by_cases same : clientIp = wanted
    · subst same
      rw [if_pos rfl]
      by_cases limited : (answer limiter.maxRequests limiter.windowSeconds time
          (withinWindow limiter.windowSeconds time (group limiter.requests clientIp))).1 = true
      · simp [limited, withinWindow_twice after, known]
      · simp [limited, withinWindow_append, withinWindow_twice after, known]
    · simp [same, known]
  distinct := by
    rw [isRateLimited, keys_assign]
    split_ifs with present
    · exact tracks.distinct
    · exact List.nodup_append.mpr ⟨tracks.distinct, List.nodup_singleton _, by
        intro key inside other single same
        rw [same, List.mem_singleton.mp single] at inside
        exact present inside⟩

/-- An entry without times may as well be missing. -/
theorem group_dropEmpty {dict : Dict String (List Rat)} (unique : (keys dict).Nodup) (key : String) :
    group (dict.filter fun entry => !entry.2.isEmpty) key = group dict key := by
  induction dict with
  | nil => rfl
  | cons entry rest ih =>
      obtain ⟨first, times⟩ := entry
      obtain ⟨fresh, distinct⟩ := List.nodup_cons.mp unique
      have tail := ih distinct
      rw [group, group] at tail
      cases times with
      | cons time times => by_cases hit : first = key <;> simp [group, OrderedMap.get, hit, tail]
      | nil =>
          by_cases hit : first = key
          · subst hit
            have absent : OrderedMap.get rest first = none := get_absent fresh
            rw [absent] at tail
            simpa [group, OrderedMap.get] using tail
          · simpa [group, OrderedMap.get, hit] using tail

theorem Tracks.cleanup (tracks : Tracks limiter made now) {time : Rat} (ordered : now ≤ time) :
    Tracks (cleanup limiter time) made time where
  agree := by
    intro wanted later after
    have unique : (keys (limiter.requests.map fun entry =>
        (entry.1, withinWindow limiter.windowSeconds time entry.2))).Nodup := by
      rw [keys, List.map_map]
      exact tracks.distinct
    have stored : group (RateLimiting.cleanup limiter time).requests wanted =
        ((OrderedMap.get limiter.requests wanted).map (withinWindow limiter.windowSeconds time)).getD [] := by
      rw [RateLimiting.cleanup, group_dropEmpty unique, group, get_map_values]
    have known := tracks.agree wanted later (le_trans ordered after)
    change withinWindow limiter.windowSeconds later _ = withinWindow limiter.windowSeconds later _
    rw [stored, ← known, group]
    cases OrderedMap.get limiter.requests wanted with
    | none => rfl
    | some times => exact withinWindow_twice after times
  distinct := by
    have kept := tracks.distinct
    rw [keys] at kept ⊢
    refine List.Nodup.sublist (List.filter_sublist.map _) ?_
    rw [List.map_map]
    exact kept

theorem decisions_eq_ledger (tracks : Tracks limiter made now) {events : List (Rat × Event)}
    (ordered : ((now :: events.map Prod.fst)).Pairwise (· ≤ ·)) :
    decisions limiter events = ledger limiter.maxRequests limiter.windowSeconds made events := by
  induction events generalizing limiter made now with
  | nil => rfl
  | cons event rest ih =>
      obtain ⟨time, event⟩ := event
      rw [List.map_cons, List.pairwise_cons] at ordered
      have next : now ≤ time := ordered.1 time List.mem_cons_self
      cases event with
      | cleanup => exact ih (tracks.cleanup next) ordered.2
      | call clientIp =>
          rw [decisions, ledger, ih (tracks.call next clientIp) ordered.2]
          exact congrArg (· :: _) (tracks.decision next clientIp).symm

end

variable {maxRequests : Int} {windowSeconds : Rat} {made : List Decision} {events : List (Rat × Event)}

variable (maxRequests windowSeconds) in
/-- Each decision is the one that follows from those before it, and time does not run back. -/
structure Decided (made : List Decision) : Prop where
  each : ∀ earlier decision later, made = earlier ++ decision :: later →
    decision = nextDecision maxRequests windowSeconds earlier decision.time decision.clientIp
  ordered : (made.map (·.time)).Pairwise (· ≤ ·)

variable {decision : Decision} {clientIp : String} {time : Rat}

theorem ledger_each (earlier : List Decision) {later : List Decision}
    (split : ledger maxRequests windowSeconds made events = earlier ++ decision :: later) :
    decision = nextDecision maxRequests windowSeconds (made ++ earlier) decision.time decision.clientIp := by
  induction events generalizing made earlier with
  | nil => simp [ledger] at split
  | cons event rest ih =>
      obtain ⟨time, event⟩ := event
      cases event with
      | cleanup => exact ih earlier split
      | call clientIp =>
          rw [ledger] at split
          cases earlier with
          | nil =>
              obtain ⟨same, -⟩ := List.cons.inj split
              rw [List.append_nil, ← same]
              rfl
          | cons first earlier =>
              obtain ⟨same, tail⟩ := List.cons.inj split
              have next := ih earlier tail
              rwa [List.append_assoc, List.singleton_append, same] at next

theorem ledger_times : ((ledger maxRequests windowSeconds made events).map (·.time)).Sublist (events.map Prod.fst) := by
  induction events generalizing made with
  | nil => exact List.Sublist.refl _
  | cons event rest ih =>
      obtain ⟨time, event⟩ := event
      cases event with
      | cleanup => exact ih.cons time
      | call clientIp => exact ih.cons_cons time

theorem Decided.init (decided : Decided maxRequests windowSeconds (made ++ [decision])) :
    Decided maxRequests windowSeconds made where
  each := by
    rintro earlier first later rfl
    exact decided.each earlier first (later ++ [decision]) (by simp)
  ordered := by
    have ordered := decided.ordered
    rw [List.map_append, List.pairwise_append] at ordered
    exact ordered.1

theorem Decided.of_append {more : List Decision} (decided : Decided maxRequests windowSeconds (made ++ more)) :
    Decided maxRequests windowSeconds made := by
  induction more using List.reverseRecOn with
  | nil => rwa [List.append_nil] at decided
  | append_singleton more last ih =>
      rw [← List.append_assoc] at decided
      exact ih decided.init

theorem mem_acceptedTimes (member : time ∈ acceptedTimes clientIp made) :
    time ∈ made.map (·.time) := by
  obtain ⟨decision, chosen, same⟩ := List.mem_map.mp member
  exact List.mem_map.mpr ⟨decision, (List.mem_filter.mp chosen).1, same⟩

theorem accepted_recent (accepted : (nextDecision maxRequests windowSeconds made time clientIp).limited = false) :
    ((withinWindow windowSeconds time (acceptedTimes clientIp made)).length : Int) < maxRequests := by
  by_contra full
  simp [nextDecision, answer, not_lt.mp full] at accepted

theorem refused_recent (refused : (nextDecision maxRequests windowSeconds made time clientIp).limited = true) :
    maxRequests ≤ (withinWindow windowSeconds time (acceptedTimes clientIp made)).length := by
  by_contra free
  simp [nextDecision, answer, free] at refused

/-- Where any two times are less than the window apart, no more calls than the limit are accepted. -/
theorem Decided.bounded (decided : Decided maxRequests windowSeconds made) (positive : 0 < maxRequests)
    {inside : Rat → Bool} (narrow : ∀ early late, inside early → inside late → late - early < windowSeconds)
    (clientIp : String) : (((acceptedTimes clientIp made).filter inside).length : Int) ≤ maxRequests := by
  induction made using List.reverseRecOn with
  | nil => exact le_of_lt positive
  | append_singleton made decision ih =>
      have soFar := ih decided.init
      rw [acceptedTimes_append]
      split_ifs with counts
      · rw [List.filter_append, List.length_append]
        by_cases within : inside decision.time = true
        · -- the earlier ones inside are in the window of the last one, which was not full
          have next := decided.each made decision [] rfl
          obtain ⟨same, accepted⟩ := counts
          rw [next, Bool.not_eq_true] at accepted
          have free := accepted_recent accepted
          rw [same] at free
          have fewer : ((acceptedTimes clientIp made).filter inside).length ≤
              (withinWindow windowSeconds decision.time (acceptedTimes clientIp made)).length := by
            apply List.Sublist.length_le
            apply List.monotone_filter_right
            intro time member
            exact decide_eq_true (narrow time decision.time member within)
          rw [List.filter_cons_of_pos within]
          simp only [List.filter_nil, List.length_cons, List.length_nil]
          push_cast
          omega
        · rw [List.filter_cons_of_neg within]
          simpa using soFar
      · simpa using soFar

/-- No call before a decision was accepted after it. -/
theorem Decided.window_eq (decided : Decided maxRequests windowSeconds (made ++ [decision]))
    (clientIp : String) : withinWindow windowSeconds decision.time (acceptedTimes clientIp made) =
      (acceptedTimes clientIp made).filter
        fun time => decision.time - time < windowSeconds ∧ time ≤ decision.time := by
  have before : ∀ time ∈ acceptedTimes clientIp made, time ≤ decision.time := by
    intro time member
    have ordered := decided.ordered
    rw [List.map_append, List.pairwise_append] at ordered
    exact ordered.2.2 time (mem_acceptedTimes member) decision.time (by simp)
  apply List.filter_congr
  intro time member
  simp [before time member]

/-- The window before a call holds no more accepted calls than the limit. -/
theorem Decided.recent_le (decided : Decided maxRequests windowSeconds (made ++ [decision]))
    (positive : 0 < maxRequests) (clientIp : String) :
    ((withinWindow windowSeconds decision.time (acceptedTimes clientIp made)).length : Int) ≤ maxRequests := by
  rw [decided.window_eq clientIp]
  apply decided.init.bounded positive
  intro early late earlyInside lateInside
  have first := of_decide_eq_true earlyInside
  have second := of_decide_eq_true lateInside
  linarith [first.1, second.2]

theorem truncated_lt {number : Rat} (positive : 0 < number) : number < (truncated number + 1 : Int) := by
  rw [truncated, if_pos positive.le]
  push_cast
  exact Int.lt_floor_add_one number

/-- When a refused client waits as long as it was told, the oldest of its calls is no longer in the window. -/
theorem Decided.retried {earlier middle : List Decision} {refused next : Decision}
    (decided : Decided maxRequests windowSeconds (earlier ++ refused :: middle ++ [next])) (positive : 0 < maxRequests)
    (limited : refused.limited = true) (same : next.clientIp = refused.clientIp)
    (silent : ∀ decision ∈ middle, decision.clientIp ≠ refused.clientIp)
    (waited : refused.time + refused.info.retryAfter ≤ next.time) : next.limited = false := by
  have split : earlier ++ refused :: middle ++ [next] = (earlier ++ [refused]) ++ (middle ++ [next]) := by simp
  have before : Decided maxRequests windowSeconds earlier := (split ▸ decided).of_append.init
  have refusal := decided.each earlier refused (middle ++ [next]) (by simp)
  have follows := decided.each (earlier ++ refused :: middle) next [] rfl
  have limited' := limited
  rw [refusal] at limited'
  have full := refused_recent limited'
  -- no call of the client was accepted in between
  have unchanged : acceptedTimes refused.clientIp (earlier ++ refused :: middle) =
      acceptedTimes refused.clientIp earlier := by
    have none : (refused :: middle).filter
        (fun decision => decision.clientIp = refused.clientIp ∧ ¬ decision.limited) = [] := by
      rw [List.filter_eq_nil_iff]
      intro decision member
      rcases List.mem_cons.mp member with rfl | inside
      · simp [limited]
      · simp [silent decision inside]
    rw [acceptedTimes, List.filter_append, none, List.append_nil, acceptedTimes]
  obtain ⟨oldest, least⟩ : ∃ oldest,
      (withinWindow windowSeconds refused.time (acceptedTimes refused.clientIp earlier)).min? = some oldest := by
    apply Option.isSome_iff_exists.mp
    rw [List.isSome_min?_iff]
    intro empty
    rw [empty] at full
    exact absurd full (not_le.mpr positive)
  have stored := List.mem_filter.mp (List.min?_mem least)
  have recent : refused.time - oldest < windowSeconds := of_decide_eq_true stored.2
  have hint : refused.info.retryAfter = truncated (windowSeconds - (refused.time - oldest)) + 1 := by
    rw [refusal]
    simp [nextDecision, answer, full, least]
  have expired : ¬ next.time - oldest < windowSeconds := by
    have beyond := truncated_lt (sub_pos.mpr recent)
    rw [hint] at waited
    linarith
  have after : refused.time ≤ next.time := by linarith
  have fewer : (withinWindow windowSeconds next.time (acceptedTimes refused.clientIp earlier)).length <
      (withinWindow windowSeconds refused.time (acceptedTimes refused.clientIp earlier)).length := by
    rw [← withinWindow_twice after]
    exact List.length_filter_lt_length_iff_exists.mpr ⟨oldest, List.min?_mem least, by simpa using expired⟩
  have bounded : ((withinWindow windowSeconds refused.time (acceptedTimes refused.clientIp earlier)).length : Int) ≤
      maxRequests := Decided.recent_le (split ▸ decided).of_append positive refused.clientIp
  rw [follows, same]
  by_contra still
  rw [Bool.not_eq_false] at still
  have again := refused_recent still
  rw [unchanged] at again
  omega

/-- The limiter as the ledger of its decisions. -/
theorem decided_decisions (maxRequests : Int) (windowSeconds : Rat) {events : List (Rat × Event)}
    (ordered : (events.map Prod.fst).Pairwise (· ≤ ·)) :
    decisions ⟨maxRequests, windowSeconds, []⟩ events = ledger maxRequests windowSeconds [] events ∧
      Decided maxRequests windowSeconds (decisions ⟨maxRequests, windowSeconds, []⟩ events) := by
  have same : decisions ⟨maxRequests, windowSeconds, []⟩ events = ledger maxRequests windowSeconds [] events := by
    cases events with
    | nil => rfl
    | cons event rest =>
        have empty : Tracks ⟨maxRequests, windowSeconds, []⟩ [] event.1 := ⟨fun _ _ _ => rfl, List.nodup_nil⟩
        apply decisions_eq_ledger empty
        refine List.pairwise_cons.mpr ⟨fun time member => ?_, ordered⟩
        rcases List.mem_cons.mp member with rfl | later
        · exact le_refl _
        · exact (List.pairwise_cons.mp ordered).1 time later
  refine ⟨same, ?_, ?_⟩
  · intro earlier decision later split
    rw [same] at split
    exact ledger_each earlier split
  · rw [same]
    exact ordered.sublist ledger_times

/-- The calls without the cleanups. -/
def withoutCleanup (events : List (Rat × Event)) : List (Rat × Event) :=
  events.filter fun event => event.2 ≠ .cleanup

theorem ledger_withoutCleanup :
    ledger maxRequests windowSeconds made (withoutCleanup events) = ledger maxRequests windowSeconds made events := by
  induction events generalizing made with
  | nil => rfl
  | cons event rest ih =>
      obtain ⟨time, event⟩ := event
      cases event with
      | cleanup =>
          rw [withoutCleanup, List.filter_cons_of_neg (by simp)]
          exact ih
      | call clientIp =>
          rw [withoutCleanup, List.filter_cons_of_pos (by simp), ledger, ledger]
          exact congrArg _ ih

/-- Any window of the configured length holds no more accepted calls of a client than the limit; a call is refused only
when the window before it is full; cleanups change no decision; and a client that waits as it was told is accepted. -/
theorem rateLimiter_exact (maxRequests : Int) (windowSeconds : Rat) (events : List (Rat × Event))
    (positive : 0 < maxRequests) (ordered : (events.map Prod.fst).Pairwise (· ≤ ·)) :
    let made := decisions ⟨maxRequests, windowSeconds, []⟩ events
    (∀ clientIp start,
      (((acceptedTimes clientIp made).filter
        fun time => start ≤ time ∧ time < start + windowSeconds).length : Int) ≤ maxRequests ∧
      (((acceptedTimes clientIp made).filter
        fun time => start < time ∧ time ≤ start + windowSeconds).length : Int) ≤ maxRequests) ∧
    (∀ earlier refused later, made = earlier ++ refused :: later → refused.limited = true →
      (((acceptedTimes refused.clientIp earlier).filter
        fun time => refused.time - windowSeconds < time ∧ time ≤ refused.time).length : Int) = maxRequests) ∧
    decisions ⟨maxRequests, windowSeconds, []⟩ (withoutCleanup events) = made ∧
    ∀ earlier refused middle next later, made = earlier ++ refused :: middle ++ next :: later →
      refused.limited = true → next.clientIp = refused.clientIp →
      (∀ decision ∈ middle, decision.clientIp ≠ refused.clientIp) →
      refused.time + (refused.info.retryAfter : Rat) ≤ next.time → next.limited = false := by
  intro made
  obtain ⟨same, decided⟩ := decided_decisions maxRequests windowSeconds ordered
  change Decided maxRequests windowSeconds made at decided
  refine ⟨fun clientIp start => ⟨?_, ?_⟩, ?_, ?_, ?_⟩
  · apply decided.bounded positive
    intro early late earlyInside lateInside
    have first := of_decide_eq_true earlyInside
    have second := of_decide_eq_true lateInside
    linarith [first.1, second.2]
  · apply decided.bounded positive
    intro early late earlyInside lateInside
    have first := of_decide_eq_true earlyInside
    have second := of_decide_eq_true lateInside
    linarith [first.1, second.2]
  · intro earlier refused later split limited
    rw [show earlier ++ refused :: later = (earlier ++ [refused]) ++ later by simp] at split
    rw [split] at decided
    have before : Decided maxRequests windowSeconds (earlier ++ [refused]) := decided.of_append
    have refusal := before.each earlier refused [] rfl
    rw [refusal] at limited
    have full := le_antisymm (before.recent_le positive refused.clientIp) (refused_recent limited)
    rw [← full, before.window_eq refused.clientIp]
    congr 3
    funext time
    rw [decide_eq_decide, sub_lt_comm]
  · have kept : ((withoutCleanup events).map Prod.fst).Pairwise (· ≤ ·) :=
      ordered.sublist (List.filter_sublist.map Prod.fst)
    rw [(decided_decisions maxRequests windowSeconds kept).1, ledger_withoutCleanup]
    exact same.symm
  · intro earlier refused middle next later split limited client silent waited
    rw [show earlier ++ refused :: middle ++ next :: later =
      (earlier ++ refused :: middle ++ [next]) ++ later by simp] at split
    rw [split] at decided
    exact decided.of_append.retried positive limited client silent waited

/-- Two calls fill the window of a limit of two, the third is refused and told to wait, and is accepted then. -/
theorem rateLimiter_exact_waited :
    (decisions ⟨2, 60, []⟩ [(0, .call "a"), (1, .call "a"), (2, .call "a"), (3, .cleanup), (61, .call "a")]).map
      (·.limited) = [false, false, true, false] ∧
    decisions ⟨2, 60, []⟩ (withoutCleanup
      [(0, .call "a"), (1, .call "a"), (2, .call "a"), (3, .cleanup), (61, .call "a")]) =
      decisions ⟨2, 60, []⟩ [(0, .call "a"), (1, .call "a"), (2, .call "a"), (3, .cleanup), (61, .call "a")] :=
  ⟨by decide +kernel, (rateLimiter_exact 2 60
    [(0, .call "a"), (1, .call "a"), (2, .call "a"), (3, .cleanup), (61, .call "a")]
    (by decide) (by decide +kernel)).2.2.1⟩

end AutonomousApi.RateLimiting
