import AutonomousApi.OrderedMap

/-! Deny-overrides policies over arbitrary roles and attributes. A rule hits a request
that has one of its roles and all of its attribute values; a request is admitted when
some allow rule hits it and no deny rule does. Hitting is monotone in the request, so
whether one policy admits no more than another is decided by the finitely many
smallest requests that put an allow rule of the first against the rules of the second. -/

namespace AutonomousApi.PolicyContainment

open OrderedMap

variable {Role Key Value : Type} [DecidableEq Role] [DecidableEq Key] [DecidableEq Value]

structure Rule (Role Key Value : Type) where
  roles : List Role
  conditions : List (Key × Value)

structure Request (Role Key Value : Type) where
  roles : List Role
  attributes : Dict Key Value

structure Policy (Role Key Value : Type) where
  allows : List (Rule Role Key Value)
  denies : List (Rule Role Key Value)

def holds (request : Request Role Key Value) (condition : Key × Value) : Bool :=
  get request.attributes condition.1 = some condition.2

def hits (request : Request Role Key Value) (rule : Rule Role Key Value) : Bool :=
  (rule.roles.any fun role => request.roles.contains role) && rule.conditions.all (holds request)

def admits (policy : Policy Role Key Value) (request : Request Role Key Value) : Bool :=
  !policy.denies.any (hits request) && policy.allows.any (hits request)

theorem hits_iff (request : Request Role Key Value) (rule : Rule Role Key Value) :
    hits request rule = true ↔ (∃ role ∈ rule.roles, role ∈ request.roles) ∧
      ∀ condition ∈ rule.conditions, get request.attributes condition.1 = some condition.2 := by
  simp [hits, holds]

theorem admits_iff (policy : Policy Role Key Value) (request : Request Role Key Value) :
    admits policy request = true ↔
      (∀ rule ∈ policy.denies, hits request rule = false) ∧
      ∃ rule ∈ policy.allows, hits request rule = true := by
  simp [admits]

/-- `smaller` asks for no role or attribute value that `larger` lacks. -/
def Below (smaller larger : Request Role Key Value) : Prop :=
  (∀ role ∈ smaller.roles, role ∈ larger.roles) ∧
    ∀ key value, get smaller.attributes key = some value → get larger.attributes key = some value

theorem hits_mono {smaller larger : Request Role Key Value} (below : Below smaller larger)
    {rule : Rule Role Key Value} (hit : hits smaller rule = true) : hits larger rule = true := by
  rw [hits_iff] at hit ⊢
  obtain ⟨⟨role, named, held⟩, conditions⟩ := hit
  exact ⟨⟨role, named, below.1 role held⟩, fun condition member =>
    below.2 _ _ (conditions condition member)⟩

/-- The smallest request that `rule` hits through `role`. -/
def requestOf (role : Role) (rule : Rule Role Key Value) : Request Role Key Value :=
  ⟨[role], rule.conditions⟩

/-- The smallest request that two rules hit through the given roles. -/
def jointRequest (role other : Role) (first second : Rule Role Key Value) : Request Role Key Value :=
  ⟨[role, other], merge first.conditions second.conditions⟩

def consistent (first second : Rule Role Key Value) : Bool :=
  second.conditions.all fun condition =>
    match get first.conditions condition.1 with
    | some value => value = condition.2
    | none => true

/-- The finite check for containment of `inner` in `outer`. -/
def covers (inner outer : Policy Role Key Value) : Bool :=
  inner.allows.all fun allow => allow.roles.all fun role =>
    (inner.denies.any (hits (requestOf role allow)) || outer.allows.any (hits (requestOf role allow))) &&
    outer.denies.all fun deny => deny.roles.all fun other =>
      !consistent allow deny || inner.denies.any (hits (jointRequest role other allow deny))

def Distinct (rule : Rule Role Key Value) : Prop := (keys rule.conditions).Nodup

variable {role other : Role} {rule first second : Rule Role Key Value} {request : Request Role Key Value}

theorem hits_requestOf (named : role ∈ rule.roles)
    (distinct : Distinct rule) : hits (requestOf role rule) rule = true := by
  rw [hits_iff]
  exact ⟨⟨role, named, by simp [requestOf]⟩, fun condition member => get_of_mem distinct member⟩

theorem hits_jointRequest (named : role ∈ first.roles) (named' : other ∈ second.roles) (distinct : Distinct first)
    (distinct' : Distinct second) (agree : consistent first second = true) :
    hits (jointRequest role other first second) first = true ∧
      hits (jointRequest role other first second) second = true := by
  rw [hits_iff, hits_iff]
  refine ⟨⟨⟨role, named, by simp [jointRequest]⟩, ?_⟩, ⟨⟨other, named', by simp [jointRequest]⟩, ?_⟩⟩
  · intro condition member
    rw [jointRequest, get_merge, get_of_mem distinct member]
    rfl
  · intro condition member
    rw [jointRequest, get_merge, get_of_mem distinct' member]
    have same := List.all_eq_true.mp agree condition member
    cases found : get first.conditions condition.1 with
    | none => rfl
    | some value =>
        simp only [found, decide_eq_true_eq] at same
        simp [same]

omit [DecidableEq Role] in
/-- A request that two rules hit is above their joint request, and they agree on it. -/
theorem below_of_hits (held : role ∈ request.roles) (held' : other ∈ request.roles)
    (conditions : ∀ condition ∈ first.conditions, get request.attributes condition.1 = some condition.2)
    (conditions' : ∀ condition ∈ second.conditions, get request.attributes condition.1 = some condition.2) :
    consistent first second = true ∧ Below (jointRequest role other first second) request := by
  refine ⟨?_, ?_, ?_⟩
  · refine List.all_eq_true.mpr fun condition member => ?_
    cases found : get first.conditions condition.1 with
    | none => rfl
    | some value =>
        have one := conditions _ (mem_of_get found)
        have two := conditions' condition member
        rw [two] at one
        simpa using (Option.some.inj one).symm
  · simp [jointRequest, held, held']
  · intro key value found
    rw [jointRequest, get_merge] at found
    cases first' : get first.conditions key with
    | none =>
        simp only [first', Option.orElse_eq_orElse, Option.orElse_none] at found
        exact conditions' _ (mem_of_get found)
    | some held =>
        simp only [first', Option.orElse_eq_orElse, Option.orElse_some, Option.some.injEq] at found
        exact conditions _ (mem_of_get (found ▸ first'))

omit [DecidableEq Role] [DecidableEq Value] in
theorem below_requestOf (held : role ∈ request.roles)
    (conditions : ∀ condition ∈ rule.conditions, get request.attributes condition.1 = some condition.2) :
    Below (requestOf role rule) request :=
  ⟨by simp [requestOf, held], fun _ _ found => conditions _ (mem_of_get found)⟩

theorem covers_sound (inner outer : Policy Role Key Value) (covered : covers inner outer = true)
    (request : Request Role Key Value) (admitted : admits inner request = true) :
    admits outer request = true := by
  simp only [covers, List.all_eq_true, Bool.and_eq_true, Bool.or_eq_true, Bool.not_eq_true'] at covered
  rw [admits_iff] at admitted ⊢
  obtain ⟨undenied, allow, listed, hit⟩ := admitted
  obtain ⟨⟨role, named, held⟩, conditions⟩ := (hits_iff request allow).mp hit
  have spared {smaller : Request Role Key Value} (below : Below smaller request) :
      inner.denies.any (hits smaller) = false := by
    refine List.any_eq_false.mpr fun deny member hitBelow => ?_
    have denied := hits_mono below hitBelow
    rw [undenied deny member] at denied
    cases denied
  obtain ⟨granted, refused⟩ := covered allow listed role named
  constructor
  · intro deny member
    by_contra hitDeny
    obtain ⟨⟨other, named', held'⟩, conditions'⟩ :=
      (hits_iff request deny).mp (by simpa using hitDeny)
    obtain ⟨agree, below⟩ := below_of_hits held held' conditions conditions'
    rcases refused deny member other named' with clash | denied
    · rw [agree] at clash
      cases clash
    · rw [spared below] at denied
      cases denied
  · have below := below_requestOf held conditions
    rcases granted with denied | allowed
    · rw [spared below] at denied
      cases denied
    · obtain ⟨grant, member, hitBelow⟩ := List.any_eq_true.mp allowed
      exact ⟨grant, member, hits_mono below hitBelow⟩

/-- The requests the finite check looks at. -/
inductive Probe (inner outer : Policy Role Key Value) : Request Role Key Value → Prop
  | single {allow : Rule Role Key Value} {role : Role} (listed : allow ∈ inner.allows) :
      Probe inner outer (requestOf role allow)
  | joint {allow deny : Rule Role Key Value} {role other : Role} (listed : allow ∈ inner.allows)
      (denied : deny ∈ outer.denies) : Probe inner outer (jointRequest role other allow deny)

/-- Containment on the probes alone is enough. -/
theorem covers_complete (inner outer : Policy Role Key Value)
    (distinctAllows : ∀ rule ∈ inner.allows, Distinct rule)
    (distinctDenies : ∀ rule ∈ outer.denies, Distinct rule)
    (contained : ∀ request, Probe inner outer request → admits inner request = true →
      admits outer request = true) :
    covers inner outer = true := by
  simp only [covers, List.all_eq_true, Bool.and_eq_true, Bool.or_eq_true, Bool.not_eq_true']
  intro allow listed role named
  have distinct := distinctAllows allow listed
  constructor
  · by_contra neither
    simp only [not_or, Bool.not_eq_true] at neither
    have admitted := (admits_iff inner (requestOf role allow)).mpr
      ⟨fun deny member => by simpa using List.any_eq_false.mp neither.1 deny member,
        allow, listed, hits_requestOf named distinct⟩
    obtain ⟨-, grant, member, hit⟩ := (admits_iff _ _).mp (contained _ (.single listed) admitted)
    simpa [hit] using List.any_eq_false.mp neither.2 grant member
  · intro deny member other named'
    by_contra neither
    simp only [not_or, Bool.not_eq_true, Bool.not_eq_false] at neither
    obtain ⟨hitAllow, hitDeny⟩ := hits_jointRequest named named' distinct
      (distinctDenies deny member) neither.1
    have admitted := (admits_iff inner (jointRequest role other allow deny)).mpr
      ⟨fun rule inside => by simpa using List.any_eq_false.mp neither.2 rule inside,
        allow, listed, hitAllow⟩
    have refused := ((admits_iff _ _).mp (contained _ (.joint listed member) admitted)).1 deny member
    rw [hitDeny] at refused
    cases refused

end AutonomousApi.PolicyContainment
