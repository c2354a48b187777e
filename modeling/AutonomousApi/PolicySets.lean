import AutonomousApi.Compliance

/-! The store of policy sets (`PolicySetManager` of policy_compiler.py): its calls change the
status of a set, and a decision reads the active sets. -/

namespace AutonomousApi.Compliance

/-- A call of the manager; `create` is given the id that it draws. -/
inductive PolicySetCall where
  | create (id : String) (policyRules : List PolicyRule)
  | activate (id : String)
  | deprecate (id : String)
  | revoke (id : String)

/-- Sets are stored under their own ids. -/
def put (policySets : List PolicySet) (policySet : PolicySet) : List PolicySet :=
  if policySets.any (·.id = policySet.id) then
    policySets.map fun old => if old.id = policySet.id then policySet else old
  else policySets ++ [policySet]

/-- `none` is an exception: the id is unknown, or a revoked set is to be activated. -/
def PolicySetCall.apply (policySets : List PolicySet) : PolicySetCall → Option (List PolicySet)
  | .create id policyRules => some (put policySets { id, policyRules })
  | .activate id => do
      let policySet ← policySets.find? (·.id = id)
      if policySet.status = .revoked then none else put policySets { policySet with status := .active }
  | .deprecate id => do
      let policySet ← policySets.find? (·.id = id)
      put policySets { policySet with status := .deprecated }
  | .revoke id => do
      let policySet ← policySets.find? (·.id = id)
      put policySets { policySet with status := .revoked }

/-- An exception leaves the store as it is. -/
def stored (calls : List PolicySetCall) : List PolicySet :=
  calls.foldl (fun policySets call => (call.apply policySets).getD policySets) []

variable {policySets next : List PolicySet} {id : String}

theorem mem_put {written policySet : PolicySet} (member : policySet ∈ put policySets written) :
    policySet = written ∨ policySet ∈ policySets ∧ policySet.id ≠ written.id := by
  rw [put] at member
  split at member
  · obtain ⟨old, inside, rfl⟩ := List.mem_map.mp member
    split <;> simp_all
  · next unknown =>
      rw [List.any_eq_true] at unknown
      rcases List.mem_append.mp member with old | new
      · exact .inr ⟨old, fun same => unknown ⟨_, old, decide_eq_true same⟩⟩
      · exact .inl (List.mem_singleton.mp new)

/-- What a call writes in the place of a revoked set. -/
theorem PolicySetCall.apply_cases {call : PolicySetCall} (applied : call.apply policySets = some next) :
    ∃ written, next = put policySets written ∧ ((∃ policyRules, call = .create written.id policyRules) ∨
      call = .deprecate written.id ∨ written.status = .revoked ∨
        ∃ old ∈ policySets, old.id = written.id ∧ old.status ≠ .revoked) := by
  match call with
  | .create id policyRules => exact ⟨_, (Option.some.inj applied).symm, .inl ⟨_, rfl⟩⟩
  | .activate id =>
      obtain ⟨old, found, applied⟩ := Option.bind_eq_some_iff.mp applied
      split at applied
      · cases applied
      · next unrevoked =>
          have inside := List.mem_of_find?_eq_some found
          exact ⟨_, (Option.some.inj applied).symm, .inr (.inr (.inr ⟨old, inside, rfl, unrevoked⟩))⟩
  | .deprecate id =>
      obtain ⟨old, found, applied⟩ := Option.bind_eq_some_iff.mp applied
      have same : old.id = id := by simpa using List.find?_some found
      exact ⟨_, (Option.some.inj applied).symm, .inr (.inl (congrArg _ same.symm))⟩
  | .revoke id =>
      obtain ⟨old, found, applied⟩ := Option.bind_eq_some_iff.mp applied
      exact ⟨_, (Option.some.inj applied).symm, .inr (.inr (.inl rfl))⟩

def Withdrawn (id : String) (policySets : List PolicySet) : Prop :=
  ∀ policySet ∈ policySets, policySet.id = id → policySet.status = .revoked

theorem Withdrawn.revoke : Withdrawn id ((PolicySetCall.apply policySets (.revoke id)).getD policySets) := by
  intro policySet member same
  rw [PolicySetCall.apply] at member
  cases found : policySets.find? (·.id = id) with
  | none =>
      rw [found] at member
      exact absurd (decide_eq_true same) (List.find?_eq_none.mp found _ member)
  | some old =>
      rw [found] at member
      rcases mem_put member with rfl | ⟨-, other⟩
      · rfl
      · have kept : old.id = id := by simpa using List.find?_some found
        exact absurd (same.trans kept.symm) other

theorem Withdrawn.apply {call : PolicySetCall} (withdrawn : Withdrawn id policySets)
    (fresh : ∀ policyRules, call ≠ .create id policyRules) (kept : call ≠ .deprecate id) :
    Withdrawn id ((call.apply policySets).getD policySets) := by
  intro policySet member same
  cases applied : call.apply policySets with
  | none => exact withdrawn _ (by simpa [applied] using member) same
  | some next =>
      obtain ⟨written, rfl, why⟩ := PolicySetCall.apply_cases applied
      rw [applied] at member
      rcases mem_put member with rfl | ⟨old, -⟩
      · subst same
        -- the call wrote the set itself, and the other ways of writing it are excluded
        rcases why with ⟨policyRules, rfl⟩ | rfl | revoked | ⟨old, inside, shared, unrevoked⟩
        · exact absurd rfl (fresh policyRules)
        · exact absurd rfl kept
        · exact revoked
        · exact absurd (withdrawn old inside shared) unrevoked
      · exact withdrawn _ old same

/-- From its revocation to a `deprecate` of it, a set takes no part in any decision: each is made
as if the set were not there, whatever calls come in between. -/
theorem revoked_silent {before after : List PolicySetCall} (fresh : ∀ policyRules, .create id policyRules ∉ after)
    (kept : .deprecate id ∉ after) (exceptions : List GovernanceException)
    (now : Int) (evalCondition : Condition → EvaluationRequest → Bool × String) (request : EvaluationRequest) :
    evaluate evalCondition (stored (before ++ .revoke id :: after)) exceptions now request =
      evaluate evalCondition ((stored (before ++ .revoke id :: after)).filter (·.id ≠ id)) exceptions now request := by
  have withdrawn : Withdrawn id (stored (before ++ .revoke id :: after)) := by
    rw [stored, List.foldl_append]
    exact List.foldlRecOn after _ .revoke fun _ held call member =>
      held.apply (fun policyRules same => fresh policyRules (same ▸ member)) fun same => kept (same ▸ member)
  -- only active sets are looked at, and a revoked one is not active
  have active : (stored (before ++ .revoke id :: after)).filter (·.status = .active) =
      ((stored (before ++ .revoke id :: after)).filter (·.id ≠ id)).filter (·.status = .active) := by
    rw [List.filter_filter]
    refine List.filter_congr fun policySet member => ?_
    have := withdrawn policySet member
    grind
  simp only [evaluate, rulesFor, candidates, active]

def freeze : PolicyRule :=
  { id := "r-1", name := "freeze", effect := .deny, subjectTypes := ["service"], actions := ["deploy"] }

def frozen : List PolicySet :=
  stored ([.create "p-1" [freeze], .activate "p-1"] ++ .revoke "p-1" :: [.activate "p-1"])

def deployment : EvaluationRequest :=
  { subjectType := "service", subjectId := "s-1", action := "deploy", actor := { actorId := "u-1" } }

theorem freeze_silent : evaluate (fun _ _ => (true, "")) frozen [] 0 deployment =
    evaluate (fun _ _ => (true, "")) (frozen.filter (·.id ≠ "p-1")) [] 0 deployment :=
  revoked_silent (by simp) (by simp) [] 0 _ deployment

/-- `deprecate` gets past the exception that `activate` raises for a revoked set. -/
example : stored [.create "p-1" [freeze], .activate "p-1", .revoke "p-1", .deprecate "p-1", .activate "p-1"] =
    [{ id := "p-1", status := .active, policyRules := [freeze] }] := by decide

end AutonomousApi.Compliance
