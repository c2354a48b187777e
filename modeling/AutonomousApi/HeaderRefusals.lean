import AutonomousApi.BearerToken

/-! How `resolve_principal` of the generated security module answers a header: with a principal, with a 401, or with
an exception that it does not turn into one. Encoding the body and comparing the signature refuse text beyond ascii,
and the claims of a signed body are converted outside of the `try`. -/

namespace AutonomousApi.HeaderRefusals

open JsonValue OrderedMap BearerToken

section

/-- The status of the HTTPExceptions among the refusals. -/
def status : Refusal → Option Nat
  | .unconfigured => none
  | .crashed _ => none
  | _ => some 401

/-- A principal, or HTTPException with status 401. -/
def Answered : Except Refusal Principal → Prop
  | .ok _ => True
  | .error refusal => status refusal = some 401

variable (builtins : Builtins) (secret : String)

/-- The header is answered, and a principal is that of a token with the signature of its body. -/
structure Controlled (authorization : Option String) (now : Int) : Prop where
  answered : Answered (resolvePrincipal builtins secret authorization now)
  signed : ∀ principal, resolvePrincipal builtins secret authorization now = .ok principal →
    ∃ header body, authorization = some header ∧
      splitToken (tokenOf header) = some (body, signature builtins secret body)

/-- The claims that a body decodes to. -/
def claimsOf (body : List Char) : Option (Dict String Json) :=
  match ((Base64Url.unb64 body).bind decodeUtf8).bind (JsonCodec.loads builtins.numbers) with
  | some (.dict claims) => some claims
  | _ => none

/-- `int()` takes the expiry, and where the token is alive and has a subject, the roles are iterable and `dict()`
takes the attributes. -/
def Convertible (claims : Dict String Json) (now : Int) : Prop :=
  ∃ exp, pyInt builtins (field claims "exp" (.int 0)) = some exp ∧
    (now ≤ exp → pyStr builtins (field claims "sub" (.str "")) ≠ "" →
      (iterate (field claims "roles" (.arr []))).isSome = true ∧
        (pyDict builtins (field claims "attributes" (.obj []))).isSome = true)

/-- A token in the header is ascii, and if its signature is right, its claims can be converted. -/
def Readable (authorization : Option String) (now : Int) : Prop :=
  ∀ header, authorization = some header → isBearer header = true →
    ∀ body given, splitToken (tokenOf header) = some (body, given) →
      isAscii body = true ∧ isAscii given = true ∧
        (given = signature builtins secret body →
          ∀ claims, claimsOf builtins body = some claims → Convertible builtins claims now)

end

variable {builtins : Builtins} {secret : String}

theorem answered_crashed (exception : String) : ¬ Answered (.error (.crashed exception)) := by
  intro answered
  cases answered

theorem answered_principalOf (claims : Dict String Json) (now : Int) :
    Answered (principalOf builtins claims now) ↔ Convertible builtins claims now := by
  rw [principalOf, Convertible]
  cases converted : pyInt builtins (field claims "exp" (.int 0)) with
  | none =>
      exact ⟨fun answered => absurd answered (answered_crashed _), fun convertible => absurd convertible (by simp)⟩
  | some exp =>
      dsimp only
      by_cases expired : exp < now
      · rw [if_pos expired]
        exact ⟨fun _ => ⟨exp, rfl, fun alive => absurd expired (by omega)⟩, fun _ => rfl⟩
      · rw [if_neg expired]
        by_cases anonymous : pyStr builtins (field claims "sub" (.str "")) = ""
        · rw [if_pos anonymous]
          exact ⟨fun _ => ⟨exp, rfl, fun _ named => absurd anonymous named⟩, fun _ => rfl⟩
        · rw [if_neg anonymous]
          constructor
          · intro answered
            refine ⟨exp, rfl, fun _ _ => ?_⟩
            split at answered
            · rename_i roles attributes iterated read
              rw [iterated, read]
              exact ⟨rfl, rfl⟩
            · exact absurd answered (answered_crashed _)
          · rintro ⟨_, same, convertible⟩
            cases same
            obtain ⟨iterable, readable⟩ := convertible (by omega) anonymous
            obtain ⟨roles, iterated⟩ := Option.isSome_iff_exists.mp iterable
            obtain ⟨attributes, read⟩ := Option.isSome_iff_exists.mp readable
            rw [iterated, read]
            trivial

theorem readBody_eq (body : List Char) (now : Int) : readBody builtins body now =
    (claimsOf builtins body).elim (.error .malformed) (principalOf builtins · now) := by
  rw [readBody, claimsOf]
  generalize ((Base64Url.unb64 body).bind decodeUtf8).bind (JsonCodec.loads builtins.numbers) = read
  cases read with
  | none => rfl
  | some value => cases value <;> rfl

theorem answered_readBody (body : List Char) (now : Int) : Answered (readBody builtins body now) ↔
    ∀ claims, claimsOf builtins body = some claims → Convertible builtins claims now := by
  rw [readBody_eq]
  cases claimsOf builtins body with
  | none => exact ⟨fun _ _ same => (nomatch same), fun _ => rfl⟩
  | some claims =>
      rw [Option.elim_some, answered_principalOf]
      exact ⟨fun convertible other same => Option.some.inj same ▸ convertible, fun all => all claims rfl⟩

/-- What becomes of a header with a body and a signature. -/
theorem answered_token {header : String} {body given : List Char} (configured : secret ≠ "")
    (bearer : isBearer header = true) (parts : splitToken (tokenOf header) = some (body, given)) (now : Int) :
    Answered (resolvePrincipal builtins secret (some header) now) ↔
      isAscii body = true ∧ isAscii given = true ∧
        (given = signature builtins secret body →
          ∀ claims, claimsOf builtins body = some claims → Convertible builtins claims now) := by
  simp only [resolvePrincipal, bearer, parts, if_neg configured, Bool.true_eq_false, if_false]
  cases isAscii body with
  | false =>
      rw [if_pos rfl]
      exact ⟨fun answered => absurd answered (answered_crashed _), fun ascii => absurd ascii.1 Bool.false_ne_true⟩
  | true =>
      cases isAscii given with
      | false =>
          rw [if_neg (by decide), if_pos rfl]
          exact ⟨fun answered => absurd answered (answered_crashed _), fun ascii => absurd ascii.2.1 Bool.false_ne_true⟩
      | true =>
          rw [if_neg (by decide), if_neg (by decide)]
          by_cases matching : given = signature builtins secret body
          · rw [if_neg (not_not.mpr matching), answered_readBody]
            exact ⟨fun convertible => ⟨rfl, rfl, fun _ => convertible⟩, fun readable => readable.2.2 matching⟩
          · rw [if_pos matching]
            exact ⟨fun _ => ⟨rfl, rfl, fun same => absurd same matching⟩, fun _ => rfl⟩

theorem answered_iff (configured : secret ≠ "") (authorization : Option String) (now : Int) :
    Answered (resolvePrincipal builtins secret authorization now) ↔
      Readable builtins secret authorization now := by
  cases authorization with
  | none => exact ⟨fun _ _ present => (nomatch present), fun _ => rfl⟩
  | some header =>
      cases bearer : isBearer header with
      | false =>
          rw [resolvePrincipal, if_pos bearer]
          refine ⟨?_, fun _ => rfl⟩
          intro _ other same named
          rw [← Option.some.inj same, bearer] at named
          cases named
      | true =>
          cases parts : splitToken (tokenOf header) with
          | none =>
              simp only [resolvePrincipal, bearer, parts, Bool.true_eq_false, if_false]
              refine ⟨?_, fun _ => rfl⟩
              intro _ other same _ body given split
              rw [← Option.some.inj same, parts] at split
              cases split
          | some token =>
              obtain ⟨body, given⟩ := token
              rw [answered_token configured bearer parts]
              constructor
              · intro readable other same _ body' given' split
                rw [← Option.some.inj same, parts] at split
                cases split
                exact readable
              · exact fun readable => readable header rfl bearer body given parts

end AutonomousApi.HeaderRefusals
