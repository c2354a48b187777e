import AutonomousApi.Base64Url
import AutonomousApi.EvolutionLedger
import AutonomousApi.GeneHash
import AutonomousApi.PythonText
import Mathlib.Data.Finset.Basic

/-! The signed tokens of the generated security module: `issue_token` writes the claims as base64 of a sorted JSON
text and signs the text of the body, `resolve_principal` reads a header back. HMAC is a function of key and message. -/

namespace AutonomousApi.BearerToken

open Base64Url DataTree JsonValue OrderedMap PythonLiteral
open EvolutionLedger (truthy)
open JsonCodec (dumps loads Layout)
open JsonLines (strip isSpace)
open PythonText (lowerAscii)

section

/-- HMAC, the texts of floats, and the conversions of values that a token of `issue_token` does not carry:
`str()` beside texts, `int()` beside integers, `dict()` beside records. -/
structure Builtins where
  mac : List UInt8 → List UInt8 → List UInt8
  numbers : NumberText JsonFloat
  str : Json → String
  int : Json → Option Int
  dict : Json → Option (Dict String Json)

inductive Refusal where
  | bearerRequired
  | malformed
  | invalidSignature
  | expired
  | noSubject
  | unconfigured
  | crashed (exception : String)
  deriving DecidableEq

/-- The detail of the 401, or the message of the exception. -/
def Refusal.detail : Refusal → String
  | .bearerRequired => "bearer token required"
  | .malformed => "malformed token"
  | .invalidSignature => "invalid token signature"
  | .expired => "token expired"
  | .noSubject => "token carries no subject"
  | .unconfigured => "GENERATED_AUTH_SECRET is not configured"
  | .crashed exception => exception

structure Principal where
  principalId : String
  roles : Finset String
  tenantId : Json
  attributes : Dict String Json

/-- A call of `issue_token` and the second it is made in. -/
structure Issuance where
  principalId : String
  roles : List String := []
  tenantId : Option String := none
  attributes : Dict String Json := []
  ttlSeconds : Int := 3600
  time : Int
  distinct : Distinct (.obj attributes : Json)

def Issuance.exp (call : Issuance) : Int := call.time + call.ttlSeconds

def Issuance.claims (call : Issuance) : Dict String Json :=
  [("sub", .str call.principalId), ("roles", .arr (call.roles.map Json.str)),
    ("tenant_id", call.tenantId.elim .null Json.str), ("attributes", .obj call.attributes), ("exp", .int call.exp)]

def utf8 (text : String) : List UInt8 := text.toUTF8.data.toList

def decodeUtf8 (data : List UInt8) : Option String := String.fromUTF8? ⟨data.toArray⟩

def isAscii (text : List Char) : Bool := text.all fun c => decide (c.toNat < 128)

/-- `encode("ascii")` of a text that is. -/
def asciiBytes (text : List Char) : List UInt8 := text.map fun c => UInt8.ofNat c.toNat

variable (builtins : Builtins)

def Issuance.body (call : Issuance) : List Char :=
  b64 (utf8 (dumps Layout.compact builtins.numbers (.obj call.claims)))

def signature (secret : String) (body : List Char) : List Char := b64 (builtins.mac (utf8 secret) (asciiBytes body))

def issueToken (secret : String) (call : Issuance) : Except Refusal String :=
  if secret = "" then .error .unconfigured
  else .ok (String.ofList (call.body builtins ++ '.' :: signature builtins secret (call.body builtins)))

/-- `lower().startswith("bearer ")`; nothing but the ascii capitals lowers to these letters. -/
def isBearer (authorization : String) : Bool :=
  decide ((authorization.toList.take 7).map lowerAscii = "bearer ".toList)

/-- `split(" ", 1)[1].strip()` -/
def tokenOf (authorization : String) : List Char :=
  (strip (String.ofList ((authorization.toList.dropWhile (· != ' ')).drop 1))).toList

/-- `split(".", 1)` of a text with one dot. -/
def splitToken (token : List Char) : Option (List Char × List Char) :=
  if token.count '.' = 1 then some (token.takeWhile (· != '.'), (token.dropWhile (· != '.')).drop 1) else none

def pyStr : Json → String
  | Json.str text => text
  | value => builtins.str value

def pyInt : Json → Option Int
  | Json.int value => some value
  | value => builtins.int value

def pyDict : Json → Option (Dict String Json)
  | Json.obj entries => some entries
  | value => builtins.dict value

/-- What a loop over a value goes through. -/
def iterate : Json → Option (List Json)
  | .list items => some items
  | .dict entries => some ((keys entries).map Json.str)
  | Json.str text => some (text.toList.map fun c => .str (String.singleton c))
  | _ => none

/-- `claims.get(key) or default` -/
def field (claims : Dict String Json) (key : String) (default : Json) : Json :=
  let value := (get claims key).getD .null
  if truthy value then value else default

def principalOf (claims : Dict String Json) (now : Int) : Except Refusal Principal :=
  match pyInt builtins (field claims "exp" (.int 0)) with
  | none => .error (.crashed "int()")
  | some exp =>
      if exp < now then .error .expired
      else
        let principalId := pyStr builtins (field claims "sub" (.str ""))
        if principalId = "" then .error .noSubject
        else
          match iterate (field claims "roles" (.arr [])), pyDict builtins (field claims "attributes" (.obj [])) with
          | some roles, some attributes =>
              .ok ⟨principalId, (roles.map (pyStr builtins)).toFinset, (get claims "tenant_id").getD .null, attributes⟩
          | _, _ => .error (.crashed "TypeError")

def readBody (body : List Char) (now : Int) : Except Refusal Principal :=
  match ((unb64 body).bind decodeUtf8).bind (loads builtins.numbers) with
  | some (.dict claims) => principalOf builtins claims now
  | _ => .error .malformed

def resolvePrincipal (secret : String) (authorization : Option String) (now : Int) : Except Refusal Principal :=
  match authorization with
  | none => .error .bearerRequired
  | some authorization =>
      if isBearer authorization = false then .error .bearerRequired
      else
        match splitToken (tokenOf authorization) with
        | none => .error .malformed
        | some (body, given) =>
            if secret = "" then .error .unconfigured
            else if isAscii body = false then .error (.crashed "UnicodeEncodeError")
            else if isAscii given = false then .error (.crashed "TypeError")
            else if given ≠ signature builtins secret body then .error .invalidSignature
            else readBody builtins body now

theorem decodeUtf8_utf8 (text : String) : decodeUtf8 (utf8 text) = some text := by
  have valid : text.toUTF8.IsValidUTF8 := text.isValidUTF8
  rw [decodeUtf8, utf8, Array.toArray_toList, String.fromUTF8?, dif_pos valid]
  rfl

variable (call : Issuance)

theorem distinct_claims : Distinct (.obj call.claims : Json) := by
  rw [distinct_dict_iff]
  refine ⟨by simp [Issuance.claims], ?_⟩
  intro entry member
  simp only [Issuance.claims, List.mem_cons, List.not_mem_nil, or_false] at member
  rcases member with rfl | rfl | rfl | rfl | rfl
  · trivial
  · have texts (roles : List String) : DistinctItems (roles.map Json.str) := by
      induction roles with
      | nil => trivial
      | cons role rest ih => exact ⟨trivial, ih⟩
    exact texts call.roles
  · cases call.tenantId <;> trivial
  · exact call.distinct
  · trivial

/-- The attributes as they come back: in the order of their keys. -/
def Issuance.sorted (call : Issuance) : Dict String Json := (sortEntries call.attributes).insertionSort keyOrder

theorem sortKeys_attributes : sortKeys (Json.obj call.attributes) = Json.obj call.sorted := rfl

/-- The principal that a call names. -/
def Issuance.principal (call : Issuance) : Principal :=
  ⟨call.principalId, call.roles.toFinset, call.tenantId.elim .null Json.str, call.sorted⟩

theorem field_text (claims : Dict String Json) (key text : String) (found : get claims key = some (.str text)) :
    field claims key (.str "") = .str text := by
  rw [field, found]
  by_cases empty : text = "" <;> simp [truthy, empty]

/-- Reading the claims of a call. -/
theorem principalOf_claims {claims : Dict String Json}
    (read : ∀ key, get claims key = (get call.claims key).map sortKeys) (now : Int) :
    principalOf builtins claims now =
      if call.exp < now then .error .expired
      else if call.principalId = "" then .error .noSubject
      else .ok call.principal := by
  have exp : field claims "exp" (.int 0) = .int call.exp := by
    have found : get claims "exp" = some (.int call.exp) := by rw [read]; rfl
    rw [field, found]
    by_cases zero : call.exp = 0 <;> simp [truthy, zero]
  have sub : field claims "sub" (.str "") = .str call.principalId :=
    field_text claims "sub" call.principalId (by rw [read]; rfl)
  have roles : field claims "roles" (.arr []) = .arr (call.roles.map Json.str) := by
    have found : get claims "roles" = some (.arr (call.roles.map Json.str)) := by
      rw [read]
      change some (sortKeys (Json.arr (call.roles.map Json.str))) = _
      rw [sortKeys, sortItems_eq_map, List.map_map]
      rfl
    rw [field, found]
    cases call.roles <;> rfl
  have attributes : field claims "attributes" (.obj []) = .obj call.sorted := by
    have found : get claims "attributes" = some (.obj call.sorted) := by rw [read]; rfl
    rw [field, found]
    cases call.sorted <;> rfl
  have tenant : (get claims "tenant_id").getD .null = call.tenantId.elim Json.null Json.str := by
    rw [read]
    change (some (sortKeys (call.tenantId.elim Json.null Json.str))).getD Json.null = _
    cases call.tenantId <;> rfl
  have texts : (call.roles.map Json.str).map (pyStr builtins) = call.roles := by
    rw [List.map_map]
    exact List.map_id _
  rw [principalOf, exp, sub, roles, attributes]
  simp only [pyInt, pyStr, iterate, pyDict, tenant, texts]
  rfl

theorem readBody_body (now : Int) :
    readBody builtins (call.body builtins) now =
      if call.exp < now then .error .expired
      else if call.principalId = "" then .error .noSubject
      else .ok call.principal := by
  obtain ⟨claims, loaded, read⟩ :=
    JsonCodec.loads_record builtins.numbers Layout.compact call.claims (distinct_claims call)
  rw [readBody, Issuance.body, unb64_b64, Option.bind_some, decodeUtf8_utf8, Option.bind_some, loaded]
  exact principalOf_claims builtins call read now

/-- The characters of a token are visible. -/
theorem isSpace_of_visible {c : Char} (above : 32 < c.toNat) (below : c.toNat < 127) : isSpace c = false := by
  have same : c = Char.ofNat c.toNat := (Char.ofNat_toNat c).symm
  have checked : ∀ code, code < 127 → 32 < code → isSpace (Char.ofNat code) = false := by decide
  rw [same]
  exact checked c.toNat below above

theorem strip_visible {text : List Char} (visible : ∀ c ∈ text, isSpace c = false) :
    strip (String.ofList text) = String.ofList text := by
  have kept {text : List Char} (visible : ∀ c ∈ text, isSpace c = false) : text.dropWhile isSpace = text := by
    cases text with
    | nil => rfl
    | cons first rest => rw [List.dropWhile_cons, visible first List.mem_cons_self]; rfl
  have behind : ∀ c ∈ text.reverse, isSpace c = false := fun c member => visible c (List.mem_reverse.mp member)
  rw [strip, String.toList_ofList, kept visible, kept behind, List.reverse_reverse]

/-- A header with two parts of base64 is read into them. -/
theorem splitToken_header (data mac : List UInt8) :
    isBearer ("Bearer " ++ String.ofList (b64 data ++ '.' :: b64 mac)) = true ∧
      splitToken (tokenOf ("Bearer " ++ String.ofList (b64 data ++ '.' :: b64 mac))) = some (b64 data, b64 mac) := by
  have visible : ∀ c ∈ b64 data ++ '.' :: b64 mac, isSpace c = false := by
    intro c member
    rcases List.mem_append.mp member with inside | inside
    · exact isSpace_of_visible (b64_plain inside).2.1 (b64_plain inside).2.2
    · rcases List.mem_cons.mp inside with rfl | inside
      · decide
      · exact isSpace_of_visible (b64_plain inside).2.1 (b64_plain inside).2.2
  have undotted {data : List UInt8} : ∀ c ∈ b64 data, c ≠ '.' := fun c member => (b64_plain member).1
  have header : ("Bearer " ++ String.ofList (b64 data ++ '.' :: b64 mac)).toList =
      'B' :: 'e' :: 'a' :: 'r' :: 'e' :: 'r' :: ' ' :: (b64 data ++ '.' :: b64 mac) := by
    simp only [String.toList_append, String.toList_ofList]
    rfl
  constructor
  · rw [isBearer, header]
    exact decide_eq_true rfl
  · have token : tokenOf ("Bearer " ++ String.ofList (b64 data ++ '.' :: b64 mac)) = b64 data ++ '.' :: b64 mac := by
      rw [tokenOf, header]
      change (strip (String.ofList (b64 data ++ '.' :: b64 mac))).toList = _
      rw [strip_visible visible, String.toList_ofList]
    have absent {data : List UInt8} : (b64 data).count '.' = 0 :=
      List.count_eq_zero.mpr fun member => undotted '.' member rfl
    have first : (b64 data ++ '.' :: b64 mac).takeWhile (· != '.') = b64 data := by
      rw [List.takeWhile_append_of_pos fun c member => bne_iff_ne.mpr (undotted c member)]
      exact List.append_nil _
    have second : (b64 data ++ '.' :: b64 mac).dropWhile (· != '.') = '.' :: b64 mac := by
      rw [List.dropWhile_append_of_pos fun c member => bne_iff_ne.mpr (undotted c member)]
      rfl
    rw [splitToken, token, List.count_append, List.count_cons_self, absent, absent, if_pos rfl, first, second]
    rfl

theorem isAscii_b64 (data : List UInt8) : isAscii (b64 data) = true := by
  rw [isAscii, List.all_eq_true]
  intro c member
  have bound := (b64_plain member).2.2
  exact decide_eq_true (by omega)

end

variable (builtins : Builtins) (secret : String)

/-- A principal as a call describes it; attributes are compared as Python compares them. -/
structure Describes (call : Issuance) (principal : Principal) : Prop where
  principalId : principal.principalId = call.principalId
  roles : ∀ role, role ∈ principal.roles ↔ role ∈ call.roles
  tenantId : principal.tenantId = call.tenantId.elim .null Json.str
  attributes : pyEqual (.obj principal.attributes) (.obj call.attributes) = true

theorem describes_principal (call : Issuance) : Describes call call.principal where
  principalId := rfl
  roles := fun _ => List.mem_toFinset
  tenantId := rfl
  attributes := by
    rw [pyEqual, decide_eq_true_iff]
    apply GeneHash.pyView_of_content
    change sortKeys (Json.obj call.sorted) = _
    rw [← sortKeys_attributes, sortKeys_sortKeys]

/-- A header that carries a body and the text of an HMAC value. -/
def Carries (authorization : String) (body : List Char) (value : List UInt8) : Prop :=
  splitToken (tokenOf authorization) = some (body, b64 value)

/-- An accepted header carries the HMAC value of its body, and the body is what was read. -/
theorem accepted {authorization : String} {now : Int} {principal : Principal}
    (resolved : resolvePrincipal builtins secret (some authorization) now = .ok principal) :
    ∃ body, Carries authorization body (builtins.mac (utf8 secret) (asciiBytes body)) ∧
      readBody builtins body now = .ok principal := by
  rw [resolvePrincipal] at resolved
  split at resolved
  · cases resolved
  · split at resolved
    · cases resolved
    · rename_i body given parts
      split at resolved
      · cases resolved
      · split at resolved
        · cases resolved
        · split at resolved
          · cases resolved
          · split at resolved
            · cases resolved
            · rename_i matching
              rw [not_not.mp matching] at parts
              exact ⟨body, parts, resolved⟩

theorem resolve_signed {authorization : String} {body : List Char} (configured : secret ≠ "")
    (bearer : isBearer authorization = true) (ascii : isAscii body = true)
    (carried : Carries authorization body (builtins.mac (utf8 secret) (asciiBytes body))) (now : Int) :
    resolvePrincipal builtins secret (some authorization) now = readBody builtins body now := by
  rw [Carries] at carried
  simp only [resolvePrincipal, bearer, carried, if_neg configured, ascii, isAscii_b64, signature, ne_eq,
    not_true_eq_false, Bool.true_eq_false, if_false]

/-- A header with the body of a call and its signature is read. -/
theorem resolve_issued {call : Issuance} {token : String} (issued : issueToken builtins secret call = .ok token)
    (now : Int) : resolvePrincipal builtins secret (some ("Bearer " ++ token)) now =
      readBody builtins (call.body builtins) now := by
  rw [issueToken] at issued
  by_cases configured : secret = ""
  · rw [if_pos configured] at issued
    cases issued
  · rw [if_neg configured] at issued
    obtain rfl := Except.ok.inj issued
    obtain ⟨bearer, carried⟩ := splitToken_header (utf8 (dumps Layout.compact builtins.numbers (.obj call.claims)))
      (builtins.mac (utf8 secret) (asciiBytes (call.body builtins)))
    exact resolve_signed builtins secret configured bearer (isAscii_b64 _) carried now

/-- HMAC-SHA256 on the body of the token below, under the key "secret". -/
def sampleBuiltins : Builtins where
  mac _ _ :=
    [33, 252, 33, 82, 120, 60, 40, 105, 172, 73, 86, 139, 203, 203, 254, 124, 189, 135, 252, 83, 225, 132, 26,
    151, 139, 82, 40, 113, 135, 232, 54, 115]
  numbers := JsonText.exactDecimals
  str _ := ""
  int _ := none
  dict _ := none

theorem distinct_empty : Distinct (.obj [] : Json) :=
  (distinct_dict_iff []).mpr ⟨.nil, fun _ member => absurd member List.not_mem_nil⟩

def aliceCall : Issuance where
  principalId := "alice"
  roles := ["reader"]
  time := 5
  distinct := distinct_empty

end AutonomousApi.BearerToken
