import AutonomousApi.GeneratedFiles

/-! The files and routes that the elements of a plan are written to (`element_paths` and the CRUD routes of
compiler/backends/python_fastapi.py). A path is made of a slug and a route of a plural, so two labels may lead to one
file or one route; ids share one dictionary with those of the security policies and of the fixed files. -/

namespace AutonomousApi.ElementFiles

open IsrBehavior CompilationPlan OrderedMap PythonText DeclaredApi Naming FastApiBackend
  RouteDispatch PathTemplate GeneratedFiles

section

inductive Element where
  | service (service : Service)
  | dataModel (model : DataModel)
  | event (event : Event)
  | effect (effect : Effect)
  deriving DecidableEq

inductive Kind where
  | service | dataModel | event | effect
  deriving DecidableEq

def Element.kind : Element → Kind
  | .service _ => .service
  | .dataModel _ => .dataModel
  | .event _ => .event
  | .effect _ => .effect

def Element.id : Element → String
  | .service item => item.id
  | .dataModel item => item.id
  | .event item => item.id
  | .effect item => item.id

def Element.label : Element → String
  | .service item => item.name
  | .dataModel item => item.entityName
  | .event item => item.name
  | .effect item => item.name

def Kind.path : Kind → String → FilePath
  | .service => .application
  | .dataModel => .domain
  | .event => .events
  | .effect => .effects

def ofService (service : Service) : List Element :=
  .service service :: service.dataModels.map .dataModel ++
    (service.publishedEvents ++ service.consumedEvents).map .event

def serviceSide (plan : Plan) : List Element := plan.services.flatMap ofService

/-- The elements that a backend lays out, without the security policies. -/
def elements (plan : Plan) : List Element := serviceSide plan ++ plan.effects.map .effect

/-- The ids of the fixed files. -/
def fixedIds (plan : Plan) : List String :=
  keys infraElements ++ if plan.apis.any fun api => api.behavior.isSome then ["infra:declared_apis"] else []

variable (table : CharTable)

/-- The file that is made of an element. -/
def Element.path (element : Element) : FilePath := element.kind.path (slug table element.label)

def Element.entry (element : Element) : String × FilePath := (element.id, element.path table)

/-- The file that an element is written to. -/
def fileOf (plan : Plan) (element : Element) : Option String :=
  (get (elementPaths table plan) element.id).map FilePath.text

theorem serviceElements_eq (service : Service) :
    serviceElements table service = (ofService service).map (Element.entry table) := by
  simp only [serviceElements, ofService, List.map_append, List.map_cons, List.map_map]
  rfl

/-- Later assignments first: the fixed files, then effects, policies and the elements of the services. -/
theorem get_elementPaths (plan : Plan) (key : String) :
    get (elementPaths table plan) key =
      ((if plan.apis.any fun api => api.behavior.isSome then
          if "infra:declared_apis" = key then some .declared else none
        else none) <|>
        get infraElements.reverse key <|>
        get ((plan.effects.map Element.effect).map (Element.entry table)).reverse key <|>
        get (plan.security.map fun policy => (policy.policyId, FilePath.security)).reverse key <|>
        get ((serviceSide plan).map (Element.entry table)).reverse key) := by
  have services : plan.services.flatMap (serviceElements table) =
      (serviceSide plan).map (Element.entry table) := by
    rw [serviceSide, List.map_flatMap]
    exact List.flatMap_congr fun service _ => serviceElements_eq table service
  have effects : (plan.effects.map fun effect => (effect.id, FilePath.effects (slug table effect.name))) =
      (plan.effects.map Element.effect).map (Element.entry table) := by
    rw [List.map_map]
    rfl
  -- the lookup meets the assignments from the last to the first
  rw [elementPaths, services, effects, get_assignAll, List.reverse_append, get_append, List.reverse_append, get_append,
    List.reverse_append, get_append, List.reverse_append, get_append]
  by_cases declared : (plan.apis.any fun api => api.behavior.isSome) = true
  · rw [if_pos declared, if_pos declared]
    simp [OrderedMap.get]
  · rw [if_neg declared, if_neg declared]
    simp

end

section

variable {table : CharTable} {plan : Plan}

/-- The files that are of no element. -/
def plainFiles : List FilePath :=
  [.dockerfile, .requirements, .main, .tests, .k8s, .ci, .readme, .docs, .repositories, .security, .authorization,
    .policies, .behavior, .declared]

theorem plain_or_made (path : FilePath) : path ∈ plainFiles ∨ ∃ kind mod, path = Kind.path kind mod := by
  cases path with
  | domain mod => exact .inr ⟨.dataModel, mod, rfl⟩
  | application mod => exact .inr ⟨.service, mod, rfl⟩
  | events mod => exact .inr ⟨.event, mod, rfl⟩
  | effects mod => exact .inr ⟨.effect, mod, rfl⟩
  | _ => exact .inl (by decide)

def Kind.directory : Kind → String
  | .service => "app/application/"
  | .dataModel => "app/domain/"
  | .event => "app/events/"
  | .effect => "app/effects/"

theorem Kind.text_path (kind : Kind) (mod : String) : (kind.path mod).text = kind.directory ++ mod ++ ".py" := by
  cases kind <;> rfl

theorem Kind.path_text {left right : Kind} {mod other : String}
    (same : (left.path mod).text = (right.path other).text) : left = right ∧ mod = other := by
  rw [left.text_path, right.text_path] at same
  have characters := congrArg String.toList same
  cases left <;> cases right <;>
    simp [directory, String.toList_append, String.toList_inj] at characters <;>
    exact ⟨rfl, characters⟩

theorem Kind.directory_prefix (kind : Kind) (mod : String) :
    kind.directory.toList <+: (kind.path mod).text.toList := by
  rw [kind.text_path, String.append_assoc, String.toList_append]
  exact List.prefix_append _ _

/-- A path says which file it is of. -/
theorem FilePath.text_injective : Function.Injective FilePath.text := by
  have plainApart : ∀ left ∈ plainFiles, ∀ right ∈ plainFiles, left.text = right.text → left = right := by decide
  have unmade : ∀ plain ∈ plainFiles, ∀ kind mod, plain.text ≠ (Kind.path kind mod).text := by
    have outside : ∀ plain ∈ plainFiles, ∀ kind : Kind, ¬ kind.directory.toList <+: plain.text.toList := by
      intro plain listed kind
      revert plain
      cases kind <;> decide
    intro plain listed kind mod same
    apply outside plain listed kind
    rw [same]
    exact kind.directory_prefix mod
  intro left right same
  rcases plain_or_made left with plain | ⟨kind, mod, rfl⟩
  · rcases plain_or_made right with other | ⟨kind, mod, rfl⟩
    · exact plainApart left plain right other same
    · exact absurd same (unmade left plain kind mod)
  · rcases plain_or_made right with other | ⟨otherKind, otherMod, rfl⟩
    · exact absurd same.symm (unmade right other kind mod)
    · obtain ⟨rfl, rfl⟩ := Kind.path_text same
      rfl

/-- The fixed files by their ids. -/
def fixedPaths : Dict String FilePath := infraElements ++ [("infra:declared_apis", .declared)]

theorem get_fixed {key : String} (fixed : key ∈ fixedIds plan) :
    get (elementPaths table plan) key = get fixedPaths key := by
  have infra : ∀ key ∈ keys infraElements,
      "infra:declared_apis" ≠ key ∧ get infraElements.reverse key = get fixedPaths key ∧
        (get fixedPaths key).isSome = true := by
    decide
  rw [get_elementPaths]
  rw [fixedIds, List.mem_append] at fixed
  rcases fixed with inside | extra
  · obtain ⟨other, found, present⟩ := infra key inside
    obtain ⟨path, held⟩ := Option.isSome_iff_exists.mp present
    rw [if_neg other, ite_self, found, held]
    rfl
  · by_cases any : (plan.apis.any fun api => api.behavior.isSome) = true
    · rw [if_pos any, List.mem_singleton] at extra
      rw [if_pos any, if_pos extra.symm, extra]
      rfl
    · rw [if_neg any] at extra
      cases extra

variable {key : String} {items : List Element} {element : Element}

/-- A fixed id leads to a file that is of no element and no policy. -/
theorem fixed_path (fixed : key ∈ fixedIds plan) :
    ∃ path, get fixedPaths key = some path ∧ path ≠ .security ∧ ∀ kind mod, path ≠ Kind.path kind mod := by
  have present : ∀ key ∈ keys fixedPaths, (get fixedPaths key).isSome = true :=
    fun key inside => (get_isSome_iff _ _).mpr inside
  have unmade : ∀ entry ∈ fixedPaths, entry.2 ≠ .security ∧ ∀ kind mod, entry.2 ≠ Kind.path kind mod := by
    intro entry member
    simp only [fixedPaths, infraElements, List.cons_append, List.nil_append, List.mem_cons, List.not_mem_nil,
      or_false] at member
    rcases member with rfl | rfl | rfl | rfl | rfl | rfl | rfl | rfl | rfl | rfl | rfl | rfl | rfl <;>
      exact ⟨FilePath.noConfusion, fun kind mod => by cases kind <;> exact FilePath.noConfusion⟩
  have inside : key ∈ keys fixedPaths := by
    rw [fixedIds, List.mem_append] at fixed
    rw [fixedPaths, keys, List.map_append, List.mem_append]
    refine fixed.imp_right fun extra => ?_
    split at extra
    · exact extra
    · cases extra
  obtain ⟨path, found⟩ := Option.isSome_iff_exists.mp (present key inside)
  exact ⟨path, found, unmade (key, path) (mem_of_get found)⟩

/-- Any other id is looked up among effects, policies and the elements of the services. -/
theorem get_unfixed (free : key ∉ fixedIds plan) :
    get (elementPaths table plan) key =
      (get ((plan.effects.map Element.effect).map (Element.entry table)).reverse key <|>
        get (plan.security.map fun policy => (policy.policyId, FilePath.security)).reverse key <|>
        get ((serviceSide plan).map (Element.entry table)).reverse key) := by
  rw [fixedIds, List.mem_append, not_or] at free
  have infra : get infraElements.reverse key = none := by
    apply get_absent
    rw [keys, List.map_reverse, List.mem_reverse]
    exact free.1
  have declared : (if plan.apis.any fun api => api.behavior.isSome then
      if "infra:declared_apis" = key then some FilePath.declared else none else none) = none := by
    by_cases any : (plan.apis.any fun api => api.behavior.isSome) = true
    · have other := free.2
      rw [if_pos any, List.mem_singleton] at other
      rw [if_pos any, if_neg (Ne.symm other)]
    · rw [if_neg any]
  rw [get_elementPaths, declared, infra]
  rfl

theorem mem_keys_reverse {Item : Type} (name : Item → String) (file : Item → FilePath) (items : List Item)
    (key : String) :
    key ∈ keys (items.map fun item => (name item, file item)).reverse ↔ ∃ item ∈ items, name item = key := by
  rw [keys, List.map_reverse, List.mem_reverse, List.map_map, List.mem_map]
  rfl

theorem get_entries (listed : element ∈ items) (alone : ∀ other ∈ items, other.id = element.id → other = element) :
    get (items.map (Element.entry table)).reverse element.id = some (element.path table) := by
  apply get_of_agreed
  · intro entry member same
    obtain ⟨other, inside, rfl⟩ := List.mem_map.mp (List.mem_reverse.mp member)
    rw [← alone other inside same]
    rfl
  · exact (mem_keys_reverse Element.id (Element.path table) items element.id).mpr ⟨element, listed, rfl⟩

theorem get_entries_absent (absent : ∀ other ∈ items, other.id ≠ key) :
    get (items.map (Element.entry table)).reverse key = none := by
  apply get_absent
  intro inside
  obtain ⟨other, listed, same⟩ := (mem_keys_reverse Element.id (Element.path table) items key).mp inside
  exact absent other listed same

/-- The entries of the policies, which all have one file. -/
theorem get_policies (key : String) :
    get (plan.security.map fun policy => (policy.policyId, FilePath.security)).reverse key =
      if key ∈ plan.security.map SecurityPolicy.policyId then some .security else none := by
  have present := mem_keys_reverse SecurityPolicy.policyId (fun _ => FilePath.security) plan.security key
  by_cases named : key ∈ plan.security.map SecurityPolicy.policyId
  · rw [if_pos named]
    apply get_of_agreed
    · intro entry member _
      obtain ⟨policy, _, rfl⟩ := List.mem_map.mp (List.mem_reverse.mp member)
      rfl
    · exact present.mpr (List.mem_map.mp named)
  · rw [if_neg named]
    exact get_absent fun inside => named (List.mem_map.mpr (present.mp inside))

/-- What is found there is of an element or a policy. -/
theorem unfixed_path {path : FilePath} (free : key ∉ fixedIds plan)
    (found : get (elementPaths table plan) key = some path) :
    path = .security ∨ ∃ kind mod, path = Kind.path kind mod := by
  have made : ∀ items : List Element, get (items.map (Element.entry table)).reverse key = some path →
      ∃ kind mod, path = Kind.path kind mod := by
    intro items held
    obtain ⟨element, _, same⟩ := List.mem_map.mp (List.mem_reverse.mp (mem_of_get held))
    exact ⟨element.kind, slug table element.label, (congrArg Prod.snd same).symm⟩
  rw [get_unfixed free] at found
  cases effect : get ((plan.effects.map Element.effect).map (Element.entry table)).reverse key with
  | some other =>
      rw [effect] at found
      exact .inr (made _ (effect.trans found))
  | none =>
      rw [effect, get_policies] at found
      by_cases policy : key ∈ plan.security.map SecurityPolicy.policyId
      · rw [if_pos policy] at found
        exact .inl (Option.some.inj found).symm
      · rw [if_neg policy] at found
        exact .inr (made _ found)

theorem not_effect_of_service (listed : element ∈ serviceSide plan) (effect : Effect) :
    element ≠ .effect effect := by
  obtain ⟨service, _, member⟩ := List.mem_flatMap.mp listed
  rintro rfl
  simp [ofService] at member

end

section

variable (table : CharTable)

/-- The keys of all routes, emitted and declared. -/
def routeKeys (plan : Plan) : List (Method × List Char) :=
  (emittedRoutes table plan).map (fun route => (route.1, erased route.2)) ++
    (planRoutes plan).map fun route => routeKey route.behavior

def collectionPath (plural : List Char) : List Char := "/api/".toList ++ plural

def itemPath (plural : List Char) : List Char := collectionPath plural ++ ['/', '{', '}']

/-- The keys of the CRUD routes under a plural. -/
def crudKeys (plural : List Char) : List (Method × List Char) :=
  [(.get, collectionPath plural), (.post, collectionPath plural), (.get, itemPath plural), (.put, itemPath plural),
    (.delete, itemPath plural)]

/-- Neither word characters nor lowering bring in a path separator. -/
structure SlashFree : Prop where
  word : table.isAlnum '/' = false
  lower : ∀ text, '/' ∉ text → '/' ∉ table.lower text

variable {table} {plan : Plan}

theorem erased_literal (text : List Char) : erased (literal text) = text := by
  induction text with
  | nil => rfl
  | cons c rest ih =>
      change c :: erased (literal rest) = c :: rest
      rw [ih]

theorem erased_append (left right : Template) : erased (left ++ right) = erased left ++ erased right := by
  rw [erased, erased, erased, List.flatMap_append]

theorem crudRoutes_keys (entity : EntityInfo) :
    (crudRoutes entity).map (fun route => (route.1, erased route.2)) = crudKeys entity.plural.toList := by
  have collection : erased (collectionTemplate entity) = collectionPath entity.plural.toList := erased_literal _
  have item : erased (itemTemplate entity) = itemPath entity.plural.toList := by
    rw [itemTemplate, erased_append, collection]
    rfl
  rw [crudRoutes, List.map_cons, List.map_cons, List.map_cons, List.map_cons, List.map_cons, collection, item]
  rfl

theorem emitted_keys (plan : Plan) :
    (emittedRoutes table plan).map (fun route => (route.1, erased route.2)) =
      (.get, "/health".toList) :: (planEntities table plan).flatMap (fun entity => crudKeys entity.plural.toList) ++
        [(.get, "/api/services".toList)] := by
  rw [emittedRoutes, List.map_append, List.map_cons, List.map_flatMap, erased_literal, List.map_singleton,
    erased_literal]
  simp only [crudRoutes_keys]

/-- The keys that declared routes are checked against are those of the emitted routes. -/
theorem mem_crudRouteKeys (plan : Plan) (key : Method × List Char) :
    key ∈ crudRouteKeys table plan ↔ key ∈ (emittedRoutes table plan).map fun route => (route.1, erased route.2) := by
  rw [emitted_keys, crudRouteKeys]
  simp only [List.mem_append, List.mem_cons, List.not_mem_nil, or_false]
  change _ ∨ key ∈ (planEntities table plan).flatMap (fun entity => crudKeys entity.plural.toList) ↔ _
  tauto

theorem slug_slashFree (free : SlashFree table) (label : String) : '/' ∉ (slug table label).toList := by
  have replaced : '/' ∉ (strip table label.toList).map fun c => if isWord table c then c else '_' := by
    intro inside
    obtain ⟨c, _, same⟩ := List.mem_map.mp inside
    by_cases word : isWord table c = true
    · rw [if_pos word] at same
      rw [same, isWord, free.word] at word
      cases word
    · rw [if_neg word] at same
      exact absurd same (by decide)
  rw [slug]
  generalize (strip table label.toList).map _ = text at replaced ⊢
  cases text with
  | nil => simp
  | cons first rest =>
      change '/' ∉ String.toList (if table.isDigit first then _ else _)
      by_cases digit : table.isDigit first = true
      · rw [if_pos digit, String.toList_ofList]
        exact List.not_mem_cons_of_ne_of_not_mem (by decide) replaced
      · rw [if_neg digit, String.toList_ofList]
        exact replaced

theorem plural_slashFree (free : SlashFree table) {entity : EntityInfo} (listed : entity ∈ planEntities table plan) :
    '/' ∉ entity.plural.toList := by
  obtain ⟨owned, _, rfl⟩ := List.mem_map.mp (mem_of_keepFirst EntityInfo.mod [] _ listed)
  have low := free.lower _ (slug_slashFree free owned.2.entityName)
  change '/' ∉ (plural table (slug table owned.2.entityName)).toList
  rw [plural]
  by_cases ends : (table.lower (slug table owned.2.entityName).toList).getLast? = some 's'
  · simpa [ends] using low
  · simpa [ends] using low

theorem collectionPath_eq (plural : List Char) : collectionPath plural = "/api/".toList ++ plural := by
  delta collectionPath
  rfl

theorem collectionPath_ne_itemPath {plural other : List Char} (plain : '/' ∉ plural) :
    collectionPath plural ≠ itemPath other := by
  intro same
  rw [itemPath, collectionPath_eq, collectionPath_eq, List.append_assoc, List.append_right_inj] at same
  rw [same] at plain
  exact plain (List.mem_append_right _ List.mem_cons_self)

variable {plural : List Char}

theorem crudKeys_path {key : Method × List Char} (member : key ∈ crudKeys plural) :
    key.2 = collectionPath plural ∨ key.2 = itemPath plural := by
  simp only [crudKeys, List.mem_cons, List.not_mem_nil, or_false] at member
  rcases member with rfl | rfl | rfl | rfl | rfl
  · exact .inl rfl
  · exact .inl rfl
  · exact .inr rfl
  · exact .inr rfl
  · exact .inr rfl

/-- A key says which plural it is made of. -/
theorem plural_of_key {other : List Char} (plain : '/' ∉ plural) (plainOther : '/' ∉ other)
    {key : Method × List Char} (member : key ∈ crudKeys plural) (memberOther : key ∈ crudKeys other) :
    plural = other := by
  rcases crudKeys_path member with left | left <;> rcases crudKeys_path memberOther with right | right
  · exact List.append_cancel_left (left.symm.trans right)
  · exact absurd (left.symm.trans right) (collectionPath_ne_itemPath plain)
  · exact absurd (right.symm.trans left) (collectionPath_ne_itemPath plainOther)
  · exact List.append_cancel_left (List.append_cancel_right (left.symm.trans right))

theorem crudKeys_nodup (plain : '/' ∉ plural) : (crudKeys plural).Nodup := by
  have apart := @collectionPath_ne_itemPath plural plural plain
  simp [crudKeys, apart]

theorem services_key (plain : '/' ∉ plural) :
    (.get, "/api/services".toList) ∈ crudKeys plural ↔ plural = "services".toList := by
  constructor
  · intro member
    have own : (Method.get, "/api/services".toList) ∈ crudKeys "services".toList := by decide
    exact plural_of_key plain (by decide) member own
  · rintro rfl
    decide

theorem health_key (plural : List Char) : (.get, "/health".toList) ∉ crudKeys plural := by
  intro member
  rcases crudKeys_path member with same | same
  · simp [collectionPath_eq] at same
  · simp [itemPath, collectionPath_eq] at same

/-- Emitted routes are distinct when the plurals are, and none is that of the service catalog. -/
theorem emitted_nodup_iff (free : SlashFree table) (plan : Plan) :
    ((emittedRoutes table plan).map fun route => (route.1, erased route.2)).Nodup ↔
      ((planEntities table plan).map EntityInfo.plural).Nodup ∧
        ∀ entity ∈ planEntities table plan, entity.plural ≠ "services" := by
  have plain : ∀ entity ∈ planEntities table plan, '/' ∉ entity.plural.toList :=
    fun entity listed => plural_slashFree free listed
  have health : (Method.get, "/health".toList) ∉
      (planEntities table plan).flatMap (fun entity => crudKeys entity.plural.toList) ++
        [(.get, "/api/services".toList)] := by
    rw [List.mem_append, List.mem_flatMap, List.mem_singleton]
    rintro (⟨entity, _, member⟩ | same)
    · exact health_key _ member
    · exact absurd same (by decide)
  have catalog : List.Disjoint ((planEntities table plan).flatMap fun entity => crudKeys entity.plural.toList)
      [(.get, "/api/services".toList)] ↔ ∀ entity ∈ planEntities table plan, entity.plural ≠ "services" := by
    rw [List.disjoint_singleton, List.mem_flatMap]
    constructor
    · rintro absent entity listed same
      exact absent ⟨entity, listed, (services_key (plain entity listed)).mpr (by rw [same])⟩
    · rintro other ⟨entity, listed, member⟩
      exact other entity listed (String.toList_inj.mp ((services_key (plain entity listed)).mp member))
  have crud : ((planEntities table plan).flatMap fun entity => crudKeys entity.plural.toList).Nodup ↔
      ((planEntities table plan).map EntityInfo.plural).Nodup := by
    have plurals : ((planEntities table plan).map EntityInfo.plural).Nodup ↔
        (planEntities table plan).Pairwise fun left right => left.plural ≠ right.plural := List.pairwise_map
    rw [List.nodup_flatMap, plurals]
    constructor
    · rintro ⟨_, disjoint⟩
      refine disjoint.imp fun {left right} apart same => ?_
      have member : (Method.get, collectionPath left.plural.toList) ∈ crudKeys left.plural.toList :=
        List.mem_cons_self
      exact apart member (same ▸ member)
    · intro distinct
      -- a shared key would give two entities one plural
      refine ⟨fun entity listed => crudKeys_nodup (plain entity listed), ?_⟩
      refine distinct.imp_of_mem fun {left right} leftListed rightListed different key here there => ?_
      apply different
      exact String.toList_inj.mp (plural_of_key (plain left leftListed) (plain right rightListed) here there)
  rw [emitted_keys, List.cons_append, List.nodup_cons, List.nodup_append', crud, catalog]
  constructor
  · rintro ⟨_, distinct, _, apart⟩
    exact ⟨distinct, apart⟩
  · rintro ⟨distinct, apart⟩
    exact ⟨health, distinct, List.nodup_singleton _, apart⟩

/-- Declared routes differ from each other and from the emitted ones where the plan is accepted. -/
theorem routeKeys_nodup_iff (free : SlashFree table) (accepted : Accepts table plan) :
    (routeKeys table plan).Nodup ↔ ((planEntities table plan).map EntityInfo.plural).Nodup ∧
      ∀ entity ∈ planEntities table plan, entity.plural ≠ "services" := by
  obtain ⟨routes, declared, fresh⟩ := accepted.routes
  have listed : planRoutes plan = routes := by
    rw [planRoutes, declared]
    rfl
  have distinct : ((planRoutes plan).map fun route => routeKey route.behavior).Nodup := by
    rw [listed]
    exact (declaredRoutes_checked declared).2
  rw [routeKeys, List.nodup_append', emitted_nodup_iff free]
  constructor
  · rintro ⟨emitted, _, _⟩
    exact emitted
  · intro emitted
    refine ⟨emitted, distinct, fun key here there => ?_⟩
    -- a key that is both emitted and declared is what the last gate refuses
    obtain ⟨route, member, rfl⟩ := List.mem_map.mp there
    exact fresh route (listed ▸ member) ((mem_crudRouteKeys plan _).mpr here)

end

variable (table : CharTable) (plan : Plan)

/-- Every element has its own file, and every route its own key. -/
structure Separate : Prop where
  own : ∀ element ∈ elements plan, get (elementPaths table plan) element.id = some (element.path table)
  apart : ∀ left ∈ elements plan, ∀ right ∈ elements plan, left ≠ right →
    fileOf table plan left ≠ fileOf table plan right
  routes : (routeKeys table plan).Nodup

/-- Labels and ids tell the elements apart: no element has an id of a fixed file, none but an effect that of a policy,
and no two have one id, or one kind and one slug; no two entities have one plural, or that of the service catalog. -/
structure Distinguished : Prop where
  free : ∀ element ∈ elements plan, element.id ∉ fixedIds plan
  unsecured : ∀ element ∈ serviceSide plan, ∀ policy ∈ plan.security, policy.policyId ≠ element.id
  named : ∀ left ∈ elements plan, ∀ right ∈ elements plan, left ≠ right → left.id ≠ right.id
  labelled : ∀ left ∈ elements plan, ∀ right ∈ elements plan, left ≠ right → left.kind = right.kind →
    slug table left.label ≠ slug table right.label
  plurals : ((planEntities table plan).map EntityInfo.plural).Nodup
  catalog : ∀ entity ∈ planEntities table plan, entity.plural ≠ "services"

variable {table plan}

theorem mem_elements_effect {effect : Effect} (listed : effect ∈ plan.effects) : .effect effect ∈ elements plan :=
  List.mem_append_right _ (List.mem_map_of_mem listed)

/-- An element of a service shares its id with no effect, where ids are distinct. -/
theorem effects_apart
    (named : ∀ left ∈ elements plan, ∀ right ∈ elements plan, left ≠ right → left.id ≠ right.id)
    {element : Element} (listed : element ∈ serviceSide plan) :
    get ((plan.effects.map Element.effect).map (Element.entry table)).reverse element.id = none := by
  apply get_entries_absent
  intro other inside
  obtain ⟨effect, known, rfl⟩ := List.mem_map.mp inside
  exact named _ (mem_elements_effect known) element (List.mem_append_left _ listed)
    (not_effect_of_service listed effect).symm

theorem own_of_distinguished (distinguished : Distinguished table plan) {element : Element}
    (listed : element ∈ elements plan) :
    get (elementPaths table plan) element.id = some (element.path table) := by
  have alone : ∀ items ⊆ elements plan, ∀ other ∈ items, other.id = element.id → other = element := by
    intro items inside other member same
    by_contra different
    exact distinguished.named other (inside member) element listed different same
  rw [get_unfixed (distinguished.free element listed)]
  rcases List.mem_append.mp listed with service | effect
  · have unsecured : element.id ∉ plan.security.map SecurityPolicy.policyId := by
      intro inside
      obtain ⟨policy, known, same⟩ := List.mem_map.mp inside
      exact distinguished.unsecured element service policy known same
    rw [effects_apart distinguished.named service, get_policies, if_neg unsecured,
      get_entries service (alone _ (List.subset_append_left _ _))]
    rfl
  · rw [get_entries effect (alone _ (List.subset_append_right _ _))]
    rfl

theorem unsecured_of_own (own : ∀ element ∈ elements plan,
      get (elementPaths table plan) element.id = some (element.path table))
    (free : ∀ element ∈ elements plan, element.id ∉ fixedIds plan)
    (named : ∀ left ∈ elements plan, ∀ right ∈ elements plan, left ≠ right → left.id ≠ right.id)
    {element : Element} (listed : element ∈ serviceSide plan) {policy : SecurityPolicy}
    (known : policy ∈ plan.security) : policy.policyId ≠ element.id := by
  intro same
  have inside := List.mem_append_left (plan.effects.map Element.effect) listed
  have secured : element.id ∈ plan.security.map SecurityPolicy.policyId := List.mem_map.mpr ⟨policy, known, same⟩
  have found := own element inside
  rw [get_unfixed (free element inside), effects_apart named listed, get_policies, if_pos secured] at found
  -- the file of a policy is of no kind
  have file : FilePath.security = element.path table := Option.some.inj found
  rw [Element.path] at file
  cases kind : element.kind <;> rw [kind] at file <;> cases file

/-- In an accepted plan elements keep to their own files and routes exactly when labels and ids tell them apart. -/
theorem separate_iff_distinguished (free : SlashFree table) (accepted : Accepts table plan) :
    Separate table plan ↔ Distinguished table plan := by
  constructor
  · intro separate
    have named : ∀ left ∈ elements plan, ∀ right ∈ elements plan, left ≠ right → left.id ≠ right.id := by
      intro left leftListed right rightListed different same
      apply separate.apart left leftListed right rightListed different
      rw [fileOf, fileOf, same]
    have unfixed : ∀ element ∈ elements plan, element.id ∉ fixedIds plan := by
      intro element listed fixed
      obtain ⟨path, found, _, unmade⟩ := fixed_path fixed
      rw [← @get_fixed table plan _ fixed, separate.own element listed] at found
      exact unmade _ _ (Option.some.inj found).symm
    have routes := (routeKeys_nodup_iff free accepted).mp separate.routes
    refine ⟨unfixed, fun element listed policy known => ?_, named, ?_, routes.1, routes.2⟩
    · exact unsecured_of_own separate.own unfixed named listed known
    · intro left leftListed right rightListed different kind same
      apply separate.apart left leftListed right rightListed different
      rw [fileOf, fileOf, separate.own left leftListed, separate.own right rightListed, Element.path, Element.path,
        kind, same]
  · intro distinguished
    refine ⟨fun element listed => own_of_distinguished distinguished listed, ?_,
      (routeKeys_nodup_iff free accepted).mpr ⟨distinguished.plurals, distinguished.catalog⟩⟩
    intro left leftListed right rightListed different same
    -- a path gives back the kind and the slug it is made of
    rw [fileOf, fileOf, own_of_distinguished distinguished leftListed,
      own_of_distinguished distinguished rightListed] at same
    obtain ⟨kind, slugs⟩ := Kind.path_text (Option.some.inj same)
    exact distinguished.labelled left leftListed right rightListed different kind slugs

theorem asciiTable_slashFree : SlashFree asciiTable where
  word := rfl
  lower := by
    intro text plain inside
    obtain ⟨c, member, same⟩ := List.mem_map.mp inside
    by_cases capital : 'A' ≤ c ∧ c ≤ 'Z'
    · have bounds : 65 ≤ c.toNat ∧ c.toNat ≤ 90 := capital
      rw [lowerAscii, if_pos capital, Char.ofNat, dif_pos (.inl (by omega))] at same
      have code : c.toNat + 32 = 47 := congrArg Char.toNat same
      omega
    · rw [lowerAscii, if_neg capital] at same
      exact plain (same ▸ member)

theorem users_separate : Separate asciiTable activeUsersPlan :=
  (@separate_iff_distinguished _ activeUsersPlan asciiTable_slashFree rfl).mpr
    ⟨by decide, by decide, by decide, by decide, by decide, by decide⟩

def orderService : Service where
  id := "service:orders"
  name := "Orders"
  dataModels := [⟨"dm:line", "order line", none⟩, ⟨"dm:part", "order_line", none⟩, ⟨"dm:lines", "order_lines", none⟩]

/-- Two data models with one slug, and a third that has their plural. -/
def orderPlan : Plan where
  planId := "plan:0"
  isrId := "orders"
  services := [orderService]
  dataModels := orderService.dataModels

theorem orders_shared : Accepts asciiTable orderPlan ∧
    (∃ left ∈ elements orderPlan, ∃ right ∈ elements orderPlan, left ≠ right ∧
      fileOf asciiTable orderPlan left = fileOf asciiTable orderPlan right) ∧
    ¬ (routeKeys asciiTable orderPlan).Nodup ∧ ¬ Separate asciiTable orderPlan := by
  have files : ∃ left ∈ elements orderPlan, ∃ right ∈ elements orderPlan, left ≠ right ∧
      fileOf asciiTable orderPlan left = fileOf asciiTable orderPlan right := by
    decide
  refine ⟨rfl, files, by decide, fun separate => ?_⟩
  obtain ⟨left, leftListed, right, rightListed, different, same⟩ := files
  exact separate.apart left leftListed right rightListed different same

end AutonomousApi.ElementFiles
