/-
The candidate that the assembler writes, as it is read again.

No object of a candidate repeats a name or has one that is an index, so what is
read of the canonical text is the candidate with its objects sorted, in each of
the two languages that read it.
-/
import CedraReflect.ReleaseGates

set_option autoImplicit false

namespace CedraReflect.release

open indexer (bind_eq_ok throwIf_eq_ok pure_eq_ok)
open Json (Plain)

variable {ν : Type}

/-! ## Canonical texts -/

/-- A value whose objects are sorted. -/
def canonical (value : Json ν) : Json ν := value.mapObjects (Json.sortMembers textLe)

theorem sortedJsonValue_eq {value : Json ν} (h : Plain arrayIndex value) :
    sortedJsonValue value = canonical value := by
  refine h.mapObjects_congr fun members hkeys hindex => ?_
  have hperm : ((Json.sortMembers textLe members).map Prod.fst).Perm (members.map Prod.fst) :=
    (Json.sortMembers_perm members).map Prod.fst
  exact Json.properties_eq (hperm.nodup_iff.mpr hkeys) fun k hk =>
    hindex k (hperm.mem_iff.mp hk)

/-- **A canonical file is parsed to the sorted value.** -/
theorem parse_canonicalJsonText [NumberText ν] {value : Json ν} (h : Plain arrayIndex value) :
    parse (canonicalJsonText value) = some (canonical value) := by
  have hread : Json.read ((canonical value).print ++ ['\n']) = some (canonical value) :=
    Json.read_print _ (by decide)
  have hplain : Plain arrayIndex (canonical value) := h.sorted
  rw [parse, canonicalJsonText, sortedJsonValue_eq h, stringify, hread, Option.map_some,
    hplain.properties_eq]

/-- The other language reads the same value of the file. -/
theorem load_canonicalJsonText [NumberText ν] {value : Json ν} (h : Plain arrayIndex value) :
    release_evidence.load_json (canonicalJsonText value) = some (canonical value) := by
  have hread : Json.read ((canonical value).print ++ ['\n']) = some (canonical value) :=
    Json.read_print _ (by decide)
  have hplain : Plain arrayIndex (canonical value) := h.sorted
  rw [release_evidence.load_json, canonicalJsonText, sortedJsonValue_eq h, stringify, hread,
    Option.map_some]
  congr 1
  exact hplain.mapObjects_eq fun members hkeys _ => Json.properties_eq hkeys fun _ _ => rfl

theorem member_canonical {value : Json ν} (h : Plain arrayIndex value) (key : String) :
    member (canonical value) key = canonical (member value key) := by
  have hget : (canonical value).get key = (value.get key).map canonical := h.get_sorted key
  rw [member, member, hget]
  cases value.get key with
  | none => rw [Option.map_none, Option.getD_none, canonical, Json.mapObjects]
  | some v => rw [Option.map_some, Option.getD_some, Option.getD_some]

theorem canonical_string (text : String) : canonical (.string text : Json ν) = .string text := by
  rw [canonical, Json.mapObjects]

theorem canonical_texts (values : List String) :
    canonical (texts values : Json ν) = texts values := by
  rw [canonical, texts, Json.mapObjects, Json.mapItems_strings]

theorem plain_texts (values : List String) : Plain arrayIndex (texts values : Json ν) := by
  apply Plain.array
  intro v hv
  obtain ⟨text, -, rfl⟩ := List.mem_map.mp hv
  exact .string text

/-- An object is plain if its names, which the source has, are and its values are. -/
theorem plain_object {members : List (String × Json ν)} (hkeys : (members.map Prod.fst).Nodup)
    (hindex : ∀ k ∈ members.map Prod.fst, arrayIndex k = none)
    (h : ∀ v ∈ members.map Prod.snd, Plain arrayIndex v) : Plain arrayIndex (.object members) := by
  refine .object hkeys hindex ?_
  intro member hmember
  exact h member.2 (List.mem_map_of_mem hmember)

/-! ## The candidate is plain -/

/-- The arguments that a payload shows: texts, and lists of them. -/
def Shown (value : Json ν) : Prop :=
  (∃ text, value = .string text) ∨ ∃ values, value = texts values

theorem Shown.plain {value : Json ν} (h : Shown value) : Plain arrayIndex value := by
  obtain ⟨text, rfl⟩ | ⟨values, rfl⟩ := h
  · exact .string text
  · exact plain_texts values

/-- Nothing shown has an object to rebuild. -/
theorem mapItems_shown {rebuild : List (String × Json ν) → List (String × Json ν)}
    {arguments : List (Json ν)} (h : ∀ value ∈ arguments, Shown value) :
    Json.mapItems rebuild arguments = arguments := by
  have hid : arguments.map (Json.mapObjects rebuild) = arguments.map id := by
    apply List.map_congr_left
    intro value hvalue
    obtain ⟨text, rfl⟩ | ⟨values, rfl⟩ := h value hvalue
    · rw [Json.mapObjects]
      rfl
    · rw [texts, Json.mapObjects, Json.mapItems_strings]
      rfl
  rw [Json.mapItems_eq, hid, List.map_id]

theorem publishOperation_shown {context : ValidatedAssemblyContext} {packageKey : PackageKey}
    {senderRole : ReleaseRoleKey} {payloadObject : Json ν} {shape : OperationShape ν}
    (h : publishOperation context packageKey senderRole payloadObject = .ok shape) :
    shape.transactionKind = .packagePublish ∧ shape.senderRole = senderRole
      ∧ shape.secondarySignerRoles = []
      ∧ ∃ metadataHex moduleHex, shape.payload = ⟨"entry_function_payload",
        "0x1::code::publish_package_txn", [], [.string metadataHex, texts moduleHex]⟩ := by
  simp only [publishOperation, bind_eq_ok, exists_const, throwIf_eq_ok] at h
  obtain ⟨-, _, -, -, h⟩ := h
  split at h
  · rw [bind_eq_ok] at h
    obtain ⟨metadataHex, -, h⟩ := h
    split at h
    · rw [bind_eq_ok] at h
      obtain ⟨moduleHex, -, h⟩ := h
      rw [pure_eq_ok] at h
      rw [h]
      exact ⟨rfl, rfl, rfl, metadataHex, moduleHex, rfl⟩
    · cases h
  · cases h

/-- The shape of an operation is the one the evidence gate expects of it. -/
structure OperationShape.Expected (shape : OperationShape ν) (context : ValidatedAssemblyContext) :
    Prop where
  type : shape.payload.type = "entry_function_payload"
  type_arguments : shape.payload.type_arguments = []
  shown : ∀ value ∈ shape.payload.arguments, Shown value
  operation : match context.operation_key with
    | .corePublish => shape.transactionKind = .packagePublish ∧ shape.senderRole = .core_publisher
        ∧ shape.secondarySignerRoles = [] ∧ shape.payload.arguments.length = 2
        ∧ shape.payload.function = "0x1::code::publish_package_txn"
    | .assetsPublish => shape.transactionKind = .packagePublish
        ∧ shape.senderRole = .assets_publisher ∧ shape.secondarySignerRoles = []
        ∧ shape.payload.arguments.length = 2
        ∧ shape.payload.function = "0x1::code::publish_package_txn"
    | .ammPublish => shape.transactionKind = .packagePublish ∧ shape.senderRole = .amm_publisher
        ∧ shape.secondarySignerRoles = [] ∧ shape.payload.arguments.length = 2
        ∧ shape.payload.function = "0x1::code::publish_package_txn"
    | .coreInitialize => shape.transactionKind = .coreInitialize
        ∧ shape.senderRole = .core_publisher ∧ shape.secondarySignerRoles = []
        ∧ shape.payload.arguments = [.string "100"]
        ∧ shape.payload.function = context.roles.core_publisher ++ "::reflection_token::initialize"
    | .poolLaunch => shape.transactionKind = .poolLaunch ∧ shape.senderRole = .core_publisher
        ∧ shape.secondarySignerRoles = [.assets_publisher, .amm_publisher, .bootstrap_lp]
        ∧ shape.payload.arguments = []
        ∧ shape.payload.function = context.roles.amm_publisher ++ "::pool::launch"

theorem operationShape_expected {context : ValidatedAssemblyContext}
    {payloadFile : PackageKey → Json ν} {shape : OperationShape ν}
    (h : operationShape context payloadFile = .ok shape) : shape.Expected context := by
  have hpublish : ∀ packageKey senderRole,
      publishOperation context packageKey senderRole (payloadFile packageKey) = .ok shape →
      shape.payload.type = "entry_function_payload" ∧ shape.payload.type_arguments = []
        ∧ (∀ value ∈ shape.payload.arguments, Shown value)
        ∧ shape.transactionKind = .packagePublish ∧ shape.senderRole = senderRole
        ∧ shape.secondarySignerRoles = [] ∧ shape.payload.arguments.length = 2
        ∧ shape.payload.function = "0x1::code::publish_package_txn" := by
    intro packageKey senderRole hshape
    obtain ⟨hkind, hsender, hsecondary, metadataHex, moduleHex, hpayload⟩ :=
      publishOperation_shown hshape
    rw [hpayload]
    refine ⟨rfl, rfl, ?_, hkind, hsender, hsecondary, rfl, rfl⟩
    intro value hvalue
    rcases List.mem_cons.mp hvalue with rfl | hvalue
    · exact .inl ⟨metadataHex, rfl⟩
    · rw [List.mem_singleton] at hvalue
      exact .inr ⟨moduleHex, hvalue⟩
  unfold operationShape at h
  cases hkey : context.operation_key with
  | corePublish =>
      rw [hkey] at h
      obtain ⟨htype, htypes, hshown, hrest⟩ := hpublish _ _ h
      exact ⟨htype, htypes, hshown, by rw [hkey]; exact hrest⟩
  | assetsPublish =>
      rw [hkey] at h
      obtain ⟨htype, htypes, hshown, hrest⟩ := hpublish _ _ h
      exact ⟨htype, htypes, hshown, by rw [hkey]; exact hrest⟩
  | ammPublish =>
      rw [hkey] at h
      obtain ⟨htype, htypes, hshown, hrest⟩ := hpublish _ _ h
      exact ⟨htype, htypes, hshown, by rw [hkey]; exact hrest⟩
  | coreInitialize =>
      rw [hkey] at h
      rw [pure_eq_ok] at h
      rw [h]
      refine ⟨rfl, rfl, ?_, by rw [hkey]; exact ⟨rfl, rfl, rfl, rfl, rfl⟩⟩
      intro value hvalue
      rw [List.mem_singleton] at hvalue
      exact .inl ⟨"100", hvalue⟩
  | poolLaunch =>
      rw [hkey] at h
      rw [pure_eq_ok] at h
      rw [h]
      refine ⟨rfl, rfl, ?_, by rw [hkey]; exact ⟨rfl, rfl, rfl, rfl, rfl⟩⟩
      intro value hvalue
      cases hvalue

/-! The records of a candidate. -/

theorem TransactionPayloadEvidence.plain {payload : TransactionPayloadEvidence ν}
    (h : ∀ value ∈ payload.arguments, Shown value) : Plain arrayIndex payload.json := by
  refine plain_object (by simp +decide) (by simp +decide) ?_
  simp only [List.map_cons, List.map_nil, List.forall_mem_cons]
  exact ⟨.string _, .string _, plain_texts _, .array fun v hv => (h v hv).plain, nofun⟩

theorem TransactionEvidence.plain {transaction : TransactionEvidence ν}
    (h : ∀ value ∈ transaction.payload.arguments, Shown value) :
    Plain arrayIndex transaction.json := by
  refine plain_object (by simp +decide) (by simp +decide) ?_
  simp only [List.map_cons, List.map_nil, List.forall_mem_cons]
  exact ⟨.string _, plain_texts _, .string _, .string _, .string _, .string _,
    TransactionPayloadEvidence.plain h, nofun⟩

theorem RoleMap.plain (roles : RoleMap) : Plain arrayIndex (roles.json : Json ν) := by
  refine plain_object (by simp +decide) (by simp +decide) ?_
  simp only [List.map_cons, List.map_nil, List.forall_mem_cons]
  exact ⟨.string _, .string _, .string _, .string _, nofun⟩

theorem GasBudget.plain (budget : GasBudget) : Plain arrayIndex (budget.json : Json ν) := by
  refine plain_object (by simp +decide) (by simp +decide) ?_
  simp only [List.map_cons, List.map_nil, List.forall_mem_cons]
  exact ⟨.string _, .string _, .string _, nofun⟩

theorem ProfileBinding.plain (binding : ProfileBinding) :
    Plain arrayIndex (binding.json : Json ν) := by
  refine plain_object (by simp +decide) (by simp +decide) ?_
  simp only [List.map_cons, List.map_nil, List.forall_mem_cons]
  exact ⟨.string _, .string _, .string _, nofun⟩

theorem PublishBinding.plain (binding : PublishBinding) :
    Plain arrayIndex (binding.json : Json ν) := by
  refine plain_object (by simp +decide) (by simp +decide) ?_
  simp only [List.map_cons, List.map_nil, List.forall_mem_cons]
  exact ⟨.string _, .string _, .string _, nofun⟩

variable [NatCast ν]

theorem ReleaseTransactionIdentity.plain (identity : ReleaseTransactionIdentity) :
    Plain arrayIndex (identity.json : Json ν) := by
  have hpayer : Plain arrayIndex
      ((identity.feePayerAddress.map (.string : String → Json ν)).getD .null) := by
    cases identity.feePayerAddress with
    | none => exact .null
    | some address => exact .string address
  refine plain_object (by simp +decide) (by simp +decide) ?_
  simp only [List.map_cons, List.map_nil, List.forall_mem_cons]
  exact ⟨.string _, .string _, plain_texts _, hpayer, .string _, .string _, .string _, .string _,
    .number _, .string _, .string _, .string _, .string _, .string _, .string _, .string _, nofun⟩

theorem BuildEnvironmentEvidence.plain (environment : BuildEnvironmentEvidence) :
    Plain arrayIndex (environment.json : Json ν) := by
  refine plain_object (by simp +decide) (by simp +decide) ?_
  simp only [List.map_cons, List.map_nil, List.forall_mem_cons]
  exact ⟨.string _, .string _, .string _, .string _, .string _, .string _, .string _, .string _,
    .string _, .string _, .string _, .string _, .string _, .string _, .string _, .number _,
    .string _, .string _, .string _, .string _, .string _, nofun⟩

/-- **No object of a candidate is changed by writing and reading it**, but for the order of
its names. -/
theorem BuiltReleaseCandidate.plain {built : BuiltReleaseCandidate ν}
    (h : ∀ value ∈ built.transactionEvidence.payload.arguments, Shown value)
    (simulation : SimulationEvidence) : Plain arrayIndex (built.candidate simulation) := by
  have hbinding : Plain arrayIndex
      ((built.publishBinding.map (PublishBinding.json : PublishBinding → Json ν)).getD .null) := by
    cases built.publishBinding with
    | none => exact .null
    | some binding => exact binding.plain
  refine plain_object (by simp +decide) (by simp +decide) ?_
  simp only [List.map_cons, List.map_nil, List.forall_mem_cons]
  refine ⟨.number _, .string _, .string _, .string _, .string _, .string _, .string _, .string _,
    .string _, ?_, BuildEnvironmentEvidence.plain _, RoleMap.plain _, .string _, .string _,
    TransactionEvidence.plain h, ReleaseTransactionIdentity.plain _, .string _, GasBudget.plain _,
    ?_, hbinding, nofun⟩
  · refine plain_object (by simp +decide) (by simp +decide) ?_
    simp only [List.map_cons, List.map_nil, List.forall_mem_cons]
    refine ⟨.string _, .string _, .string _, .string _, .string _, .string _, ?_, nofun⟩
    refine plain_object (by simp +decide) (by simp +decide) ?_
    simp only [List.map_cons, List.map_nil, List.forall_mem_cons]
    exact ⟨ProfileBinding.plain _, ProfileBinding.plain _, ProfileBinding.plain _,
      ProfileBinding.plain _, nofun⟩
  · refine plain_object (by simp +decide) (by simp +decide) ?_
    simp only [List.map_cons, List.map_nil, List.forall_mem_cons]
    exact ⟨.string _, .boolean _, .string _, .string _, .string _, .string _, .string _, nofun⟩

end CedraReflect.release
