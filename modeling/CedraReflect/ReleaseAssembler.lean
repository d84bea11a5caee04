/-
Assembly of a release candidate
(`packages/release-candidate-assembler/src/index.ts`).

An operation has one shape: its signers, its entry function and the arguments of
it, once as data for the SDK and once as the payload that the candidate shows.
The candidate is an object in the words of the source, and its file is the
canonical text of it: every object by its keys, and a line feed.
-/
import CedraReflect.JsonObject
import CedraReflect.Throwing

set_option autoImplicit false

namespace CedraReflect.release

open indexer (throwIf)

/-! ## Objects of JavaScript -/

/-- The number a property name is an index by, which puts it before the other names. -/
def arrayIndex (name : String) : Option ℕ :=
  let digits := name.toList
  if digits ≠ [] ∧ digits.all Char.isDigit ∧ (digits.head? = some '0' → digits.length = 1) then
    let n := Nat.ofDigits 10 (digits.reverse.map fun c => c.toNat - 48)
    if n < 2 ^ 32 - 1 then some n else none
  else none

/-- UTF-16 code units. -/
def codeUnits (s : String) : List ℕ :=
  s.toList.flatMap fun c =>
    if c.toNat < 0x10000 then [c.toNat]
    else [0xD800 + (c.toNat - 0x10000) / 0x400, 0xDC00 + (c.toNat - 0x10000) % 0x400]

/-- `left <= right` of strings. -/
def unitsLe : List ℕ → List ℕ → Bool
  | [], _ => true
  | _ :: _, [] => false
  | a :: as, b :: bs => a < b || (a = b && unitsLe as bs)

def textLe (left right : String) : Bool := unitsLe (codeUnits left) (codeUnits right)

section Text

variable {ν : Type} [NumberText ν]

/-- `JSON.stringify`. -/
def stringify (value : Json ν) : List Char := value.print

/-- `JSON.parse`. -/
def parse (text : List Char) : Option (Json ν) :=
  (Json.read text).map (Json.mapObjects (Json.properties arrayIndex))

def sortedJsonValue (value : Json ν) : Json ν :=
  value.mapObjects fun members => Json.properties arrayIndex (Json.sortMembers textLe members)

/-- The text whose UTF-8 bytes are the canonical bytes. -/
def canonicalJsonText (value : Json ν) : List Char := stringify (sortedJsonValue value) ++ ['\n']

end Text

def texts {ν : Type} (values : List String) : Json ν := .array (values.map .string)

/-! ## Values -/

section Checks

variable {ν : Type}

/-- The keys of an object are compared sorted, which is up to their order. -/
def exactObject (value : Json ν) (expectedKeys : List String) (label : String) :
    Except String Unit :=
  match value with
  | .object members =>
      let expected := expectedKeys.insertionSort fun left right => textLe left right = true
      throwIf ((members.map Prod.fst).isPerm expected = false)
        (label ++ " keys mismatch; expected " ++ ", ".intercalate expected)
  | _ => .error (label ++ " must be an object")

def stringValue (value : Json ν) (label : String) (pattern : String → Bool) :
    Except String String :=
  match value with
  | .string text =>
      if text = "" ∨ pattern text = false then .error (label ++ " has an invalid value")
      else .ok text
  | _ => .error (label ++ " has an invalid value")

def isHex (c : Char) : Bool :=
  c.isDigit || (97 ≤ c.toNat && c.toNat ≤ 102) || (65 ≤ c.toNat && c.toNat ≤ 70)

def isLowerHex (c : Char) : Bool := c.isDigit || (97 ≤ c.toNat && c.toNat ≤ 102)

/-- `/^0x[0-9a-fA-F]{1,64}$/`. -/
def isAddressText (text : String) : Bool :=
  match text.toList with
  | '0' :: 'x' :: digits => digits ≠ [] && digits.length ≤ 64 && digits.all isHex
  | _ => false

/-- The digits of an address in lower case, without the zeros in front. -/
def addressDigits (text : String) : List Char :=
  match (text.toList.drop 2).map Char.toLower |>.dropWhile (· = '0') with
  | [] => ['0']
  | digits => digits

def canonicalAddress (value : Json ν) (label : String) : Except String String := do
  let text ← stringValue value label fun _ => true
  throwIf (isAddressText text = false) (label ++ " is not a Cedra address")
  throwIf (addressDigits text = ['0']) (label ++ " must be non-zero")
  pure (String.ofList ('0' :: 'x' :: addressDigits text))

/-- `/^(0|[1-9][0-9]*)$/`. -/
def isDecimal (text : String) : Bool :=
  match text.toList with
  | ['0'] => true
  | c :: digits => c.isDigit && c ≠ '0' && digits.all Char.isDigit
  | [] => false

def decimalNumber (text : String) : ℕ :=
  Nat.ofDigits 10 (text.toList.reverse.map fun c => c.toNat - 48)

def decimalValue (value : Json ν) (label : String) (maximum : ℕ) (positive : Bool) :
    Except String String := do
  let text ← stringValue value label isDecimal
  throwIf ((positive = true ∧ decimalNumber text = 0) ∨ maximum < decimalNumber text)
    (label ++ " is outside the permitted unsigned range")
  pure text

/-- `Number` of a decimal, which is the number it is written for where that is safe. -/
def safeNumber (value : String) (label : String) : Except String ℕ := do
  throwIf (2 ^ 53 ≤ decimalNumber value)
    (label ++ " exceeds the exact integer range supported by Cedra SDK transaction options")
  pure (decimalNumber value)

/-- `/^0x(?:[0-9a-f]{2})+$/`. -/
def isBytesHex (text : String) : Bool :=
  match text.toList with
  | '0' :: 'x' :: digits => digits ≠ [] && digits.length % 2 = 0 && digits.all isLowerHex
  | _ => false

end Checks

def MAX_U64 : ℕ := 2 ^ 64 - 1

/-! ## The context -/

inductive ReleaseOperationKey where
  | corePublish | coreInitialize | assetsPublish | ammPublish | poolLaunch
deriving DecidableEq, Repr

def ReleaseOperationKey.text : ReleaseOperationKey → String
  | .corePublish => "core_publish"
  | .coreInitialize => "core_initialize"
  | .assetsPublish => "assets_publish"
  | .ammPublish => "amm_publish"
  | .poolLaunch => "pool_launch"

inductive ReleaseRoleKey where
  | core_publisher | assets_publisher | amm_publisher | bootstrap_lp
deriving DecidableEq, Repr

structure RoleMap where
  core_publisher : String
  assets_publisher : String
  amm_publisher : String
  bootstrap_lp : String
deriving DecidableEq, Repr

def RoleMap.role (roles : RoleMap) : ReleaseRoleKey → String
  | .core_publisher => roles.core_publisher
  | .assets_publisher => roles.assets_publisher
  | .amm_publisher => roles.amm_publisher
  | .bootstrap_lp => roles.bootstrap_lp

def RoleMap.values (roles : RoleMap) : List String :=
  [roles.core_publisher, roles.assets_publisher, roles.amm_publisher, roles.bootstrap_lp]

def RELEASE_ROLE_KEYS : List String :=
  ["core_publisher", "assets_publisher", "amm_publisher", "bootstrap_lp"]

section Parse

variable {ν : Type}

def member (value : Json ν) (key : String) : Json ν := (value.get key).getD .null

def parseRoles (value : Json ν) (label : String) : Except String RoleMap := do
  exactObject value RELEASE_ROLE_KEYS label
  let core_publisher ← canonicalAddress (member value "core_publisher") (label ++ ".core_publisher")
  let assets_publisher ←
    canonicalAddress (member value "assets_publisher") (label ++ ".assets_publisher")
  let amm_publisher ← canonicalAddress (member value "amm_publisher") (label ++ ".amm_publisher")
  let bootstrap_lp ← canonicalAddress (member value "bootstrap_lp") (label ++ ".bootstrap_lp")
  let roles : RoleMap := { core_publisher, assets_publisher, amm_publisher, bootstrap_lp }
  throwIf (¬ roles.values.Nodup) (label ++ " must contain five distinct addresses")
  pure roles

structure TransactionControls where
  sequence_number : String
  max_gas_amount : String
  gas_unit_price : String
  expiration_timestamp_secs : String
deriving DecidableEq, Repr

def parseControls (value : Json ν) : Except String TransactionControls := do
  exactObject value
    ["sequence_number", "max_gas_amount", "gas_unit_price", "expiration_timestamp_secs"]
    "transaction_controls"
  let sequence_number ← decimalValue (member value "sequence_number")
    "transaction_controls.sequence_number" MAX_U64 false
  let max_gas_amount ← decimalValue (member value "max_gas_amount")
    "transaction_controls.max_gas_amount" MAX_U64 true
  let gas_unit_price ← decimalValue (member value "gas_unit_price")
    "transaction_controls.gas_unit_price" MAX_U64 true
  let expiration_timestamp_secs ← decimalValue (member value "expiration_timestamp_secs")
    "transaction_controls.expiration_timestamp_secs" MAX_U64 true
  let _ ← safeNumber max_gas_amount "transaction_controls.max_gas_amount"
  let _ ← safeNumber gas_unit_price "transaction_controls.gas_unit_price"
  let _ ← safeNumber expiration_timestamp_secs "transaction_controls.expiration_timestamp_secs"
  pure { sequence_number, max_gas_amount, gas_unit_price, expiration_timestamp_secs }

end Parse

structure GasBudget where
  approved_max_gas_amount : String
  approved_max_gas_unit_price : String
  approved_max_total_fee_base_units : String
deriving DecidableEq, Repr

structure ProfileBinding where
  profile_name : String
  address : String
  public_key : String
deriving DecidableEq, Repr

inductive PackageKey where
  | reflection_core | test_assets | test_amm
deriving DecidableEq, Repr

def PackageKey.text : PackageKey → String
  | .reflection_core => "reflection_core"
  | .test_assets => "test_assets"
  | .test_amm => "test_amm"

structure ExactPackageBinding where
  publish_payload_file : String
  publish_payload_sha256 : String
  compiled_package_files_manifest_sha256 : String
deriving DecidableEq, Repr

/-- The texts of the build environment in the order of the source, and its one count. -/
structure BuildEnvironmentEvidence where
  repository_head_commit : String
  repository_head_tree : String
  release_executable_closure_sha256 : String
  package_lock_sha256 : String
  sdk_lock_integrity : String
  sdk_review_pin_sha256 : String
  sdk_package_json_sha256 : String
  sdk_loaded_entrypoint : String
  sdk_loaded_entrypoint_sha256 : String
  sdk_package_tree_sha256 : String
  sdk_package_file_count : ℕ
  sdk_review_attestation_sha256 : String
  sdk_review_signature_sha256 : String
  sdk_review_reviewer_identity : String
  sdk_review_trusted_signers_sha256 : String
deriving DecidableEq, Repr

/-- What the assembler has validated before it builds anything. -/
structure ValidatedAssemblyContext where
  exactAddressArtifactsSha256 : String
  applicationCommit : String
  buildEnvironment : BuildEnvironmentEvidence
  roles : RoleMap
  profileEvidenceSha256 : String
  publicRoleCandidateSha256 : String
  profileBindings : ReleaseRoleKey → ProfileBinding
  packages : PackageKey → ExactPackageBinding
  deployment_id : String
  operation_key : ReleaseOperationKey
  transaction_controls : TransactionControls
  gas_budget : GasBudget

/-- The roles and the controls have been parsed. -/
structure ValidatedAssemblyContext.Validated (ν : Type) (context : ValidatedAssemblyContext) :
    Prop where
  roles : ∃ value : Json ν, parseRoles value "exact-address roles" = .ok context.roles
  controls : ∃ value : Json ν, parseControls value = .ok context.transaction_controls

/-! ## Operations -/

inductive TransactionKind where
  | packagePublish | coreInitialize | poolLaunch
deriving DecidableEq, Repr

def TransactionKind.text : TransactionKind → String
  | .packagePublish => "package_publish"
  | .coreInitialize => "core_initialize"
  | .poolLaunch => "pool_launch"

/-- An argument as the SDK is given it. -/
inductive EntryArgument where
  | vectorU8 (hex : String)
  | vectorVectorU8 (hex : List String)
  | u64 (value : ℕ)
deriving DecidableEq, Repr

structure EntryFunctionABI where
  signers : ℕ
  parameters : List String
deriving DecidableEq, Repr

structure InputEntryFunctionData where
  function : String
  typeArguments : List String
  functionArguments : List EntryArgument
  abi : EntryFunctionABI
deriving DecidableEq, Repr

structure TransactionPayloadEvidence (ν : Type) where
  type : String
  function : String
  type_arguments : List String
  arguments : List (Json ν)

structure PublishBinding where
  package_key : PackageKey
  publish_payload_sha256 : String
  compiled_package_files_manifest_sha256 : String
deriving DecidableEq, Repr

structure OperationShape (ν : Type) where
  transactionKind : TransactionKind
  senderRole : ReleaseRoleKey
  secondarySignerRoles : List ReleaseRoleKey
  data : InputEntryFunctionData
  payload : TransactionPayloadEvidence ν
  abi : EntryFunctionABI
  publishBinding : Option PublishBinding

section Operations

variable {ν : Type}

def items : Json ν → Option (List (Json ν))
  | .array values => some values
  | _ => none

def isText (value : Json ν) (expected : String) : Bool :=
  match value with
  | .string text => text = expected
  | _ => false

/-- The shape of a publication of the payload file's object. -/
def publishOperation (context : ValidatedAssemblyContext) (packageKey : PackageKey)
    (senderRole : ReleaseRoleKey) (payloadObject : Json ν) :
    Except String (OperationShape ν) := do
  let binding := context.packages packageKey
  throwIf (binding.publish_payload_file ≠ "publish-payload.json")
    (packageKey.text ++ " publish payload must use the reviewed publish-payload.json filename")
  exactObject payloadObject ["type", "function", "type_arguments", "arguments"]
    (packageKey.text ++ " publish payload")
  let wrongShape := packageKey.text ++ " publish payload has the wrong entry-function shape"
  throwIf (isText (member payloadObject "type") "entry_function_payload" = false
      ∨ isText (member payloadObject "function") "0x1::code::publish_package_txn" = false
      ∨ (items (member payloadObject "type_arguments")).map List.length ≠ some 0)
    wrongShape
  match items (member payloadObject "arguments") with
  | some [metadataBytes, moduleBytes] =>
      let metadataHex ← stringValue metadataBytes (packageKey.text ++ " metadata bytes") isBytesHex
      match items moduleBytes with
      | some (first :: rest) =>
          let moduleHex ← (first :: rest).zipIdx.mapM fun (value, position) =>
            stringValue value (packageKey.text ++ " module bytes " ++ toString position) isBytesHex
          let abi : EntryFunctionABI := ⟨1, ["vector<u8>", "vector<vector<u8>>"]⟩
          pure
            { transactionKind := .packagePublish
              senderRole
              secondarySignerRoles := []
              data :=
                { function := "0x1::code::publish_package_txn"
                  typeArguments := []
                  functionArguments := [.vectorU8 metadataHex, .vectorVectorU8 moduleHex]
                  abi }
              payload :=
                { type := "entry_function_payload"
                  function := "0x1::code::publish_package_txn"
                  type_arguments := []
                  arguments := [.string metadataHex, texts moduleHex] }
              abi
              publishBinding := some
                { package_key := packageKey
                  publish_payload_sha256 := binding.publish_payload_sha256
                  compiled_package_files_manifest_sha256 :=
                    binding.compiled_package_files_manifest_sha256 } }
      | _ =>
          .error (packageKey.text ++ " publish payload must contain ordered module byte arrays")
  | _ => .error wrongShape

/-- The one shape of the context's operation. A publication reads its package's payload
file, of which `payloadFile` are the objects. -/
def operationShape (context : ValidatedAssemblyContext) (payloadFile : PackageKey → Json ν) :
    Except String (OperationShape ν) :=
  let roles := context.roles
  match context.operation_key with
  | .corePublish =>
      publishOperation context .reflection_core .core_publisher (payloadFile .reflection_core)
  | .assetsPublish =>
      publishOperation context .test_assets .assets_publisher (payloadFile .test_assets)
  | .ammPublish => publishOperation context .test_amm .amm_publisher (payloadFile .test_amm)
  | .coreInitialize =>
      let abi : EntryFunctionABI := ⟨1, ["u64"]⟩
      let functionName := roles.core_publisher ++ "::reflection_token::initialize"
      pure
        { transactionKind := .coreInitialize
          senderRole := .core_publisher
          secondarySignerRoles := []
          data := ⟨functionName, [], [.u64 100], abi⟩
          payload := ⟨"entry_function_payload", functionName, [], [.string "100"]⟩
          abi
          publishBinding := none }
  | .poolLaunch =>
      let abi : EntryFunctionABI := ⟨4, []⟩
      let functionName := roles.amm_publisher ++ "::pool::launch"
      pure
        { transactionKind := .poolLaunch
          senderRole := .core_publisher
          secondarySignerRoles := [.assets_publisher, .amm_publisher, .bootstrap_lp]
          data := ⟨functionName, [], [], abi⟩
          payload := ⟨"entry_function_payload", functionName, [], []⟩
          abi
          publishBinding := none }

end Operations

/-! ## The candidate -/

/-- What the SDK says of a built transaction. -/
structure ReleaseTransactionIdentity where
  transactionType : String
  senderAddress : String
  secondarySignerAddresses : List String
  feePayerAddress : Option String
  sequenceNumber : String
  maxGasAmount : String
  gasUnitPrice : String
  expirationTimestampSeconds : String
  chainId : ℕ
  fungibleAssetGasType : String
  rawTransactionBcsHex : String
  rawTransactionSha256 : String
  transactionBcsHex : String
  transactionSha256 : String
  signingMessageHex : String
  signingMessageSha256 : String
deriving DecidableEq, Repr

def CEDRA_COIN : String := "0x1::cedra_coin::CedraCoin"

structure TransactionEvidence (ν : Type) where
  sender : String
  secondary_signers : List String
  sequence_number : String
  expiration_timestamp_secs : String
  max_gas_amount : String
  gas_unit_price : String
  payload : TransactionPayloadEvidence ν

structure BuiltReleaseCandidate (ν : Type) where
  context : ValidatedAssemblyContext
  transactionKind : TransactionKind
  transactionEvidence : TransactionEvidence ν
  transactionIdentity : ReleaseTransactionIdentity
  transactionSemanticsSha256 : String
  publishBinding : Option PublishBinding
  senderRole : ReleaseRoleKey
  secondarySignerRoles : List ReleaseRoleKey
  localAbi : EntryFunctionABI

section Candidate

variable {ν : Type}

/-! `jsonSafe` of the records of a candidate. -/

def TransactionPayloadEvidence.json (payload : TransactionPayloadEvidence ν) : Json ν :=
  .object
    [("type", .string payload.type),
      ("function", .string payload.function),
      ("type_arguments", texts payload.type_arguments),
      ("arguments", .array payload.arguments)]

def TransactionEvidence.json (transaction : TransactionEvidence ν) : Json ν :=
  .object
    [("sender", .string transaction.sender),
      ("secondary_signers", texts transaction.secondary_signers),
      ("sequence_number", .string transaction.sequence_number),
      ("expiration_timestamp_secs", .string transaction.expiration_timestamp_secs),
      ("max_gas_amount", .string transaction.max_gas_amount),
      ("gas_unit_price", .string transaction.gas_unit_price),
      ("payload", transaction.payload.json)]

def RoleMap.json (roles : RoleMap) : Json ν :=
  .object
    [("core_publisher", .string roles.core_publisher),
      ("assets_publisher", .string roles.assets_publisher),
      ("amm_publisher", .string roles.amm_publisher),
      ("bootstrap_lp", .string roles.bootstrap_lp)]

def GasBudget.json (budget : GasBudget) : Json ν :=
  .object
    [("approved_max_gas_amount", .string budget.approved_max_gas_amount),
      ("approved_max_gas_unit_price", .string budget.approved_max_gas_unit_price),
      ("approved_max_total_fee_base_units", .string budget.approved_max_total_fee_base_units)]

def ProfileBinding.json (binding : ProfileBinding) : Json ν :=
  .object
    [("profile_name", .string binding.profile_name),
      ("address", .string binding.address),
      ("public_key", .string binding.public_key)]

def PublishBinding.json (binding : PublishBinding) : Json ν :=
  .object
    [("package_key", .string binding.package_key.text),
      ("publish_payload_sha256", .string binding.publish_payload_sha256),
      ("compiled_package_files_manifest_sha256",
        .string binding.compiled_package_files_manifest_sha256)]

variable [NatCast ν]

def ReleaseTransactionIdentity.json (identity : ReleaseTransactionIdentity) : Json ν :=
  .object
    [("transactionType", .string identity.transactionType),
      ("senderAddress", .string identity.senderAddress),
      ("secondarySignerAddresses", texts identity.secondarySignerAddresses),
      ("feePayerAddress", (identity.feePayerAddress.map .string).getD .null),
      ("sequenceNumber", .string identity.sequenceNumber),
      ("maxGasAmount", .string identity.maxGasAmount),
      ("gasUnitPrice", .string identity.gasUnitPrice),
      ("expirationTimestampSeconds", .string identity.expirationTimestampSeconds),
      ("chainId", .number identity.chainId),
      ("fungibleAssetGasType", .string identity.fungibleAssetGasType),
      ("rawTransactionBcsHex", .string identity.rawTransactionBcsHex),
      ("rawTransactionSha256", .string identity.rawTransactionSha256),
      ("transactionBcsHex", .string identity.transactionBcsHex),
      ("transactionSha256", .string identity.transactionSha256),
      ("signingMessageHex", .string identity.signingMessageHex),
      ("signingMessageSha256", .string identity.signingMessageSha256)]

def BuildEnvironmentEvidence.json (environment : BuildEnvironmentEvidence) : Json ν :=
  .object
    [("repository_head_commit", .string environment.repository_head_commit),
      ("repository_head_tree", .string environment.repository_head_tree),
      ("release_executable_closure_file", .string "ops/evidence/release-executable-closure.json"),
      ("release_executable_closure_sha256",
        .string environment.release_executable_closure_sha256),
      ("package_lock_file", .string "package-lock.json"),
      ("package_lock_sha256", .string environment.package_lock_sha256),
      ("sdk_package", .string "@cedra-labs/ts-sdk"),
      ("sdk_version", .string "2.2.8"),
      ("sdk_lock_integrity", .string environment.sdk_lock_integrity),
      ("sdk_review_pin_file", .string "ops/evidence/reviewed-cedra-sdk-2.2.8.json"),
      ("sdk_review_pin_sha256", .string environment.sdk_review_pin_sha256),
      ("sdk_package_json_sha256", .string environment.sdk_package_json_sha256),
      ("sdk_loaded_entrypoint", .string environment.sdk_loaded_entrypoint),
      ("sdk_loaded_entrypoint_sha256", .string environment.sdk_loaded_entrypoint_sha256),
      ("sdk_package_tree_sha256", .string environment.sdk_package_tree_sha256),
      ("sdk_package_file_count", .number environment.sdk_package_file_count),
      ("sdk_review_attestation_sha256", .string environment.sdk_review_attestation_sha256),
      ("sdk_review_signature_sha256", .string environment.sdk_review_signature_sha256),
      ("sdk_review_signature_namespace", .string "cedra-reflect-sdk-review-v1"),
      ("sdk_review_reviewer_identity", .string environment.sdk_review_reviewer_identity),
      ("sdk_review_trusted_signers_sha256",
        .string environment.sdk_review_trusted_signers_sha256)]

/-- The built candidate, of what the release client has built: its identity. -/
def buildReleaseCandidate [NumberText ν] (sha256 : List Char → String)
    (context : ValidatedAssemblyContext) (payloadFile : PackageKey → Json ν)
    (identity : ReleaseTransactionIdentity) : Except String (BuiltReleaseCandidate ν) := do
  let shape ← operationShape context payloadFile
  let sender := context.roles.role shape.senderRole
  let secondarySigners := shape.secondarySignerRoles.map context.roles.role
  throwIf (shape.abi.signers ≠ 1 + secondarySigners.length)
    (context.operation_key.text
      ++ " local ABI signer count does not match ordered transaction signers")
  let controls := context.transaction_controls
  -- The numbers are the options that the release client builds with.
  let _ ← safeNumber controls.max_gas_amount "max_gas_amount"
  let _ ← safeNumber controls.gas_unit_price "gas_unit_price"
  let _ ← safeNumber controls.expiration_timestamp_secs "expiration_timestamp_secs"
  throwIf (identity.chainId ≠ 2 ∨ identity.fungibleAssetGasType ≠ CEDRA_COIN
      ∨ identity.feePayerAddress ≠ none)
    ("built transaction is not fixed to Testnet chain 2, default CED gas, and no fee payer")
  let transactionEvidence : TransactionEvidence ν :=
    { sender
      secondary_signers := secondarySigners
      sequence_number := controls.sequence_number
      expiration_timestamp_secs := controls.expiration_timestamp_secs
      max_gas_amount := controls.max_gas_amount
      gas_unit_price := controls.gas_unit_price
      payload := shape.payload }
  pure
    { context
      transactionKind := shape.transactionKind
      transactionEvidence
      transactionIdentity := identity
      transactionSemanticsSha256 := sha256 (canonicalJsonText transactionEvidence.json)
      publishBinding := shape.publishBinding
      senderRole := shape.senderRole
      secondarySignerRoles := shape.secondarySignerRoles
      localAbi := shape.abi }

/-- What a simulation that succeeded leaves in the candidate. -/
structure SimulationEvidence where
  captured_at : String
  vm_status : String
  gas_used : String
  raw_response_sha256 : String
deriving DecidableEq, Repr

/-- The candidate that `simulateReleaseCandidate` returns. -/
def BuiltReleaseCandidate.candidate (built : BuiltReleaseCandidate ν)
    (simulation : SimulationEvidence) : Json ν :=
  let context := built.context
  .object
    [("schema_version", .number ((2 : ℕ) : ν)),
      ("evidence_scope", .string "testnet-transaction-candidate"),
      ("status", .string "simulated-awaiting-detached-approvals"),
      ("network", .string "cedra-testnet"),
      ("api_url", .string "https://testnet.cedra.dev/v1"),
      ("chain_id", .string "2"),
      ("deployment_id", .string context.deployment_id),
      ("application_commit", .string context.applicationCommit),
      ("exact_address_artifacts_sha256", .string context.exactAddressArtifactsSha256),
      ("public_profile_binding", .object
        [("evidence_sha256", .string context.profileEvidenceSha256),
          ("public_role_candidate_sha256", .string context.publicRoleCandidateSha256),
          ("derivation_method", .string "sha3-256(ed25519_public_key_bytes || 0x00)"),
          ("derivation_tool", .string "OpenSSL dgst -sha3-256"),
          ("assembler_revalidation_sdk_package", .string "@cedra-labs/ts-sdk"),
          ("assembler_revalidation_sdk_version", .string "2.2.8"),
          ("profiles", .object
            [("core_publisher", (context.profileBindings .core_publisher).json),
              ("assets_publisher", (context.profileBindings .assets_publisher).json),
              ("amm_publisher", (context.profileBindings .amm_publisher).json),
              ("bootstrap_lp", (context.profileBindings .bootstrap_lp).json)])]),
      ("build_environment", context.buildEnvironment.json),
      ("roles", context.roles.json),
      ("transaction_kind", .string built.transactionKind.text),
      ("operation_key", .string context.operation_key.text),
      ("transaction", built.transactionEvidence.json),
      ("transaction_identity", built.transactionIdentity.json),
      ("transaction_semantics_sha256", .string built.transactionSemanticsSha256),
      ("gas_budget", context.gas_budget.json),
      ("simulation", .object
        [("captured_at", .string simulation.captured_at),
          ("success", .boolean true),
          ("vm_status", .string simulation.vm_status),
          ("gas_used", .string simulation.gas_used),
          ("raw_response_file", .string "simulation-response.json"),
          ("raw_response_sha256", .string simulation.raw_response_sha256),
          ("transaction_semantics_sha256", .string built.transactionSemanticsSha256)]),
      ("publish_binding", (built.publishBinding.map PublishBinding.json).getD .null)]

/-- The text of the candidate's file. -/
def candidateBundleText [NumberText ν] (candidate : Json ν) : List Char :=
  canonicalJsonText candidate

end Candidate

end CedraReflect.release
