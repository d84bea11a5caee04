/-
The two gates of a release candidate.

`scripts/validate_release_transaction_bcs.mjs` decodes the entry function of the
candidate's raw transaction and compares the text of it with the text of the
candidate's payload. `scripts/release_evidence.py` normalises the candidate's
transaction, recomputes the digest of it and compares it with the one shape its
operation may have.
-/
import CedraReflect.ReleaseAssembler

set_option autoImplicit false

namespace CedraReflect.release

open indexer (throwIf)

/-! ## The raw transaction -/

/-- The readers and writers of the SDK for its binary format. -/
structure Bcs where
  serializeBytes : List UInt8 → List UInt8
  serializeU32AsUleb128 : ℕ → List UInt8
  serializeU64 : ℕ → List UInt8
  serializeU128 : ℕ → List UInt8
  deserializeBytes : List UInt8 → Option (List UInt8 × List UInt8)
  deserializeUleb128AsU32 : List UInt8 → Option (ℕ × List UInt8)
  deserializeU64 : List UInt8 → Option (ℕ × List UInt8)
  deserializeU128 : List UInt8 → Option (ℕ × List UInt8)

/-- Each reader takes what its writer has written, and nothing else. -/
structure Bcs.Inverse (sdk : Bcs) : Prop where
  bytes : ∀ data value rest, sdk.deserializeBytes data = some (value, rest) →
    data = sdk.serializeBytes value ++ rest
  uleb128 : ∀ data value rest, sdk.deserializeUleb128AsU32 data = some (value, rest) →
    data = sdk.serializeU32AsUleb128 value ++ rest
  u64 : ∀ data value rest, sdk.deserializeU64 data = some (value, rest) →
    data = sdk.serializeU64 value ++ rest
  u128 : ∀ data value rest, sdk.deserializeU128 data = some (value, rest) →
    data = sdk.serializeU128 value ++ rest

/-- An entry function as the SDK deserializes it: the texts of its names and of its type
arguments, and the bytes of each argument, where it has any. -/
structure EntryFunction where
  address : String
  module_name : String
  function_name : String
  type_args : List String
  args : List (Option (List UInt8))
deriving DecidableEq, Repr

/-- A raw transaction by its payload, which may be another than an entry function. -/
structure RawTransaction where
  entryFunction : Option EntryFunction
deriving DecidableEq, Repr

/-! ## The validator of the bytes -/

namespace validate_release_transaction_bcs

def canonicalAddress (value : String) : Except String String := do
  throwIf (isAddressText value = false) "invalid Cedra address"
  throwIf (addressDigits value = ['0']) "zero Cedra address is forbidden"
  pure (String.ofList ('0' :: 'x' :: addressDigits value))

def hexByte (b : UInt8) : List Char := [Json.hexDigit (b.toNat / 16), Json.hexDigit (b.toNat % 16)]

def hexFromBytes (value : List UInt8) : String := String.ofList ('0' :: 'x' :: value.flatMap hexByte)

def entryArgumentBytes (argument : Option (List UInt8)) : Except String (List UInt8) :=
  match argument with
  | some bytes => .ok bytes
  | none => .error "entry function argument did not deserialize as raw BCS bytes"

/-- What a reader returns, or what it throws. -/
def reads {α : Type} (result : Option α) : Except String α :=
  match result with
  | some value => .ok value
  | none => .error "unexpected end of the bytes"

variable (sdk : Bcs)

def assertFinished (rest : List UInt8) : Except String Unit :=
  throwIf (rest ≠ []) "bytes remain after the value"

def decodeVectorU8 (bytes : List UInt8) (label : String) : Except String String := do
  let (value, rest) ← reads (sdk.deserializeBytes bytes)
  assertFinished rest
  throwIf (value = []) (label ++ " cannot be empty")
  pure (hexFromBytes value)

/-- The loop over `count` modules, from `index` on. -/
def decodeModules : ℕ → ℕ → List UInt8 → Except String (List String × List UInt8)
  | _, 0, bytes => .ok ([], bytes)
  | index, count + 1, bytes => do
      let (module, rest) ← reads (sdk.deserializeBytes bytes)
      throwIf (module = []) ("publish module " ++ toString index ++ " cannot be empty")
      let (modules, rest) ← decodeModules (index + 1) count rest
      pure (hexFromBytes module :: modules, rest)

def decodeVectorVectorU8 (bytes : List UInt8) : Except String (List String) := do
  let (count, rest) ← reads (sdk.deserializeUleb128AsU32 bytes)
  throwIf (count = 0) "publish module vector cannot be empty"
  let (modules, rest) ← decodeModules sdk 0 count rest
  assertFinished rest
  pure modules

def decodeInteger (bytes : List UInt8) (bits : ℕ) (label : String) : Except String String := do
  let (value, rest) ←
    if bits = 64 then reads (sdk.deserializeU64 bytes)
    else if bits = 128 then reads (sdk.deserializeU128 bytes)
    else .error ("unsupported integer width for " ++ label)
  assertFinished rest
  throwIf (value = 0) (label ++ " must be positive")
  pure (toString value)

section Payload

variable {ν : Type}

/-- The arguments of an entry function, by the operation they are for. A key that is no
text is none of the operations'. -/
def decodeArguments (entry : EntryFunction) (operationKey : Option String) :
    Except String (List (Json ν)) := do
  if operationKey ∈ [some "core_publish", some "assets_publish", some "amm_publish"] then
    match entry.args with
    | [metadata, modules] =>
        let metadata ← entryArgumentBytes metadata
        let metadata ← decodeVectorU8 sdk metadata "package metadata"
        let modules ← entryArgumentBytes modules
        let modules ← decodeVectorVectorU8 sdk modules
        pure [.string metadata, texts modules]
    | _ => .error "package publish raw BCS must contain exactly two arguments"
  else if operationKey = some "pool_seed" then
    match entry.args with
    | [reflection, usd, minimum] =>
        let reflection ← entryArgumentBytes reflection
        let reflection ← decodeInteger sdk reflection 64 "rfl amount"
        let usd ← entryArgumentBytes usd
        let usd ← decodeInteger sdk usd 64 "usd amount"
        let minimum ← entryArgumentBytes minimum
        let minimum ← decodeInteger sdk minimum 128 "minimum LP shares"
        pure [.string reflection, .string usd, .string minimum]
    | _ => .error "pool seed raw BCS must contain exactly three amount arguments"
  else
    throwIf (entry.args ≠ [])
      (operationKey.getD "undefined" ++ " raw BCS must contain zero payload arguments")
    pure []

def decodePayload (rawTransaction : RawTransaction) (operationKey : Option String) :
    Except String (Json ν) := do
  match rawTransaction.entryFunction with
  | none => .error "raw BCS payload is not an entry function"
  | some entry =>
      let address ← canonicalAddress entry.address
      let functionId := address ++ "::" ++ entry.module_name ++ "::" ++ entry.function_name
      let arguments ← decodeArguments sdk entry operationKey
      pure (.object
        [("type", .string "entry_function_payload"),
          ("function", .string functionId),
          ("type_arguments", texts entry.type_args),
          ("arguments", .array arguments)])

variable [NumberText ν]

def sameJson (left right : Json ν) : Prop := stringify left = stringify right

instance (left right : Json ν) : Decidable (sameJson left right) :=
  inferInstanceAs (Decidable (stringify left = stringify right))

/-- `===` between what was decoded, whose function is a text, and a member. -/
def sameFunction (decoded payload : Json ν) : Bool :=
  match decoded.get "function", payload.get "function" with
  | some (.string left), some (.string right) => left = right
  | _, _ => false

def textOf : Json ν → Option String
  | .string text => some text
  | _ => none

/-- The last two checks of `validate`, on the candidate and the raw transaction that its
bytes are. -/
def payloadChecks (candidate : Json ν) (raw : RawTransaction) : Except String Unit := do
  let operationKey := textOf (member candidate "operation_key")
  let payload := member (member candidate "transaction") "payload"
  let decoded ← decodePayload sdk raw operationKey
  throwIf (sameFunction decoded payload = false) "raw BCS entry function mismatch"
  throwIf (¬ sameJson decoded payload)
    "raw BCS type arguments or exact payload argument bytes mismatch"

end Payload

end validate_release_transaction_bcs

/-! ## The evidence gate -/

namespace release_evidence

/-- The order of `sorted`, by code points. -/
def nameLe (a b : String) : Bool := decide (a ≤ b)

section Values

variable {ν : Type}

/-- `json.load`: a repeated name keeps its last value. -/
def load_json [NumberText ν] (text : List Char) : Option (Json ν) :=
  (Json.read text).map (Json.mapObjects (Json.properties fun _ => none))

/-- The text of `canonical_json_bytes`. -/
def canonical_json_text [NumberText ν] (value : Json ν) : List Char :=
  (value.mapObjects (Json.sortMembers nameLe)).print ++ ['\n']

/-- `repr` of a list of names. -/
def names (keys : List String) : String :=
  "[" ++ ", ".intercalate (keys.map fun key => "'" ++ key ++ "'") ++ "]"

def require_exact_keys (value : Json ν) (keys : List String) (label : String) :
    Except String Unit :=
  match value with
  | .object members =>
      let actual := members.map Prod.fst
      let missing := keys.filter fun key => !actual.contains key
      let unexpected := actual.filter fun key => !keys.contains key
      throwIf (missing ≠ [] ∨ unexpected ≠ [])
        (label ++ " keys mismatch; missing="
          ++ names (missing.insertionSort fun a b => nameLe a b = true) ++ ", unexpected="
          ++ names (unexpected.insertionSort fun a b => nameLe a b = true))
  | _ => .error (label ++ " must be an object")

def require_string (value : Json ν) (label : String) : Except String String :=
  match value with
  | .string text => if text = "" then .error (label ++ " must be a non-empty string") else .ok text
  | _ => .error (label ++ " must be a non-empty string")

def require_decimal (value : Json ν) (label : String) (positive : Bool) :
    Except String String := do
  let text ← require_string value label
  throwIf (isDecimal text = false) (label ++ " has an invalid format")
  throwIf (positive = true ∧ decimalNumber text = 0) (label ++ " must be positive")
  pure text

def canonical_address (value : Json ν) (label : String) : Except String String := do
  let text ← require_string value label
  throwIf (isAddressText text = false) (label ++ " is not a Cedra address")
  throwIf (addressDigits text = ['0']) (label ++ " must be non-zero")
  pure (String.ofList ('0' :: 'x' :: addressDigits text))

/-- `[A-Za-z_][A-Za-z0-9_]*`. -/
def isIdentifier (name : List Char) : Bool :=
  match name with
  | c :: cs =>
      ((c.isAlpha && c.toNat < 128) || c = '_')
        && cs.all fun d => (d.isAlphanum && d.toNat < 128) || d = '_'
  | [] => false

/-- The groups of `FUNCTION_RE`: none of their characters is a colon. -/
def functionGroups (text : List Char) : Option (String × String × String) :=
  let notColon : Char → Bool := fun c => c ≠ ':'
  match text.takeWhile notColon, text.dropWhile notColon with
  | address, ':' :: ':' :: rest =>
      match rest.takeWhile notColon, rest.dropWhile notColon with
      | module, ':' :: ':' :: name =>
          if isAddressText (String.ofList address) && isIdentifier module && isIdentifier name then
            some (String.ofList address, String.ofList module, String.ofList name)
          else none
      | _, _ => none
  | _, _ => none

def canonical_function (value : Json ν) (label : String) : Except String String := do
  let text ← require_string value label
  match functionGroups text.toList with
  | none => .error (label ++ " is not a fully-qualified entry function")
  | some (address, module, name) =>
      let address ← canonical_address (.string address : Json ν) (label ++ ".address")
      pure (address ++ "::" ++ module ++ "::" ++ name)

def role_map (value : Json ν) (label : String) : Except String RoleMap := do
  require_exact_keys value RELEASE_ROLE_KEYS label
  let core_publisher ←
    canonical_address (member value "core_publisher") (label ++ ".core_publisher")
  let assets_publisher ←
    canonical_address (member value "assets_publisher") (label ++ ".assets_publisher")
  let amm_publisher ← canonical_address (member value "amm_publisher") (label ++ ".amm_publisher")
  let bootstrap_lp ← canonical_address (member value "bootstrap_lp") (label ++ ".bootstrap_lp")
  let roles : RoleMap := { core_publisher, assets_publisher, amm_publisher, bootstrap_lp }
  throwIf (¬ roles.values.Nodup) (label ++ " addresses must all be distinct")
  pure roles

/-- The texts of an array of them. -/
def stringArray : List (Json ν) → Option (List String)
  | [] => some []
  | .string text :: rest => (stringArray rest).map (text :: ·)
  | _ :: _ => none

/-- A payload's type arguments are texts by then, and its arguments any values. -/
def transaction_semantics (transaction : Json ν) : Except String (TransactionEvidence ν) := do
  require_exact_keys transaction
    ["sender", "secondary_signers", "sequence_number", "expiration_timestamp_secs",
      "max_gas_amount", "gas_unit_price", "payload"] "transaction"
  let sender ← canonical_address (member transaction "sender") "transaction.sender"
  match items (member transaction "secondary_signers") with
  | none => .error "transaction.secondary_signers must be an ordered array"
  | some secondary =>
      let secondary_signers ← secondary.zipIdx.mapM fun (value, index) =>
        canonical_address value ("transaction.secondary_signers[" ++ toString index ++ "]")
      throwIf (¬ secondary_signers.Nodup) "transaction.secondary_signers must be distinct"
      throwIf (sender ∈ secondary_signers) "transaction sender cannot also be a secondary signer"
      let payload := member transaction "payload"
      require_exact_keys payload ["type", "function", "type_arguments", "arguments"]
        "transaction.payload"
      throwIf (isText (member payload "type") "entry_function_payload" = false)
        "transaction.payload.type must be entry_function_payload"
      let function ← canonical_function (member payload "function") "transaction.payload.function"
      match (items (member payload "type_arguments")).bind stringArray with
      | none => .error "transaction.payload.type_arguments must be a string array"
      | some type_arguments =>
          match items (member payload "arguments") with
          | none => .error "transaction.payload.arguments must be an array"
          | some arguments =>
              let sequence_number ← require_decimal (member transaction "sequence_number")
                "transaction.sequence_number" false
              let expiration_timestamp_secs ←
                require_decimal (member transaction "expiration_timestamp_secs")
                  "transaction.expiration_timestamp_secs" true
              let max_gas_amount ← require_decimal (member transaction "max_gas_amount")
                "transaction.max_gas_amount" true
              let gas_unit_price ← require_decimal (member transaction "gas_unit_price")
                "transaction.gas_unit_price" true
              pure
                { sender, secondary_signers, sequence_number, expiration_timestamp_secs
                  max_gas_amount, gas_unit_price
                  payload :=
                    ⟨"entry_function_payload", function, type_arguments, arguments⟩ }

variable [NumberText ν]

def transaction_semantics_digest (sha256 : List Char → String) (transaction : Json ν) :
    Except String String := do
  let semantics ← transaction_semantics transaction
  pure (sha256 (canonical_json_text semantics.json))

/-- `==` between a list of values and one of texts. -/
def equalTexts (values : List (Json ν)) (expected : List String) : Bool :=
  stringArray values = some expected

def expected_operation (candidate : Json ν) (roles : RoleMap) (tx : TransactionEvidence ν) :
    Except String Unit := do
  let operation := member candidate "operation_key"
  let kind := member candidate "transaction_kind"
  let function := tx.payload.function
  let arguments := tx.payload.arguments
  let label := match operation with | .string text => text | _ => ""
  throwIf (tx.payload.type_arguments ≠ []) (label ++ " must have no type arguments")
  let publish (sender_role : ReleaseRoleKey) (role : String) : Except String Unit := do
    throwIf (isText kind "package_publish" = false)
      (label ++ " must use transaction_kind package_publish")
    throwIf (tx.sender ≠ roles.role sender_role) (label ++ " sender must be " ++ role)
    throwIf (tx.secondary_signers ≠ []) (label ++ " cannot have secondary signers")
    throwIf (function ≠ "0x1::code::publish_package_txn")
      (label ++ " must call 0x1::code::publish_package_txn")
    throwIf (arguments.length ≠ 2)
      (label ++ " must carry metadata and ordered module byte arrays")
  let expected (expected_kind sender : String) (secondary : List String)
      (expected_function : String) (expected_arguments : List String) : Except String Unit := do
    throwIf (isText kind expected_kind = false) (label ++ " has the wrong transaction_kind")
    throwIf (¬ (tx.sender = sender ∧ tx.secondary_signers = secondary))
      (label ++ " signer order mismatch")
    throwIf (¬ (function = expected_function ∧ equalTexts arguments expected_arguments))
      (label ++ " function or argument mismatch")
  if isText operation "core_publish" then publish .core_publisher "core_publisher"
  else if isText operation "assets_publish" then publish .assets_publisher "assets_publisher"
  else if isText operation "amm_publish" then publish .amm_publisher "amm_publisher"
  else if isText operation "core_initialize" then
    expected "core_initialize" roles.core_publisher []
      (roles.core_publisher ++ "::reflection_token::initialize") ["100"]
  else if isText operation "pool_launch" then
    expected "pool_launch" roles.core_publisher
      [roles.assets_publisher, roles.amm_publisher, roles.bootstrap_lp]
      (roles.amm_publisher ++ "::pool::launch") []
  else .error ("unsupported fail-closed operation_key: " ++ label)

/-- The checks of `validate_candidate` on the digest and on the operation. -/
def operationChecks (sha256 : List Char → String) (candidate : Json ν) : Except String Unit := do
  let roles ← role_map (member candidate "roles") "roles"
  let tx ← transaction_semantics (member candidate "transaction")
  let semantics_sha ← transaction_semantics_digest sha256 tx.json
  throwIf (isText (member candidate "transaction_semantics_sha256") semantics_sha = false)
    "transaction_semantics_sha256 does not bind the complete normalized transaction"
  expected_operation candidate roles tx

end Values

end release_evidence

end CedraReflect.release
