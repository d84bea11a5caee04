/-
What the release gates make of an assembled candidate.

The evidence gate accepts every candidate the assembler writes. The validator of
the bytes accepts none: the file has the payload's keys in order of their names,
the decoded payload has them in the order of the source, and their texts are
compared as they are. What the validator does accept is what the bytes encode,
since no two values have one text.
-/
import CedraReflect.ReleaseEvidence

set_option autoImplicit false

namespace CedraReflect.release

open indexer (bind_eq_ok ok_bind throwIf throwIf_eq_ok pure_eq_ok)
open Json (Plain)

variable {ν : Type}

/-! ## The validator of the bytes -/

namespace validate_release_transaction_bcs

variable {sdk : Bcs}

/-- Argument bytes with the values they encode. -/
inductive Encodes (sdk : Bcs) : List (Option (List UInt8)) → List (Json ν) → Prop where
  | none : Encodes sdk [] []
  | publish (metadata : List UInt8) (modules : List (List UInt8)) :
      Encodes sdk
        [some (sdk.serializeBytes metadata),
          some (sdk.serializeU32AsUleb128 modules.length ++ modules.flatMap sdk.serializeBytes)]
        [.string (hexFromBytes metadata), texts (modules.map hexFromBytes)]
  | seed (reflection usd minimum : ℕ) :
      Encodes sdk
        [some (sdk.serializeU64 reflection), some (sdk.serializeU64 usd),
          some (sdk.serializeU128 minimum)]
        [.string (toString reflection), .string (toString usd), .string (toString minimum)]

theorem reads_eq_ok {α : Type} {result : Option α} {value : α} (h : reads result = .ok value) :
    result = some value := by
  cases result with
  | none => cases h
  | some read =>
      cases h
      rfl

theorem entryArgumentBytes_eq_ok {argument : Option (List UInt8)} {bytes : List UInt8}
    (h : entryArgumentBytes argument = .ok bytes) : argument = some bytes := by
  cases argument with
  | none => cases h
  | some read =>
      cases h
      rfl

theorem decodeVectorU8_eq_ok (hsdk : sdk.Inverse) {bytes : List UInt8} {label hex : String}
    (h : decodeVectorU8 sdk bytes label = .ok hex) :
    ∃ value, bytes = sdk.serializeBytes value ∧ hex = hexFromBytes value := by
  simp only [decodeVectorU8, assertFinished, bind_eq_ok, exists_const, throwIf_eq_ok, pure_eq_ok,
    not_not] at h
  obtain ⟨⟨value, rest⟩, hread, rfl, -, rfl⟩ := h
  have hbytes := hsdk.bytes bytes value [] (reads_eq_ok hread)
  rw [List.append_nil] at hbytes
  exact ⟨value, hbytes, rfl⟩

/-- The loop reads `count` modules one after another. -/
theorem decodeModules_eq_ok (hsdk : sdk.Inverse) {count index : ℕ} {bytes rest : List UInt8}
    {hexes : List String} (h : decodeModules sdk index count bytes = .ok (hexes, rest)) :
    ∃ modules : List (List UInt8), modules.length = count
      ∧ bytes = modules.flatMap sdk.serializeBytes ++ rest ∧ hexes = modules.map hexFromBytes := by
  induction count generalizing index bytes hexes with
  | zero =>
      cases h
      exact ⟨[], rfl, rfl, rfl⟩
  | succ count ih =>
      simp only [decodeModules, bind_eq_ok, exists_const, throwIf_eq_ok, pure_eq_ok] at h
      obtain ⟨⟨module, after⟩, hread, -, ⟨others, left⟩, hloop, heq⟩ := h
      obtain ⟨rfl, rfl⟩ := Prod.mk.inj heq
      obtain ⟨modules, hlength, hafter, rfl⟩ := ih hloop
      have hbytes := hsdk.bytes bytes module after (reads_eq_ok hread)
      refine ⟨module :: modules, by rw [List.length_cons, hlength], ?_, rfl⟩
      rw [hbytes, List.flatMap_cons, List.append_assoc]
      exact congrArg _ hafter

theorem decodeVectorVectorU8_eq_ok (hsdk : sdk.Inverse) {bytes : List UInt8} {hexes : List String}
    (h : decodeVectorVectorU8 sdk bytes = .ok hexes) :
    ∃ modules : List (List UInt8), bytes
        = sdk.serializeU32AsUleb128 modules.length ++ modules.flatMap sdk.serializeBytes
      ∧ hexes = modules.map hexFromBytes := by
  simp only [decodeVectorVectorU8, assertFinished, bind_eq_ok, exists_const, throwIf_eq_ok,
    pure_eq_ok, not_not] at h
  obtain ⟨⟨count, after⟩, hcount, -, ⟨read, rest⟩, hloop, rfl, rfl⟩ := h
  obtain ⟨modules, hlength, hafter, heq⟩ := decodeModules_eq_ok hsdk hloop
  have hbytes := hsdk.uleb128 bytes count after (reads_eq_ok hcount)
  rw [List.append_nil] at hafter
  dsimp only at hlength hafter
  refine ⟨modules, ?_, heq⟩
  rw [hbytes, hlength, hafter]

/-- An integer of either width is read from what its writer writes. -/
theorem decodeInteger_eq_ok (hsdk : sdk.Inverse) {bytes : List UInt8} {label text : String} :
    (decodeInteger sdk bytes 64 label = .ok text →
      ∃ value, bytes = sdk.serializeU64 value ∧ text = toString value)
    ∧ (decodeInteger sdk bytes 128 label = .ok text →
      ∃ value, bytes = sdk.serializeU128 value ∧ text = toString value) := by
  constructor
  · intro h
    rw [decodeInteger, if_pos rfl] at h
    simp only [assertFinished, bind_eq_ok, exists_const, throwIf_eq_ok, pure_eq_ok, not_not] at h
    obtain ⟨⟨value, rest⟩, hread, rfl, -, rfl⟩ := h
    have hbytes := hsdk.u64 bytes value [] (reads_eq_ok hread)
    rw [List.append_nil] at hbytes
    exact ⟨value, hbytes, rfl⟩
  · intro h
    rw [decodeInteger, if_neg (by decide), if_pos rfl] at h
    simp only [assertFinished, bind_eq_ok, exists_const, throwIf_eq_ok, pure_eq_ok, not_not] at h
    obtain ⟨⟨value, rest⟩, hread, rfl, -, rfl⟩ := h
    have hbytes := hsdk.u128 bytes value [] (reads_eq_ok hread)
    rw [List.append_nil] at hbytes
    exact ⟨value, hbytes, rfl⟩

/-- **Decoded arguments are what the argument bytes encode.** -/
theorem decodeArguments_eq_ok (hsdk : sdk.Inverse) {entry : EntryFunction}
    {operationKey : Option String} {arguments : List (Json ν)}
    (h : decodeArguments sdk entry operationKey = .ok arguments) :
    Encodes sdk entry.args arguments := by
  -- The operation and the number of arguments decide how each argument is decoded.
  unfold decodeArguments at h
  split at h
  · split at h
    · next metadata modules hargs =>
        simp only [bind_eq_ok, pure_eq_ok] at h
        obtain ⟨metadataBytes, hmetadata, metadataHex, hhex, moduleBytes, hmodules, moduleHex,
          hhexes, rfl⟩ := h
        obtain ⟨value, rfl, rfl⟩ := decodeVectorU8_eq_ok hsdk hhex
        obtain ⟨values, rfl, rfl⟩ := decodeVectorVectorU8_eq_ok hsdk hhexes
        rw [hargs, entryArgumentBytes_eq_ok hmetadata, entryArgumentBytes_eq_ok hmodules]
        exact .publish value values
    · cases h
  · split at h
    · split at h
      · next reflection usd minimum hargs =>
          simp only [bind_eq_ok, pure_eq_ok] at h
          obtain ⟨reflectionBytes, hreflection, reflectionText, hreflectionText, usdBytes, husd,
            usdText, husdText, minimumBytes, hminimum, minimumText, hminimumText, rfl⟩ := h
          obtain ⟨reflectionValue, rfl, rfl⟩ := (decodeInteger_eq_ok hsdk).1 hreflectionText
          obtain ⟨usdValue, rfl, rfl⟩ := (decodeInteger_eq_ok hsdk).1 husdText
          obtain ⟨minimumValue, rfl, rfl⟩ := (decodeInteger_eq_ok hsdk).2 hminimumText
          rw [hargs, entryArgumentBytes_eq_ok hreflection, entryArgumentBytes_eq_ok husd,
            entryArgumentBytes_eq_ok hminimum]
          exact .seed reflectionValue usdValue minimumValue
      · cases h
    · simp only [bind_eq_ok, exists_const, throwIf_eq_ok, pure_eq_ok, not_not] at h
      obtain ⟨hargs, rfl⟩ := h
      rw [hargs]
      exact .none

/-- A decoded payload by its entry function. -/
theorem decodePayload_eq_ok (hsdk : sdk.Inverse) {raw : RawTransaction}
    {operationKey : Option String} {decoded : Json ν}
    (h : decodePayload sdk raw operationKey = .ok decoded) :
    ∃ entry address arguments, raw.entryFunction = some entry
      ∧ canonicalAddress entry.address = .ok address ∧ Encodes sdk entry.args arguments
      ∧ decoded = .object
        [("type", .string "entry_function_payload"),
          ("function",
            .string (address ++ "::" ++ entry.module_name ++ "::" ++ entry.function_name)),
          ("type_arguments", texts entry.type_args), ("arguments", .array arguments)] := by
  unfold decodePayload at h
  split at h
  · cases h
  · next entry hentry =>
      simp only [bind_eq_ok, pure_eq_ok] at h
      obtain ⟨address, haddress, arguments, harguments, rfl⟩ := h
      exact ⟨entry, address, arguments, hentry, haddress,
        decodeArguments_eq_ok hsdk harguments, rfl⟩

section Checks

variable [NumberText ν] {candidate : Json ν} {raw : RawTransaction}

/-- What passes the last check is the decoded payload, names in its order and all. -/
theorem payloadChecks_eq_ok (h : payloadChecks sdk candidate raw = .ok ()) :
    decodePayload sdk raw (textOf (member candidate "operation_key"))
      = .ok (member (member candidate "transaction") "payload") := by
  simp only [payloadChecks, bind_eq_ok, exists_const, throwIf_eq_ok, not_not] at h
  obtain ⟨decoded, hdecoded, -, hsame⟩ := h
  rw [hdecoded, Json.print_injective hsame]

/-- **No payload that names its arguments first passes**, whatever the bytes are. -/
theorem payloadChecks_ne_ok {arguments : Json ν} {members : List (String × Json ν)}
    (h : member (member candidate "transaction") "payload"
      = .object (("arguments", arguments) :: members)) :
    payloadChecks sdk candidate raw ≠ .ok () := by
  intro hok
  have hdecoded := payloadChecks_eq_ok hok
  rw [h] at hdecoded
  unfold decodePayload at hdecoded
  split at hdecoded
  · cases hdecoded
  · simp only [bind_eq_ok, pure_eq_ok] at hdecoded
    obtain ⟨_, -, _, -, heq⟩ := hdecoded
    -- The decoded payload names its type first.
    have hfirst : "arguments" = "type" :=
      (Prod.mk.inj (List.cons.inj (Json.object.inj heq)).1).1
    exact absurd hfirst (by decide)

end Checks

end validate_release_transaction_bcs

/-! ## Both gates -/

/-- A `core_initialize` with an argument, which the assembled one has, is not decoded. -/
theorem decodePayload_ne_ok {sdk : Bcs} {raw : RawTransaction} {entry : EntryFunction}
    (hentry : raw.entryFunction = some entry) (hargs : entry.args ≠ []) (decoded : Json ν) :
    validate_release_transaction_bcs.decodePayload sdk raw (some "core_initialize")
      ≠ .ok decoded := by
  intro h
  simp only [validate_release_transaction_bcs.decodePayload, hentry, bind_eq_ok, pure_eq_ok] at h
  obtain ⟨_, -, arguments, harguments, -⟩ := h
  rw [validate_release_transaction_bcs.decodeArguments, if_neg (by decide), if_neg (by decide)]
    at harguments
  simp only [bind_eq_ok, exists_const, throwIf_eq_ok] at harguments
  exact harguments.1 hargs

/-- The payload that is read of a candidate's file. -/
theorem candidate_payload [NatCast ν] {built : BuiltReleaseCandidate ν}
    (h : ∀ value ∈ built.transactionEvidence.payload.arguments, Shown value)
    (simulation : SimulationEvidence) :
    member (member (canonical (built.candidate simulation)) "transaction") "payload"
      = canonical built.transactionEvidence.payload.json := by
  have htransaction : Plain arrayIndex built.transactionEvidence.json := TransactionEvidence.plain h
  rw [member_canonical (BuiltReleaseCandidate.plain h simulation)]
  exact member_canonical htransaction "payload"

/-- **The release gates on an assembled candidate.** Its file passes the evidence gate,
digest and operation, and passes the payload checks of the validator with no bytes at all;
what passes them is what its bytes encode. -/
theorem release_gates [NatCast ν] [NumberText ν] (sha256 : List Char → String)
    {context : ValidatedAssemblyContext} {payloadFile : PackageKey → Json ν}
    {identity : ReleaseTransactionIdentity} {built : BuiltReleaseCandidate ν}
    (hvalidated : context.Validated ν)
    (hbuilt : buildReleaseCandidate sha256 context payloadFile identity = .ok built)
    (simulation : SimulationEvidence) :
    (∃ candidate : Json ν, parse (candidateBundleText (built.candidate simulation)) = some candidate
      ∧ release_evidence.load_json (candidateBundleText (built.candidate simulation))
        = some candidate
      ∧ release_evidence.operationChecks sha256 candidate = .ok ()
      ∧ ∀ sdk raw, validate_release_transaction_bcs.payloadChecks sdk candidate raw ≠ .ok ())
    ∧ ∀ sdk : Bcs, sdk.Inverse → ∀ (candidate : Json ν) (raw : RawTransaction),
      validate_release_transaction_bcs.payloadChecks sdk candidate raw = .ok () →
      ∃ entry address arguments, raw.entryFunction = some entry
        ∧ validate_release_transaction_bcs.canonicalAddress entry.address = .ok address
        ∧ validate_release_transaction_bcs.Encodes sdk entry.args arguments
        ∧ member (member candidate "transaction") "payload" = .object
          [("type", .string "entry_function_payload"),
            ("function",
              .string (address ++ "::" ++ entry.module_name ++ "::" ++ entry.function_name)),
            ("type_arguments", texts entry.type_args), ("arguments", .array arguments)] := by
  obtain ⟨shape, hshape, -, -, -, htransaction⟩ :=
    release_evidence.buildReleaseCandidate_eq_ok hbuilt
  -- The arguments are texts and lists of texts, which sorting leaves.
  have hshown : ∀ value ∈ built.transactionEvidence.payload.arguments, Shown value := by
    rw [htransaction]
    exact hshape.shown
  have hplain : Plain arrayIndex (built.candidate simulation) :=
    BuiltReleaseCandidate.plain hshown simulation
  refine ⟨⟨canonical (built.candidate simulation), parse_canonicalJsonText hplain,
    load_canonicalJsonText hplain,
    release_evidence.operationChecks_eq_ok hvalidated hbuilt simulation, ?_⟩, ?_⟩
  · intro sdk raw
    apply validate_release_transaction_bcs.payloadChecks_ne_ok
    exact (candidate_payload hshown simulation).trans (release_evidence.canonical_payload hshown)
  · intro sdk hsdk candidate raw hok
    exact validate_release_transaction_bcs.decodePayload_eq_ok hsdk
      (validate_release_transaction_bcs.payloadChecks_eq_ok hok)

/-! ## A launch -/

def launchRoles : RoleMap := ⟨"0xa", "0xb", "0xc", "0xd"⟩

/-- The launch of the pool of four one-digit publishers. -/
def launchContext : ValidatedAssemblyContext where
  exactAddressArtifactsSha256 := ""
  applicationCommit := ""
  buildEnvironment := ⟨"", "", "", "", "", "", "", "", "", "", 1, "", "", "", ""⟩
  roles := launchRoles
  profileEvidenceSha256 := ""
  publicRoleCandidateSha256 := ""
  profileBindings := fun _ => ⟨"", "", ""⟩
  packages := fun _ => ⟨"publish-payload.json", "", ""⟩
  deployment_id := "testnet-v2"
  operation_key := .poolLaunch
  transaction_controls := ⟨"0", "1", "1", "1"⟩
  gas_budget := ⟨"1", "1", "1"⟩

def launchIdentity : ReleaseTransactionIdentity :=
  ⟨"multi-agent", "0xa", ["0xb", "0xc", "0xd"], none, "0", "1", "1", "1", 2, CEDRA_COIN, "", "", "",
    "", "", ""⟩

/-- The entry function that the SDK makes of the launch, its address in all its digits. -/
def launchTransaction : RawTransaction :=
  ⟨some ⟨"0x000000000000000000000000000000000000000000000000000000000000000c", "pool", "launch", [],
    []⟩⟩

theorem launch_validated : launchContext.Validated ℕ where
  roles := ⟨launchRoles.json, rfl⟩
  controls := ⟨.object [("sequence_number", .string "0"), ("max_gas_amount", .string "1"),
    ("gas_unit_price", .string "1"), ("expiration_timestamp_secs", .string "1")], rfl⟩

def launchSimulation : SimulationEvidence := ⟨"2026-01-01T00:00:00Z", "Executed successfully", "1", ""⟩

theorem launch_built : ∃ built : BuiltReleaseCandidate ℕ,
    buildReleaseCandidate (fun _ => "") launchContext (fun _ => .null) launchIdentity
      = .ok built := ⟨_, rfl⟩

/-- **The launch as it was built is refused**, with its own transaction. -/
theorem launch_refused : launchContext.Validated ℕ ∧ ∃ built : BuiltReleaseCandidate ℕ,
    buildReleaseCandidate (fun _ => "") launchContext (fun _ => .null) launchIdentity = .ok built
    ∧ ∃ candidate : Json ℕ,
      parse (candidateBundleText (built.candidate launchSimulation)) = some candidate
      ∧ release_evidence.operationChecks (fun _ => "") candidate = .ok ()
      ∧ ∀ sdk, validate_release_transaction_bcs.payloadChecks sdk candidate launchTransaction
        = .error "raw BCS type arguments or exact payload argument bytes mismatch" := by
  obtain ⟨built, hbuilt⟩ := launch_built
  have hevidence : built.transactionEvidence.payload
      = ⟨"entry_function_payload", "0xc::pool::launch", [], []⟩ := by
    cases hbuilt
    rfl
  have hoperation : member (built.candidate launchSimulation) "operation_key"
      = .string "pool_launch" := by
    cases hbuilt
    rfl
  have hshown : ∀ value ∈ built.transactionEvidence.payload.arguments, Shown value := by
    rw [hevidence]
    nofun
  have hplain : Plain arrayIndex (built.candidate launchSimulation) :=
    BuiltReleaseCandidate.plain hshown launchSimulation
  refine ⟨launch_validated, built, hbuilt, canonical (built.candidate launchSimulation),
    parse_canonicalJsonText hplain,
    release_evidence.operationChecks_eq_ok launch_validated hbuilt launchSimulation, ?_⟩
  intro sdk
  have hkey : member (canonical (built.candidate launchSimulation)) "operation_key"
      = .string "pool_launch" := by
    rw [member_canonical hplain, hoperation, canonical_string]
  have hpayload := (candidate_payload hshown launchSimulation).trans
    (release_evidence.canonical_payload hshown)
  rw [hevidence] at hpayload
  -- The decoder writes the payload in another order of names than the sorted file has.
  have hdiffers : ¬ validate_release_transaction_bcs.sameJson (.object
      [("type", .string "entry_function_payload"), ("function", .string "0xc::pool::launch"),
        ("type_arguments", texts []), ("arguments", .array [])] : Json ℕ)
      (.object [("arguments", .array []), ("function", .string "0xc::pool::launch"),
        ("type", .string "entry_function_payload"), ("type_arguments", texts [])]) := by
    decide
  have hdecoded : validate_release_transaction_bcs.decodePayload sdk launchTransaction
      (validate_release_transaction_bcs.textOf (.string "pool_launch" : Json ℕ))
      = .ok (.object
        [("type", .string "entry_function_payload"), ("function", .string "0xc::pool::launch"),
          ("type_arguments", texts []), ("arguments", .array [])] : Json ℕ) := rfl
  rw [validate_release_transaction_bcs.payloadChecks, hkey, hpayload]
  simp only [hdecoded, ok_bind]
  rw [throwIf, if_neg (by decide), ok_bind, throwIf, if_pos hdiffers]

/-! ## A publication -/

/-- The format where a number or a length takes one byte. -/
def shortBcs : Bcs where
  serializeBytes value := UInt8.ofNat value.length :: value
  serializeU32AsUleb128 value := [UInt8.ofNat value]
  serializeU64 value := UInt8.ofNat value :: List.replicate 7 0
  serializeU128 value := UInt8.ofNat value :: List.replicate 15 0
  deserializeBytes
    | n :: rest =>
        if n.toNat < 128 ∧ n.toNat ≤ rest.length then some (rest.take n.toNat, rest.drop n.toNat)
        else none
    | [] => none
  deserializeUleb128AsU32
    | n :: rest => if n.toNat < 128 then some (n.toNat, rest) else none
    | [] => none
  deserializeU64
    | n :: rest => if rest.take 7 = List.replicate 7 0 then some (n.toNat, rest.drop 7) else none
    | [] => none
  deserializeU128
    | n :: rest => if rest.take 15 = List.replicate 15 0 then some (n.toNat, rest.drop 15) else none
    | [] => none

theorem shortBcs_inverse : shortBcs.Inverse where
  bytes data value rest h := by
    cases data with
    | nil => cases h
    | cons n data =>
        simp only [shortBcs, Option.ite_none_right_eq_some, Option.some.injEq, Prod.mk.injEq] at h
        obtain ⟨⟨-, hlength⟩, rfl, rfl⟩ := h
        show n :: data = UInt8.ofNat (data.take n.toNat).length :: data.take n.toNat
          ++ data.drop n.toNat
        rw [List.length_take_of_le hlength, UInt8.ofNat_toNat, List.cons_append,
          List.take_append_drop]
  uleb128 data value rest h := by
    cases data with
    | nil => cases h
    | cons n data =>
        simp only [shortBcs, Option.ite_none_right_eq_some, Option.some.injEq, Prod.mk.injEq] at h
        obtain ⟨-, rfl, rfl⟩ := h
        simp [shortBcs]
  u64 data value rest h := by
    cases data with
    | nil => cases h
    | cons n data =>
        simp only [shortBcs, Option.ite_none_right_eq_some, Option.some.injEq, Prod.mk.injEq] at h
        obtain ⟨hzeros, rfl, rfl⟩ := h
        show n :: data = UInt8.ofNat n.toNat :: List.replicate 7 0 ++ data.drop 7
        rw [← hzeros, UInt8.ofNat_toNat, List.cons_append, List.take_append_drop]
  u128 data value rest h := by
    cases data with
    | nil => cases h
    | cons n data =>
        simp only [shortBcs, Option.ite_none_right_eq_some, Option.some.injEq, Prod.mk.injEq] at h
        obtain ⟨hzeros, rfl, rfl⟩ := h
        show n :: data = UInt8.ofNat n.toNat :: List.replicate 15 0 ++ data.drop 15
        rw [← hzeros, UInt8.ofNat_toNat, List.cons_append, List.take_append_drop]

/-- A candidate with the keys of its payload in the order in which they are decoded. -/
def publication : Json ℕ :=
  .object
    [("operation_key", .string "assets_publish"),
      ("transaction", .object
        [("payload", .object
          [("type", .string "entry_function_payload"),
            ("function", .string "0x1::code::publish_package_txn"),
            ("type_arguments", texts []),
            ("arguments", .array [.string "0x0102", texts ["0x03"]])])])]

/-- Two bytes of metadata and a module of one byte. -/
def publicationTransaction : RawTransaction :=
  ⟨some ⟨"0x1", "code", "publish_package_txn", [], [some [2, 1, 2], some [1, 1, 3]]⟩⟩

theorem publication_accepted :
    validate_release_transaction_bcs.payloadChecks shortBcs publication publicationTransaction
      = .ok () := by
  have hdecoded : validate_release_transaction_bcs.decodePayload shortBcs publicationTransaction
      (validate_release_transaction_bcs.textOf (member publication "operation_key"))
      = .ok (member (member publication "transaction") "payload") := rfl
  simp only [validate_release_transaction_bcs.payloadChecks, hdecoded, ok_bind]
  rw [throwIf, if_neg (by decide), ok_bind]
  exact if_neg (not_not.mpr rfl)

/-- The launch passes the evidence gate, and no bytes make it pass the validator; the
publication passes the validator, and is what its bytes encode. -/
theorem release_gates_launch : (∃ built : BuiltReleaseCandidate ℕ,
    buildReleaseCandidate (fun _ => "") launchContext (fun _ => .null) launchIdentity = .ok built
    ∧ ∃ candidate : Json ℕ,
      parse (candidateBundleText (built.candidate launchSimulation)) = some candidate
      ∧ release_evidence.load_json (candidateBundleText (built.candidate launchSimulation))
        = some candidate
      ∧ release_evidence.operationChecks (fun _ => "") candidate = .ok ()
      ∧ ∀ sdk raw, validate_release_transaction_bcs.payloadChecks sdk candidate raw ≠ .ok ())
    ∧ ∃ entry address arguments, publicationTransaction.entryFunction = some entry
      ∧ validate_release_transaction_bcs.canonicalAddress entry.address = .ok address
      ∧ validate_release_transaction_bcs.Encodes shortBcs entry.args arguments
      ∧ member (member publication "transaction") "payload" = .object
        [("type", .string "entry_function_payload"),
          ("function",
            .string (address ++ "::" ++ entry.module_name ++ "::" ++ entry.function_name)),
          ("type_arguments", texts entry.type_args), ("arguments", .array arguments)] := by
  obtain ⟨built, hbuilt⟩ := launch_built
  obtain ⟨hgates, hencoded⟩ := release_gates (fun _ => "") launch_validated hbuilt launchSimulation
  exact ⟨⟨built, hbuilt, hgates⟩,
    hencoded shortBcs shortBcs_inverse publication publicationTransaction publication_accepted⟩

end CedraReflect.release
