/-
The evidence gate on an assembled candidate.

The assembler has normalised the addresses and checked the decimals of its
context, so normalising the transaction of a candidate leaves it as it is, and the
digest the gate computes is the one the assembler wrote. Each operation has the
shape the gate expects of it.
-/
import CedraReflect.ReleaseCandidate

set_option autoImplicit false

namespace CedraReflect.release

open indexer (bind_eq_ok ok_bind throwIf throwIf_eq_ok pure_eq_ok)
open Json (Plain)

variable {ν : Type}

/-! ## Addresses and functions -/

/-- A text that normalising an address leaves as it is. -/
structure IsAddress (a : String) : Prop where
  shape : isAddressText a = true
  nonzero : addressDigits a ≠ ['0']
  normal : String.ofList ('0' :: 'x' :: addressDigits a) = a

theorem isHex_lower {c : Char} (h : isHex c = true) :
    isHex c.toLower = true ∧ c.toLower.toLower = c.toLower ∧ c.toLower ≠ ':' := by
  have hall : ∀ n < 128, isHex (Char.ofNat n) = true →
      isHex (Char.ofNat n).toLower = true
        ∧ (Char.ofNat n).toLower.toLower = (Char.ofNat n).toLower
        ∧ (Char.ofNat n).toLower ≠ ':' := by decide
  have hlt : c.toNat < 128 := by
    unfold isHex Char.isDigit at h
    simp only [Bool.or_eq_true, Bool.and_eq_true, decide_eq_true_eq] at h
    have hnat : c.val.toNat = c.toNat := rfl
    rcases h with (⟨-, h⟩ | h) | h
    · have := UInt32.le_iff_toNat_le.mp h
      simp at this
      omega
    · omega
    · omega
  have hc := hall c.toNat hlt
  rw [Char.ofNat_toNat] at hc
  exact hc h

theorem isAddressText_iff {text : String} :
    isAddressText text = true ↔ ∃ digits, text.toList = '0' :: 'x' :: digits ∧ digits ≠ []
      ∧ digits.length ≤ 64 ∧ ∀ c ∈ digits, isHex c = true := by
  unfold isAddressText
  constructor
  · intro h
    split at h
    · next digits heq =>
        simp only [Bool.and_eq_true, decide_eq_true_eq, List.all_eq_true] at h
        exact ⟨digits, heq, h.1.1, h.1.2, h.2⟩
    · cases h
  · rintro ⟨digits, heq, hne, hlength, hhex⟩
    rw [heq]
    simp only [Bool.and_eq_true, decide_eq_true_eq, List.all_eq_true]
    exact ⟨⟨hne, hlength⟩, hhex⟩

theorem addressDigits_of_toList {text : String} {digits : List Char}
    (h : text.toList = '0' :: 'x' :: digits) (hlower : ∀ c ∈ digits, c.toLower = c)
    (hne : digits ≠ []) (hhead : digits.head? ≠ some '0') : addressDigits text = digits := by
  have hmap : digits.map Char.toLower = digits := by
    conv_rhs => rw [← List.map_id digits]
    exact List.map_congr_left hlower
  obtain ⟨c, cs, rfl⟩ := List.exists_cons_of_ne_nil hne
  have hc : c ≠ '0' := fun heq => hhead (by rw [heq, List.head?_cons])
  unfold addressDigits
  rw [h]
  simp only [List.drop_succ_cons, List.drop_zero, hmap]
  rw [List.dropWhile_cons_of_neg (by simpa using hc)]

/-- What is normalised is normal. -/
theorem canonicalAddress_isAddress {value : Json ν} {label a : String}
    (h : canonicalAddress value label = .ok a) : IsAddress a := by
  simp only [canonicalAddress, bind_eq_ok, exists_const, throwIf_eq_ok, pure_eq_ok,
    Bool.not_eq_false] at h
  obtain ⟨text, -, hshape, hnonzero, rfl⟩ := h
  obtain ⟨digits, htext, hne, hlength, hhex⟩ := isAddressText_iff.mp hshape
  -- The digits that are left are lower case and start with another than zero.
  obtain ⟨left, hleft⟩ : ∃ left, left = (digits.map Char.toLower).dropWhile (· = '0') := ⟨_, rfl⟩
  have hcases : addressDigits text = if left = [] then ['0'] else left := by
    unfold addressDigits
    rw [htext]
    simp only [List.drop_succ_cons, List.drop_zero, ← hleft]
    cases left with
    | nil => rfl
    | cons c cs => rfl
  have hnil : left ≠ [] := by
    intro hnil
    rw [hcases, if_pos hnil] at hnonzero
    exact hnonzero rfl
  have hdigits : addressDigits text = left := by rw [hcases, if_neg hnil]
  have hsub : ∀ c ∈ left, ∃ d ∈ digits, d.toLower = c := by
    intro c hc
    rw [hleft] at hc
    exact List.mem_map.mp ((List.dropWhile_sublist _).subset hc)
  have hlower : ∀ c ∈ left, isHex c = true ∧ c.toLower = c := by
    intro c hc
    obtain ⟨d, hd, rfl⟩ := hsub c hc
    exact ⟨(isHex_lower (hhex d hd)).1, (isHex_lower (hhex d hd)).2.1⟩
  have hhead : left.head? ≠ some '0' := by
    intro hzero
    have := List.head?_dropWhile_not (fun c : Char => decide (c = '0')) (digits.map Char.toLower)
    rw [← hleft, hzero] at this
    simp at this
  have hlist : (String.ofList ('0' :: 'x' :: left)).toList = '0' :: 'x' :: left :=
    String.toList_ofList
  have hfix := addressDigits_of_toList hlist (fun c hc => (hlower c hc).2) hnil hhead
  have hshort : left.length ≤ 64 := by
    rw [hleft]
    have := (List.dropWhile_sublist (fun c : Char => decide (c = '0'))
      (l := digits.map Char.toLower)).length_le
    rw [List.length_map] at this
    omega
  rw [hdigits]
  refine ⟨isAddressText_iff.mpr ⟨left, hlist, hnil, hshort, fun c hc => (hlower c hc).1⟩, ?_, ?_⟩
  · rw [hfix, ← hdigits]
    exact hnonzero
  · rw [hfix]

namespace release_evidence

theorem canonical_address_eq_ok {a label : String} (h : IsAddress a) :
    canonical_address (.string a : Json ν) label = .ok a := by
  have hne : a ≠ "" := by
    intro heq
    have hshape := h.shape
    rw [heq] at hshape
    exact absurd hshape (by decide)
  simp only [canonical_address, require_string, if_neg hne, bind_eq_ok, exists_const, throwIf_eq_ok,
    pure_eq_ok, Bool.not_eq_false]
  exact ⟨a, rfl, h.shape, h.nonzero, h.normal.symm⟩

/-- Neither an address nor an identifier has a colon, so the groups of a function are told
apart. -/
theorem functionGroups_eq_some {a m f : String} (ha : isAddressText a = true)
    (hm : isIdentifier m.toList = true) (hf : isIdentifier f.toList = true) :
    functionGroups (a ++ "::" ++ m ++ "::" ++ f).toList = some (a, m, f) := by
  have hcolons : "::".toList = [':', ':'] := rfl
  have haddress : ∀ c ∈ a.toList, (fun c : Char => !decide (c = ':')) c = true := by
    obtain ⟨digits, heq, -, -, hhex⟩ := isAddressText_iff.mp ha
    intro c hc
    rw [heq, List.mem_cons, List.mem_cons] at hc
    rw [Bool.not_eq_true', decide_eq_false_iff_not]
    rintro rfl
    rcases hc with hc | hc | hc
    · exact absurd hc (by decide)
    · exact absurd hc (by decide)
    · exact absurd (hhex _ hc) (by decide)
  have hmodule : ∀ c ∈ m.toList, (fun c : Char => !decide (c = ':')) c = true := by
    intro c hc
    rw [Bool.not_eq_true', decide_eq_false_iff_not]
    rintro rfl
    unfold isIdentifier at hm
    split at hm
    · next first rest heq =>
        rw [heq, List.mem_cons] at hc
        rw [Bool.and_eq_true, List.all_eq_true] at hm
        rcases hc with rfl | hc
        · exact absurd hm.1 (by decide)
        · exact absurd (hm.2 _ hc) (by decide)
    · cases hm
  have htext : (a ++ "::" ++ m ++ "::" ++ f).toList
      = a.toList ++ ':' :: ':' :: (m.toList ++ ':' :: ':' :: f.toList) := by
    simp only [String.toList_append, hcolons, List.append_assoc, List.cons_append, List.nil_append]
  rw [htext]
  unfold functionGroups
  simp [List.takeWhile_append_of_pos haddress, List.dropWhile_append_of_pos haddress,
    List.takeWhile_append_of_pos hmodule, List.dropWhile_append_of_pos hmodule, ha, hm, hf]

/-- A function of a normal address, with identifiers for names. -/
def IsFunction (function : String) : Prop :=
  ∃ a m f, IsAddress a ∧ isIdentifier m.toList = true ∧ isIdentifier f.toList = true
    ∧ function = a ++ "::" ++ m ++ "::" ++ f

theorem canonical_function_eq_ok {function label : String} (h : IsFunction function) :
    canonical_function (.string function : Json ν) label = .ok function := by
  obtain ⟨a, m, f, ha, hm, hf, rfl⟩ := h
  have hne : a ++ "::" ++ m ++ "::" ++ f ≠ "" := by
    intro heq
    have hlength := congrArg String.length heq
    simp only [String.length_append] at hlength
    have : "::".length = 2 := rfl
    have : "".length = 0 := rfl
    omega
  have haddress : canonical_address (.string a : Json ν) (label ++ ".address") = .ok a :=
    canonical_address_eq_ok ha
  simp only [canonical_function, require_string, if_neg hne, ok_bind,
    functionGroups_eq_some ha.shape hm hf, haddress]
  rfl

theorem require_exact_keys_eq_ok {members : List (String × Json ν)} {keys : List String}
    (h : (members.map Prod.fst).Perm keys) (label : String) :
    require_exact_keys (.object members) keys label = .ok () := by
  have hmissing : keys.filter (fun key => !(members.map Prod.fst).contains key) = [] := by
    rw [List.filter_eq_nil_iff]
    intro key hkey
    simpa using h.mem_iff.mpr hkey
  have hunexpected : (members.map Prod.fst).filter (fun key => !keys.contains key) = [] := by
    rw [List.filter_eq_nil_iff]
    intro key hkey
    simpa using h.mem_iff.mp hkey
  simp only [require_exact_keys, throwIf_eq_ok, hmissing, hunexpected, ne_eq, not_true_eq_false,
    or_self, not_false_eq_true]

theorem require_decimal_eq_ok {text label : String} {positive : Bool} (h : isDecimal text = true)
    (hpositive : positive = true → decimalNumber text ≠ 0) :
    require_decimal (.string text : Json ν) label positive = .ok text := by
  have hne : text ≠ "" := by
    rintro rfl
    exact absurd h (by decide)
  simp only [require_decimal, require_string, if_neg hne, bind_eq_ok, exists_const, throwIf_eq_ok,
    pure_eq_ok, Bool.not_eq_false, not_and]
  exact ⟨text, rfl, h, hpositive, rfl⟩

theorem stringArray_texts (values : List String) :
    stringArray (values.map (.string : String → Json ν)) = some values := by
  induction values with
  | nil => rfl
  | cons value values ih => rw [List.map_cons, stringArray, ih, Option.map_some]

theorem addresses_eq_ok {addresses : List String} (h : ∀ a ∈ addresses, IsAddress a)
    (label : ℕ → String) (start : ℕ) :
    (((addresses.map (.string : String → Json ν)).zipIdx start).mapM fun (value, index) =>
      canonical_address value (label index)) = .ok addresses := by
  induction addresses generalizing start with
  | nil => rfl
  | cons a addresses ih =>
      have htail := ih (fun b hb => h b (List.mem_cons_of_mem a hb)) (start + 1)
      have hhead : canonical_address (.string a : Json ν) (label start) = .ok a :=
        canonical_address_eq_ok (h a List.mem_cons_self)
      simp only [List.map_cons, List.zipIdx_cons, List.mapM_cons, hhead, ok_bind, htail]
      rfl

/-- What normalising a transaction leaves as it is. -/
structure Normal (tx : TransactionEvidence ν) : Prop where
  sender : IsAddress tx.sender
  secondary_signers : ∀ a ∈ tx.secondary_signers, IsAddress a
  distinct : tx.secondary_signers.Nodup
  other : tx.sender ∉ tx.secondary_signers
  type : tx.payload.type = "entry_function_payload"
  function : IsFunction tx.payload.function
  sequence_number : isDecimal tx.sequence_number = true
  expiration : isDecimal tx.expiration_timestamp_secs = true
    ∧ decimalNumber tx.expiration_timestamp_secs ≠ 0
  max_gas_amount : isDecimal tx.max_gas_amount = true ∧ decimalNumber tx.max_gas_amount ≠ 0
  gas_unit_price : isDecimal tx.gas_unit_price = true ∧ decimalNumber tx.gas_unit_price ≠ 0

/-- A value with the members of a transaction, in any order. -/
structure Carries (value : Json ν) (tx : TransactionEvidence ν) : Prop where
  keys : ∃ members, value = .object members ∧ (members.map Prod.fst).Perm
    ["sender", "secondary_signers", "sequence_number", "expiration_timestamp_secs",
      "max_gas_amount", "gas_unit_price", "payload"]
  sender : member value "sender" = .string tx.sender
  secondary_signers : member value "secondary_signers" = texts tx.secondary_signers
  sequence_number : member value "sequence_number" = .string tx.sequence_number
  expiration :
    member value "expiration_timestamp_secs" = .string tx.expiration_timestamp_secs
  max_gas_amount : member value "max_gas_amount" = .string tx.max_gas_amount
  gas_unit_price : member value "gas_unit_price" = .string tx.gas_unit_price
  payload_keys : ∃ members, member value "payload" = .object members ∧ (members.map Prod.fst).Perm
    ["type", "function", "type_arguments", "arguments"]
  type : member (member value "payload") "type" = .string tx.payload.type
  function : member (member value "payload") "function" = .string tx.payload.function
  type_arguments :
    member (member value "payload") "type_arguments" = texts tx.payload.type_arguments
  arguments : member (member value "payload") "arguments" = .array tx.payload.arguments

/-- **A transaction is read back from a value that carries it.** -/
theorem transaction_semantics_eq_ok {value : Json ν} {tx : TransactionEvidence ν}
    (h : Carries value tx) (hnormal : Normal tx) : transaction_semantics value = .ok tx := by
  obtain ⟨members, rfl, hkeys⟩ := h.keys
  obtain ⟨payload_members, hpayload, hpayload_keys⟩ := h.payload_keys
  have hsecondary := addresses_eq_ok (ν := ν) hnormal.secondary_signers
    (fun index => "transaction.secondary_signers[" ++ toString index ++ "]") 0
  have htype : isText (.string tx.payload.type : Json ν) "entry_function_payload" = true := by
    rw [hnormal.type]
    rfl
  have hthrow : ∀ {p : Prop} [Decidable p] (message : String), ¬ p → throwIf p message = .ok () :=
    fun message hp => throwIf_eq_ok.mpr hp
  have hdistinct := hthrow (p := ¬ tx.secondary_signers.Nodup)
    "transaction.secondary_signers must be distinct" (not_not.mpr hnormal.distinct)
  have hother := hthrow (p := tx.sender ∈ tx.secondary_signers)
    "transaction sender cannot also be a secondary signer" hnormal.other
  have hpositive : ∀ {text : String}, isDecimal text = true ∧ decimalNumber text ≠ 0 →
      ∀ label, require_decimal (.string text : Json ν) label true = .ok text :=
    fun h label => require_decimal_eq_ok h.1 fun _ => h.2
  have hsequence : require_decimal (.string tx.sequence_number : Json ν)
      "transaction.sequence_number" false = .ok tx.sequence_number :=
    require_decimal_eq_ok hnormal.sequence_number nofun
  have hexact := require_exact_keys_eq_ok hkeys "transaction"
  have hexact_payload := require_exact_keys_eq_ok hpayload_keys "transaction.payload"
  rw [← hpayload] at hexact_payload
  simp only [transaction_semantics, hexact, hexact_payload, h.sender, h.secondary_signers, h.type,
    h.function, h.type_arguments, h.arguments, h.sequence_number, h.expiration, h.max_gas_amount,
    h.gas_unit_price, canonical_address_eq_ok hnormal.sender,
    canonical_function_eq_ok hnormal.function, hsequence, hpositive hnormal.expiration,
    hpositive hnormal.max_gas_amount, hpositive hnormal.gas_unit_price, ok_bind, items, texts,
    hsecondary, hdistinct, hother, htype, Option.bind_some, stringArray_texts]
  rw [hthrow _ (by decide), ok_bind, ← hnormal.type]
  rfl

theorem carries_json (tx : TransactionEvidence ν) : Carries tx.json tx where
  keys := ⟨_, rfl, .refl _⟩
  sender := rfl
  secondary_signers := rfl
  sequence_number := rfl
  expiration := rfl
  max_gas_amount := rfl
  gas_unit_price := rfl
  payload_keys := ⟨_, rfl, .refl _⟩
  type := rfl
  function := rfl
  type_arguments := rfl
  arguments := rfl

/-- A sorted transaction carries the same. -/
theorem carries_canonical {tx : TransactionEvidence ν}
    (h : ∀ value ∈ tx.payload.arguments, Shown value) : Carries (canonical tx.json) tx := by
  have hplain : Plain arrayIndex tx.json := TransactionEvidence.plain h
  have hpayload : Plain arrayIndex tx.payload.json := TransactionPayloadEvidence.plain h
  have hmember : member (canonical tx.json) "payload" = canonical tx.payload.json :=
    member_canonical hplain "payload"
  -- Sorting permutes the members of an object and keeps what each of them holds.
  have hkeys : ∀ members : List (String × Json ν), ∃ sorted,
      canonical (.object members) = .object sorted
        ∧ (sorted.map Prod.fst).Perm (members.map Prod.fst) := by
    intro members
    refine ⟨_, by rw [canonical, Json.mapObjects], ?_⟩
    have hkeys : (Json.mapMembers (Json.sortMembers textLe) members).map Prod.fst
        = members.map Prod.fst := Json.keys_mapMembers members
    rw [← hkeys]
    exact (Json.sortMembers_perm _).map Prod.fst
  have harguments : canonical (.array tx.payload.arguments) = .array tx.payload.arguments := by
    rw [canonical, Json.mapObjects, mapItems_shown h]
  exact {
    keys := hkeys _
    sender := by rw [member_canonical hplain]; exact canonical_string _
    secondary_signers := by rw [member_canonical hplain]; exact canonical_texts _
    sequence_number := by rw [member_canonical hplain]; exact canonical_string _
    expiration := by rw [member_canonical hplain]; exact canonical_string _
    max_gas_amount := by rw [member_canonical hplain]; exact canonical_string _
    gas_unit_price := by rw [member_canonical hplain]; exact canonical_string _
    payload_keys := by rw [hmember]; exact hkeys _
    type := by rw [hmember, member_canonical hpayload]; exact canonical_string _
    function := by rw [hmember, member_canonical hpayload]; exact canonical_string _
    type_arguments := by rw [hmember, member_canonical hpayload]; exact canonical_texts _
    arguments := by rw [hmember, member_canonical hpayload]; exact harguments }

/-- The payload of a candidate's file, whose names are in order. -/
theorem canonical_payload {payload : TransactionPayloadEvidence ν}
    (h : ∀ value ∈ payload.arguments, Shown value) :
    canonical payload.json = .object
      [("arguments", .array payload.arguments), ("function", .string payload.function),
        ("type", .string payload.type), ("type_arguments", texts payload.type_arguments)] := by
  simp only [canonical, TransactionPayloadEvidence.json, Json.mapObjects, Json.mapMembers, texts,
    mapItems_shown h, Json.mapItems_strings]
  simp +decide [Json.sortMembers, List.insertionSort_cons, List.orderedInsert]

/-- The two orders of names are one on the names of a transaction. -/
theorem canonical_json_text_eq [NumberText ν] {tx : TransactionEvidence ν}
    (h : ∀ value ∈ tx.payload.arguments, Shown value) :
    canonical_json_text tx.json = canonicalJsonText tx.json := by
  have hplain : Plain arrayIndex tx.json := TransactionEvidence.plain h
  have hsorted : tx.json.mapObjects (Json.sortMembers nameLe) = canonical tx.json := by
    simp only [canonical, TransactionEvidence.json, TransactionPayloadEvidence.json,
      Json.mapObjects, Json.mapMembers, texts, mapItems_shown h, Json.mapItems_strings]
    simp +decide [Json.sortMembers, List.insertionSort_cons, List.orderedInsert]
  rw [canonical_json_text, canonicalJsonText, sortedJsonValue_eq hplain, stringify, hsorted]

/-! ## What the assembler validates -/

theorem decimalValue_eq_ok {value : Json ν} {label text : String} {maximum : ℕ} {positive : Bool}
    (h : decimalValue value label maximum positive = .ok text) :
    isDecimal text = true ∧ (positive = true → decimalNumber text ≠ 0) := by
  simp only [decimalValue, bind_eq_ok, exists_const, throwIf_eq_ok, pure_eq_ok, not_or, not_and]
    at h
  obtain ⟨read, hread, ⟨hpositive, -⟩, rfl⟩ := h
  refine ⟨?_, hpositive⟩
  unfold stringValue at hread
  split at hread
  · split at hread
    · cases hread
    · next hvalid =>
        rw [not_or, Bool.not_eq_false] at hvalid
        cases hread
        exact hvalid.2
  · cases hread

/-- The roles of a context are distinct normal addresses. -/
theorem parseRoles_eq_ok {value : Json ν} {label : String} {roles : RoleMap}
    (h : parseRoles value label = .ok roles) :
    (∀ key, IsAddress (roles.role key)) ∧ roles.values.Nodup := by
  simp only [parseRoles, bind_eq_ok, exists_const, throwIf_eq_ok, pure_eq_ok, not_not] at h
  obtain ⟨_, -, core, hcore, assets, hassets, amm, hamm, lp, hlp, hdistinct, rfl⟩ := h
  refine ⟨?_, hdistinct⟩
  intro key
  cases key with
  | core_publisher => exact canonicalAddress_isAddress hcore
  | assets_publisher => exact canonicalAddress_isAddress hassets
  | amm_publisher => exact canonicalAddress_isAddress hamm
  | bootstrap_lp => exact canonicalAddress_isAddress hlp

theorem role_map_eq_ok {roles : RoleMap} (haddress : ∀ key, IsAddress (roles.role key))
    (hdistinct : roles.values.Nodup) (label : String) :
    role_map (canonical (roles.json : Json ν)) label = .ok roles := by
  have hplain : Plain arrayIndex (roles.json : Json ν) := RoleMap.plain roles
  have hmember : ∀ key : ReleaseRoleKey, ∀ name, member (roles.json : Json ν) name
      = .string (roles.role key) → ∀ label,
      canonical_address (member (canonical (roles.json : Json ν)) name) label
        = .ok (roles.role key) := by
    intro key name hname label
    rw [member_canonical hplain, hname, canonical_string]
    exact canonical_address_eq_ok (haddress key)
  have hkeys : require_exact_keys (canonical (roles.json : Json ν)) RELEASE_ROLE_KEYS label
      = .ok () := by
    rw [canonical, RoleMap.json, Json.mapObjects]
    refine require_exact_keys_eq_ok ?_ label
    refine ((Json.sortMembers_perm _).map Prod.fst).trans ?_
    rw [Json.keys_mapMembers]
    exact .refl _
  simp only [role_map, bind_eq_ok, exists_const, throwIf_eq_ok, pure_eq_ok, not_not]
  exact ⟨(), hkeys, _, hmember .core_publisher _ rfl _, _, hmember .assets_publisher _ rfl _, _,
    hmember .amm_publisher _ rfl _, _, hmember .bootstrap_lp _ rfl _, hdistinct, rfl⟩

/-! ## Acceptance -/

section Acceptance

variable [NumberText ν] {sha256 : List Char → String}
  {context : ValidatedAssemblyContext} {payloadFile : PackageKey → Json ν}
  {identity : ReleaseTransactionIdentity} {built : BuiltReleaseCandidate ν}

/-- A built candidate by the shape of its operation. -/
theorem buildReleaseCandidate_eq_ok
    (h : buildReleaseCandidate sha256 context payloadFile identity = .ok built) :
    ∃ shape : OperationShape ν, shape.Expected context ∧ built.context = context
      ∧ built.transactionKind = shape.transactionKind
      ∧ built.transactionSemanticsSha256 = sha256 (canonicalJsonText built.transactionEvidence.json)
      ∧ built.transactionEvidence =
        { sender := context.roles.role shape.senderRole
          secondary_signers := shape.secondarySignerRoles.map context.roles.role
          sequence_number := context.transaction_controls.sequence_number
          expiration_timestamp_secs := context.transaction_controls.expiration_timestamp_secs
          max_gas_amount := context.transaction_controls.max_gas_amount
          gas_unit_price := context.transaction_controls.gas_unit_price
          payload := shape.payload } := by
  simp only [buildReleaseCandidate, bind_eq_ok, exists_const, throwIf_eq_ok, pure_eq_ok] at h
  obtain ⟨shape, hshape, -, _, -, _, -, _, -, -, rfl⟩ := h
  exact ⟨shape, operationShape_expected hshape, rfl, rfl, rfl, rfl⟩

theorem isFunction_publish : IsFunction "0x1::code::publish_package_txn" :=
  ⟨"0x1", "code", "publish_package_txn", ⟨by decide, by decide, by decide⟩, by decide, by decide,
    by decide⟩

theorem isFunction_append {a m f text : String} (ha : IsAddress a)
    (hm : isIdentifier m.toList = true) (hf : isIdentifier f.toList = true)
    (htext : text = "::" ++ m ++ "::" ++ f) : IsFunction (a ++ text) := by
  refine ⟨a, m, f, ha, hm, hf, ?_⟩
  rw [htext]
  simp only [String.append_assoc]

/-- The transaction of a built candidate is in normal form. -/
theorem buildReleaseCandidate_normal (hvalidated : context.Validated ν)
    (h : buildReleaseCandidate sha256 context payloadFile identity = .ok built) :
    Normal built.transactionEvidence := by
  obtain ⟨shape, hshape, -, -, -, htransaction⟩ := buildReleaseCandidate_eq_ok h
  obtain ⟨value, hroles⟩ := hvalidated.roles
  obtain ⟨haddress, hdistinct⟩ := parseRoles_eq_ok hroles
  obtain ⟨value, hcontrols⟩ := hvalidated.controls
  simp only [parseControls, bind_eq_ok, pure_eq_ok] at hcontrols
  obtain ⟨_, -, sequence, hsequence, gas, hgas, price, hprice, expiration, hexpiration,
    _, -, _, -, _, -, hcontrols⟩ := hcontrols
  have hpositive : ∀ {value : Json ν} {label text maximum},
      decimalValue value label maximum true = .ok text →
      isDecimal text = true ∧ decimalNumber text ≠ 0 :=
    fun h => ⟨(decimalValue_eq_ok h).1, (decimalValue_eq_ok h).2 rfl⟩
  -- The signers: one publisher alone, or the first with the three others after it.
  have hsigners : (shape.secondarySignerRoles.map context.roles.role).Nodup
      ∧ context.roles.role shape.senderRole ∉ shape.secondarySignerRoles.map context.roles.role := by
    have hoperation := hshape.operation
    cases hkey : context.operation_key with
    | poolLaunch =>
        rw [hkey] at hoperation
        obtain ⟨-, hsender, hsecondary, -⟩ := hoperation
        rw [hsender, hsecondary]
        have hcons : (context.roles.core_publisher :: [context.roles.assets_publisher,
          context.roles.amm_publisher, context.roles.bootstrap_lp]).Nodup := hdistinct
        exact ⟨(List.nodup_cons.mp hcons).2, (List.nodup_cons.mp hcons).1⟩
    | _ =>
        rw [hkey] at hoperation
        rw [hoperation.2.2.1]
        exact ⟨List.nodup_nil, List.not_mem_nil⟩
  have hfunction : IsFunction shape.payload.function := by
    have hoperation := hshape.operation
    cases hkey : context.operation_key with
    | coreInitialize =>
        rw [hkey] at hoperation
        rw [hoperation.2.2.2.2]
        exact isFunction_append (m := "reflection_token") (f := "initialize")
          (haddress .core_publisher) (by decide) (by decide) rfl
    | poolLaunch =>
        rw [hkey] at hoperation
        rw [hoperation.2.2.2.2]
        exact isFunction_append (m := "pool") (f := "launch") (haddress .amm_publisher) (by decide)
          (by decide) rfl
    | _ =>
        rw [hkey] at hoperation
        rw [hoperation.2.2.2.2]
        exact isFunction_publish
  rw [htransaction, hcontrols]
  refine ⟨haddress _, ?_, hsigners.1, hsigners.2, hshape.type, hfunction,
    (decimalValue_eq_ok hsequence).1, hpositive hexpiration, hpositive hgas, hpositive hprice⟩
  intro a ha
  obtain ⟨key, -, rfl⟩ := List.mem_map.mp ha
  exact haddress key

/-- The operation of a built candidate is the one expected. -/
theorem expected_operation_eq_ok {candidate : Json ν}
    (h : buildReleaseCandidate sha256 context payloadFile identity = .ok built)
    (hoperation : member candidate "operation_key" = .string context.operation_key.text)
    (hkind : member candidate "transaction_kind" = .string built.transactionKind.text) :
    expected_operation candidate context.roles built.transactionEvidence = .ok () := by
  obtain ⟨shape, hshape, -, htransactionKind, -, htransaction⟩ := buildReleaseCandidate_eq_ok h
  have hexpected := hshape.operation
  have htypes := hshape.type_arguments
  rw [htransactionKind] at hkind
  rw [htransaction]
  -- Each operation has its kind, its signers, its function and its arguments.
  cases hkey : context.operation_key
  all_goals
    rw [hkey] at hexpected hoperation
    obtain ⟨htransactionKind, hsender, hsecondary, harguments, hfunction⟩ := hexpected
    rw [htransactionKind] at hkind
    simp [expected_operation, hoperation, hkind, hsender, hsecondary, harguments, hfunction, htypes,
      isText, ReleaseOperationKey.text, TransactionKind.text, RoleMap.role, equalTexts, stringArray,
      throwIf, bind, Except.bind]

/-- **The evidence gate accepts the candidate's file**: the digest binds the transaction, and
the operation is the expected one. -/
theorem operationChecks_eq_ok [NatCast ν] (hvalidated : context.Validated ν)
    (h : buildReleaseCandidate sha256 context payloadFile identity = .ok built)
    (simulation : SimulationEvidence) :
    operationChecks sha256 (canonical (built.candidate simulation)) = .ok () := by
  obtain ⟨shape, hshape, hcontext, -, hsha, htransaction⟩ := buildReleaseCandidate_eq_ok h
  have hshown : ∀ value ∈ built.transactionEvidence.payload.arguments, Shown value := by
    rw [htransaction]
    exact hshape.shown
  have hplain : Plain arrayIndex (built.candidate simulation) :=
    BuiltReleaseCandidate.plain hshown simulation
  obtain ⟨value, hroles⟩ := hvalidated.roles
  obtain ⟨haddress, hdistinct⟩ := parseRoles_eq_ok hroles
  have hnormal := buildReleaseCandidate_normal hvalidated h
  -- The members the gate reads.
  have hmembers : member (canonical (built.candidate simulation)) "roles"
        = canonical context.roles.json
      ∧ member (canonical (built.candidate simulation)) "transaction"
        = canonical built.transactionEvidence.json
      ∧ member (canonical (built.candidate simulation)) "transaction_semantics_sha256"
        = .string built.transactionSemanticsSha256
      ∧ member (canonical (built.candidate simulation)) "operation_key"
        = .string context.operation_key.text
      ∧ member (canonical (built.candidate simulation)) "transaction_kind"
        = .string built.transactionKind.text := by
    simp only [member_canonical hplain, ← hcontext]
    exact ⟨rfl, rfl, canonical_string _, canonical_string _, canonical_string _⟩
  obtain ⟨hroleMap, htx, hdigest, hoperation, hkind⟩ := hmembers
  have hsemantics := transaction_semantics_eq_ok (carries_canonical hshown) hnormal
  have hagain := transaction_semantics_eq_ok (carries_json built.transactionEvidence) hnormal
  have hbound : isText (.string built.transactionSemanticsSha256 : Json ν)
      (sha256 (canonical_json_text built.transactionEvidence.json)) = true := by
    rw [canonical_json_text_eq hshown, hsha, isText, decide_eq_true_eq]
  simp only [operationChecks, transaction_semantics_digest, hroleMap, htx, hdigest, bind_eq_ok,
    exists_const, throwIf_eq_ok, pure_eq_ok, Bool.not_eq_false]
  exact ⟨_, role_map_eq_ok haddress hdistinct _, _, hsemantics, _, ⟨_, hagain, rfl⟩, hbound,
    expected_operation_eq_ok h hoperation hkind⟩

end Acceptance

end release_evidence

end CedraReflect.release
