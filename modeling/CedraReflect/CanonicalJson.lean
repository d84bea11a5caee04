/-
The canonical bytes of JSON values, in the two languages that hash them.

The assembler sorts the members of an object by UTF-16 units and makes an object of
them, which puts the names that are indices first and by number. `release_evidence.py`
sorts by code points while it encodes. Each of the two takes the same values to the
same bytes and others to others. They give one value different bytes just if an object
in it has two names that the two orders disagree on.
-/
import CedraReflect.JsonOrder
import CedraReflect.TextUnits
import Mathlib.Data.Nat.Digits.Lemmas

set_option autoImplicit false

namespace CedraReflect

/-! ## Safe integers -/

/-- An integer that every number of JavaScript tells from its neighbours. -/
structure SafeInteger where
  value : ℤ
  safe : value.natAbs < 2 ^ 53
deriving DecidableEq

namespace SafeInteger

def printInteger (n : ℤ) : List Char :=
  if n < 0 then '-' :: NumberText.print n.natAbs else NumberText.print n.natAbs

def readInteger : List Char → Option ℤ
  | '-' :: digits => (NumberText.read digits : Option ℕ).map fun n : ℕ => -(n : ℤ)
  | digits => (NumberText.read digits : Option ℕ).map fun n : ℕ => (n : ℤ)

theorem print_ne_minus (n : ℕ) (rest : List Char) : NumberText.print n ≠ '-' :: rest := by
  intro h
  have hread := NumberText.read_print n
  rw [h] at hread
  have hminus : (NumberText.read ('-' :: rest) : Option ℕ) = none := by
    change (if _ then _ else _) = _
    rw [if_neg]
    rintro ⟨-, hall⟩
    rw [List.all_cons, Bool.and_eq_true] at hall
    exact absurd hall.1 (by decide)
  rw [hminus] at hread
  cases hread

theorem readInteger_print (n : ℤ) : readInteger (printInteger n) = some n := by
  rw [printInteger]
  by_cases hn : n < 0
  · rw [if_pos hn, readInteger, NumberText.read_print, Option.map_some]
    congr 1
    omega
  · rw [if_neg hn]
    have hread : readInteger (NumberText.print n.natAbs)
        = (NumberText.read (NumberText.print n.natAbs) : Option ℕ).map fun n : ℕ => (n : ℤ) := by
      unfold readInteger
      split
      next heq => exact absurd heq (print_ne_minus _ _)
      next => rfl
    rw [hread, NumberText.read_print, Option.map_some]
    congr 1
    omega

end SafeInteger

/-- `Number::toString`, for an integer without an exponent. -/
instance : NumberText SafeInteger where
  print n := SafeInteger.printInteger n.value
  read text := (SafeInteger.readInteger text).bind fun n =>
    if h : n.natAbs < 2 ^ 53 then some ⟨n, h⟩ else none
  read_print n := by
    rw [SafeInteger.readInteger_print, Option.bind_some, dif_pos n.safe]
  print_ne_nil n := by
    rw [SafeInteger.printInteger]
    by_cases hn : n.value < 0
    · rw [if_pos hn]
      exact List.cons_ne_nil _ _
    · rw [if_neg hn]
      exact NumberText.print_ne_nil _
  numeral_of_mem n c hc := by
    rw [SafeInteger.printInteger] at hc
    by_cases hn : n.value < 0
    · rw [if_pos hn] at hc
      rcases List.mem_cons.mp hc with rfl | hc
      · decide
      · exact NumberText.numeral_of_mem _ c hc
    · rw [if_neg hn] at hc
      exact NumberText.numeral_of_mem _ c hc

/-- A value that both languages have: no object repeats a name. -/
structure JsonValue where
  value : Json SafeInteger
  distinct : Json.Distinct value

namespace release

/-! ## The assembler's bytes -/

def canonicalJsonBytes (value : Json SafeInteger) : List UInt8 := utf8 (canonicalJsonText value)

/-! ## The bytes of the gate -/

namespace release_evidence

/-- `'\\u{0:04x}'.format(n)`. -/
def unicodeEscape (n : ℕ) : List Char :=
  ['\\', 'u', Json.hexDigit (n / 4096 % 16), Json.hexDigit (n / 256 % 16),
    Json.hexDigit (n / 16 % 16), Json.hexDigit (n % 16)]

/-- The escapes of Python's encoder, for the characters that its pattern finds. -/
def ESCAPE_DCT (c : Char) : Option (List Char) :=
  if c = '\\' then some ['\\', '\\']
  else if c = '"' then some ['\\', '"']
  else if c = '\x08' then some ['\\', 'b']
  else if c = '\x0c' then some ['\\', 'f']
  else if c = '\n' then some ['\\', 'n']
  else if c = '\r' then some ['\\', 'r']
  else if c = '\t' then some ['\\', 't']
  else if c.toNat < 0x20 then some (unicodeEscape c.toNat)
  else none

/-- A string between quotes, as with `ensure_ascii=False`. -/
def encode_basestring (s : String) : List Char :=
  '"' :: (s.toList.flatMap fun c => (ESCAPE_DCT c).getD [c]) ++ ['"']

/-- `int.__repr__`. -/
def int_repr (n : ℤ) : List Char :=
  if n < 0 then '-' :: Nat.toDigits 10 n.natAbs else Nat.toDigits 10 n.natAbs

mutual

/-- `json.dumps` with sorted keys and without blanks. The items of a dictionary are sorted
before any of them is encoded. -/
def dumps : Json SafeInteger → List Char
  | .null => ['n', 'u', 'l', 'l']
  | .boolean true => ['t', 'r', 'u', 'e']
  | .boolean false => ['f', 'a', 'l', 's', 'e']
  | .number n => int_repr n.value
  | .string s => encode_basestring s
  | .array items => '[' :: [','].intercalate (dumpsItems items) ++ [']']
  | .object members =>
      '{' :: [','].intercalate ((sortBy nameLe (dumpsMembers members)).map fun item =>
        encode_basestring item.1 ++ ':' :: item.2) ++ ['}']

def dumpsItems : List (Json SafeInteger) → List (List Char)
  | [] => []
  | v :: items => dumps v :: dumpsItems items

def dumpsMembers : List (String × Json SafeInteger) → List (String × List Char)
  | [] => []
  | (k, v) :: members => (k, dumps v) :: dumpsMembers members

end

def canonical_json_bytes (value : Json SafeInteger) : List UInt8 := utf8 (dumps value ++ ['\n'])

end release_evidence

/-! ## The names they disagree on -/

/-- At their first difference the one name has a character after the surrogates and within
sixteen bits, and the other one past them. -/
def unitsSwap (a b : String) : Bool :=
  match firstDifference a.toList b.toList with
  | some (c, d) => 0xE000 ≤ c.toNat && c.toNat < 0x10000 && 0x10000 ≤ d.toNat
  | none => false

/-- The one name is before the other by code points, and after it in an object that was made
of sorted members. -/
def swapped (a b : String) : Bool :=
  match arrayIndex a, arrayIndex b with
  | some m, some n => release_evidence.nameLe a b && n < m
  | none, some _ => release_evidence.nameLe a b
  | some _, none => false
  | none, none => unitsSwap a b

/-- No two of the names are swapped. -/
def aligned (names : List String) : Bool := names.all fun a => names.all fun b => !swapped a b

/-! ## What the gate writes -/

namespace release_evidence

open Json (mapObjects mapItems mapMembers sortMembers)

/-- The decimals of both languages are the same. -/
theorem toDigits_eq (n : ℕ) : Nat.toDigits 10 n = NumberText.print n := by
  change _ = if n = 0 then ['0'] else (Nat.digits 10 n).reverse.map Nat.digitChar
  induction n using Nat.strong_induction_on with
  | _ n ih =>
      rw [Nat.toDigits_eq_if (by decide)]
      by_cases hn : n = 0
      · rw [if_pos hn, hn]
        rfl
      · rw [if_neg hn]
        by_cases hsmall : n < 10
        · rw [if_pos hsmall, Nat.digits_of_lt 10 n hn hsmall]
          rfl
        · have hrest : n / 10 ≠ 0 := by omega
          rw [if_neg hsmall, ih (n / 10) (by omega), if_neg hrest,
            Nat.digits_def' (by decide) (Nat.pos_of_ne_zero hn), List.reverse_cons, List.map_append]
          rfl

theorem int_repr_eq (n : SafeInteger) : int_repr n.value = NumberText.print n := by
  change _ = SafeInteger.printInteger n.value
  rw [int_repr, SafeInteger.printInteger, toDigits_eq]

theorem unicodeEscape_eq {n : ℕ} (h : n < 32) :
    unicodeEscape n = ['\\', 'u', '0', '0', Json.hexDigit (n / 16), Json.hexDigit (n % 16)] := by
  have hthousands : n / 4096 % 16 = 0 := by omega
  have hhundreds : n / 256 % 16 = 0 := by omega
  have htens : n / 16 % 16 = n / 16 := by omega
  rw [unicodeEscape, hthousands, hhundreds, htens]
  rfl

/-- Both languages escape the same characters, and in the same way. -/
theorem escape_eq (c : Char) : (ESCAPE_DCT c).getD [c] = Json.escape c := by
  unfold ESCAPE_DCT Json.escape
  by_cases hbackslash : c = '\\'
  · rw [hbackslash]
    rfl
  by_cases hquote : c = '"'
  · rw [hquote]
    rfl
  rw [if_neg hbackslash, if_neg hquote, if_neg hquote, if_neg hbackslash]
  by_cases hcontrol : c.toNat < 0x20
  · rw [if_pos hcontrol, if_pos hcontrol, unicodeEscape_eq hcontrol]
    split_ifs <;> rfl
  · rw [if_neg hcontrol, if_neg hcontrol]
    split_ifs <;> rfl

theorem encode_basestring_eq (s : String) : encode_basestring s = '"' :: Json.escaped s := by
  rw [encode_basestring, Json.escaped]
  simp only [escape_eq, List.cons_append]

theorem printItems_eq (items : List (Json SafeInteger)) :
    Json.printItems items = [','].intercalate (items.map Json.print) ++ [']'] := by
  induction items with
  | nil => rfl
  | cons v items ih =>
      cases items with
      | nil => rw [Json.printItems, List.map_singleton, List.intercalate_singleton]
      | cons w items =>
          have hjoined : [','].intercalate ((v :: w :: items).map Json.print)
              = v.print ++ [','] ++ [','].intercalate ((w :: items).map Json.print) :=
            List.intercalate_cons_cons
          rw [Json.printItems, ih, hjoined, List.append_assoc, List.append_assoc,
            List.singleton_append]

theorem printMembers_eq (members : List (String × Json SafeInteger)) :
    Json.printMembers members
      = [','].intercalate (members.map fun m => encode_basestring m.1 ++ ':' :: m.2.print)
        ++ ['}'] := by
  induction members with
  | nil => rfl
  | cons m members ih =>
      obtain ⟨k, v⟩ := m
      cases members with
      | nil =>
          rw [Json.printMembers, List.map_singleton, List.intercalate_singleton,
            encode_basestring_eq]
      | cons m' members =>
          have hjoined : [','].intercalate (((k, v) :: m' :: members).map fun m =>
                encode_basestring m.1 ++ ':' :: m.2.print)
              = (encode_basestring k ++ ':' :: v.print) ++ [','] ++ [','].intercalate
                ((m' :: members).map fun m => encode_basestring m.1 ++ ':' :: m.2.print) :=
            List.intercalate_cons_cons
          rw [Json.printMembers, ih, hjoined, encode_basestring_eq k]
          simp only [List.append_assoc, List.cons_append, List.nil_append]

mutual

/-- **Python's encoder writes the text of the sorted value.** -/
theorem dumps_eq : ∀ v : Json SafeInteger, dumps v = (mapObjects (sortMembers nameLe) v).print
  | .null => rfl
  | .boolean true => rfl
  | .boolean false => rfl
  | .number n => by
      rw [dumps, mapObjects, Json.print, int_repr_eq]
  | .string s => by
      rw [dumps, mapObjects, Json.print, encode_basestring_eq]
  | .array items => by
      rw [dumps, dumpsItems_eq items, mapObjects, Json.print, printItems_eq, List.cons_append]
  | .object members => by
      rw [dumps, dumpsMembers_eq members, ← map_sortBy, List.map_map, mapObjects, Json.print,
        printMembers_eq, List.cons_append]
      rfl

theorem dumpsItems_eq : ∀ items : List (Json SafeInteger),
    dumpsItems items = (mapItems (sortMembers nameLe) items).map Json.print
  | [] => rfl
  | v :: items => by
      rw [dumpsItems, dumps_eq v, dumpsItems_eq items, mapItems, List.map_cons]

theorem dumpsMembers_eq : ∀ members : List (String × Json SafeInteger),
    dumpsMembers members
      = (mapMembers (sortMembers nameLe) members).map fun m => (m.1, m.2.print)
  | [] => rfl
  | (k, v) :: members => by
      rw [dumpsMembers, dumps_eq v, dumpsMembers_eq members, mapMembers, List.map_cons]

end

end release_evidence

/-! ## The order of the assembler's objects -/

theorem digit_range {c : Char} (h : c.isDigit = true) : 48 ≤ c.toNat ∧ c.toNat < 58 := by
  obtain ⟨hzero, hnine⟩ := Char.isDigit_iff_toNat.mp h
  exact ⟨hzero, Nat.lt_succ_of_le hnine⟩

/-- Digits without a zero in front are the decimals of their number. -/
theorem print_ofDigits {c : Char} {cs : List Char} (hall : ∀ d ∈ c :: cs, d.isDigit = true)
    (hc : c ≠ '0') :
    NumberText.print (Nat.ofDigits 10 ((c :: cs).reverse.map fun d => d.toNat - 48))
      = c :: cs := by
  -- No digit is more than nine, and the first is not zero: these are the digits of the number.
  have hdigits : Nat.digits 10 (Nat.ofDigits 10 ((c :: cs).reverse.map fun d => d.toNat - 48))
      = (c :: cs).reverse.map fun d => d.toNat - 48 := by
    apply Nat.digits_ofDigits 10 (by decide)
    · intro d hd
      obtain ⟨e, he, rfl⟩ := List.mem_map.mp hd
      have hrange := digit_range (hall e (List.mem_reverse.mp he))
      omega
    · intro hne
      have hrange := digit_range (hall c List.mem_cons_self)
      have hfirst : c.toNat ≠ 48 := fun heq => hc (char_eq heq)
      simp only [List.reverse_cons, List.map_append, List.map_singleton, List.getLast_append_singleton]
      omega
  have hback : ((c :: cs).reverse.map fun d => d.toNat - 48).reverse.map Nat.digitChar
      = c :: cs := by
    rw [← List.map_reverse, List.reverse_reverse, List.map_map]
    conv_rhs => rw [← List.map_id (c :: cs)]
    apply List.map_congr_left
    intro d hd
    have hrange := digit_range (hall d hd)
    apply char_eq
    rw [Function.comp_apply, Nat.toNat_digitChar_of_lt_ten (by omega)]
    change 48 + (d.toNat - 48) = d.toNat
    omega
  have hpos : Nat.ofDigits 10 ((c :: cs).reverse.map fun d => d.toNat - 48) ≠ 0 := by
    intro hzero
    rw [hzero, Nat.digits_zero] at hdigits
    rw [← hdigits] at hback
    cases hback
  change (if _ then _ else _) = _
  rw [if_neg hpos, hdigits, hback]

/-- **A name is an index just if it is written as a number is.** -/
theorem toList_of_arrayIndex {name : String} {n : ℕ} (h : arrayIndex name = some n) :
    name.toList = NumberText.print n := by
  unfold arrayIndex at h
  dsimp only at h
  split_ifs at h with hdigits hbound
  obtain ⟨hne, hall, hzero⟩ := hdigits
  rw [← Option.some.inj h]
  rw [List.all_eq_true] at hall
  cases hname : name.toList with
  | nil => exact absurd hname hne
  | cons c cs =>
      rw [hname] at hall hzero
      by_cases hc : c = '0'
      · have hcs : cs = [] := by
          have hlength := hzero (by rw [List.head?_cons, hc])
          exact List.length_eq_zero_iff.mp (Nat.succ_injective hlength)
        rw [hc, hcs]
        decide
      · exact (print_ofDigits hall hc).symm

theorem arrayIndex_injective {a b : String} {n : ℕ} (ha : arrayIndex a = some n)
    (hb : arrayIndex b = some n) : a = b := by
  apply String.toList_injective
  rw [toList_of_arrayIndex ha, toList_of_arrayIndex hb]

/-- The order of the names of an object that was made of sorted members. -/
def propertyLe : String → String → Bool := Json.indexLe arrayIndex textLe

theorem propertyLe_linear : LinearLe propertyLe :=
  Json.indexLe_linear textLe_linear fun _ _ _ => arrayIndex_injective

/-- **The assembler sorts by its own order of properties.** -/
theorem sortedJsonValue_eq_sorted {v : Json SafeInteger} (h : Json.Distinct v) :
    sortedJsonValue v = v.mapObjects (Json.sortMembers propertyLe) := by
  refine h.mapObjects_congr ?_
  intro members hkeys _
  exact Json.properties_sortMembers textLe_linear (fun _ _ _ => arrayIndex_injective) hkeys

/-- Where neither name is an index, the characters at the first difference decide. -/
theorem unitsSwap_iff (a b : String) :
    unitsSwap a b = true ↔ release_evidence.nameLe a b = true ∧ textLe a b = false := by
  rw [nameLe_eq, textLe_eq, LinearLe.lexLe_differ_iff, unitsSwap]
  cases hfirst : firstDifference a.toList b.toList with
  | none => simp
  | some pair =>
      obtain ⟨c, d⟩ := pair
      simp only [Bool.and_eq_true, decide_eq_true_eq]
      constructor
      · rintro ⟨⟨hafter, hwithin⟩, hpast⟩
        have hcd : pointLe c d = true := decide_eq_true (by omega)
        exact ⟨c, d, rfl, hcd, (unitLe_eq_false_iff hcd).mpr ⟨hafter, hwithin, hpast⟩⟩
      · rintro ⟨c', d', heq, hcd, hunits⟩
        obtain ⟨rfl, rfl⟩ := Prod.mk.inj (Option.some.inj heq)
        obtain ⟨hafter, hwithin, hpast⟩ := (unitLe_eq_false_iff hcd).mp hunits
        exact ⟨⟨hafter, hwithin⟩, hpast⟩

/-- **The names that are swapped are those that the two orders disagree on.** -/
theorem swapped_iff (a b : String) :
    swapped a b = true ↔ release_evidence.nameLe a b = true ∧ propertyLe a b = false := by
  unfold swapped propertyLe Json.indexLe
  cases arrayIndex a with
  | none =>
      cases arrayIndex b with
      | none => exact unitsSwap_iff a b
      | some n => simp
  | some m =>
      cases arrayIndex b with
      | none => simp
      | some n => simp

theorem aligned_iff (names : List String) :
    aligned names = true
      ↔ ∀ a ∈ names, ∀ b ∈ names, propertyLe a b = release_evidence.nameLe a b := by
  unfold aligned
  simp only [List.all_eq_true, Bool.not_eq_true', Bool.eq_false_iff, ne_eq, swapped_iff]
  constructor
  · intro hnone a ha b hb
    by_cases hab : release_evidence.nameLe a b = true
    · by_cases hab' : propertyLe a b = true
      · rw [hab, hab']
      · exact absurd ⟨hab, hab'⟩ (hnone a ha b hb)
    · -- Then the other name comes first by code points, and so in the object.
      have hba : release_evidence.nameLe b a = true := (nameLe_linear.total a b).resolve_left hab
      have hba' : propertyLe b a = true := by
        by_contra hba'
        exact hnone b hb a ha ⟨hba, hba'⟩
      have hab' : ¬ propertyLe a b = true := by
        intro hab'
        rw [propertyLe_linear.antisymm a b hab' hba'] at hab
        exact hab (nameLe_linear.refl b)
      rw [Bool.eq_false_iff.mpr hab, Bool.eq_false_iff.mpr hab']
  · rintro hagree a ha b hb ⟨hab, hab'⟩
    rw [hagree a ha b hb] at hab'
    exact hab' hab

/-! ## The two encodings -/

/-- **The bytes of a value are its own.** -/
theorem bytes_eq_iff {v w : Json SafeInteger} :
    utf8 (v.print ++ ['\n']) = utf8 (w.print ++ ['\n']) ↔ v = w := by
  constructor
  · intro h
    exact Json.print_injective (List.append_cancel_right (utf8_injective h))
  · intro h
    rw [h]

theorem canonicalJsonBytes_eq {v : Json SafeInteger} (h : Json.Distinct v) :
    canonicalJsonBytes v = utf8 ((v.mapObjects (Json.sortMembers propertyLe)).print ++ ['\n']) := by
  rw [canonicalJsonBytes, canonicalJsonText, sortedJsonValue_eq_sorted h, stringify]

theorem release_evidence.canonical_json_bytes_eq (v : Json SafeInteger) :
    canonical_json_bytes v = utf8 ((v.mapObjects (Json.sortMembers nameLe)).print ++ ['\n']) := by
  rw [canonical_json_bytes, dumps_eq]

/-- The two languages give a value the same bytes just if no object in it has two names that
are swapped. In each of them two values have the same bytes just if they are the same. -/
theorem canonical_json_agrees_iff (v w : JsonValue) :
    (canonicalJsonBytes v.value = release_evidence.canonical_json_bytes v.value
        ↔ Json.eachObject aligned v.value = true)
      ∧ (canonicalJsonBytes v.value = canonicalJsonBytes w.value
        ↔ Json.same v.value w.value = true)
      ∧ (release_evidence.canonical_json_bytes v.value
          = release_evidence.canonical_json_bytes w.value
        ↔ Json.same v.value w.value = true) := by
  refine ⟨?_, ?_, ?_⟩
  · rw [canonicalJsonBytes_eq v.distinct, release_evidence.canonical_json_bytes_eq, bytes_eq_iff]
    exact Json.sorted_agree_iff propertyLe_linear nameLe_linear aligned_iff v.distinct
  · rw [canonicalJsonBytes_eq v.distinct, canonicalJsonBytes_eq w.distinct, bytes_eq_iff]
    exact Json.sorted_eq_iff_same propertyLe_linear v.distinct w.distinct
  · rw [release_evidence.canonical_json_bytes_eq, release_evidence.canonical_json_bytes_eq,
      bytes_eq_iff]
    exact Json.sorted_eq_iff_same nameLe_linear v.distinct w.distinct

/-- An object with the names 9 and 10. -/
def indexNames : JsonValue where
  value := .object [("10", .null), ("9", .null)]
  distinct := by
    refine .object (by decide) (fun _ _ => rfl) ?_
    intro member hmember
    simp only [List.mem_cons, List.not_mem_nil, or_false] at hmember
    rcases hmember with rfl | rfl <;> exact .null

theorem canonical_json_indices_differ :
    canonicalJsonBytes indexNames.value
      ≠ release_evidence.canonical_json_bytes indexNames.value := by
  decide +kernel

end release

end CedraReflect
