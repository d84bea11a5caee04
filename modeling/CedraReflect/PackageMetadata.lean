/-
`decode_package_metadata_header.py`: the prefix of a package's metadata that a
release commits to.

The decoder walks a byte string with an offset. Offsets are naturals, since it
starts at zero and only adds. What it makes of the bytes is a name, an upgrade
policy and number, and a source digest, and the question is whether those say
again which bytes they were read from.
-/
import CedraReflect.Throwing
import CedraReflect.Uleb128
import Mathlib.Data.List.Infix

set_option autoImplicit false
set_option linter.constructorNameAsVariable false

namespace CedraReflect.decode_package_metadata_header

open CedraReflect.indexer (bind_eq_ok pure_eq_ok throwIf throwIf_eq_ok)

/-! ## The decoder -/

/-- What a decode fails with. Python's own account of a byte sequence that is not
UTF-8 follows the label there. -/
inductive Failure where
  | message (text : String)
  | notUtf8 (label : String)
deriving DecidableEq, Repr

abbrev Decoded (α : Type) : Type := Except Failure α

def fail {α : Type} (message : String) : Decoded α := .error (.message message)

/-- The loop, `remaining` bytes before it gives up. -/
def read_groups (data : List UInt8) : ℕ → ℕ → ℕ → ℕ → Decoded (ℕ × ℕ)
  | 0, _, _, _ => fail "oversized ULEB128"
  | remaining + 1, offset, value, shift =>
      match data[offset]? with
      | none => fail "truncated ULEB128"
      | some byte =>
          let value := value ||| ((byte &&& 0x7F).toNat <<< shift)
          if byte &&& 0x80 = 0 then
            if value < 0x80 ∧ 0 < shift then fail "non-canonical ULEB128"
            else .ok (value, offset + 1)
          else read_groups data remaining (offset + 1) value (shift + 7)

def read_uleb128 (data : List UInt8) (offset : ℕ) : Decoded (ℕ × ℕ) :=
  read_groups data 5 offset 0 0

/-- `data[offset:end]`. -/
def slice (data : List UInt8) (offset finish : ℕ) : List UInt8 := (data.take finish).drop offset

def read_bytes (data : List UInt8) (offset length : ℕ) (label : String) :
    Decoded (List UInt8 × ℕ) :=
  if data.length < offset + length then fail ("truncated " ++ label)
  else .ok (slice data offset (offset + length), offset + length)

/-- `data[offset]`, or the failure of there being none. -/
def byte_at (data : List UInt8) (offset : ℕ) (message : String) : Decoded UInt8 :=
  match data[offset]? with
  | none => fail message
  | some byte => .ok byte

def read_string (data : List UInt8) (offset : ℕ) (label : String) : Decoded (String × ℕ) := do
  let (length, offset) ← read_uleb128 data offset
  let (raw, offset) ← read_bytes data offset length label
  match String.fromUTF8? ⟨raw.toArray⟩ with
  | some text => .ok (text, offset)
  | none => .error (.notUtf8 label)

/-- `struct.unpack("<Q", raw)`. -/
def little_endian : List UInt8 → ℕ
  | [] => 0
  | b :: bs => b.toNat + 256 * little_endian bs

def is_upper_hex (c : Char) : Bool := ('0' ≤ c ∧ c ≤ '9') ∨ ('A' ≤ c ∧ c ≤ 'F')

def is_letter (c : Char) : Bool := ('A' ≤ c ∧ c ≤ 'Z') ∨ ('a' ≤ c ∧ c ≤ 'z')

def is_word (c : Char) : Bool := is_letter c ∨ ('0' ≤ c ∧ c ≤ '9') ∨ c = '_'

/-- `re.fullmatch(r"[0-9A-F]{64}", text)`. -/
def matches_digest (text : String) : Bool :=
  text.toList.length = 64 && text.toList.all is_upper_hex

/-- `re.fullmatch(r"[A-Za-z][A-Za-z0-9_]*", text)`. -/
def matches_name (text : String) : Bool :=
  match text.toList with
  | [] => false
  | c :: cs => is_letter c && cs.all is_word

/-- What the decoder prints. -/
structure Fields where
  name : String
  upgrade_policy_number : UInt8
  upgrade_number : String
  source_digest : String
deriving DecidableEq, Repr

def decode (data : List UInt8) : Decoded Fields := do
  let (name, offset) ← read_string data 0 "package name"
  let policy ← byte_at data offset "truncated upgrade policy"
  let (raw_upgrade, offset) ← read_bytes data (offset + 1) 8 "upgrade number"
  let upgrade_number := little_endian raw_upgrade
  let (source_digest, offset) ← read_string data offset "source digest"
  throwIf (matches_digest source_digest = false)
    (.message "embedded source_digest is not 64 uppercase hexadecimal characters")
  throwIf (matches_name name = false) (.message "embedded package name is invalid")
  throwIf (policy ∉ [0, 1, 2]) (.message "embedded upgrade policy is unsupported")
  throwIf (data.length ≤ offset)
    (.message "PackageMetadata contains no manifest/modules after the decoded header")
  pure ⟨name, policy, toString upgrade_number, source_digest⟩

/-! ## The encoding that is meant -/

/-- The bytes of a text. -/
def utf8 (text : String) : List UInt8 := text.toByteArray.data.toList

/-- `k` bytes of a number, the low one first. -/
def to_little_endian : ℕ → ℕ → List UInt8
  | 0, _ => []
  | k + 1, n => UInt8.ofNat (n % 256) :: to_little_endian k (n / 256)

/-- A byte sequence and its length, which is a `u32`. -/
def encode_string (text : String) : Option (List UInt8) :=
  if (utf8 text).length < 2 ^ 32 then some (Uleb128.encode (utf8 text).length ++ utf8 text)
  else none

/-- The number of a decimal text. -/
def parse_decimal (text : String) : ℕ := Nat.ofDigitChars 10 text.toList 0

/-- The header that has these fields. -/
def encode_header (fields : Fields) : Option (List UInt8) := do
  let name ← encode_string fields.name
  let source_digest ← encode_string fields.source_digest
  pure (name ++ fields.upgrade_policy_number ::
    (to_little_endian 8 (parse_decimal fields.upgrade_number) ++ source_digest))

/-! ## What the reader accepts -/

variable {data : List UInt8} {offset n : ℕ}

/-- Groups spell a number the reader takes: not more than five, and not more than
one for less than a group holds. -/
def Accepted (groups : List UInt8) : Prop :=
  Uleb128.Terminated groups ∧ groups.length ≤ 5
    ∧ ¬ (Uleb128.value groups < 128 ∧ 1 < groups.length)

theorem and_0x7F (b : UInt8) : (b &&& 0x7F).toNat = b.toNat % 128 := by
  rw [UInt8.toNat_and]
  exact Nat.and_two_pow_sub_one_eq_mod b.toNat 7

theorem and_0x80 (b : UInt8) : b &&& 0x80 = 0 ↔ b.toNat < 128 := by
  have hbytes : ∀ n : Fin 256, n.val &&& 128 = 0 ↔ n.val < 128 := by decide +kernel
  rw [← UInt8.toNat_inj, UInt8.toNat_and]
  exact hbytes ⟨b.toNat, b.toNat_lt⟩

theorem or_shifted {value shift : ℕ} (x : ℕ) (h : value < 2 ^ shift) :
    value ||| (x <<< shift) = value + 2 ^ shift * x := by
  rw [Nat.shiftLeft_eq, mul_comm x, Nat.or_comm, ← Nat.two_pow_add_eq_or_of_lt h, Nat.add_comm]

theorem drop_eq_cons {b : UInt8} (h : data[offset]? = some b) :
    data.drop offset = b :: data.drop (offset + 1) := by
  obtain ⟨hlt, hb⟩ := List.getElem?_eq_some_iff.mp h
  rw [List.drop_eq_getElem_cons hlt, hb]

/-- Groups that the loop reads from where it stands onto the ones it has read:
they end, as many remain, and only the first may end a number below 128. -/
structure Reads (data : List UInt8) (remaining offset value shift : ℕ) (p : ℕ × ℕ)
    (groups : List UInt8) : Prop where
  terminated : Uleb128.Terminated groups
  length_le : groups.length ≤ remaining
  begins : groups <+: data.drop offset
  result : p = (value + 2 ^ shift * Uleb128.value groups, offset + groups.length)
  canonical : ¬ (p.1 < 128 ∧ (0 < shift ∨ 1 < groups.length))

section Reads

variable {remaining value shift : ℕ} {p : ℕ × ℕ} {b : UInt8}

/-- Nothing is read past the end. -/
theorem not_reads_of_end (hend : data[offset]? = none) (groups : List UInt8) :
    ¬ Reads data remaining offset value shift p groups := by
  intro h
  have hnil : data.drop offset = [] := by
    rw [List.drop_eq_nil_iff]
    exact List.getElem?_eq_none_iff.mp hend
  have hbegins := h.begins
  rw [hnil, List.prefix_nil] at hbegins
  exact absurd hbegins h.terminated.ne_nil

/-- A byte below 128 is the only group. -/
theorem reads_last (hbyte : data[offset]? = some b) (hlast : b.toNat < 128) :
    (∃ groups, Reads data (remaining + 1) offset value shift p groups) ↔
      p = (value + 2 ^ shift * (b.toNat % 128), offset + 1) ∧ ¬ (p.1 < 128 ∧ 0 < shift) := by
  have hone : Uleb128.value [b] = b.toNat % 128 := by
    rw [Uleb128.value, Uleb128.value]
    omega
  have hbegins : [b] <+: data.drop offset := by
    rw [drop_eq_cons hbyte]
    exact List.prefix_append [b] _
  constructor
  · rintro ⟨groups, h⟩
    -- Of two terminated beginnings neither is longer.
    have hgroups : groups = [b] :=
      h.terminated.eq_of_begins (show Uleb128.Terminated [b] from hlast) h.begins hbegins
    subst hgroups
    have hresult := h.result
    rw [hone] at hresult
    refine ⟨hresult, ?_⟩
    intro hsmall
    exact h.canonical ⟨hsmall.1, .inl hsmall.2⟩
  · rintro ⟨hp, hcanonical⟩
    refine ⟨[b], hlast, by simp, hbegins, ?_, ?_⟩
    · rw [hone]
      exact hp
    · simpa using hcanonical

/-- A byte from 128 on is a group that others follow. -/
theorem reads_more (hbyte : data[offset]? = some b) (hmore : ¬ b.toNat < 128) :
    (∃ groups, Reads data (remaining + 1) offset value shift p groups) ↔
      ∃ rest, Reads data remaining (offset + 1) (value + 2 ^ shift * (b.toNat % 128)) (shift + 7)
        p rest := by
  have hpow : 2 ^ (shift + 7) = 2 ^ shift * 128 := Nat.pow_add 2 shift 7
  have hsum : ∀ rest, value + 2 ^ shift * (b.toNat % 128) + 2 ^ (shift + 7) * Uleb128.value rest =
      value + 2 ^ shift * Uleb128.value (b :: rest) := by
    intro rest
    rw [Uleb128.value, hpow]
    ring
  constructor
  · rintro ⟨groups, hterminated, hlength, hbegins, hp, hcanonical⟩
    cases groups with
    | nil => exact absurd rfl hterminated.ne_nil
    | cons c rest =>
        rw [drop_eq_cons hbyte, List.cons_prefix_cons] at hbegins
        obtain ⟨hc, hbegins⟩ := hbegins
        subst hc
        have hrest : rest ≠ [] := by
          intro hnil
          subst hnil
          exact hmore hterminated
        have hpositive := List.length_pos_of_ne_nil hrest
        rw [List.length_cons] at hlength hp hcanonical
        refine ⟨rest, ((Uleb128.terminated_cons hrest).mp hterminated).2, by omega, hbegins, ?_, ?_⟩
        · rw [hsum, hp]
          congr 1
          omega
        · intro hsmall
          exact hcanonical ⟨hsmall.1, .inr (by omega)⟩
  · rintro ⟨rest, hterminated, hlength, hbegins, hp, hcanonical⟩
    rw [hsum] at hp
    refine ⟨b :: rest, ?_, ?_, ?_, ?_, ?_⟩
    · rw [Uleb128.terminated_cons hterminated.ne_nil]
      exact ⟨by omega, hterminated⟩
    · rw [List.length_cons]
      omega
    · rw [drop_eq_cons hbyte]
      exact List.cons_prefix_cons.mpr ⟨rfl, hbegins⟩
    · rw [hp, List.length_cons]
      congr 1
      omega
    · -- Seven bits were read, so the groups are not the first ones.
      intro hsmall
      exact hcanonical ⟨hsmall.1, .inl (by omega)⟩

end Reads

/-- **The loop** reads the groups that it can, and nothing else. -/
theorem read_groups_eq_ok {remaining value shift : ℕ} (hvalue : value < 2 ^ shift) {p : ℕ × ℕ} :
    read_groups data remaining offset value shift = .ok p ↔
      ∃ groups, Reads data remaining offset value shift p groups := by
  induction remaining generalizing offset value shift with
  | zero =>
      rw [read_groups]
      constructor
      · intro h
        cases h
      · rintro ⟨groups, h⟩
        have := h.terminated.length_pos
        have := h.length_le
        omega
  | succ remaining ih =>
      rw [read_groups]
      cases hbyte : data[offset]? with
      | none =>
          constructor
          · intro h
            cases h
          · rintro ⟨groups, h⟩
            exact absurd h (not_reads_of_end hbyte groups)
      | some b =>
          -- The value so far and the group share no bit: `|` is an addition.
          have hnext : value ||| (b &&& 0x7F).toNat <<< shift =
              value + 2 ^ shift * (b.toNat % 128) := by
            rw [or_shifted _ hvalue, and_0x7F]
          have hvalue' : value + 2 ^ shift * (b.toNat % 128) < 2 ^ (shift + 7) := by
            have hgroup : b.toNat % 128 < 128 := Nat.mod_lt _ (by decide)
            have hle : 2 ^ shift * (b.toNat % 128) ≤ 2 ^ shift * 127 :=
              Nat.mul_le_mul_left _ (by omega)
            rw [Nat.pow_add]
            omega
          dsimp only
          rw [hnext]
          by_cases hlast : b.toNat < 128
          · rw [if_pos ((and_0x80 b).mpr hlast), reads_last hbyte hlast]
            constructor
            · intro h
              split at h
              · cases h
              · next hcanonical =>
                  obtain rfl := Except.ok.inj h
                  exact ⟨rfl, hcanonical⟩
            · rintro ⟨rfl, hcanonical⟩
              rw [if_neg hcanonical]
          · rw [if_neg (mt (and_0x80 b).mp hlast), ih hvalue', reads_more hbyte hlast]

theorem read_uleb128_eq_ok {p : ℕ × ℕ} :
    read_uleb128 data offset = .ok p ↔
      ∃ groups, Accepted groups ∧ groups <+: data.drop offset
        ∧ p = (Uleb128.value groups, offset + groups.length) := by
  rw [read_uleb128, read_groups_eq_ok (by decide)]
  constructor
  · intro ⟨groups, hterminated, hlength, hbegins, hp, hcanonical⟩
    simp only [pow_zero, one_mul, zero_add, lt_irrefl, false_or] at hp hcanonical
    rw [hp] at hcanonical
    exact ⟨groups, ⟨hterminated, hlength, hcanonical⟩, hbegins, hp⟩
  · intro ⟨groups, ⟨hterminated, hlength, hcanonical⟩, hbegins, hp⟩
    refine ⟨groups, hterminated, hlength, hbegins, ?_, ?_⟩
    · simpa using hp
    · rw [hp]
      simpa using hcanonical

/-! ## What it should accept -/

/-- Groups that spell no `u32` as one is spelt and are yet accepted: their last is
zero although one before it, after the first, is not; or they are five and the
last has bits beyond the thirty-second. -/
def Misspelt (groups : List UInt8) : Prop :=
  (groups.getLast? = some 0 ∧ ∃ b ∈ groups.tail.dropLast, b ≠ 0x80)
    ∨ (groups.length = 5 ∧ ∃ b, groups.getLast? = some b ∧ 16 ≤ b.toNat)

/-- Such groups stand at an offset. -/
def MisspeltAt (data : List UInt8) (offset : ℕ) : Prop :=
  ∃ groups, Uleb128.Terminated groups ∧ groups.length ≤ 5 ∧ groups <+: data.drop offset
    ∧ Misspelt groups

theorem misspelt_iff {groups : List UInt8} (hterminated : Uleb128.Terminated groups)
    (hlength : groups.length ≤ 5) :
    Misspelt groups ↔
      Accepted groups ∧ ¬ (Uleb128.Minimal groups ∧ Uleb128.value groups < 2 ^ 32) := by
  have hzero : ∀ b : UInt8, b = 0 ↔ b.toNat = 0 := by
    intro b
    rw [← UInt8.toNat_inj, UInt8.toNat_zero]
  have hempty : ∀ b : UInt8, b = 128 ↔ b.toNat = 128 := by
    intro b
    rw [← UInt8.toNat_inj]
    rfl
  have hlt := UInt8.toNat_lt
  rw [Accepted, and_iff_right hterminated, and_iff_right hlength]
  -- No more than five groups are accepted: the number of them is what the two sides are compared
  -- by.
  rcases groups with _ | ⟨a, _ | ⟨b, _ | ⟨c, _ | ⟨d, _ | ⟨e, _ | ⟨f, rest⟩⟩⟩⟩⟩⟩
  · exact absurd hterminated id
  · simp [Misspelt, Uleb128.Minimal, Uleb128.value, Uleb128.Terminated] at *
    omega
  · simp [Misspelt, Uleb128.Minimal, Uleb128.value, Uleb128.Terminated, hzero] at *
    omega
  · simp [Misspelt, Uleb128.Minimal, Uleb128.value, Uleb128.Terminated, hzero, hempty] at *
    have ha := hlt a
    have hb := hlt b
    omega
  · simp [Misspelt, Uleb128.Minimal, Uleb128.value, Uleb128.Terminated, hzero, hempty] at *
    have ha := hlt a
    have hb := hlt b
    have hc := hlt c
    omega
  · simp [Misspelt, Uleb128.Minimal, Uleb128.value, Uleb128.Terminated, hzero, hempty] at *
    have ha := hlt a
    have hb := hlt b
    have hc := hlt c
    have hd := hlt d
    omega
  · simp only [List.length_cons] at hlength
    omega

theorem accepted_encode (h : n < 2 ^ 32) : Accepted (Uleb128.encode n) := by
  refine ⟨Uleb128.terminated_encode n, ?_, ?_⟩
  · have hlength := Uleb128.length_encode_le (k := 4) (n := n) (h.trans (by decide))
    omega
  · rw [Uleb128.value_encode]
    intro hshort
    rw [Uleb128.encode_of_lt hshort.1] at hshort
    simp at hshort

/-- What the accepted groups at an offset are misspelt for. -/
theorem misspeltAt_iff {groups : List UInt8} (haccepted : Accepted groups)
    (hbegins : groups <+: data.drop offset) :
    MisspeltAt data offset ↔
      ¬ (Uleb128.value groups < 2 ^ 32 ∧ groups = Uleb128.encode (Uleb128.value groups)) := by
  obtain ⟨hterminated, hlength, -⟩ := id haccepted
  have hspelt : Uleb128.Minimal groups ↔ groups = Uleb128.encode (Uleb128.value groups) := by
    constructor
    · intro hminimal
      exact (Uleb128.encode_value hterminated hminimal).symm
    · intro hencode
      rw [hencode]
      exact Uleb128.minimal_encode _
  have hhere : MisspeltAt data offset ↔ Misspelt groups := by
    constructor
    · intro ⟨other, hother, _, hbegins', hmisspelt⟩
      rw [hterminated.eq_of_begins hother hbegins hbegins']
      exact hmisspelt
    · intro hmisspelt
      exact ⟨groups, hterminated, hlength, hbegins, hmisspelt⟩
  rw [hhere, misspelt_iff hterminated hlength, and_iff_right haccepted, hspelt,
    and_comm (a := groups = _)]

/-- At an offset the reader accepts exactly the `u32`s spelt there, and moves past
them. -/
def ReadsExactly (data : List UInt8) (offset : ℕ) : Prop :=
  ∀ value next, read_uleb128 data offset = .ok (value, next) ↔
    value < 2 ^ 32 ∧ Uleb128.encode value <+: data.drop offset
      ∧ next = offset + (Uleb128.encode value).length

theorem readsExactly_iff (data : List UInt8) (offset : ℕ) :
    ReadsExactly data offset ↔ ¬ MisspeltAt data offset := by
  constructor
  · intro hexact ⟨groups, hterminated, hlength, hbegins, hmisspelt⟩
    obtain ⟨haccepted, hbad⟩ := (misspelt_iff hterminated hlength).mp hmisspelt
    obtain ⟨hfits, hencode, -⟩ :=
      (hexact _ _).mp (read_uleb128_eq_ok.mpr ⟨groups, haccepted, hbegins, rfl⟩)
    refine (misspeltAt_iff haccepted hbegins).mp
      ⟨groups, hterminated, hlength, hbegins, hmisspelt⟩ ⟨hfits, ?_⟩
    exact hterminated.eq_of_begins (Uleb128.terminated_encode _) hbegins hencode
  · intro hspelt value next
    rw [read_uleb128_eq_ok]
    constructor
    · intro ⟨groups, haccepted, hbegins, hp⟩
      rw [misspeltAt_iff haccepted hbegins, not_not] at hspelt
      obtain ⟨hvalue, hnext⟩ := Prod.mk.inj hp
      rw [hvalue, ← hspelt.2]
      exact ⟨hspelt.1, hbegins, hnext⟩
    · intro ⟨hfits, hbegins, hnext⟩
      refine ⟨Uleb128.encode value, accepted_encode hfits, hbegins, ?_⟩
      rw [Uleb128.value_encode, hnext]

/-! ## What a decode was read from -/

theorem utf8_of_fromUTF8 {raw : List UInt8} {text : String}
    (h : String.fromUTF8? ⟨raw.toArray⟩ = some text) : utf8 text = raw := by
  unfold String.fromUTF8? at h
  split at h
  · rw [Option.some.injEq] at h
    rw [← h]
    exact List.toList_toArray
  · cases h

theorem slice_eq {length : ℕ} (h : offset + length ≤ data.length) :
    data.drop offset = slice data offset (offset + length) ++ data.drop (offset + length)
      ∧ (slice data offset (offset + length)).length = length := by
  have hslice : slice data offset (offset + length) = (data.drop offset).take length := by
    rw [slice, List.drop_take]
    congr 1
    omega
  rw [hslice, ← List.drop_drop, List.take_append_drop, List.length_take, List.length_drop]
  exact ⟨rfl, by omega⟩

/-- The length is spelt by accepted groups, and the text follows. -/
theorem read_string_eq_ok {label text : String} {next : ℕ}
    (h : read_string data offset label = .ok (text, next)) :
    ∃ groups, Accepted groups ∧ Uleb128.value groups = (utf8 text).length
      ∧ data.drop offset = groups ++ (utf8 text ++ data.drop next) := by
  rw [read_string, bind_eq_ok] at h
  obtain ⟨⟨length, start⟩, hlength, h⟩ := h
  rw [bind_eq_ok] at h
  obtain ⟨⟨raw, finish⟩, hraw, h⟩ := h
  obtain ⟨groups, haccepted, ⟨rest, hrest⟩, hp⟩ := read_uleb128_eq_ok.mp hlength
  obtain ⟨hvalue, hstart⟩ := Prod.mk.inj hp
  rw [read_bytes] at hraw
  split at hraw
  · cases hraw
  · next hfits =>
      obtain ⟨hraw, hfinish⟩ := Prod.mk.inj (Except.ok.inj hraw)
      obtain ⟨hslice, hslice_length⟩ := slice_eq
        (show start + length ≤ data.length by omega)
      dsimp only at h
      split at h
      · next decoded hdecoded =>
          obtain ⟨htext, hnext⟩ := Prod.mk.inj (Except.ok.inj h)
          have hutf8 : utf8 text = raw := by
            rw [← htext]
            exact utf8_of_fromUTF8 hdecoded
          have hdrop : data.drop start = rest := by
            rw [hstart, ← List.drop_drop, ← hrest, List.drop_left]
          refine ⟨groups, haccepted, ?_, ?_⟩
          · rw [hutf8, ← hraw, hslice_length, hvalue]
          · rw [← hrest, ← hdrop, hslice, hutf8, ← hraw, ← hnext, ← hfinish]
      · cases h

theorem to_little_endian_little_endian (bs : List UInt8) :
    to_little_endian bs.length (little_endian bs) = bs := by
  induction bs with
  | nil => rfl
  | cons b bs ih =>
      have hb := b.toNat_lt
      have hlow : (b.toNat + 256 * little_endian bs) % 256 = b.toNat := by omega
      have hhigh : (b.toNat + 256 * little_endian bs) / 256 = little_endian bs := by omega
      rw [List.length_cons, little_endian, to_little_endian, hlow, hhigh, ih, UInt8.ofNat_toNat]

/-- Each character of a digest is one byte. -/
theorem length_utf8_of_digest {text : String} (h : matches_digest text = true) :
    (utf8 text).length = 64 := by
  have hascii : ∀ c : Char, is_upper_hex c = true → c.utf8Size = 1 := by
    intro c hc
    rw [Char.utf8Size_eq_one_iff]
    rw [is_upper_hex, decide_eq_true_eq] at hc
    rcases hc with hdigit | hletter
    · exact UInt32.le_trans hdigit.2 (by decide)
    · exact UInt32.le_trans hletter.2 (by decide)
  rw [matches_digest, Bool.and_eq_true, decide_eq_true_eq, List.all_eq_true] at h
  obtain ⟨hlength, hall⟩ := h
  have hones : ∀ cs : List Char, (∀ c ∈ cs, is_upper_hex c = true) →
      (cs.flatMap String.utf8EncodeChar).length = cs.length := by
    intro cs hcs
    induction cs with
    | nil => rfl
    | cons c cs ih =>
        rw [List.flatMap_cons, List.length_append, String.length_utf8EncodeChar,
          hascii c (hcs c (List.mem_cons_self ..)),
          ih (fun d hd => hcs d (List.mem_cons_of_mem _ hd)), List.length_cons, Nat.add_comm]
  rw [utf8, ← String.utf8Encode_toList, List.utf8Encode, List.data_toByteArray,
    List.toList_toArray, hones _ hall, hlength]

/-- **What a decode was read from.** Only the groups that spell the length of the
name are in doubt: a digest is too short for its own to be spelt twice. -/
theorem decode_eq_ok {fields : Fields} (h : decode data = .ok fields) :
    ∃ groups rest, Accepted groups ∧ Uleb128.value groups = (utf8 fields.name).length
      ∧ (utf8 fields.source_digest).length = 64 ∧ rest ≠ []
      ∧ data = groups ++ utf8 fields.name ++ fields.upgrade_policy_number ::
          (to_little_endian 8 (parse_decimal fields.upgrade_number)
            ++ (Uleb128.encode 64 ++ utf8 fields.source_digest)) ++ rest := by
  rw [decode, bind_eq_ok] at h
  obtain ⟨⟨name, offset⟩, hname, h⟩ := h
  rw [bind_eq_ok] at h
  obtain ⟨policy, hpolicy, h⟩ := h
  rw [bind_eq_ok] at h
  obtain ⟨⟨raw_upgrade, next⟩, hupgrade, h⟩ := h
  rw [bind_eq_ok] at h
  obtain ⟨⟨source_digest, finish⟩, hdigest, h⟩ := h
  simp only [bind_eq_ok, throwIf_eq_ok, pure_eq_ok, exists_const] at h
  obtain ⟨hmatches, -, -, hmore, hfields⟩ := h
  subst hfields
  obtain ⟨groups, haccepted, hvalue, hdata⟩ := read_string_eq_ok hname
  obtain ⟨digest_groups, ⟨hterminated, -, hone⟩, hvalue', hdata'⟩ := read_string_eq_ok hdigest
  have hlength : (utf8 source_digest).length = 64 :=
    length_utf8_of_digest (Bool.of_not_eq_false hmatches)
  have hbyte : data[offset]? = some policy := by
    rw [byte_at] at hpolicy
    split at hpolicy
    · cases hpolicy
    · next b hb =>
        rw [hb, Except.ok.inj hpolicy]
  rw [read_bytes] at hupgrade
  split at hupgrade
  · cases hupgrade
  · next hfits =>
      obtain ⟨hraw, hnext⟩ := Prod.mk.inj (Except.ok.inj hupgrade)
      obtain ⟨hslice, hslice_length⟩ := slice_eq
        (show offset + 1 + 8 ≤ data.length by omega)
      rw [hraw] at hslice hslice_length
      rw [hnext] at hslice
      -- Below 128 only one group is accepted, so that the digest's length is minimal.
      have hgroups : digest_groups = Uleb128.encode 64 := by
        have hminimal : Uleb128.Minimal digest_groups := by
          intro hlong
          exact absurd ⟨by omega, hlong⟩ hone
        rw [← Uleb128.encode_value hterminated hminimal, hvalue', hlength]
      have hupgrade : to_little_endian 8 (little_endian raw_upgrade) = raw_upgrade := by
        rw [← hslice_length]
        exact to_little_endian_little_endian raw_upgrade
      have hdecimal : parse_decimal (toString (little_endian raw_upgrade)) =
          little_endian raw_upgrade := by
        rw [parse_decimal, Nat.toString_eq_repr, Nat.toList_repr, Nat.ofDigitChars_ten_toDigits]
      refine ⟨groups, data.drop finish, haccepted, hvalue, hlength, ?_, ?_⟩
      · intro hend
        rw [List.drop_eq_nil_iff] at hend
        exact hmore hend
      · rw [List.drop_zero] at hdata
        rw [hdecimal, hupgrade, ← hgroups]
        calc data = groups ++ (utf8 name ++ data.drop offset) := hdata
          _ = groups ++ (utf8 name ++ policy :: (raw_upgrade ++ (digest_groups ++
              (utf8 source_digest ++ data.drop finish)))) := by
            rw [drop_eq_cons hbyte, hslice, hdata']
          _ = _ := by simp only [List.append_assoc, List.cons_append]

/-- The fields encode again to a proper prefix of what they were read from. -/
def Reencodes (fields : Fields) (data : List UInt8) : Prop :=
  ∃ header, encode_header fields = some header ∧ header <+: data ∧ header ≠ data

theorem reencodes_iff {fields : Fields} (h : decode data = .ok fields) :
    Reencodes fields data ↔ ¬ MisspeltAt data 0 := by
  obtain ⟨groups, rest, haccepted, hvalue, hdigest, hrest, hdata⟩ := decode_eq_ok h
  have hbegins : groups <+: data.drop 0 := by
    rw [List.drop_zero, hdata, List.append_assoc, List.append_assoc]
    exact List.prefix_append _ _
  have hencode_digest : encode_string fields.source_digest =
      some (Uleb128.encode 64 ++ utf8 fields.source_digest) := by
    rw [encode_string, hdigest, if_pos (by decide)]
  rw [misspeltAt_iff haccepted hbegins, not_not, hvalue]
  constructor
  · intro ⟨header, hheader, hheader_prefix, _⟩
    rw [encode_header, hencode_digest, encode_string] at hheader
    by_cases hfits : (utf8 fields.name).length < 2 ^ 32
    · rw [if_pos hfits] at hheader
      have hname : Uleb128.encode (utf8 fields.name).length <+: data := by
        refine List.IsPrefix.trans ?_ hheader_prefix
        rw [← Option.some.inj hheader, List.append_assoc]
        exact List.prefix_append _ _
      rw [List.drop_zero] at hbegins
      exact ⟨hfits, haccepted.1.eq_of_begins (Uleb128.terminated_encode _) hbegins hname⟩
    · rw [if_neg hfits] at hheader
      cases hheader
  · intro ⟨hfits, hgroups⟩
    refine ⟨_, ?_, ⟨rest, hdata.symm⟩, ?_⟩
    · rw [encode_header, hencode_digest, encode_string, if_pos hfits, ← hgroups]
      rfl
    · intro hall
      rw [hall] at hdata
      exact hrest (List.self_eq_append_right.mp hdata)

/-- **Where header decoding is exact.** A number is read exactly where its groups
are not misspelt, a decode encodes again to a proper prefix of its bytes exactly
when the length it starts with is not, and of such bytes the fields tell the
header. -/
theorem decode_exact (data : List UInt8) :
    (∀ offset, ReadsExactly data offset ↔ ¬ MisspeltAt data offset)
      ∧ (∀ fields, decode data = .ok fields →
          (Reencodes fields data ↔ ¬ MisspeltAt data 0))
      ∧ ∀ data' fields, decode data = .ok fields → decode data' = .ok fields →
          ¬ MisspeltAt data 0 → ¬ MisspeltAt data' 0 →
            ∃ header rest rest', encode_header fields = some header
              ∧ data = header ++ rest ∧ data' = header ++ rest' := by
  refine ⟨readsExactly_iff data, fun _ h => reencodes_iff h, ?_⟩
  intro data' fields h h' hspelt hspelt'
  obtain ⟨header, hheader, ⟨rest, hrest⟩, -⟩ := (reencodes_iff h).mpr hspelt
  obtain ⟨header', hheader', ⟨rest', hrest'⟩, -⟩ := (reencodes_iff h').mpr hspelt'
  rw [hheader] at hheader'
  rw [← Option.some.inj hheader'] at hrest'
  exact ⟨header, rest, rest', hheader, hrest.symm, hrest'.symm⟩

/-- What follows the length of a name of 128 letters. -/
def named : List UInt8 :=
  List.replicate 128 65 ++ [0] ++ List.replicate 8 0 ++ [64] ++ List.replicate 64 48 ++ [1]

/-- A length of 128 in three groups, the last of them zero. -/
theorem misspeltAt_128 (rest : List UInt8) : MisspeltAt ([0x80, 0x81, 0x00] ++ rest) 0 := by
  refine ⟨[0x80, 0x81, 0x00], ?_, by decide, List.prefix_append _ _, .inl ?_⟩
  · show 128 ≤ 128 ∧ 128 ≤ 129 ∧ 0 < 128
    decide
  · decide

/-- It is read like the one in two, so that two headers have the same fields and
only one of them is what the fields encode to. -/
theorem decode_not_exact :
    (¬ ∀ data offset, ReadsExactly data offset)
      ∧ (¬ ∀ data fields, decode data = .ok fields → Reencodes fields data)
      ∧ ∃ first second rest, first ≠ second ∧ (decode (first ++ rest)).toOption.isSome
          ∧ decode (first ++ rest) = decode (second ++ rest) := by
  have haccepted : (decode ([0x80, 0x81, 0x00] ++ named)).toOption.isSome := by decide +kernel
  refine ⟨?_, ?_, [0x80, 0x81, 0x00], [0x80, 0x01], named, by decide, haccepted,
    by decide +kernel⟩
  · intro hexact
    exact (readsExactly_iff _ _).mp (hexact ([0x80, 0x81, 0x00] ++ []) 0) (misspeltAt_128 [])
  · intro hreencodes
    cases hdecode : decode ([0x80, 0x81, 0x00] ++ named) with
    | error e =>
        rw [hdecode] at haccepted
        cases haccepted
    | ok fields =>
        exact (reencodes_iff hdecode).mp (hreencodes _ _ hdecode) (misspeltAt_128 named)

end CedraReflect.decode_package_metadata_header
