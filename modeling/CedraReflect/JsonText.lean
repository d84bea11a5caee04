/-
The text of JSON values.

A printed value is read back from any text it begins, since no value's text goes
on where another character than one of a number follows. The reader also takes
what the printer never writes: blanks, escapes, repeated names. What becomes of
repeated names is left to the language that reads, whose objects keep their names
in an order of their own.
-/
import Mathlib.Data.List.Sort
import Mathlib.Data.Nat.Digits.Lemmas

set_option autoImplicit false

namespace CedraReflect

/-- The characters of a JSON number. -/
def numeral (c : Char) : Bool := c.isDigit || c = '-' || c = '+' || c = '.' || c = 'e' || c = 'E'

/-- A type of numbers with their texts. -/
class NumberText (ν : Type) where
  print : ν → List Char
  read : List Char → Option ν
  read_print : ∀ n, read (print n) = some n
  print_ne_nil : ∀ n, print n ≠ []
  numeral_of_mem : ∀ n, ∀ c ∈ print n, numeral c = true

/-! The decimals of a natural number. -/

theorem isDigit_digitChar {d : ℕ} (h : d < 10) : (Nat.digitChar d).isDigit = true := by
  have hall : ∀ d < 10, (Nat.digitChar d).isDigit = true := by decide
  exact hall d h

theorem digitChar_toNat {d : ℕ} (h : d < 10) : (Nat.digitChar d).toNat - 48 = d := by
  have hall : ∀ d < 10, (Nat.digitChar d).toNat - 48 = d := by decide
  exact hall d h

instance : NumberText ℕ where
  print n := if n = 0 then ['0'] else (Nat.digits 10 n).reverse.map Nat.digitChar
  read cs :=
    if cs ≠ [] ∧ cs.all Char.isDigit then
      some (Nat.ofDigits 10 (cs.reverse.map fun c => c.toNat - 48))
    else none
  read_print n := by
    by_cases hn : n = 0
    · rw [if_pos hn, hn]
      decide
    · have hlt : ∀ d ∈ Nat.digits 10 n, d < 10 := fun d hd => Nat.digits_lt_base (by decide) hd
      have hne : (Nat.digits 10 n).reverse.map Nat.digitChar ≠ [] := by
        simpa [Nat.digits_eq_nil_iff_eq_zero] using hn
      have hall : ((Nat.digits 10 n).reverse.map Nat.digitChar).all Char.isDigit = true := by
        rw [List.all_eq_true]
        intro c hc
        obtain ⟨d, hd, rfl⟩ := List.mem_map.mp hc
        exact isDigit_digitChar (hlt d (List.mem_reverse.mp hd))
      have hback : (((Nat.digits 10 n).reverse.map Nat.digitChar).reverse.map
          fun c => c.toNat - 48) = Nat.digits 10 n := by
        rw [← List.map_reverse, List.reverse_reverse, List.map_map]
        conv_rhs => rw [← List.map_id (Nat.digits 10 n)]
        apply List.map_congr_left
        intro d hd
        exact digitChar_toNat (hlt d hd)
      rw [if_neg hn, if_pos ⟨hne, hall⟩, hback, Nat.ofDigits_digits]
  print_ne_nil n := by
    by_cases hn : n = 0
    · rw [if_pos hn]
      decide
    · rw [if_neg hn]
      simpa [Nat.digits_eq_nil_iff_eq_zero] using hn
  numeral_of_mem n c hc := by
    by_cases hn : n = 0
    · rw [if_pos hn, List.mem_singleton] at hc
      rw [hc]
      decide
    · rw [if_neg hn] at hc
      obtain ⟨d, hd, rfl⟩ := List.mem_map.mp hc
      have hdigit := isDigit_digitChar
        (Nat.digits_lt_base (by decide : 1 < 10) (List.mem_reverse.mp hd))
      simp [numeral, hdigit]

inductive Json (ν : Type) where
  | null
  | boolean (value : Bool)
  | number (value : ν)
  | string (value : String)
  | array (items : List (Json ν))
  | object (members : List (String × Json ν))
deriving Repr

namespace Json

/-! ## Printing -/

def hexDigit (n : ℕ) : Char := Char.ofNat (if n < 10 then 48 + n else 87 + n)

/-- What stands for a character in a string. -/
def escape (c : Char) : List Char :=
  if c = '"' then ['\\', '"']
  else if c = '\\' then ['\\', '\\']
  else if c = '\x08' then ['\\', 'b']
  else if c = '\x0c' then ['\\', 'f']
  else if c = '\n' then ['\\', 'n']
  else if c = '\r' then ['\\', 'r']
  else if c = '\t' then ['\\', 't']
  else if c.toNat < 32 then ['\\', 'u', '0', '0', hexDigit (c.toNat / 16), hexDigit (c.toNat % 16)]
  else [c]

/-- A string after its first quote. -/
def escaped (s : String) : List Char := s.toList.flatMap escape ++ ['"']

section Print

variable {ν : Type} [NumberText ν]

mutual

def print : Json ν → List Char
  | .null => ['n', 'u', 'l', 'l']
  | .boolean true => ['t', 'r', 'u', 'e']
  | .boolean false => ['f', 'a', 'l', 's', 'e']
  | .number n => NumberText.print n
  | .string s => '"' :: escaped s
  | .array items => '[' :: printItems items
  | .object members => '{' :: printMembers members

/-- The items of an array and its end. -/
def printItems : List (Json ν) → List Char
  | [] => [']']
  | [v] => print v ++ [']']
  | v :: w :: rest => print v ++ ',' :: printItems (w :: rest)

/-- The members of an object and its end. -/
def printMembers : List (String × Json ν) → List Char
  | [] => ['}']
  | [(k, v)] => '"' :: escaped k ++ ':' :: print v ++ ['}']
  | (k, v) :: w :: rest => '"' :: escaped k ++ ':' :: print v ++ ',' :: printMembers (w :: rest)

end

end Print

/-! ## Reading -/

def hexValue (c : Char) : Option ℕ :=
  if c.isDigit then some (c.toNat - 48)
  else if 97 ≤ c.toNat ∧ c.toNat ≤ 102 then some (c.toNat - 87)
  else if 65 ≤ c.toNat ∧ c.toNat ≤ 70 then some (c.toNat - 55)
  else none

/-- The character of a short escape. -/
def unescape (c : Char) : Option ℕ :=
  if c = '"' then some 34
  else if c = '\\' then some 92
  else if c = '/' then some 47
  else if c = 'b' then some 8
  else if c = 'f' then some 12
  else if c = 'n' then some 10
  else if c = 'r' then some 13
  else if c = 't' then some 9
  else none

/-- A string after its first quote: its characters, and the halves of characters that
escapes are for. -/
def readUnits : List Char → Option (List ℕ × List Char)
  | [] => none
  | c :: rest =>
      if c = '"' then some ([], rest)
      else if c = '\\' then
        match rest with
        | 'u' :: a :: b :: d :: e :: rest => do
            let a ← hexValue a
            let b ← hexValue b
            let d ← hexValue d
            let e ← hexValue e
            let (units, rest) ← readUnits rest
            some ((4096 * a + 256 * b + 16 * d + e) :: units, rest)
        | e :: rest => do
            let unit ← unescape e
            let (units, rest) ← readUnits rest
            some (unit :: units, rest)
        | [] => none
      else if c.toNat < 32 then none
      else do
        let (units, rest) ← readUnits rest
        some (c.toNat :: units, rest)

/-- Two halves make a character, and one alone makes none. -/
def pairUp : List ℕ → Option (List Char)
  | [] => some []
  | [u] => if 0xD800 ≤ u ∧ u < 0xE000 then none else some [Char.ofNat u]
  | u :: v :: rest =>
      if 0xD800 ≤ u ∧ u < 0xDC00 ∧ 0xDC00 ≤ v ∧ v < 0xE000 then
        (pairUp rest).map (Char.ofNat (0x10000 + 0x400 * (u - 0xD800) + (v - 0xDC00)) :: ·)
      else if 0xD800 ≤ u ∧ u < 0xE000 then none
      else (pairUp (v :: rest)).map (Char.ofNat u :: ·)

def readString (text : List Char) : Option (String × List Char) := do
  let (units, rest) ← readUnits text
  let cs ← pairUp units
  some (String.ofList cs, rest)

def space (c : Char) : Bool := c = ' ' || c = '\t' || c = '\n' || c = '\r'

def skip (text : List Char) : List Char := text.dropWhile space

section Read

variable {ν : Type} [NumberText ν]

mutual

/-- A value and what follows it. -/
def readValue : ℕ → List Char → Option (Json ν × List Char)
  | 0, _ => none
  | fuel + 1, text =>
      match skip text with
      | '{' :: rest =>
          match skip rest with
          | '}' :: rest => some (.object [], rest)
          | rest => (readMembers fuel rest).map fun (members, rest) => (.object members, rest)
      | '[' :: rest =>
          match skip rest with
          | ']' :: rest => some (.array [], rest)
          | rest => (readItems fuel rest).map fun (items, rest) => (.array items, rest)
      | '"' :: rest => (readString rest).map fun (s, rest) => (.string s, rest)
      | 'n' :: 'u' :: 'l' :: 'l' :: rest => some (.null, rest)
      | 't' :: 'r' :: 'u' :: 'e' :: rest => some (.boolean true, rest)
      | 'f' :: 'a' :: 'l' :: 's' :: 'e' :: rest => some (.boolean false, rest)
      | text => (NumberText.read (text.takeWhile numeral)).map fun n =>
          (.number n, text.dropWhile numeral)

/-- One item or more, up to the end of the array. -/
def readItems : ℕ → List Char → Option (List (Json ν) × List Char)
  | 0, _ => none
  | fuel + 1, text => do
      let (v, rest) ← readValue fuel text
      match skip rest with
      | ',' :: rest =>
          let (items, rest) ← readItems fuel rest
          some (v :: items, rest)
      | ']' :: rest => some ([v], rest)
      | _ => none

/-- One member or more, up to the end of the object. -/
def readMembers : ℕ → List Char → Option (List (String × Json ν) × List Char)
  | 0, _ => none
  | fuel + 1, text =>
      match skip text with
      | '"' :: rest => do
          let (k, rest) ← readString rest
          match skip rest with
          | ':' :: rest =>
              let (v, rest) ← readValue fuel rest
              match skip rest with
              | ',' :: rest =>
                  let (members, rest) ← readMembers fuel rest
                  some ((k, v) :: members, rest)
              | '}' :: rest => some ([(k, v)], rest)
              | _ => none
          | _ => none
      | _ => none

end

/-- The value of a whole text, its objects as they are written. -/
def read (text : List Char) : Option (Json ν) :=
  match readValue (2 * text.length) text with
  | some (v, rest) => if skip rest = [] then some v else none
  | none => none

end Read

/-! ## Strings are read back -/

theorem hexValue_hexDigit {n : ℕ} (h : n < 16) : hexValue (hexDigit n) = some n := by
  have hall : ∀ n < 16, hexValue (hexDigit n) = some n := by decide
  exact hall n h

theorem readUnits_short {e : Char} {unit : ℕ} (text : List Char) (hu : e ≠ 'u')
    (h : unescape e = some unit) :
    readUnits ('\\' :: e :: text) = (readUnits text).map fun p => (unit :: p.1, p.2) := by
  rw [readUnits, if_neg (by decide), if_pos rfl, h]
  · cases readUnits text <;> rfl
  · intro _ _ _ _ _ heq
    exact absurd heq hu

theorem readUnits_plain {c : Char} (text : List Char) (hquote : c ≠ '"') (hescape : c ≠ '\\')
    (h : ¬ c.toNat < 32) :
    readUnits (c :: text) = (readUnits text).map fun p => (c.toNat :: p.1, p.2) := by
  rw [readUnits.eq_def]
  dsimp only
  rw [if_neg hquote, if_neg hescape, if_neg h]
  cases readUnits text <;> rfl

theorem readUnits_hex {n : ℕ} (text : List Char) (h : n < 32) :
    readUnits ('\\' :: 'u' :: '0' :: '0' :: hexDigit (n / 16) :: hexDigit (n % 16) :: text)
      = (readUnits text).map fun p => (n :: p.1, p.2) := by
  have hhigh : hexValue (hexDigit (n / 16)) = some (n / 16) := hexValue_hexDigit (by omega)
  have hlow : hexValue (hexDigit (n % 16)) = some (n % 16) := hexValue_hexDigit (by omega)
  have hzero : hexValue '0' = some 0 := by decide
  have hsum : 4096 * 0 + 256 * 0 + 16 * (n / 16) + n % 16 = n := by omega
  rw [readUnits, if_neg (by decide), if_pos rfl]
  simp only [hhigh, hlow, hzero, Option.bind_eq_bind, Option.bind_some, hsum]
  cases readUnits text <;> rfl

/-- What the printer writes for a character is read as it. -/
theorem readUnits_escape (c : Char) (text : List Char) :
    readUnits (escape c ++ text) = (readUnits text).map fun p => (c.toNat :: p.1, p.2) := by
  unfold escape
  split_ifs with h₁ h₂ h₃ h₄ h₅ h₆ h₇ h₈
  · rw [h₁]
    exact readUnits_short text (by decide) (by decide)
  · rw [h₂]
    exact readUnits_short text (by decide) (by decide)
  · rw [h₃]
    exact readUnits_short text (by decide) (by decide)
  · rw [h₄]
    exact readUnits_short text (by decide) (by decide)
  · rw [h₅]
    exact readUnits_short text (by decide) (by decide)
  · rw [h₆]
    exact readUnits_short text (by decide) (by decide)
  · rw [h₇]
    exact readUnits_short text (by decide) (by decide)
  · exact readUnits_hex text h₈
  · exact readUnits_plain text h₁ h₂ h₈

/-- No character is a half of one. -/
theorem not_surrogate (c : Char) : ¬ (0xD800 ≤ c.toNat ∧ c.toNat < 0xE000) := by
  have := c.valid
  unfold UInt32.isValidChar Nat.isValidChar at this
  change c.toNat < 0xd800 ∨ 0xdfff < c.toNat ∧ c.toNat < 0x110000 at this
  omega

theorem pairUp_toNat (cs : List Char) : pairUp (cs.map Char.toNat) = some cs := by
  induction cs with
  | nil => rfl
  | cons c cs ih =>
      have hc := not_surrogate c
      cases cs with
      | nil =>
          simp only [List.map_cons, List.map_nil, pairUp]
          rw [if_neg hc, Char.ofNat_toNat]
      | cons d ds =>
          have hpair : ¬ (0xD800 ≤ c.toNat ∧ c.toNat < 0xDC00 ∧ 0xDC00 ≤ d.toNat
              ∧ d.toNat < 0xE000) := by omega
          rw [List.map_cons] at ih
          simp only [List.map_cons, pairUp]
          rw [if_neg hpair, if_neg hc, ih, Char.ofNat_toNat]
          rfl

theorem readUnits_escaped (cs text : List Char) :
    readUnits (cs.flatMap escape ++ '"' :: text) = some (cs.map Char.toNat, text) := by
  induction cs with
  | nil =>
      show readUnits ('"' :: text) = some ([], text)
      rw [readUnits.eq_def]
      dsimp only
      rw [if_pos rfl]
  | cons c cs ih =>
      rw [List.flatMap_cons, List.append_assoc, readUnits_escape, ih]
      rfl

/-- **A string is read back.** -/
theorem readString_escaped (s : String) (text : List Char) :
    readString (escaped s ++ text) = some (s, text) := by
  unfold readString escaped
  rw [List.append_assoc, List.singleton_append, readUnits_escaped]
  show (do
    let cs ← pairUp (s.toList.map Char.toNat)
    some (String.ofList cs, text)) = _
  rw [pairUp_toNat]
  show some (String.ofList s.toList, text) = _
  rw [String.ofList_toList]

/-! ## Values are read back -/

section RoundTrip

variable {ν : Type} [NumberText ν]

/-- No number goes on in `text`. -/
def Ends (text : List Char) : Prop := ∀ c ∈ text.head?, numeral c = false

theorem takeWhile_numeral {cs text : List Char} (h : ∀ c ∈ cs, numeral c = true) (ht : Ends text) :
    (cs ++ text).takeWhile numeral = cs ∧ (cs ++ text).dropWhile numeral = text := by
  induction cs with
  | nil =>
      cases text with
      | nil => exact ⟨rfl, rfl⟩
      | cons c text =>
          have hc := ht c rfl
          rw [List.nil_append, List.takeWhile_cons_of_neg (by simp [hc]),
            List.dropWhile_cons_of_neg (by simp [hc])]
          exact ⟨rfl, rfl⟩
  | cons c cs ih =>
      obtain ⟨htake, hdrop⟩ := ih fun d hd => h d (List.mem_cons_of_mem c hd)
      have hc := h c List.mem_cons_self
      rw [List.cons_append, List.takeWhile_cons_of_pos hc, List.dropWhile_cons_of_pos hc, htake,
        hdrop]
      exact ⟨rfl, rfl⟩

theorem skip_cons {c : Char} {text : List Char} (h : space c = false) :
    skip (c :: text) = c :: text :=
  List.dropWhile_cons_of_neg (by simp [h])

theorem not_space_of_numeral {c : Char} (h : numeral c = true) : space c = false := by
  by_contra hspace
  rw [Bool.not_eq_false] at hspace
  unfold space at hspace
  simp only [Bool.or_eq_true, decide_eq_true_eq] at hspace
  obtain ((rfl | rfl) | rfl) | rfl := hspace <;> revert h <;> decide

/-- What a value's text starts with: no blank, and nothing that ends an array. -/
theorem print_head (v : Json ν) : ∃ c text, print v = c :: text ∧ space c = false ∧ c ≠ ']' := by
  cases v with
  | null => exact ⟨_, _, by rw [print], by decide, by decide⟩
  | boolean value =>
      cases value with
      | true => exact ⟨_, _, by rw [print], by decide, by decide⟩
      | false => exact ⟨_, _, by rw [print], by decide, by decide⟩
  | number n =>
      obtain ⟨c, text, hprint⟩ := List.exists_cons_of_ne_nil (NumberText.print_ne_nil n)
      have hc := NumberText.numeral_of_mem n c (hprint ▸ List.mem_cons_self)
      refine ⟨c, text, by rw [print, hprint], not_space_of_numeral hc, ?_⟩
      intro heq
      rw [heq] at hc
      exact absurd hc (by decide)
  | string s => exact ⟨_, _, by rw [print], by decide, by decide⟩
  | array items => exact ⟨_, _, by rw [print], by decide, by decide⟩
  | object members => exact ⟨_, _, by rw [print], by decide, by decide⟩

/-- A number is read as one: its text starts like nothing else. -/
theorem readValue_number (n : ν) (fuel : ℕ) {text : List Char} (ht : Ends text) :
    readValue (fuel + 1) (NumberText.print n ++ text) = some (.number n, text) := by
  obtain ⟨c, cs, hprint⟩ := List.exists_cons_of_ne_nil (NumberText.print_ne_nil n)
  have hc := NumberText.numeral_of_mem n c (hprint ▸ List.mem_cons_self)
  obtain ⟨htake, hdrop⟩ := takeWhile_numeral (NumberText.numeral_of_mem n) ht
  have hread := NumberText.read_print n
  rw [hprint, List.cons_append] at htake hdrop
  rw [hprint] at hread
  rw [hprint, List.cons_append, readValue.eq_def]
  dsimp only
  rw [skip_cons (not_space_of_numeral hc)]
  split
  · next heq => exact absurd ((List.cons.inj heq).1 ▸ hc) (by decide)
  · next heq => exact absurd ((List.cons.inj heq).1 ▸ hc) (by decide)
  · next heq => exact absurd ((List.cons.inj heq).1 ▸ hc) (by decide)
  · next heq => exact absurd ((List.cons.inj heq).1 ▸ hc) (by decide)
  · next heq => exact absurd ((List.cons.inj heq).1 ▸ hc) (by decide)
  · next heq => exact absurd ((List.cons.inj heq).1 ▸ hc) (by decide)
  · rw [htake, hread, hdrop]
    rfl

theorem readValue_array {c : Char} {text : List Char} (fuel : ℕ) (hspace : space c = false)
    (h : c ≠ ']') : (readValue (fuel + 1) ('[' :: c :: text) : Option (Json ν × List Char))
      = (readItems fuel (c :: text)).map fun p => (.array p.1, p.2) := by
  rw [readValue.eq_def]
  dsimp only
  rw [skip_cons (by decide)]
  change (match skip (c :: text) with
    | ']' :: rest => some (Json.array [], rest)
    | rest => (readItems fuel rest).map
        fun (p : List (Json ν) × List Char) => (Json.array p.1, p.2)) = _
  rw [skip_cons hspace]
  split
  · next heq => exact absurd (List.cons.inj heq).1 h
  · rfl

theorem readValue_object (fuel : ℕ) (text : List Char) :
    (readValue (fuel + 1) ('{' :: '"' :: text) : Option (Json ν × List Char))
      = (readMembers fuel ('"' :: text)).map fun p => (.object p.1, p.2) := by
  rw [readValue.eq_def]
  dsimp only
  rw [skip_cons (by decide)]
  change (match skip ('"' :: text) with
    | '}' :: rest => some (Json.object [], rest)
    | rest => (readMembers fuel rest).map
        fun (p : List (String × Json ν) × List Char) => (Json.object p.1, p.2)) = _
  rw [skip_cons (by decide)]
  rfl

theorem skip_comma (text : List Char) : skip (',' :: text) = ',' :: text := skip_cons (by decide)

theorem readItems_last {v : Json ν} {fuel : ℕ} {text rest : List Char}
    (h : readValue fuel text = some (v, ']' :: rest)) :
    readItems (fuel + 1) text = some ([v], rest) := by
  have hskip : skip (']' :: rest) = ']' :: rest := skip_cons (by decide)
  rw [readItems, h]
  simp only [Option.bind_eq_bind, Option.bind_some, hskip]

theorem readItems_more {v : Json ν} {items : List (Json ν)} {fuel : ℕ}
    {text rest rest' : List Char} (h : readValue fuel text = some (v, ',' :: rest))
    (hitems : readItems fuel rest = some (items, rest')) :
    readItems (fuel + 1) text = some (v :: items, rest') := by
  rw [readItems, h]
  simp only [Option.bind_eq_bind, Option.bind_some, skip_comma, hitems]

theorem readMembers_last {k : String} {v : Json ν} {fuel : ℕ} {text rest : List Char}
    (h : readValue fuel text = some (v, '}' :: rest)) :
    readMembers (fuel + 1) ('"' :: (escaped k ++ ':' :: text)) = some ([(k, v)], rest) := by
  have hquote : skip ('"' :: (escaped k ++ ':' :: text)) = '"' :: (escaped k ++ ':' :: text) :=
    skip_cons (by decide)
  have hcolon : skip (':' :: text) = ':' :: text := skip_cons (by decide)
  have hbrace : skip ('}' :: rest) = '}' :: rest := skip_cons (by decide)
  rw [readMembers, hquote]
  simp only [readString_escaped, Option.bind_eq_bind, Option.bind_some, hcolon, h, hbrace]

theorem readMembers_more {k : String} {v : Json ν} {members : List (String × Json ν)} {fuel : ℕ}
    {text rest rest' : List Char} (h : readValue fuel text = some (v, ',' :: rest))
    (hmembers : readMembers fuel rest = some (members, rest')) :
    readMembers (fuel + 1) ('"' :: (escaped k ++ ':' :: text))
      = some ((k, v) :: members, rest') := by
  have hquote : skip ('"' :: (escaped k ++ ':' :: text)) = '"' :: (escaped k ++ ':' :: text) :=
    skip_cons (by decide)
  have hcolon : skip (':' :: text) = ':' :: text := skip_cons (by decide)
  rw [readMembers, hquote]
  simp only [readString_escaped, Option.bind_eq_bind, Option.bind_some, hcolon, h, skip_comma,
    hmembers]

/-- Nothing but a number goes on in the text of one. -/
theorem ends_cons {c : Char} (text : List Char) (h : numeral c = false) : Ends (c :: text) := by
  intro d hd
  rw [List.head?_cons, Option.mem_some_iff] at hd
  rw [← hd]
  exact h

/-- What `fuel` is enough to read: two units for every character. -/
structure ReadsBack (ν : Type) [NumberText ν] (fuel : ℕ) : Prop where
  value : ∀ (v : Json ν) (text : List Char), Ends text → 2 * (print v).length ≤ fuel →
    readValue fuel (print v ++ text) = some (v, text)
  items : ∀ (v : Json ν) (items : List (Json ν)) (text : List Char),
    2 * (printItems (v :: items)).length + 1 ≤ fuel →
      readItems fuel (printItems (v :: items) ++ text) = some (v :: items, text)
  members : ∀ (k : String) (v : Json ν) (members : List (String × Json ν)) (text : List Char),
    2 * (printMembers ((k, v) :: members)).length + 1 ≤ fuel →
      readMembers fuel (printMembers ((k, v) :: members) ++ text) = some ((k, v) :: members, text)

namespace ReadsBack

variable {fuel : ℕ} (h : ReadsBack ν fuel)

include h

theorem value_succ (v : Json ν) (text : List Char) (ht : Ends text)
    (hfuel : 2 * (print v).length ≤ fuel + 1) :
    readValue (fuel + 1) (print v ++ text) = some (v, text) := by
  cases v with
  | null =>
      rw [print, List.cons_append, readValue, skip_cons (by decide)]
      rfl
  | boolean value =>
      cases value with
      | true =>
          rw [print, List.cons_append, readValue, skip_cons (by decide)]
          rfl
      | false =>
          rw [print, List.cons_append, readValue, skip_cons (by decide)]
          rfl
  | number n =>
      rw [print]
      exact readValue_number n fuel ht
  | string s =>
      rw [print, List.cons_append, readValue, skip_cons (by decide)]
      change (readString (escaped s ++ text)).map (fun (s, rest) => (Json.string s, rest)) = _
      rw [readString_escaped]
      rfl
  | array items =>
      rw [print, List.length_cons] at hfuel
      rw [print]
      cases items with
      | nil =>
          rw [printItems, List.cons_append, readValue, skip_cons (by decide)]
          rfl
      | cons v items =>
          have hitems := h.items v items text (by omega)
          -- What follows the bracket is the text of a value.
          obtain ⟨c, cs, hhead, hspace, hne⟩ := print_head v
          obtain ⟨cs', hcs⟩ : ∃ cs', printItems (v :: items) = c :: cs' := by
            cases items with
            | nil => exact ⟨_, by rw [printItems, hhead, List.cons_append]⟩
            | cons w items => exact ⟨_, by rw [printItems, hhead, List.cons_append]⟩
          rw [hcs] at hitems ⊢
          rw [List.cons_append] at hitems
          rw [List.cons_append, List.cons_append, readValue_array fuel hspace hne, hitems]
          rfl
  | object members =>
      rw [print, List.length_cons] at hfuel
      rw [print]
      cases members with
      | nil =>
          rw [printMembers, List.cons_append, readValue, skip_cons (by decide)]
          rfl
      | cons member members =>
          obtain ⟨k, v⟩ := member
          have hmembers := h.members k v members text (by omega)
          obtain ⟨cs, hcs⟩ : ∃ cs, printMembers ((k, v) :: members) = '"' :: cs := by
            cases members with
            | nil => exact ⟨_, by rw [printMembers, List.cons_append, List.cons_append]⟩
            | cons w members => exact ⟨_, by rw [printMembers, List.cons_append, List.cons_append]⟩
          rw [hcs] at hmembers ⊢
          rw [List.cons_append] at hmembers
          rw [List.cons_append, List.cons_append, readValue_object, hmembers]
          rfl

theorem items_succ (v : Json ν) (items : List (Json ν)) (text : List Char)
    (hfuel : 2 * (printItems (v :: items)).length + 1 ≤ fuel + 1) :
    readItems (fuel + 1) (printItems (v :: items) ++ text) = some (v :: items, text) := by
  cases items with
  | nil =>
      rw [printItems, List.length_append] at hfuel
      rw [printItems, List.append_assoc, List.singleton_append]
      exact readItems_last (h.value v _ (ends_cons text (by decide)) (by omega))
  | cons w items =>
      rw [printItems, List.length_append, List.length_cons] at hfuel
      rw [printItems, List.append_assoc, List.cons_append]
      exact readItems_more (h.value v _ (ends_cons _ (by decide)) (by omega))
        (h.items w items text (by omega))

theorem members_succ (k : String) (v : Json ν) (members : List (String × Json ν))
    (text : List Char) (hfuel : 2 * (printMembers ((k, v) :: members)).length + 1 ≤ fuel + 1) :
    readMembers (fuel + 1) (printMembers ((k, v) :: members) ++ text)
      = some ((k, v) :: members, text) := by
  cases members with
  | nil =>
      simp only [printMembers, List.cons_append, List.length_cons, List.length_append] at hfuel
      simp only [printMembers, List.cons_append, List.append_assoc, List.nil_append]
      exact readMembers_last (h.value v _ (ends_cons text (by decide)) (by omega))
  | cons member members =>
      obtain ⟨k', w⟩ := member
      simp only [printMembers, List.cons_append, List.length_cons, List.length_append] at hfuel
      simp only [printMembers, List.cons_append, List.append_assoc]
      exact readMembers_more (h.value v _ (ends_cons _ (by decide)) (by omega))
        (h.members k' w members text (by omega))

end ReadsBack

theorem readsBack (fuel : ℕ) : ReadsBack ν fuel := by
  induction fuel with
  | zero =>
      refine ⟨?_, fun _ _ _ hfuel => by omega, fun _ _ _ _ hfuel => by omega⟩
      intro v text _ hfuel
      obtain ⟨c, cs, hprint, -, -⟩ := print_head v
      rw [hprint, List.length_cons] at hfuel
      omega
  | succ fuel ih => exact ⟨ih.value_succ, ih.items_succ, ih.members_succ⟩

/-- **A value is read back**, whatever blanks follow it. -/
theorem read_print (v : Json ν) {text : List Char} (h : skip text = []) :
    read (print v ++ text) = some v := by
  have hends : Ends text := by
    cases text with
    | nil => exact fun c hc => by cases hc
    | cons c text =>
        apply ends_cons
        by_contra hne
        have hspace := not_space_of_numeral (Bool.of_not_eq_false hne)
        rw [skip_cons hspace] at h
        cases h
  rw [read, (readsBack _).value v text hends (by rw [List.length_append]; omega)]
  exact if_pos h

/-- **No two values print alike.** -/
theorem print_injective {v w : Json ν} (h : print v = print w) : v = w := by
  have hv : read (print v ++ []) = some v := read_print v rfl
  rw [h, read_print w rfl] at hv
  exact (Option.some.inj hv).symm

end RoundTrip

end Json

end CedraReflect
