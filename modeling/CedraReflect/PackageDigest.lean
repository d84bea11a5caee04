/-
The three digests of the reviewed SDK package are one, and binding.

A stream of records is read back from its beginning. Neither hashes nor lengths
have a NUL in them and no safe path has a line feed, so that each part of a record
ends where the next separator is. What the stream does not bind is the bytes
beyond their hash.
-/
import CedraReflect.PackageWalks

set_option autoImplicit false

namespace CedraReflect.release

open indexer (bind_eq_ok bind_unit_eq_ok ok_bind pure_eq_ok throwIf)

/-! ## The stream of records -/

/-- What comes before a separator is found again. -/
theorem append_separator_inj {sep : Char} {x y rest rest' : List Char} (hx : sep ∉ x)
    (hy : sep ∉ y) (h : x ++ sep :: rest = y ++ sep :: rest') : x = y ∧ rest = rest' := by
  have hsplit := congrArg (List.splitOn sep) h
  rw [List.splitOn_append_cons_self_of_not_mem hx, List.splitOn_append_cons_self_of_not_mem hy]
    at hsplit
  have hxy : x = y := (List.cons.inj hsplit).1
  rw [hxy] at h
  exact ⟨hxy, (List.cons.inj (List.append_cancel_left h)).2⟩

/-- No hash has such a character in it. -/
theorem not_mem_hex {c : Char} (hc : ∀ n < 16, c ≠ Json.hexDigit n) (bytes : List UInt8) :
    c ∉ bytes.flatMap validate_release_transaction_bcs.hexByte := by
  intro hmem
  obtain ⟨b, -, hb⟩ := List.mem_flatMap.mp hmem
  have hlt : b.toNat < 256 := b.toNat_lt
  rw [validate_release_transaction_bcs.hexByte, List.mem_cons, List.mem_singleton] at hb
  rcases hb with hhigh | hlow
  · exact hc (b.toNat / 16) (by omega) hhigh
  · exact hc (b.toNat % 16) (by omega) hlow

theorem hexDigit_injective {m n : ℕ} (hm : m < 16) (hn : n < 16)
    (h : Json.hexDigit m = Json.hexDigit n) : m = n := by
  have hvalue := Json.hexValue_hexDigit hm
  rw [h, Json.hexValue_hexDigit hn] at hvalue
  exact (Option.some.inj hvalue).symm

/-- A hash is read back. -/
theorem hex_injective {a b : List UInt8}
    (h : a.flatMap validate_release_transaction_bcs.hexByte
      = b.flatMap validate_release_transaction_bcs.hexByte) : a = b := by
  induction a generalizing b with
  | nil =>
      cases b with
      | nil => rfl
      | cons y b => cases h
  | cons x a ih =>
      cases b with
      | nil => cases h
      | cons y b =>
          rw [List.flatMap_cons, List.flatMap_cons] at h
          obtain ⟨hhigh, h⟩ := List.cons.inj h
          obtain ⟨hlow, h⟩ := List.cons.inj h
          have hx : x.toNat < 256 := x.toNat_lt
          have hy : y.toNat < 256 := y.toNat_lt
          have hdiv := hexDigit_injective (by omega) (by omega) hhigh
          have hmod := hexDigit_injective (by omega) (by omega) hlow
          have hxy : x = y := UInt8.toNat_inj.mp (by omega)
          rw [hxy, ih h]

/-- The record of a file, by what the package is known by. -/
def recordText (content : List String × ℕ × List UInt8) : List Char :=
  content.2.2.flatMap validate_release_transaction_bcs.hexByte ++
    '\x00' :: (NumberText.print content.2.1 ++ '\x00' :: (posix content.1 ++ ['\n']))

/-- **A record is found again in a stream that begins with it.** -/
theorem recordText_append_inj {a b : List String × ℕ × List UInt8} (ha : SafePath a.1)
    (hb : SafePath b.1) {rest rest' : List Char}
    (h : recordText a ++ rest = recordText b ++ rest') : a = b ∧ rest = rest' := by
  -- None of the three fields has the character that ends it, so that each is read back.
  have hhex : ∀ bytes : List UInt8,
      '\x00' ∉ bytes.flatMap validate_release_transaction_bcs.hexByte :=
    not_mem_hex (by decide)
  have hdecimal : ∀ n : ℕ, '\x00' ∉ NumberText.print n := by
    intro n hmem
    have hnumeral := NumberText.numeral_of_mem n _ hmem
    revert hnumeral
    decide
  have hpath : ∀ path : List String, SafePath path → '\n' ∉ posix path := by
    intro path hsafe hmem
    have hnewline := hsafe.safe_of_mem _ hmem
    revert hnewline
    decide
  simp only [recordText, List.append_assoc, List.cons_append, List.nil_append] at h
  obtain ⟨hhash, h⟩ := append_separator_inj (hhex a.2.2) (hhex b.2.2) h
  obtain ⟨hlength, h⟩ := append_separator_inj (hdecimal a.2.1) (hdecimal b.2.1) h
  obtain ⟨hname, hrest⟩ := append_separator_inj (hpath a.1 ha) (hpath b.1 hb) h
  have hlength' : a.2.1 = b.2.1 := by
    have hread := NumberText.read_print a.2.1
    rw [hlength, NumberText.read_print] at hread
    exact (Option.some.inj hread).symm
  exact ⟨Prod.ext (ha.posix_injective hb hname) (Prod.ext hlength' (hex_injective hhash)), hrest⟩

/-- **A stream of records is the stream of one list of files.** -/
theorem stream_injective {as bs : List (List String × ℕ × List UInt8)}
    (has : ∀ a ∈ as, SafePath a.1) (hbs : ∀ b ∈ bs, SafePath b.1)
    (h : (as.map recordText).flatten = (bs.map recordText).flatten) : as = bs := by
  have hne : ∀ (a : List String × ℕ × List UInt8) (rest : List Char),
      recordText a ++ rest ≠ [] := by
    intro a rest hnil
    rw [recordText] at hnil
    simp at hnil
  -- A stream that is not empty begins with the record of one file.
  induction as generalizing bs with
  | nil =>
      cases bs with
      | nil => rfl
      | cons b bs =>
          rw [List.map_cons, List.flatten_cons] at h
          exact absurd h.symm (hne b _)
  | cons a as ih =>
      cases bs with
      | nil =>
          rw [List.map_cons, List.flatten_cons] at h
          exact absurd h (hne a _)
      | cons b bs =>
          rw [List.forall_mem_cons] at has hbs
          rw [List.map_cons, List.flatten_cons, List.map_cons, List.flatten_cons] at h
          obtain ⟨hab, h⟩ := recordText_append_inj has.1 hbs.1 h
          rw [hab, ih has.2 hbs.2 h]

namespace PackageDirectory

variable {sha256 : List UInt8 → List UInt8}

/-- The records are those of the contents, by path. -/
theorem records_eq (directory : PackageDirectory) :
    directory.records sha256
      = (sortBy (lexLe textLe) (directory.contents sha256)).map recordText := by
  rw [contents, ← map_sortBy, List.map_map]
  rfl

theorem contents_safe (directory : PackageDirectory) :
    ∀ content ∈ sortBy (lexLe textLe) (directory.contents sha256), SafePath content.1 := by
  intro content hcontent
  rw [(sortBy_perm _ _).mem_iff, contents, List.mem_map] at hcontent
  obtain ⟨file, hfile, rfl⟩ := hcontent
  exact directory.safePath_of_mem file hfile

theorem contents_nodup (directory : PackageDirectory) :
    ((directory.contents sha256).map Prod.fst).Nodup := by
  rw [contents, List.map_map]
  exact directory.paths_nodup

/-- **The stream binds the package**: it is the stream of those contents and no others. -/
theorem stream_eq_iff (directory other : PackageDirectory) :
    utf8 (other.records sha256).flatten = utf8 (directory.records sha256).flatten
      ↔ (other.contents sha256).Perm (directory.contents sha256) := by
  rw [records_eq, records_eq]
  constructor
  · intro h
    have hsorted := stream_injective other.contents_safe directory.contents_safe (utf8_injective h)
    refine (sortBy_perm (lexLe textLe) (other.contents sha256)).symm.trans ?_
    rw [hsorted]
    exact sortBy_perm _ _
  · intro h
    rw [sortBy_congr_perm textLe_linear.lex other.contents_nodup h]

end PackageDirectory

theorem utf8_flatten (texts : List (List Char)) : utf8 texts.flatten = (texts.map utf8).flatten := by
  induction texts with
  | nil => rfl
  | cons text texts ih =>
      rw [List.flatten_cons, utf8_append, ih, List.map_cons, List.flatten_cons]

/-! ## The digests -/

section Digest

variable {sha256 : List UInt8 → List UInt8}

theorem build_integrity.packageTree_eq {root : Directory} {records : List (List Char)}
    (h : build_integrity.visit sha256 root = .ok records) :
    build_integrity.packageTree sha256 root
      = if records = [] then .error "reviewed SDK package tree is empty"
        else .ok ⟨hexdigest sha256 (utf8 records.flatten), records.length⟩ := by
  rw [build_integrity.packageTree, h, ok_bind, throwIf]
  by_cases hnil : records = []
  · rw [if_pos (List.length_eq_zero_iff.mpr hnil), if_pos hnil]
    rfl
  · rw [if_neg fun hzero => hnil (List.length_eq_zero_iff.mp hzero), if_neg hnil, ok_bind]
    rfl

theorem validate_release_transaction_bcs.sdkPackageTree_eq {root : Directory}
    {records : List (List Char)}
    (h : validate_release_transaction_bcs.visit sha256 root = .ok records) :
    validate_release_transaction_bcs.sdkPackageTree sha256 root
      = if records = [] then .error "reviewed SDK package tree is empty"
        else .ok ⟨hexdigest sha256 (utf8 records.flatten), records.length⟩ := by
  rw [validate_release_transaction_bcs.sdkPackageTree, h, ok_bind,
    validate_release_transaction_bcs.requireValue, throwIf]
  by_cases hnil : records = []
  · subst hnil
    rfl
  · have hsome : decide (records.length > 0) ≠ false := by
      rw [ne_eq, decide_eq_false_iff_not, not_not]
      exact List.length_pos_iff.mpr hnil
    rw [if_neg hsome, if_neg hnil, ok_bind]
    rfl

/-- What is compared with the pin is of the sorted records. -/
theorem verify_reviewed_sdk_pin.observed_tree {ν : Type} {loads : List UInt8 → Except String (Json ν)}
    {members : List verify_reviewed_sdk_pin.Member} {seen : verify_reviewed_sdk_pin.Collected}
    {result : verify_reviewed_sdk_pin.Observed}
    (hseen : verify_reviewed_sdk_pin.collect sha256 members = .ok seen)
    (h : verify_reviewed_sdk_pin.observed sha256 loads members = .ok result) :
    result.sdk_package_tree_sha256 = hexdigest sha256
        ((verify_reviewed_sdk_pin.sortRecords seen.records).map Prod.snd).flatten
      ∧ result.sdk_package_file_count
        = (verify_reviewed_sdk_pin.sortRecords seen.records).length := by
  rw [verify_reviewed_sdk_pin.observed, hseen, ok_bind] at h
  dsimp only at h
  split at h
  · rw [bind_eq_ok] at h
    obtain ⟨manifest, -, h⟩ := h
    rw [bind_unit_eq_ok] at h
    rw [pure_eq_ok.mp h.2]
    exact ⟨rfl, rfl⟩
  · cases h

/-- The three programs hash one stream of records for a package and for any tarball that
lists its files, and two packages have one stream only if they have the same files. -/
theorem package_digests_agree (sha256 : List UInt8 → List UInt8) {ν : Type}
    (loads : List UInt8 → Except String (Json ν)) (directory : PackageDirectory)
    {members : List verify_reviewed_sdk_pin.Member} (h : Lists members directory) :
    ∃ records : List (List Char),
      build_integrity.visit sha256 directory.entries = .ok records
      ∧ validate_release_transaction_bcs.visit sha256 directory.entries = .ok records
      ∧ (∃ seen, verify_reviewed_sdk_pin.collect sha256 members = .ok seen
        ∧ (verify_reviewed_sdk_pin.sortRecords seen.records).map Prod.snd = records.map utf8)
      ∧ build_integrity.packageTree sha256 directory.entries
        = (if records = [] then .error "reviewed SDK package tree is empty"
          else .ok ⟨hexdigest sha256 (utf8 records.flatten), records.length⟩)
      ∧ validate_release_transaction_bcs.sdkPackageTree sha256 directory.entries
        = build_integrity.packageTree sha256 directory.entries
      ∧ (∀ result, verify_reviewed_sdk_pin.observed sha256 loads members = .ok result →
        result.sdk_package_tree_sha256 = hexdigest sha256 (utf8 records.flatten)
          ∧ result.sdk_package_file_count = records.length)
      ∧ ∀ (other : PackageDirectory) (records' : List (List Char)),
        build_integrity.visit sha256 other.entries = .ok records' →
          (utf8 records'.flatten = utf8 records.flatten
            ↔ (other.contents sha256).Perm (directory.contents sha256)) := by
  have hassembler := directory.assembler_visit sha256
  have hvalidator := directory.validator_visit sha256
  obtain ⟨seen, hseen, hcollected⟩ := verify_reviewed_sdk_pin.collect_records sha256 h
  have hsorted := verify_reviewed_sdk_pin.sortRecords_eq hcollected
  refine ⟨directory.records sha256, hassembler, hvalidator, ⟨seen, hseen, hsorted⟩,
    build_integrity.packageTree_eq hassembler, ?_, ?_, ?_⟩
  · rw [build_integrity.packageTree_eq hassembler,
      validate_release_transaction_bcs.sdkPackageTree_eq hvalidator]
  · intro result hresult
    obtain ⟨htree, hcount⟩ := verify_reviewed_sdk_pin.observed_tree hseen hresult
    have hlength := congrArg List.length hsorted
    rw [List.length_map, List.length_map] at hlength
    rw [htree, hcount, hsorted, utf8_flatten, hlength]
    exact ⟨rfl, rfl⟩
  · -- What two packages hash is the same just if they list the same contents.
    intro other records' hother
    rw [other.assembler_visit] at hother
    cases hother
    exact directory.stream_eq_iff other

end Digest

/-- A package in which one name begins others, `c` once within `a` and once beside it. -/
def prefixNames : Directory :=
  [("package.json", .leaf (.file [])), ("a-b", .leaf (.file [97, 98, 99])),
    ("a", .node [("c", .leaf (.file [97, 98, 99])), ("b", .leaf (.file []))]),
    ("a.b", .leaf (.file []))]

/-- The digests of no bytes and of `abc`. -/
def knownDigest (bytes : List UInt8) : List UInt8 :=
  if bytes = [97, 98, 99] then
    [0xba, 0x78, 0x16, 0xbf, 0x8f, 0x01, 0xcf, 0xea, 0x41, 0x41, 0x40,
      0xde, 0x5d, 0xae, 0x22, 0x23, 0xb0, 0x03, 0x61, 0xa3, 0x96, 0x17,
      0x7a, 0x9c, 0xb4, 0x10, 0xff, 0x61, 0xf2, 0x00, 0x15, 0xad]
  else
    [0xe3, 0xb0, 0xc4, 0x42, 0x98, 0xfc, 0x1c, 0x14, 0x9a, 0xfb, 0xf4,
      0xc8, 0x99, 0x6f, 0xb9, 0x24, 0x27, 0xae, 0x41, 0xe4, 0x64, 0x9b,
      0x93, 0x4c, 0xa4, 0x95, 0x99, 0x1b, 0x78, 0x52, 0xb8, 0x55]

theorem prefixNames_valid : NamedTree.Valid Component Entry.IsFile (.node prefixNames) := by
  have hnames : ∀ name ∈ ["package.json", "a-b", "a", "a.b", "c", "b"], Component name := by
    intro name hname
    simp only [List.mem_cons, List.not_mem_nil, or_false] at hname
    rcases hname with rfl | rfl | rfl | rfl | rfl | rfl <;>
      exact ⟨by decide, by decide, by decide, List.all_eq_true.mp (by decide), by decide⟩
  have hfile : ∀ bytes : List UInt8, NamedTree.Valid Component Entry.IsFile (.leaf (.file bytes)) :=
    fun bytes => .leaf trivial
  refine .node (by decide) ?_ ?_
  · intro branch hbranch
    simp only [prefixNames, List.mem_cons, List.not_mem_nil, or_false] at hbranch
    rcases hbranch with rfl | rfl | rfl | rfl <;> exact hnames _ (by decide)
  · intro branch hbranch
    simp only [prefixNames, List.mem_cons, List.not_mem_nil, or_false] at hbranch
    rcases hbranch with rfl | rfl | rfl | rfl
    · exact hfile _
    · exact hfile _
    · refine .node (by decide) ?_ ?_
      · intro branch hbranch
        simp only [List.mem_cons, List.not_mem_nil, or_false] at hbranch
        rcases hbranch with rfl | rfl <;> exact hnames _ (by decide)
      · intro branch hbranch
        simp only [List.mem_cons, List.not_mem_nil, or_false] at hbranch
        rcases hbranch with rfl | rfl <;> exact hfile _
    · exact hfile _

/-- The members of a tarball of that package, as an archiver may list them. -/
def prefixMembers : List verify_reviewed_sdk_pin.Member :=
  [⟨"package/a/b", .regular, 0, some []⟩, ⟨"package/a", .directory, 0, none⟩,
    ⟨"package/a.b", .regular, 0, some []⟩, ⟨"package/package.json", .regular, 0, some []⟩,
    ⟨"package/a-b", .regular, 3, some [97, 98, 99]⟩,
    ⟨"package/a/c", .regular, 3, some [97, 98, 99]⟩]

theorem package_digests_agree_prefixes :
    ∃ records : List (List Char),
      build_integrity.visit knownDigest prefixNames = .ok records
      ∧ validate_release_transaction_bcs.visit knownDigest prefixNames = .ok records
      ∧ ∃ seen, verify_reviewed_sdk_pin.collect knownDigest prefixMembers = .ok seen
        ∧ (verify_reviewed_sdk_pin.sortRecords seen.records).map Prod.snd = records.map utf8 := by
  have hlists : Lists prefixMembers ⟨prefixNames, prefixNames_valid⟩ := by
    unfold Lists
    decide +kernel
  obtain ⟨records, hassembler, hvalidator, hverifier, -⟩ :=
    package_digests_agree knownDigest (fun _ => (.ok .null : Except String (Json ℕ)))
      ⟨prefixNames, prefixNames_valid⟩ hlists
  exact ⟨records, hassembler, hvalidator, hverifier⟩

end CedraReflect.release
