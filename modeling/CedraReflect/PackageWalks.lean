/-
The records of the reviewed SDK package, from two walks and a tarball.

The two programs that walk the package sort the names of each directory, the third
sorts the paths of all files as tuples of names. Both give the records in the order
of the paths, compared component by component: `a/c` before `a-b`, although the
slash comes after the hyphen. Names of safe characters are below 128, where UTF-16
units and code points are in one order.
-/
import CedraReflect.PackageTree

set_option autoImplicit false

namespace CedraReflect.release

open indexer (ok_bind throwIf throwIf_eq_ok)

/-! ## Packages -/

/-- A name in a directory, of safe characters. -/
structure Component (name : String) : Prop where
  nonempty : name.toList ≠ []
  not_here : name.toList ≠ ['.']
  not_up : name.toList ≠ ['.', '.']
  safe : ∀ c ∈ name.toList, safe c = true
  not_slash : '/' ∉ name.toList

/-- The path of a file below the package. -/
structure SafePath (path : List String) : Prop where
  nonempty : path ≠ []
  component : ∀ name ∈ path, Component name

def Entry.IsFile : Entry → Prop
  | .file _ => True
  | _ => False

def Entry.bytes : Entry → List UInt8
  | .file bytes => bytes
  | _ => []

/-- A tree of regular files whose names are safe. -/
structure PackageDirectory where
  entries : Directory
  valid : NamedTree.Valid Component Entry.IsFile (.node entries)

/-- The files of a package with their paths, as they are read in. -/
def PackageDirectory.files (directory : PackageDirectory) : List (List String × List UInt8) :=
  (NamedTree.leaves (.node directory.entries)).map fun leaf => (leaf.1, leaf.2.bytes)

/-- What a package is known by: path, length and content hash of every file. -/
def PackageDirectory.contents (sha256 : List UInt8 → List UInt8) (directory : PackageDirectory) :
    List (List String × ℕ × List UInt8) :=
  directory.files.map fun file => (file.1, file.2.length, sha256 file.2)

/-- The member of the tarball for a file. -/
def archived (file : List String × List UInt8) : verify_reviewed_sdk_pin.Member where
  name := String.ofList ("package/".toList ++ posix file.1)
  kind := .regular
  size := file.2.length
  content := some file.2

/-- The tarball lists the files of a package once each, in any order, and maybe directories. -/
def Lists (members : List verify_reviewed_sdk_pin.Member) (directory : PackageDirectory) : Prop :=
  (members.filter fun member => member.kind ≠ .directory).Perm (directory.files.map archived)

/-- The records of a package, by the components of their paths. -/
def PackageDirectory.records (sha256 : List UInt8 → List UInt8) (directory : PackageDirectory) :
    List (List Char) :=
  (sortBy (lexLe textLe) directory.files).map fun file => record sha256 file.2 (posix file.1)

/-! ## Safe paths -/

theorem safe_lt {c : Char} (h : safe c = true) : c.toNat < 128 := by
  have hupto : ∀ last : UInt32, last.toNat < 128 → c.val ≤ last → c.toNat < 128 := by
    intro last hlast hle
    exact lt_of_le_of_lt (UInt32.le_iff_toNat_le.mp hle) hlast
  rw [safe, Char.isAlphanum, Bool.or_eq_true, Bool.or_eq_true] at h
  rcases h with (halpha | hdigit) | hother
  · have hcase : c.isUpper = true ∨ c.isLower = true := Bool.or_eq_true_iff.mp halpha
    rcases hcase with hupper | hlower
    · have hrange : c.val ≥ 'A'.val ∧ c.val ≤ 'Z'.val := of_decide_eq_true hupper
      exact hupto 'Z'.val (by decide) hrange.2
    · have hrange := Bool.and_eq_true_iff.mp hlower
      exact hupto 'z'.val (by decide) (of_decide_eq_true hrange.2)
  · have hrange := Bool.and_eq_true_iff.mp hdigit
    exact hupto '9'.val (by decide) (of_decide_eq_true hrange.2)
  · rw [List.contains_iff_mem] at hother
    have hall : ['@', '.', '_', '+', '/', '-'].all (fun d => decide (d.toNat < 128)) = true := by
      decide
    exact of_decide_eq_true (List.all_eq_true.mp hall c hother)

/-- Within the safe alphabet units are code points. -/
theorem unitLe_of_lt {c d : Char} (hc : c.toNat < 128) (hd : d.toNat < 128) :
    unitLe c d = pointLe c d := by
  have hc' : unitRank c = c.toNat := if_neg (by omega)
  have hd' : unitRank d = d.toNat := if_neg (by omega)
  rw [unitLe, pointLe, hc', hd']

theorem Component.textLe_eq {a b : String} (ha : Component a) (hb : Component b) :
    textLe a b = lexLe pointLe a.toList b.toList := by
  rw [release.textLe_eq]
  apply LinearLe.lexLe_congr
  intro c hc d hd
  exact unitLe_of_lt (safe_lt (ha.safe c hc)) (safe_lt (hb.safe d hd))

namespace SafePath

variable {path : List String}

/-- **A path is its components.** -/
theorem splitOn_posix (h : SafePath path) : (posix path).splitOn '/' = path.map String.toList := by
  apply List.splitOn_intercalate
  · intro component hcomponent
    obtain ⟨name, hname, rfl⟩ := List.mem_map.mp hcomponent
    exact (h.component name hname).not_slash
  · exact fun hnil => h.nonempty (List.map_eq_nil_iff.mp hnil)

/-- No component that the path is split into is an unsafe one. -/
theorem of_mem_splitOn (h : SafePath path) {component : List Char}
    (hmem : component ∈ (posix path).splitOn '/') : component ≠ [] ∧ component ≠ ['.', '.'] := by
  rw [h.splitOn_posix] at hmem
  obtain ⟨name, hname, rfl⟩ := List.mem_map.mp hmem
  exact ⟨(h.component name hname).nonempty, (h.component name hname).not_up⟩

/-- What the path begins with, up to a slash, is a component. -/
theorem not_begins (h : SafePath path) {first rest : List Char} (hfirst : '/' ∉ first)
    (hbad : first = [] ∨ first = ['.', '.']) : posix path ≠ first ++ '/' :: rest := by
  intro heq
  have hmem : first ∈ (posix path).splitOn '/' := by
    rw [heq, List.splitOn_append_cons_self_of_not_mem hfirst]
    exact List.mem_cons_self
  obtain ⟨hne, hup⟩ := h.of_mem_splitOn hmem
  rcases hbad with hnil | hdots
  · exact hne hnil
  · exact hup hdots

theorem not_whole (h : SafePath path) {first : List Char} (hfirst : '/' ∉ first)
    (hbad : first = [] ∨ first = ['.', '.']) : posix path ≠ first := by
  intro heq
  have hmem : first ∈ (posix path).splitOn '/' := by
    rw [heq, List.splitOn_eq_singleton hfirst]
    exact List.mem_cons_self
  obtain ⟨hne, hup⟩ := h.of_mem_splitOn hmem
  rcases hbad with hnil | hdots
  · exact hne hnil
  · exact hup hdots

theorem posix_ne_nil (h : SafePath path) : posix path ≠ [] :=
  h.not_whole List.not_mem_nil (Or.inl rfl)

theorem posix_ne_up (h : SafePath path) : posix path ≠ "..".toList :=
  h.not_whole (by decide) (Or.inr rfl)

theorem not_leaves (h : SafePath path) : "../".toList.isPrefixOf (posix path) = false := by
  rw [Bool.eq_false_iff, ne_eq, List.isPrefixOf_iff_prefix]
  rintro ⟨rest, heq⟩
  have hbegins : posix path = ['.', '.'] ++ '/' :: rest := heq.symm
  exact h.not_begins (by decide) (Or.inr rfl) hbegins

theorem not_absolute (h : SafePath path) : "/".toList.isPrefixOf (posix path) = false := by
  rw [Bool.eq_false_iff, ne_eq, List.isPrefixOf_iff_prefix]
  rintro ⟨rest, heq⟩
  have hbegins : posix path = [] ++ '/' :: rest := heq.symm
  exact h.not_begins List.not_mem_nil (Or.inl rfl) hbegins

/-- Every character of the path is safe. -/
theorem safe_of_mem (h : SafePath path) : ∀ c ∈ posix path, safe c = true := by
  have hnames : ∀ name ∈ path, ∀ c ∈ name.toList, release.safe c = true :=
    fun name hname => (h.component name hname).safe
  clear h
  induction path with
  | nil =>
      intro c hc
      cases hc
  | cons name path ih =>
      rw [List.forall_mem_cons] at hnames
      intro c hc
      cases path with
      | nil =>
          rw [posix, List.map_singleton, List.intercalate_singleton] at hc
          exact hnames.1 c hc
      | cons next path =>
          rw [posix, List.map_cons, List.map_cons, List.intercalate_cons_cons, ← List.map_cons,
            List.mem_append, List.mem_append, List.mem_singleton] at hc
          rcases hc with (hc | rfl) | hc
          · exact hnames.1 c hc
          · decide
          · exact ih hnames.2 c hc

theorem isSafe (h : SafePath path) : isSafeRelativePath (posix path) = true := by
  rw [isSafeRelativePath, Bool.and_eq_true, List.all_eq_true]
  refine ⟨?_, h.safe_of_mem⟩
  have hne : (posix path).isEmpty = false := List.isEmpty_eq_false_iff.mpr h.posix_ne_nil
  rw [hne]
  rfl

/-- No two paths are written alike. -/
theorem posix_injective {path' : List String} (h : SafePath path) (h' : SafePath path')
    (heq : posix path = posix path') : path = path' := by
  apply List.map_injective_iff.mpr fun _ _ hlists => String.toList_injective hlists
  rw [← h.splitOn_posix, ← h'.splitOn_posix, heq]

end SafePath

/-! ## The two walks -/

namespace build_integrity

theorem portableRelative_eq {path : List String} (h : SafePath path) (label : String) :
    portableRelative path label = .ok (posix path) := by
  have hchecks : ¬ ((posix path).length = 0 ∨ posix path = "..".toList
      ∨ "../".toList.isPrefixOf (posix path) = true ∨ isSafeRelativePath (posix path) = false) := by
    rw [h.isSafe, h.not_leaves]
    rintro (hzero | hup | hleaves | hbad)
    · exact h.posix_ne_nil (List.length_eq_zero_iff.mp hzero)
    · exact h.posix_ne_up hup
    · cases hleaves
    · cases hbad
  rw [portableRelative, (throwIf_eq_ok (u := ())).mpr hchecks, ok_bind]
  rfl

end build_integrity

namespace validate_release_transaction_bcs

theorem portableRelative_eq {path : List String} (h : SafePath path) (label : String) :
    portableRelative path label = .ok (posix path) := by
  have hlength : 0 < (posix path).length := List.length_pos_iff.mpr h.posix_ne_nil
  have hchecks : (decide ((posix path).length > 0) && decide (posix path ≠ "..".toList)
      && !"../".toList.isPrefixOf (posix path) && isSafeRelativePath (posix path)) = true := by
    rw [h.isSafe, h.not_leaves, decide_eq_true h.posix_ne_up, decide_eq_true hlength]
    rfl
  rw [portableRelative, hchecks]
  rfl

end validate_release_transaction_bcs

namespace PackageDirectory

variable {sha256 : List UInt8 → List UInt8}

theorem safePath_of_mem (directory : PackageDirectory) :
    ∀ file ∈ directory.files, SafePath file.1 := by
  intro file hfile
  obtain ⟨leaf, hleaf, rfl⟩ := List.mem_map.mp hfile
  have hnames := (directory.valid.leaf_spec leaf hleaf).2
  refine ⟨?_, hnames⟩
  -- A file is below a branch of the root.
  rw [NamedTree.leaves, NamedTree.leavesOf_eq, List.mem_flatMap] at hleaf
  obtain ⟨branch, -, hbranch⟩ := hleaf
  obtain ⟨inner, -, rfl⟩ := List.mem_map.mp hbranch
  exact List.cons_ne_nil _ _

theorem paths_nodup (directory : PackageDirectory) :
    (directory.files.map Prod.fst).Nodup := by
  rw [files, List.map_map]
  exact directory.valid.paths_nodup

/-- **A walk that gives every file its record gives the records in order.** -/
theorem walk_eq (directory : PackageDirectory) {enter : List String → Except String Unit}
    {visit : List String → Entry → Except String (List (List Char))}
    (henter : ∀ path, SafePath path → enter path = .ok ())
    (hvisit : ∀ path bytes, SafePath path →
      visit path (.file bytes) = .ok [record sha256 bytes (posix path)]) :
    NamedTree.walk textLe enter visit [] (.node directory.entries)
      = .ok (directory.records sha256) := by
  have hwalk : NamedTree.walk textLe enter visit [] (.node directory.entries)
      = .ok ((NamedTree.ordered textLe (.node directory.entries)).flatMap fun leaf =>
        [record sha256 leaf.2.bytes (posix leaf.1)]) := by
    apply directory.valid.walk_root fun path entry => [record sha256 entry.bytes (posix path)]
    · exact fun path hne hnames => henter path ⟨hne, hnames⟩
    · intro path entry hne hnames hfile
      cases entry with
      | file bytes => exact hvisit path bytes ⟨hne, hnames⟩
      | symbolicLink => cases hfile
      | other => cases hfile
  rw [hwalk, NamedTree.ordered_eq textLe_linear directory.valid, ← List.map_eq_flatMap, records,
    files, ← map_sortBy, List.map_map]
  rfl

theorem assembler_visit (directory : PackageDirectory) (sha256 : List UInt8 → List UInt8) :
    build_integrity.visit sha256 directory.entries = .ok (directory.records sha256) := by
  apply directory.walk_eq
  · intro path _
    rfl
  · intro path bytes hpath
    rw [build_integrity.visitEntry, build_integrity.portableRelative_eq hpath, ok_bind]
    rfl

theorem validator_visit (directory : PackageDirectory) (sha256 : List UInt8 → List UInt8) :
    validate_release_transaction_bcs.visit sha256 directory.entries
      = .ok (directory.records sha256) := by
  apply directory.walk_eq
  · intro path hpath
    rw [validate_release_transaction_bcs.enterEntry,
      validate_release_transaction_bcs.portableRelative_eq hpath, ok_bind]
    rfl
  · intro path bytes hpath
    rw [validate_release_transaction_bcs.visitEntry,
      validate_release_transaction_bcs.portableRelative_eq hpath, ok_bind,
      validate_release_transaction_bcs.portableRelative_eq hpath]
    rfl

end PackageDirectory

/-! ## The tarball -/

/-- **Python's tuples of texts are in the order of the walks.** -/
theorem SafePath.lexLe_eq {a b : List String} (ha : SafePath a) (hb : SafePath b) :
    lexLe (lexLe pointLe) (a.map String.toList) (b.map String.toList) = lexLe textLe a b := by
  rw [LinearLe.lexLe_map fun _ _ => String.toList_injective]
  apply LinearLe.lexLe_congr
  intro c hc d hd
  exact ((ha.component c hc).textLe_eq (hb.component d hd)).symm

namespace verify_reviewed_sdk_pin

variable {sha256 : List UInt8 → List UInt8}

/-- What the loop makes of a member it can read. -/
def memberRecord (sha256 : List UInt8 → List UInt8) (member : Member) :
    List (List Char) × List UInt8 :=
  ((relativeName member).splitOn '/',
    utf8 (record sha256 (member.content.getD []) (relativeName member)))

theorem name_archived (file : List String × List UInt8) :
    (archived file).name.toList = "package/".toList ++ posix file.1 := String.toList_ofList

theorem relativeName_archived (file : List String × List UInt8) :
    relativeName (archived file) = posix file.1 := by
  rw [relativeName, name_archived, List.drop_left]

theorem begins_archived (file : List String × List UInt8) :
    "package/".toList.isPrefixOf (archived file).name.toList = true := by
  rw [name_archived, List.isPrefixOf_iff_prefix]
  exact List.prefix_append _ _

theorem failIf_neg {p : Prop} [Decidable p] (h : ¬ p) (message : String) :
    failIf p message = .ok () := if_neg h

theorem memberRecord_archived {file : List String × List UInt8} (h : SafePath file.1) :
    memberRecord sha256 (archived file)
      = (file.1.map String.toList, utf8 (record sha256 file.2 (posix file.1))) := by
  rw [memberRecord, relativeName_archived, h.splitOn_posix]
  rfl

/-- No check of the loop fails for the member of a file. -/
theorem collectMember_archived (sha256 : List UInt8 → List UInt8)
    {file : List String × List UInt8} (h : SafePath file.1) (seen : Collected) :
    ∃ next, collectMember sha256 seen (archived file) = .ok next
      ∧ next.records = seen.records ++ [memberRecord sha256 (archived file)] := by
  have hkind : (archived file).kind ≠ .directory := by
    rintro ⟨⟩
  have hregular : ¬ (archived file).kind ≠ .regular := fun h => h rfl
  have hbegins : ¬ "package/".toList.isPrefixOf (archived file).name.toList = false := by
    rw [begins_archived]
    rintro ⟨⟩
  have hname : ¬ (posix file.1 = [] ∨ "/".toList.isPrefixOf (posix file.1) = true
      ∨ "..".toList ∈ (posix file.1).splitOn '/') := by
    rintro (hnil | habsolute | hup)
    · exact h.posix_ne_nil hnil
    · rw [h.not_absolute] at habsolute
      cases habsolute
    · exact (h.of_mem_splitOn hup).2 rfl
  have hcontent : (archived file).content = some file.2 := rfl
  have hsize : ¬ file.2.length ≠ (archived file).size := fun h => h rfl
  -- The checks in the order of the loop.
  rw [collectMember, if_neg hkind, failIf_neg hregular, ok_bind, failIf_neg hbegins, ok_bind,
    relativeName_archived]
  dsimp only
  rw [failIf_neg hname, ok_bind, hcontent]
  dsimp only
  rw [failIf_neg hsize, ok_bind, memberRecord, relativeName_archived, hcontent]
  exact ⟨_, rfl, rfl⟩

/-- **The loop has a record for every member that is no directory.** -/
theorem foldlM_records (sha256 : List UInt8 → List UInt8) {members : List Member}
    (h : ∀ member ∈ members, member.kind ≠ .directory →
      ∃ file : List String × List UInt8, SafePath file.1 ∧ member = archived file)
    (seen : Collected) :
    ∃ last, members.foldlM (collectMember sha256) seen = .ok last
      ∧ last.records = seen.records
        ++ (members.filter fun member => member.kind ≠ .directory).map (memberRecord sha256) := by
  induction members generalizing seen with
  | nil => exact ⟨seen, rfl, (List.append_nil _).symm⟩
  | cons member members ih =>
      rw [List.forall_mem_cons] at h
      rw [List.foldlM_cons]
      -- A directory leaves no record, and every other member is that of a file.
      by_cases hkind : member.kind = .directory
      · have hskip : collectMember sha256 seen member = .ok seen := by
          rw [collectMember, if_pos hkind]
          rfl
        obtain ⟨last, hlast, hrecords⟩ := ih h.2 seen
        refine ⟨last, ?_, ?_⟩
        · rw [hskip, ok_bind, hlast]
        · rw [List.filter_cons_of_neg (by simp [hkind]), hrecords]
      · obtain ⟨file, hpath, rfl⟩ := h.1 hkind
        obtain ⟨next, hnext, hfirst⟩ := collectMember_archived sha256 hpath seen
        obtain ⟨last, hlast, hrecords⟩ := ih h.2 next
        refine ⟨last, ?_, ?_⟩
        · rw [hnext, ok_bind, hlast]
        · rw [List.filter_cons_of_pos (by simp [hkind]), List.map_cons, hrecords, hfirst,
            List.append_assoc, List.singleton_append]

theorem collect_records (sha256 : List UInt8 → List UInt8) {members : List Member}
    {directory : PackageDirectory} (h : Lists members directory) :
    ∃ seen, collect sha256 members = .ok seen
      ∧ seen.records.Perm (directory.files.map fun file =>
          (file.1.map String.toList, utf8 (record sha256 file.2 (posix file.1)))) := by
  have hmember : ∀ member ∈ members, member.kind ≠ .directory →
      ∃ file : List String × List UInt8, SafePath file.1 ∧ member = archived file := by
    intro member hmem hkind
    have hlisted : member ∈ directory.files.map archived :=
      h.mem_iff.mp (List.mem_filter.mpr ⟨hmem, decide_eq_true hkind⟩)
    obtain ⟨file, hfile, rfl⟩ := List.mem_map.mp hlisted
    exact ⟨file, directory.safePath_of_mem file hfile, rfl⟩
  obtain ⟨seen, hseen, hrecords⟩ := foldlM_records sha256 hmember ⟨[], none, none⟩
  refine ⟨seen, hseen, ?_⟩
  have hperm := h.map (memberRecord sha256)
  rw [List.map_map] at hperm
  rw [hrecords, List.nil_append]
  refine hperm.trans (List.Perm.of_eq ?_)
  apply List.map_congr_left
  intro file hfile
  exact memberRecord_archived (directory.safePath_of_mem file hfile)

/-- **Sorted by their tuples, the records are those of the walks.** -/
theorem sortRecords_eq {directory : PackageDirectory}
    {records : List (List (List Char) × List UInt8)}
    (h : records.Perm (directory.files.map fun file =>
      (file.1.map String.toList, utf8 (record sha256 file.2 (posix file.1))))) :
    (sortRecords records).map Prod.snd = (directory.records sha256).map utf8 := by
  have hlinear : LinearLe (lexLe (lexLe pointLe)) := pointLe_linear.lex.lex
  have hinjective : Function.Injective (List.map String.toList) :=
    List.map_injective_iff.mpr fun _ _ => String.toList_injective
  have hkeys : (records.map Prod.fst).Nodup := by
    have hpaths := directory.paths_nodup.map hinjective
    rw [List.map_map] at hpaths
    rw [(h.map Prod.fst).nodup_iff, List.map_map]
    exact hpaths
  have horders : sortBy (fun a b => lexLe (lexLe pointLe) (a.map String.toList)
      (b.map String.toList)) directory.files = sortBy (lexLe textLe) directory.files := by
    apply sortBy_congr
    intro a ha b hb
    obtain ⟨file, hfile, rfl⟩ := List.mem_map.mp ha
    obtain ⟨file', hfile', rfl⟩ := List.mem_map.mp hb
    exact (directory.safePath_of_mem file hfile).lexLe_eq (directory.safePath_of_mem file' hfile')
  rw [sortRecords, sortBy_congr_perm hlinear hkeys h, ← map_sortBy_image, horders,
    PackageDirectory.records, List.map_map, List.map_map]
  rfl

end verify_reviewed_sdk_pin

end CedraReflect.release
