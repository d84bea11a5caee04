/-
The digest of the reviewed SDK package, in the three programs that compute it.

`build-integrity.ts` of the assembler and `scripts/validate_release_transaction_bcs.mjs`
walk the installed package, `scripts/verify_reviewed_sdk_pin.py` lists the members of
the npm tarball and sorts them. Each writes a record for every file: the hash of its
bytes, their number and the path of the file below the package.
-/
import CedraReflect.NamedTree
import CedraReflect.TextUnits

set_option autoImplicit false

namespace CedraReflect.release

open indexer (throwIf)

/-! ## Records -/

section Record

variable (sha256 : List UInt8 → List UInt8)

/-- The hash of bytes, as `hexdigest` and `digest("hex")` write it. -/
def hexdigest (bytes : List UInt8) : List Char :=
  (sha256 bytes).flatMap validate_release_transaction_bcs.hexByte

/-- The record of a file. -/
def record (bytes : List UInt8) (path : List Char) : List Char :=
  hexdigest sha256 bytes ++
    '\x00' :: (NumberText.print bytes.length ++ '\x00' :: (path ++ ['\n']))

end Record

/-- The components of a path, joined by slashes. -/
def posix (path : List String) : List Char := ['/'].intercalate (path.map String.toList)

/-- The safe alphabet, the class of `SAFE_RELATIVE_PATH`. -/
def safe (c : Char) : Bool := c.isAlphanum || ['@', '.', '_', '+', '/', '-'].contains c

/-- `SAFE_RELATIVE_PATH`: one safe character or more, and no other. -/
def isSafeRelativePath (value : List Char) : Bool := !value.isEmpty && value.all safe

/-- What a directory has besides directories. -/
inductive Entry where
  | file (bytes : List UInt8)
  | symbolicLink
  | other
deriving DecidableEq, Repr

/-- A directory by its entries, in the order they are read in. -/
abbrev Directory := List (String × NamedTree String Entry)

/-- What `packageTree` and `sdkPackageTree` return. -/
structure TreeDigest where
  sha256 : List Char
  files : ℕ
deriving DecidableEq, Repr

/-! ## The assembler -/

namespace build_integrity

def portableRelative (path : List String) (label : String) : Except String (List Char) := do
  let value := posix path
  throwIf (value.length = 0 ∨ value = "..".toList ∨ "../".toList.isPrefixOf value = true
      ∨ isSafeRelativePath value = false)
    (label ++ " is outside the reviewed package tree or has an unsafe path")
  pure value

variable (sha256 : List UInt8 → List UInt8)

/-- What the loop of `visit` does with an entry that is no directory. -/
def visitEntry (path : List String) (entry : Entry) : Except String (List (List Char)) :=
  match entry with
  | .symbolicLink => do
      let name ← portableRelative path "SDK path"
      .error ("reviewed SDK package tree contains a symbolic link: " ++ String.ofList name)
  | .other => do
      let name ← portableRelative path "SDK path"
      .error ("reviewed SDK package tree contains a non-regular entry: " ++ String.ofList name)
  | .file bytes => do
      let name ← portableRelative path "SDK file"
      pure [record sha256 bytes name]

/-- The records that `visit(root)` pushes. A directory is visited without a look at its path. -/
def visit (root : Directory) : Except String (List (List Char)) :=
  NamedTree.walk textLe (fun _ => .ok ()) (visitEntry sha256) [] (.node root)

def packageTree (root : Directory) : Except String TreeDigest := do
  let records ← visit sha256 root
  throwIf (records.length = 0) "reviewed SDK package tree is empty"
  pure { sha256 := hexdigest sha256 (utf8 records.flatten), files := records.length }

end build_integrity

/-! ## The validator of the raw transaction -/

namespace validate_release_transaction_bcs

def requireValue (condition : Bool) (message : String) : Except String Unit :=
  throwIf (condition = false) message

def portableRelative (path : List String) (label : String) : Except String (List Char) := do
  let value := posix path
  requireValue
    (value.length > 0
      && value ≠ "..".toList
      && !"../".toList.isPrefixOf value
      && isSafeRelativePath value)
    (label ++ " is outside the reviewed package tree or has an unsafe path")
  pure value

variable (sha256 : List UInt8 → List UInt8)

/-- The message of the check for symbolic links has the path of the entry, and is built
whether the check fails or not. So the path of a directory has to be safe as well. -/
def enterEntry (path : List String) : Except String Unit := do
  let _ ← portableRelative path "SDK path"

/-- What the loop of `visit` does with an entry that is no directory. -/
def visitEntry (path : List String) (entry : Entry) : Except String (List (List Char)) := do
  let name ← portableRelative path "SDK path"
  requireValue (entry ≠ .symbolicLink)
    ("reviewed SDK package tree contains a symbolic link: " ++ String.ofList name)
  match entry with
  | .file bytes =>
      let name ← portableRelative path "SDK file"
      pure [record sha256 bytes name]
  | _ => .error ("reviewed SDK package tree contains a non-regular entry: " ++ String.ofList name)

def visit (root : Directory) : Except String (List (List Char)) :=
  NamedTree.walk textLe enterEntry (visitEntry sha256) [] (.node root)

def sdkPackageTree (root : Directory) : Except String TreeDigest := do
  let records ← visit sha256 root
  requireValue (records.length > 0) "reviewed SDK package tree is empty"
  pure { sha256 := hexdigest sha256 (utf8 records.flatten), files := records.length }

end validate_release_transaction_bcs

/-! ## The verifier of the pin -/

namespace verify_reviewed_sdk_pin

def PACKAGE : String := "@cedra-labs/ts-sdk"

def VERSION : String := "2.2.8"

def ENTRYPOINT : String := "dist/esm/index.mjs"

def fail {α : Type} (message : String) : Except String α :=
  .error ("reviewed SDK pin validation failed: " ++ message)

def failIf (p : Prop) [Decidable p] (message : String) : Except String Unit :=
  if p then fail message else .ok ()

inductive MemberKind where
  | directory
  | regular
  | symbolicLink
  | hardLink
  | other
deriving DecidableEq, Repr

/-- A member of the archive. Its content is what there is to read in it, if it is extracted. -/
structure Member where
  name : String
  kind : MemberKind
  size : ℕ
  content : Option (List UInt8)
deriving DecidableEq, Repr

/-- What the loop over the members keeps. -/
structure Collected where
  records : List (List (List Char) × List UInt8)
  package_json : Option (List UInt8)
  entrypoint : Option (List UInt8)
deriving DecidableEq, Repr

variable (sha256 : List UInt8 → List UInt8)

/-- The name of a member without the prefix `package/`. -/
def relativeName (member : Member) : List Char := member.name.toList.drop "package/".toList.length

/-- The loop over the members, for one. -/
def collectMember (seen : Collected) (member : Member) : Except String Collected := do
  if member.kind = .directory then
    pure seen
  else
    failIf (member.kind ≠ .regular) ("tarball contains a non-regular entry: " ++ member.name)
    failIf ("package/".toList.isPrefixOf member.name.toList = false)
      ("tarball entry escapes the package prefix: " ++ member.name)
    let relative := relativeName member
    failIf (relative = [] ∨ "/".toList.isPrefixOf relative = true
        ∨ "..".toList ∈ relative.splitOn '/')
      ("tarball entry has an unsafe path: " ++ member.name)
    match member.content with
    | none => fail ("cannot read tarball entry: " ++ member.name)
    | some data =>
        failIf (data.length ≠ member.size) ("tarball entry size mismatch: " ++ member.name)
        pure
          { records := seen.records
              ++ [(relative.splitOn '/', utf8 (record sha256 data relative))]
            package_json := if relative = "package.json".toList then some data
              else seen.package_json
            entrypoint := if relative = ENTRYPOINT.toList then some data else seen.entrypoint }

def collect (members : List Member) : Except String Collected :=
  members.foldlM (collectMember sha256) ⟨[], none, none⟩

/-- `records.sort(key=...)`: tuples by their first difference, and texts too. -/
def sortRecords (records : List (List (List Char) × List UInt8)) :
    List (List (List Char) × List UInt8) :=
  sortBy (lexLe (lexLe pointLe)) records

/-- What `main` compares with the pin. -/
structure Observed where
  sdk_package_json_sha256 : List Char
  sdk_loaded_entrypoint_sha256 : List Char
  sdk_package_tree_sha256 : List Char
  sdk_package_file_count : ℕ
deriving DecidableEq, Repr

section Observed

variable {ν : Type} (loads : List UInt8 → Except String (Json ν))

def isIdentity (manifest : Json ν) (key expected : String) : Bool :=
  match manifest.get key with
  | some (.string text) => text = expected
  | _ => false

/-- `json.loads` of `package.json`, or what `main` makes of its error. -/
def loadManifest (package_json : List UInt8) : Except String (Json ν) :=
  match loads package_json with
  | .ok manifest => .ok manifest
  | .error exc => fail ("tarball package.json is invalid: " ++ exc)

/-- From the members of the tarball to `observed`. -/
def observed (members : List Member) : Except String Observed := do
  let seen ← collect sha256 members
  let records := sortRecords seen.records
  match seen.package_json, seen.entrypoint with
  | some package_json, some entrypoint =>
      let manifest ← loadManifest loads package_json
      failIf (isIdentity manifest "name" PACKAGE = false
          ∨ isIdentity manifest "version" VERSION = false)
        "tarball package.json has the wrong identity"
      pure
        { sdk_package_json_sha256 := hexdigest sha256 package_json
          sdk_loaded_entrypoint_sha256 := hexdigest sha256 entrypoint
          sdk_package_tree_sha256 := hexdigest sha256 (records.map Prod.snd).flatten
          sdk_package_file_count := records.length }
  | _, _ => fail "tarball omits package.json or the reviewed loaded entrypoint"

end Observed

end verify_reviewed_sdk_pin

end CedraReflect.release
