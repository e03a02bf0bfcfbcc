import BlindMint.Certificate.Encoding
import BlindMint.Certificate.Version
import BlindMint.Text.Quoted
import BlindMint.Text.Utf8

/-!
# Certificates in a folder

A folder is a tree of files without links. The directory named by a certificate's identifier holds one file for each
enabled version, named by the version and `.pem`; any other file there is passed over, and so is a file whose name is
not text. A version was created when its file was last changed, at the epoch if that was before it.

An identifier that could lead out of the folder is refused before anything is read. Versions are listed in the order in
which the directory gives its entries, which may be any, and one that cannot be read fails the whole listing.
-/

namespace BlindMint

/-- The name of a file or directory, as bytes. -/
abbrev FileName := Octets

/-- What a path of a tree leads to. -/
inductive FileNode where
  /-- A file: its content, and when it was last changed, in seconds since the epoch. -/
  | file (content : Octets) (changedAt : Int)
  | directory
  deriving DecidableEq, Repr

/-- A tree of files: the nodes below the root by path. A directory gives its entries in the order of the nodes, and
nothing is assumed about this order. -/
structure Folder where
  nodes : List (List FileName × FileNode) := []
  deriving DecidableEq, Repr

namespace Folder

/-- The node at a path. -/
def node? (f : Folder) (path : List FileName) : Option FileNode :=
  f.nodes.lookup path

/-- The ending of the files of enabled versions (`ENABLED_SUFFIX`). -/
def suffix : List Char := ".pem".toList

/-- The version that a file name stands for. -/
def version? (name : FileName) : Option String := do
  let chars ← Utf8.decode? name
  let version ← Pem.before? suffix chars
  some (String.ofList version)

/-- The version that the node at a path stands for; no name for what stands for none. -/
def versionAt (path : List FileName) : String :=
  ((path.getLast?).bind version?).getD ""

/-- Add a node at a path where there is none. Folders that are built in this way give versions in the order of their
names. -/
def insert (f : Folder) (path : List FileName) (node : FileNode) : Folder :=
  let precedes (entry : List FileName × FileNode) : Bool := !(versionAt path < versionAt entry.1)
  ⟨f.nodes.takeWhile precedes ++ (path, node) :: f.nodes.dropWhile precedes⟩

/-- The paths that lead to a path, the root excepted. -/
def parents (path : List FileName) : List (List FileName) :=
  (List.range path.length).filterMap fun n => if n = 0 then none else some (path.take n)

/-- Add a directory, unless there is a node at its path. -/
def addDirectory (f : Folder) (path : List FileName) : Folder :=
  if (f.node? path).isSome then f else f.insert path .directory

/-- Remove the node at a path. -/
def remove (f : Folder) (path : List FileName) : Folder :=
  ⟨f.nodes.filter fun entry => entry.1 != path⟩

/-- Put a node at a path, and directories where they are missing on the way to it. -/
def put (f : Folder) (path : List FileName) (node : FileNode) : Folder :=
  (((parents path).foldl addDirectory f).remove path).insert path node

/-- The names of a directory's own entries, with their nodes. -/
def entries (f : Folder) (directory : List FileName) : List (FileName × FileNode) :=
  f.nodes.filterMap fun (path, node) =>
    match path.getLast? with
    | some name => if path = directory ++ [name] then some (name, node) else none
    | none => none

/-! ## Certificates -/

/-- Whether an identifier names a directory of the root itself (`certificate_dir`). -/
def isSafeId (id : String) : Bool :=
  !(id.isEmpty || id.toList.contains '/' || id.toList.contains '\\' || id == "." || id == "..")

/-- The version in a file (`load_version`). -/
def readVersion (id version : String) (node : FileNode) : Except KeyError CertificateVersion :=
  let failure (reason : String) : KeyError :=
    .certificateStore ("<root>/" ++ id ++ "/" ++ version ++ ".pem: " ++ reason)
  match node with
  | .directory => .error (failure "Is a directory (os error 21)")
  | .file content changedAt =>
    match Utf8.decode? content with
    | none => .error (failure "stream did not contain valid UTF-8")
    | some chars =>
      match CertificateKey.ofPem (String.ofList chars) with
      | .error e => .error e
      | .ok key => .ok ⟨id, version, Instant.ofSeconds (max 0 changedAt), key⟩

/-- The entries of enabled versions, by version, in the order in which they are given. -/
def versionEntries (entries : List (FileName × FileNode)) : List (String × FileNode) :=
  entries.filterMap fun (name, node) => (version? name).map fun version => (version, node)

/-- The versions of files, as they are given; the first that cannot be read fails them all. -/
def readVersions (id : String) (entries : List (FileName × FileNode)) :
    Except KeyError (List CertificateVersion) :=
  (versionEntries entries).mapM fun (version, node) => readVersion id version node

/-- The longest name of a directory, in bytes. -/
def maxNameLength : Nat := 255

/-- The enabled versions of a certificate (`get_all_enabled_versions`). -/
def versions (f : Folder) (id : String) : Except KeyError (List CertificateVersion) :=
  let failure (reason : String) : KeyError :=
    .certificateStore ("read <root>/" ++ id ++ ": " ++ reason)
  if !isSafeId id then .error (.certificateStore ("invalid certificate id " ++ Text.quoted id))
  else if id.toList.contains '\x00' then
    .error (failure "file name contained an unexpected NUL byte")
  else if maxNameLength < (Utf8.ofString id).length then .error (failure "File name too long (os error 36)")
  else
    match f.node? [Utf8.ofString id] with
    | none => .ok []
    | some (.file _ _) => .error (failure "Not a directory (os error 20)")
    | some .directory => readVersions id (f.entries [Utf8.ofString id])

end Folder

end BlindMint
