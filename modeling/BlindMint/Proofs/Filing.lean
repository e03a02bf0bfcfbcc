import BlindMint.Proofs.Credentials.Collection
import Mathlib.Data.List.Nodup
import Mathlib.Data.String.Basic

/-!
# Certificates in a folder

Where certificates are kept as files, the versions of a certificate are listed from the directory that has its
identifier as a name. An identifier that could lead elsewhere is refused, so that nothing but this directory can be
read; and of this directory the files count whose names are text with the right ending, and nothing else. So a
listing is a function of these files as the directory gives them (`Folder.named`). In which order that is, is not the
concern of the listing: two folders in which the files are the same list the same versions in one order or another,
whatever else the folders hold.

A folder is a tree only if no path leads to two nodes (`Folder.Distinct`), which putting and removing files keeps.

## Results

* `Folder.put_distinct`, `Folder.remove_distinct`: folders that are built by these are trees.
* `Folder.version?_eq_some_iff`: the names that count.
* `Folder.mem_named_iff`, `Folder.named_perm`: what a listing goes through.
* `Folder.readVersion_text`, `Folder.readVersion_error`: which files can be read, and as what.
* **`Folder.listing_confined`**: what is listed, what it depends on, and when listing fails.
* `Folder.unnameable_not_empty`: an identifier that no file can have fails too, although there is nothing.
-/

namespace BlindMint

/-- A node that is a file of text. -/
def FileNode.IsText (node : FileNode) : Prop :=
  ∃ text changedAt, node = .file (Utf8.ofString text) changedAt

namespace Folder

variable {f g : Folder} {id version : String}

/-! ## Trees -/

/-- No path leads to two nodes. -/
def Distinct (f : Folder) : Prop :=
  (f.nodes.map Prod.fst).Nodup

theorem node?_eq_some_iff (hf : f.Distinct) {path : List FileName} {node : FileNode} :
    f.node? path = some node ↔ (path, node) ∈ f.nodes :=
  lookup_eq_some_iff hf

theorem node?_eq_none_iff {path : List FileName} : f.node? path = none ↔ path ∉ f.nodes.map Prod.fst :=
  lookup_eq_none_iff

theorem insert_perm (f : Folder) (path : List FileName) (node : FileNode) :
    (f.insert path node).nodes.Perm ((path, node) :: f.nodes) := by
  unfold insert
  exact List.perm_middle.trans (.of_eq (by rw [List.takeWhile_append_dropWhile]))

theorem insert_distinct (hf : f.Distinct) {path : List FileName} (hnew : f.node? path = none) (node : FileNode) :
    (f.insert path node).Distinct := by
  unfold Distinct
  rw [((f.insert_perm path node).map Prod.fst).nodup_iff, List.map_cons, List.nodup_cons]
  exact ⟨node?_eq_none_iff.mp hnew, hf⟩

theorem addDirectory_distinct (hf : f.Distinct) (path : List FileName) : (f.addDirectory path).Distinct := by
  unfold addDirectory
  split
  · exact hf
  · next hnone => exact insert_distinct hf (by simpa using hnone) _

theorem remove_distinct (hf : f.Distinct) (path : List FileName) : (f.remove path).Distinct :=
  hf.sublist (List.filter_sublist.map Prod.fst)

theorem foldl_addDirectory_distinct (hf : f.Distinct) (paths : List (List FileName)) :
    (paths.foldl addDirectory f).Distinct := by
  induction paths generalizing f with
  | nil => exact hf
  | cons path paths ih => exact ih (addDirectory_distinct hf path)

theorem put_distinct (hf : f.Distinct) (path : List FileName) (node : FileNode) : (f.put path node).Distinct :=
  insert_distinct (remove_distinct (foldl_addDirectory_distinct hf (parents path)) path)
    (node?_eq_none_iff.mpr (by simp [remove])) node

/-! ## The files of a certificate -/

/-- The file of an enabled version of a certificate, or what stands in its place. -/
def versionFile? (f : Folder) (id version : String) : Option FileNode :=
  f.node? [Utf8.ofString id, Utf8.ofString (version ++ ".pem")]

theorem before?_eq_some_iff {ending text start : List Char} :
    Pem.before? ending text = some start ↔ text = start ++ ending := by
  unfold Pem.before?
  rw [Option.ite_none_right_eq_some, List.isSuffixOf_iff_suffix, Option.some.injEq]
  constructor
  · rintro ⟨⟨front, rfl⟩, rfl⟩
    simp
  · rintro rfl
    exact ⟨List.suffix_append .., by simp⟩

/-- **The names that count** are texts with the ending of enabled versions. -/
theorem version?_eq_some_iff {name : FileName} :
    version? name = some version ↔ name = Utf8.ofString (version ++ ".pem") := by
  unfold version? Utf8.ofString
  simp only [bind, Option.bind_eq_some_iff, Utf8.decode?_eq_some_iff, before?_eq_some_iff, Option.some.injEq,
    String.toList_append]
  constructor
  · rintro ⟨_, rfl, start, rfl, rfl⟩
    simp [suffix]
  · rintro rfl
    exact ⟨_, rfl, version.toList, rfl, by simp⟩

theorem entry_eq_some_iff {directory path : List FileName} {name : FileName} {node found : FileNode} :
    (match path.getLast? with
      | some last => if path = directory ++ [last] then some (last, found) else none
      | none => none) = some (name, node) ↔ path = directory ++ [name] ∧ found = node := by
  constructor
  · intro h
    split at h
    · obtain ⟨hpath, h⟩ := Option.ite_none_right_eq_some.mp h
      obtain ⟨rfl, rfl⟩ := Prod.mk.inj (Option.some.inj h)
      exact ⟨hpath, rfl⟩
    · cases h
  · rintro ⟨rfl, rfl⟩
    simp

theorem mem_entries_iff {directory : List FileName} {name : FileName} {node : FileNode} :
    (name, node) ∈ f.entries directory ↔ (directory ++ [name], node) ∈ f.nodes := by
  unfold entries
  rw [List.mem_filterMap]
  constructor
  · rintro ⟨⟨path, found⟩, hmem, h⟩
    obtain ⟨rfl, rfl⟩ := entry_eq_some_iff.mp h
    exact hmem
  · exact fun h => ⟨_, h, entry_eq_some_iff.mpr ⟨rfl, rfl⟩⟩

/-- What stands in a certificate's directory under the names that count, by version, in the order of the directory. -/
def named (f : Folder) (id : String) : List (String × FileNode) :=
  versionEntries (f.entries [Utf8.ofString id])

theorem mem_named_iff (hf : f.Distinct) {node : FileNode} :
    (version, node) ∈ f.named id ↔ f.versionFile? id version = some node := by
  unfold named versionEntries versionFile?
  rw [List.mem_filterMap, node?_eq_some_iff hf]
  constructor
  · rintro ⟨⟨name, found⟩, hmem, h⟩
    obtain ⟨other, hother, heq⟩ := Option.map_eq_some_iff.mp h
    obtain ⟨rfl, rfl⟩ := Prod.mk.inj heq
    rw [version?_eq_some_iff.mp hother] at hmem
    exact mem_entries_iff.mp hmem
  · intro h
    exact ⟨_, mem_entries_iff.mpr h, by simp [version?_eq_some_iff.mpr rfl]⟩

/-- No version has two entries. -/
theorem named_nodup (hf : f.Distinct) (id : String) : ((f.named id).map Prod.fst).Nodup := by
  refine List.pairwise_map.mpr ?_
  rw [named, versionEntries, List.pairwise_filterMap, entries, List.pairwise_filterMap]
  -- Entries of one version have one name, so they stand at one path.
  refine (List.pairwise_map.mp hf).imp fun {a b} hpaths x hx y hy v hv u hu heq => hpaths ?_
  obtain ⟨version, hversion, rfl⟩ := Option.map_eq_some_iff.mp hv
  obtain ⟨other, hother, rfl⟩ := Option.map_eq_some_iff.mp hu
  obtain rfl : version = other := heq
  rw [(entry_eq_some_iff.mp hx).1, (entry_eq_some_iff.mp hy).1, version?_eq_some_iff.mp hversion,
    version?_eq_some_iff.mp hother]

/-- **What a listing goes through is a function of the files that count**, up to its order. -/
theorem named_perm (hf : f.Distinct) (hg : g.Distinct)
    (hfiles : ∀ version, f.versionFile? id version = g.versionFile? id version) :
    (f.named id).Perm (g.named id) := by
  refine (List.perm_ext_iff_of_nodup (List.Nodup.of_map _ (named_nodup hf id))
    (List.Nodup.of_map _ (named_nodup hg id))).mpr ?_
  rintro ⟨version, node⟩
  rw [mem_named_iff hf, mem_named_iff hg, hfiles]

/-! ## Reading the files -/

/-- The first failure is that of the whole, and what comes before it succeeds. -/
theorem exists_of_mapM_error {ε α β : Type} {read : α → Except ε β} {xs : List α} {e : ε}
    (h : xs.mapM read = .error e) :
    ∃ front x rest, xs = front ++ x :: rest ∧ (∀ y ∈ front, ∃ z, read y = .ok z) ∧ read x = .error e := by
  induction xs with
  | nil => cases h
  | cons x xs ih =>
    rw [List.mapM_cons] at h
    cases hx : read x with
    | error e' =>
      rw [hx] at h
      obtain rfl : e' = e := Except.error.inj h
      exact ⟨[], x, xs, rfl, by simp, hx⟩
    | ok z =>
      rw [hx] at h
      cases hxs : xs.mapM read with
      | ok zs =>
        rw [hxs] at h
        cases h
      | error e' =>
        rw [hxs] at h
        obtain rfl : e' = e := Except.error.inj h
        obtain ⟨front, y, rest, rfl, hfront, hy⟩ := ih hxs
        exact ⟨x :: front, y, rest, rfl, by simpa [hx] using hfront, hy⟩

/-- What succeeds in two orders has the same results up to their order. -/
theorem perm_of_mapM_ok {ε α β : Type} {read : α → Except ε β} {xs xs' : List α} {ys ys' : List β}
    (hperm : xs.Perm xs') (h : xs.mapM read = .ok ys) (h' : xs'.mapM read = .ok ys') : ys.Perm ys' := by
  have hunique : Relator.RightUnique fun x y => read x = .ok y :=
    fun _ _ _ hy hz => Except.ok.inj (hy.symm.trans hz)
  exact List.rel_perm_imp hunique (forall₂_of_mapM_ok h) (forall₂_of_mapM_ok h') hperm

/-- What a text file under a name that counts is read as. -/
theorem readVersion_text (id version text : String) (changedAt : Int) :
    ∃ key, CertificateKey.ofPem text = .ok key ∧
      readVersion id version (.file (Utf8.ofString text) changedAt) =
        .ok ⟨id, version, Instant.ofSeconds (max 0 changedAt), key⟩ := by
  obtain ⟨key, hkey, -⟩ := CertificateKey.exists_ofPem text
  refine ⟨key, hkey, ?_⟩
  simp only [readVersion, Utf8.ofString, Utf8.decode?_encode, String.ofList_toList, hkey]

/-- **A file can be read** if it is one, of text. Otherwise its path is in the failure. -/
theorem readVersion_error {node : FileNode} (hnode : ¬node.IsText) (id version : String) :
    ∃ reason, readVersion id version node =
      .error (.certificateStore ("<root>/" ++ id ++ "/" ++ version ++ ".pem: " ++ reason)) := by
  cases node with
  | directory => exact ⟨_, rfl⟩
  | file content changedAt =>
    cases hread : Utf8.decode? content with
    | none =>
      refine ⟨"stream did not contain valid UTF-8", ?_⟩
      simp only [readVersion, hread]
    | some chars =>
      refine absurd ⟨String.ofList chars, changedAt, ?_⟩ hnode
      rw [Utf8.ofString, String.toList_ofList, ← Utf8.decode?_eq_some_iff.mp hread]

theorem isText_of_readVersion {node : FileNode} {v : CertificateVersion}
    (h : readVersion id version node = .ok v) : node.IsText := by
  by_contra hnode
  obtain ⟨reason, herror⟩ := readVersion_error hnode id version
  exact absurd (h.symm.trans herror) (by simp)

/-- A failure is that of a node which is not text, and names its path. -/
theorem of_readVersion_error {node : FileNode} {e : KeyError} (h : readVersion id version node = .error e) :
    ¬node.IsText ∧ ∃ reason, e = .certificateStore ("<root>/" ++ id ++ "/" ++ version ++ ".pem: " ++ reason) := by
  have hnode : ¬node.IsText := by
    rintro ⟨text, changedAt, rfl⟩
    obtain ⟨key, -, hok⟩ := readVersion_text id version text changedAt
    exact absurd (hok.symm.trans h) (by simp)
  obtain ⟨reason, herror⟩ := readVersion_error hnode id version
  exact ⟨hnode, reason, Except.error.inj (h.symm.trans herror)⟩

/-! ## The listing -/

/-- Identifiers that could lead out of the root or into another certificate's directory. -/
def Wayward (id : String) : Prop :=
  id = "" ∨ id = "." ∨ id = ".." ∨ '/' ∈ id.toList ∨ '\\' ∈ id.toList

/-- Identifiers that a file can have as its name. -/
def Nameable (id : String) : Prop :=
  '\x00' ∉ id.toList ∧ (Utf8.ofString id).length ≤ maxNameLength

theorem isSafeId_iff : isSafeId id = true ↔ ¬Wayward id := by
  simp only [isSafeId, Wayward, Bool.not_eq_true', Bool.or_eq_false_iff, beq_eq_false_iff_ne, not_or,
    List.contains_eq_mem, decide_eq_false_iff_not, String.isEmpty_eq_false_iff, ne_eq]
  tauto

/-- What an enabled version is, by the file that holds it. -/
structure Holds (f : Folder) (id : String) (v : CertificateVersion) : Prop where
  certificate : v.id = id
  /-- Its name is that of the file without the ending, its key is what the file's text is read as, and it was
  created when the file was last changed, or at the epoch if that was earlier. -/
  file : ∃ text changedAt, f.versionFile? id v.version = some (.file (Utf8.ofString text) changedAt) ∧
    CertificateKey.ofPem text = .ok v.key ∧ v.createdAt.toInt = min Instant.maxSeconds (max 0 changedAt)

theorem versions_of_wayward (f : Folder) (h : Wayward id) :
    f.versions id = .error (.certificateStore ("invalid certificate id " ++ Text.quoted id)) := by
  have hsafe : isSafeId id = false := by simpa [h] using not_congr (@isSafeId_iff id)
  simp [versions, hsafe]

/-- The reason is the identifier's, so it is the same for all trees. -/
theorem exists_versions_of_unnameable (h : ¬Wayward id) (hname : ¬Nameable id) :
    ∃ reason, ∀ f : Folder, f.versions id = .error (.certificateStore ("read <root>/" ++ id ++ ": " ++ reason)) := by
  have hsafe : isSafeId id = true := isSafeId_iff.mpr h
  by_cases hnul : '\x00' ∈ id.toList
  · exact ⟨"file name contained an unexpected NUL byte", fun f => by simp [versions, hsafe, hnul]⟩
  · have hlong : maxNameLength < (Utf8.ofString id).length :=
      not_le.mp fun hshort => hname ⟨hnul, hshort⟩
    exact ⟨"File name too long (os error 36)", fun f => by simp [versions, hsafe, hnul, hlong]⟩

theorem versions_of_nameable (f : Folder) (h : ¬Wayward id) (hname : Nameable id) :
    f.versions id = match f.node? [Utf8.ofString id] with
      | none => .ok []
      | some (.file _ _) =>
        .error (.certificateStore ("read <root>/" ++ id ++ ": " ++ "Not a directory (os error 20)"))
      | some .directory => (f.named id).mapM fun (version, node) => readVersion id version node := by
  have hsafe : isSafeId id = true := isSafeId_iff.mpr h
  unfold versions
  rw [if_neg (by simp [hsafe]), if_neg (by simpa using hname.1), if_neg (not_lt.mpr hname.2)]
  rcases f.node? [Utf8.ofString id] with _ | _ | _ <;> rfl

theorem versions_of_directory (h : ¬Wayward id) (hname : Nameable id)
    (hnode : f.node? [Utf8.ofString id] = some .directory) :
    f.versions id = (f.named id).mapM fun (version, node) => readVersion id version node := by
  rw [versions_of_nameable f h hname, hnode]

/-- A failure that is due to a node which counts and is not a file of text, and says where this node stands. What the
directory gives before it are files of text. -/
def Unreadable (f : Folder) (id : String) (e : KeyError) : Prop :=
  ∃ before version node after reason, f.named id = before ++ (version, node) :: after ∧
    (∀ entry ∈ before, entry.2.IsText) ∧ ¬node.IsText ∧
    e = .certificateStore ("<root>/" ++ id ++ "/" ++ version ++ ".pem: " ++ reason)

/-- Two trees give the same answer up to the order in which their directories are read: the answers are equal, or
they are the same versions, or in each tree a node that counts cannot be read and the answer is the failure of such a
one. -/
inductive Alike (f g : Folder) (id : String) : Prop
  | same (h : f.versions id = g.versions id)
  | listed {versions others : List CertificateVersion} (hf : f.versions id = .ok versions)
      (hg : g.versions id = .ok others) (hperm : versions.Perm others)
  | unreadable {e e' : KeyError} (hf : f.versions id = .error e) (hg : g.versions id = .error e')
      (he : f.Unreadable id e) (he' : g.Unreadable id e')

/-- **How certificates are listed** from a tree.

* An identifier that could lead elsewhere is refused, whatever the tree holds.
* So is one that no file can have as its name.
* Otherwise the answer is a function of what stands at the certificate's directory, and of the nodes in it whose
  names count, as the directory gives them. If it gives them in another order then the answers are alike.
* Without a directory there are no versions, and there is no reading a file as one.
* If the nodes that count are files of text then each is one version, and there are no others.
* If one of them is not then there are none at all, but the failure of the first such node that is come upon. -/
structure Confined (f : Folder) (id : String) : Prop where
  wayward : Wayward id → f.versions id = .error (.certificateStore ("invalid certificate id " ++ Text.quoted id))
  unnameable : ¬Wayward id → ¬Nameable id →
    ∃ reason, f.versions id = .error (.certificateStore ("read <root>/" ++ id ++ ": " ++ reason))
  function : ∀ g : Folder, f.node? [Utf8.ofString id] = g.node? [Utf8.ofString id] → f.named id = g.named id →
    f.versions id = g.versions id
  apart : ∀ g : Folder, g.Distinct → f.node? [Utf8.ofString id] = g.node? [Utf8.ofString id] →
    (∀ version, f.versionFile? id version = g.versionFile? id version) → Alike f g id
  absent : ¬Wayward id → Nameable id → f.node? [Utf8.ofString id] = none → f.versions id = .ok []
  occupied : ¬Wayward id → Nameable id →
    ∀ content changedAt, f.node? [Utf8.ofString id] = some (.file content changedAt) →
      ∃ reason, f.versions id = .error (.certificateStore ("read <root>/" ++ id ++ ": " ++ reason))
  listed : ¬Wayward id → Nameable id → f.node? [Utf8.ofString id] = some .directory →
    (∀ version node, f.versionFile? id version = some node → node.IsText) →
    ∃ versions, f.versions id = .ok versions ∧ (versions.map (·.version)).Nodup ∧
      (∀ version, (∃ v ∈ versions, v.version = version) ↔ (f.versionFile? id version).isSome) ∧
      ∀ v ∈ versions, f.Holds id v
  unreadable : ¬Wayward id → Nameable id → f.node? [Utf8.ofString id] = some .directory →
    (∃ version node, f.versionFile? id version = some node ∧ ¬node.IsText) →
    ∃ e, f.versions id = .error e ∧ f.Unreadable id e

theorem holds_of_mem (hf : f.Distinct) {node : FileNode} {v : CertificateVersion}
    (hmem : (version, node) ∈ f.named id) (hread : readVersion id version node = .ok v) :
    v.version = version ∧ f.Holds id v := by
  obtain ⟨text, changedAt, rfl⟩ := isText_of_readVersion hread
  obtain ⟨key, hkey, heq⟩ := readVersion_text id version text changedAt
  obtain rfl := Except.ok.inj (heq.symm.trans hread)
  refine ⟨rfl, rfl, text, changedAt, (mem_named_iff hf).mp hmem, hkey, ?_⟩
  show (Instant.ofSeconds _).toInt = _
  rw [Instant.toInt_ofSeconds]
  unfold Instant.minSeconds Instant.maxSeconds
  omega

theorem versions_of_text (hf : f.Distinct)
    (htext : ∀ version node, f.versionFile? id version = some node → node.IsText) :
    ∃ versions, ((f.named id).mapM fun (version, node) => readVersion id version node) = .ok versions ∧
      (versions.map (·.version)).Nodup ∧
      (∀ version, (∃ v ∈ versions, v.version = version) ↔ (f.versionFile? id version).isSome) ∧
      ∀ v ∈ versions, f.Holds id v := by
  have hreads : ∀ entry ∈ f.named id, ∃ v, readVersion id entry.1 entry.2 = .ok v := by
    rintro ⟨version, node⟩ hmem
    obtain ⟨text, changedAt, rfl⟩ := htext _ _ ((mem_named_iff hf).mp hmem)
    obtain ⟨key, -, heq⟩ := readVersion_text id version text changedAt
    exact ⟨_, heq⟩
  obtain ⟨versions, hversions⟩ := exists_mapM_ok hreads
  have hpairs := forall₂_of_mapM_ok hversions
  have hnames : versions.map (·.version) = (f.named id).map Prod.fst := by
    rw [← List.forall₂_eq_eq_eq, List.forall₂_map_left_iff, List.forall₂_map_right_iff]
    exact (hpairs.imp fun _ _ hread => version_of_readVersion hread).flip
  refine ⟨versions, hversions, hnames ▸ named_nodup hf id, fun version => ?_, fun v hv => ?_⟩
  · rw [← List.mem_map, hnames, List.mem_map, Option.isSome_iff_exists]
    simp only [← mem_named_iff hf, Prod.exists, exists_and_right, exists_eq_right]
  · obtain ⟨⟨version, node⟩, hmem, hread⟩ := (mem_iff_of_forall₂ hpairs v).mp hv
    exact (holds_of_mem hf hmem hread).2

theorem versions_of_unreadable (hf : f.Distinct)
    (hbad : ∃ version node, f.versionFile? id version = some node ∧ ¬node.IsText) :
    ∃ e, ((f.named id).mapM fun (version, node) => readVersion id version node) = .error e ∧
      f.Unreadable id e := by
  obtain ⟨version, node, hfile, hnode⟩ := hbad
  cases hread : (f.named id).mapM fun (version, node) => readVersion id version node with
  | ok versions =>
    obtain ⟨v, hv⟩ := exists_of_forall₂ (forall₂_of_mapM_ok hread) ((mem_named_iff hf).mpr hfile)
    exact absurd (isText_of_readVersion hv) hnode
  | error e =>
    obtain ⟨front, ⟨first, found⟩, rest, hsplit, hfront, herror⟩ := exists_of_mapM_error hread
    obtain ⟨hfound, reason, rfl⟩ := of_readVersion_error herror
    refine ⟨_, rfl, front, first, found, rest, reason, hsplit, fun entry hentry => ?_, hfound, rfl⟩
    obtain ⟨v, hv⟩ := hfront entry hentry
    exact isText_of_readVersion hv

theorem versions_congr (hnode : f.node? [Utf8.ofString id] = g.node? [Utf8.ofString id])
    (hnamed : f.named id = g.named id) : f.versions id = g.versions id := by
  unfold named at hnamed
  simp only [versions, hnode, readVersions, hnamed]

/-- Trees with the same files of a certificate give the same answer, in whichever order they give these files. -/
theorem alike_of_files (hf : f.Distinct) (hg : g.Distinct)
    (hnode : f.node? [Utf8.ofString id] = g.node? [Utf8.ofString id])
    (hfiles : ∀ version, f.versionFile? id version = g.versionFile? id version) : Alike f g id := by
  by_cases hread : ¬Wayward id ∧ Nameable id ∧ f.node? [Utf8.ofString id] = some .directory
  · obtain ⟨hway, hname, hdir⟩ := hread
    have hlist := versions_of_directory hway hname hdir
    have hlist' := versions_of_directory hway hname (hnode ▸ hdir)
    by_cases htext : ∀ version node, f.versionFile? id version = some node → node.IsText
    · obtain ⟨versions, hok, -⟩ := versions_of_text hf htext
      obtain ⟨others, hok', -⟩ := versions_of_text hg fun version node => hfiles version ▸ htext version node
      exact .listed (hlist.trans hok) (hlist'.trans hok')
        (perm_of_mapM_ok (named_perm hf hg hfiles) hok hok')
    · have hbad : ∃ version node, f.versionFile? id version = some node ∧ ¬node.IsText := by
        simpa using htext
      obtain ⟨e, herror, he⟩ := versions_of_unreadable hf hbad
      obtain ⟨e', herror', he'⟩ := versions_of_unreadable hg (by simpa only [hfiles] using hbad)
      exact .unreadable (hlist.trans herror) (hlist'.trans herror') he he'
  -- The directory is not read, so its entries are of no concern.
  · refine .same ?_
    by_cases hway : Wayward id
    · rw [versions_of_wayward f hway, versions_of_wayward g hway]
    by_cases hname : Nameable id
    · rw [versions_of_nameable f hway hname, versions_of_nameable g hway hname, ← hnode]
      have hdir : f.node? [Utf8.ofString id] ≠ some .directory := fun hdir => hread ⟨hway, hname, hdir⟩
      rcases hfound : f.node? [Utf8.ofString id] with _ | _ | _
      · rfl
      · rfl
      · exact absurd hfound hdir
    · obtain ⟨reason, herror⟩ := exists_versions_of_unnameable hway hname
      rw [herror f, herror g]

/-- **Listings are confined** to what a tree has for a certificate, for every tree and every identifier. -/
theorem listing_confined (f : Folder) (hf : f.Distinct) (id : String) : Confined f id where
  wayward := versions_of_wayward f
  unnameable h hname := (exists_versions_of_unnameable h hname).imp fun _ herror => herror f
  function _ := versions_congr
  apart _ := alike_of_files hf
  absent h hname hnode := by rw [versions_of_nameable f h hname, hnode]
  occupied h hname content changedAt hnode := ⟨_, by rw [versions_of_nameable f h hname, hnode]⟩
  listed h hname hnode htext := by
    rw [versions_of_directory h hname hnode]
    exact versions_of_text hf htext
  unreadable h hname hnode hbad := by
    rw [versions_of_directory h hname hnode]
    exact versions_of_unreadable hf hbad

namespace Sample

/-- A file of text that holds no key. -/
def note : FileNode :=
  .file (Utf8.ofString "none") 1690000000

/-- A tree of three certificates: one with two enabled versions, next to a disabled one, a file whose name is not
text and a directory; one whose version is a directory; and one that is a file. -/
def folder : Folder :=
  [(["signing", "v2.pem"], note), (["signing", "v1.pem"], note), (["signing", "v0.pem.disabled"], .directory),
    (["signing", "old"], .directory), (["signing", "old", "v3.pem"], note), (["master", "v1.pem"], .directory),
    (["readme"], note)].foldl (fun f entry => f.put (entry.1.map Utf8.ofString) entry.2)
    (({} : Folder).put [Utf8.ofString "signing", [255, 46, 112, 101, 109]] .directory)

theorem folder_distinct : folder.Distinct := by
  unfold Distinct
  decide +kernel

end Sample

/-- The sample lists its two versions although much that cannot be read is next to them, and the certificate whose
version cannot be read lists none. -/
theorem listing_sample :
    Sample.folder.Distinct ∧
      (∃ versions, Sample.folder.versions "signing" = .ok versions ∧
        (∀ version, (∃ v ∈ versions, v.version = version) ↔ version = "v1" ∨ version = "v2") ∧
        ∀ v ∈ versions, v.createdAt.toInt = 1690000000) ∧
      (∃ reason, Sample.folder.versions "master" =
        .error (.certificateStore ("<root>/" ++ "master" ++ "/" ++ "v1" ++ ".pem: " ++ reason))) ∧
      Sample.folder.versions "unknown" = .ok [] ∧
      Sample.folder.versions ".." = .error (.certificateStore ("invalid certificate id " ++ Text.quoted "..")) := by
  have hf := Sample.folder_distinct
  have hsigning : Sample.folder.named "signing" = [("v1", Sample.note), ("v2", Sample.note)] := by decide +kernel
  have hmaster : Sample.folder.named "master" = [("v1", .directory)] := by decide +kernel
  refine ⟨hf, ?_, ?_, ?_, ?_⟩
  · obtain ⟨versions, hok, -, hnames, hholds⟩ := (listing_confined Sample.folder hf "signing").listed
      (by simp [Wayward]) ⟨by decide, by decide⟩ (by decide +kernel) fun version node hfile => by
        rw [← mem_named_iff hf, hsigning] at hfile
        obtain ⟨-, rfl⟩ : (version = "v1" ∨ version = "v2") ∧ node = Sample.note := by
          simpa [or_and_right] using hfile
        exact ⟨_, _, rfl⟩
    refine ⟨versions, hok, fun version => ?_, fun v hv => ?_⟩
    · simp [hnames, Option.isSome_iff_exists, ← mem_named_iff hf, hsigning, ← or_and_right, or_comm]
    · obtain ⟨text, changedAt, hfile, -, hcreated⟩ := (hholds v hv).file
      rw [← mem_named_iff hf, hsigning] at hfile
      obtain ⟨-, hnote⟩ : (v.version = "v1" ∨ v.version = "v2") ∧
          FileNode.file (Utf8.ofString text) changedAt = Sample.note := by simpa [or_and_right] using hfile
      obtain rfl := (FileNode.file.inj hnote).2
      exact hcreated
  · obtain ⟨e, herror, before, first, node, after, reason, hsplit, -, -, rfl⟩ :=
      (listing_confined Sample.folder hf "master").unreadable (by simp [Wayward]) ⟨by decide, by decide⟩
        (by decide +kernel) ⟨"v1", .directory, by simp [← mem_named_iff hf, hmaster],
          by rintro ⟨text, changedAt, h⟩; cases h⟩
    obtain rfl : first = "v1" := by
      have hmem : (first, node) ∈ Sample.folder.named "master" := by simp [hsplit]
      exact (Prod.mk.inj (List.mem_singleton.mp (hmaster ▸ hmem))).1
    exact ⟨reason, herror⟩
  · exact (listing_confined Sample.folder hf "unknown").absent (by simp [Wayward]) ⟨by decide, by decide⟩
      (by decide +kernel)
  · exact (listing_confined Sample.folder hf "..").wayward (by simp [Wayward])

/-- **An identifier that no file can have is not one without versions**: its directory is missing from every tree,
and yet listing fails. -/
theorem unnameable_not_empty :
    ¬∀ (f : Folder) (id : String), f.Distinct → ¬Wayward id → f.node? [Utf8.ofString id] = none →
      f.versions id = .ok [] := by
  intro h
  have hempty := h {} "a\x00" List.nodup_nil (by simp [Wayward]) rfl
  have hwayward : ¬Wayward "a\x00" := by simp [Wayward]
  obtain ⟨reason, herror⟩ := exists_versions_of_unnameable hwayward fun hname => hname.1 (by decide)
  exact absurd (hempty.symm.trans (herror {})) (by simp)

end Folder

end BlindMint
