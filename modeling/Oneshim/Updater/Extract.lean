/-
  Taking the binary out of an archive (`src-tauri/src/updater/install.rs`).

  The archive is unpacked into the folder it was downloaded to, which is the one for temporary
  files, and the binary is then looked up there by its name.

  1. **Extraction** — an entry with a path that is not safe is refused, the others are made one by
     one.  A file of a `.tar.gz` replaces what is at its place, one of a `.zip` is written through a
     link.

  2. **Lookup** — `oneshim` in the folder itself, then in the subfolders in the order they are
     listed.

  3. **Where the binary is from** (`extract_own_iff`) — the lookup does not ask what was in the
     archive.  Whatever is called `oneshim` in the folder comes first, be it older than the archive
     or a folder of it, and a subfolder that was there before may be listed before the archive's.

  4. **A folder of its own** (`ownBinary_of_bare`) — where nothing lay before, the binary is the
     archive's in every order of the listing.
-/
import Oneshim.Lib.FileTree
import Oneshim.Updater.Release

namespace Oneshim

open Lib Lib.FileTree

/-! ## Archives -/

/-- `std::path::Component`. -/
inductive PathComponent where
  /-- `Prefix`. -/
  | drive
  | rootDir
  | curDir
  | parentDir
  | normal (name : String)

/-- `is_safe_archive_path`. -/
def isSafeArchivePath (path : List PathComponent) : Bool :=
  path.all fun component =>
    match component with
    | .normal _ => true
    | .curDir => true
    | .drive => false
    | .rootDir => false
    | .parentDir => false

/-- The names of a safe path, as they are joined to a folder. -/
def namesOf (path : List PathComponent) : List String :=
  path.filterMap fun component =>
    match component with
    | .normal name => some name
    | _ => none

/-- `EntryType` of a tar header. -/
inductive TarEntryType where
  | directory
  | regular
  | other
deriving DecidableEq

/-- An entry of a tar archive; the path may be unreadable. -/
structure TarEntry where
  path : Except String (List PathComponent)
  display : String
  entryType : TarEntryType
  bytes : List UInt8

/-- An entry of a zip archive; `enclosed_name` is none where the name leads out of the archive. -/
structure ZipEntry where
  name : String
  enclosedName : Option (List PathComponent)
  bytes : List UInt8

/-- What a library reads: an archive may not open, and an entry may not be read. -/
abbrev Reading (ε : Type) := Except String (List (Except String ε))

/-! ## Extraction -/

section

-- what the system says of an operation on a path that fails
variable (os : List String → String)

/-- The loop of `extract_tar_gz` over an entry. -/
def extractTarEntry (dir : Place) (s : Writing) (entry : TarEntry) : Except UpdateError Writing :=
  match entry.path with
  | .error e => .error (.filesystem e)
  | .ok path =>
    if !isSafeArchivePath path then
      .error (.install ("Unsafe tar entry path: " ++ entry.display))
    else
      match createDirAll s.tree dir (namesOf path).dropLast with
      | none => .error (.filesystem (os (namesOf path)))
      | some tree =>
        match entry.entryType with
        | .directory =>
          match createDirAll tree dir (namesOf path) with
          | none => .error (.filesystem (os (namesOf path)))
          | some tree => .ok { s with tree }
        | .other => .error (.install ("Unsupported tar entry type: " ++ entry.display))
        | .regular =>
          match unpack tree dir (namesOf path) entry.bytes with
          | none => .error (.filesystem (os (namesOf path)))
          | some (place, tree) => .ok ⟨tree, s.written ++ [(place, entry.bytes)]⟩

/-- The loop of `extract_zip` over an entry. -/
def extractZipEntry (dir : Place) (s : Writing) (entry : ZipEntry) : Except UpdateError Writing :=
  match entry.enclosedName with
  | none => .error (.install ("Unsafe ZIP entry path: " ++ entry.name))
  | some path =>
    if !isSafeArchivePath path then .error (.install ("Unsafe ZIP entry path: " ++ entry.name))
    else if entry.name.toList.getLast? = some '/' then
      match createDirAll s.tree dir (namesOf path) with
      | none => .error (.filesystem (os (namesOf path)))
      | some tree => .ok { s with tree }
    else
      let parents :=
        if existsAt s.tree dir (namesOf path).dropLast then some s.tree
        else createDirAll s.tree dir (namesOf path).dropLast
      match parents with
      | none => .error (.filesystem (os (namesOf path)))
      | some tree =>
        match create tree dir (namesOf path) entry.bytes with
        | none => .error (.filesystem (os (namesOf path)))
        | some (place, tree) => .ok ⟨tree, s.written ++ [(place, entry.bytes)]⟩

end

/-- The entries one after the other; `unreadable` is the error of one that cannot be read. -/
def extractEntries {ε : Type} (extractEntry : Writing → ε → Except UpdateError Writing)
    (unreadable : String → UpdateError) :
    Writing → List (Except String ε) → Except UpdateError Writing
  | s, [] => .ok s
  | _, .error e :: _ => .error (unreadable e)
  | s, .ok entry :: rest =>
    match extractEntry s entry with
    | .error e => .error e
    | .ok s => extractEntries extractEntry unreadable s rest

/-! ## Lookup -/

/-- The loop over what `read_dir` lists. -/
def searchListing (tree : FileTree) (dir : Place) (binaryName : String) :
    List String → Option (List String)
  | [] => none
  | name :: rest =>
    if isFolderAt tree dir [name] then
      if existsAt tree dir [name, binaryName] then some [name, binaryName]
      else searchListing tree dir binaryName rest
    else if name = binaryName then some [name]
    else searchListing tree dir binaryName rest

/-- The name of the binary. -/
def binaryNameFor (windows : Bool) : String := if windows then "oneshim.exe" else "oneshim"

/-- `find_binary_in_dir`, for a listing of the folder. -/
def findBinaryInDir (binaryName : String) (listing : List String) (tree : FileTree) (dir : Place) :
    Except UpdateError (List String) :=
  if existsAt tree dir [binaryName] then .ok [binaryName]
  else
    match searchListing tree dir binaryName listing with
    | some names => .ok names
    | none => .error (.install ("Binary '" ++ binaryName ++ "' not found"))

/-- The path of the binary, below the folder, and what has been written. -/
def foundIn (windows : Bool) (listing : List String) (dir : Place) (s : Writing) :
    Except UpdateError (List String × Writing) :=
  match findBinaryInDir (binaryNameFor windows) listing s.tree dir with
  | .error e => .error e
  | .ok names => .ok (names, s)

/-- An archive, by its ending. -/
inductive Archive where
  | tarGz (reading : Reading TarEntry)
  | zip (reading : Reading ZipEntry)

/-- `extract_tar_gz`. -/
def extractTarGz (os : List String → String) (windows : Bool) (listing : List String) (dir : Place)
    (tree : FileTree) (reading : Reading TarEntry) : Except UpdateError (List String × Writing) :=
  match reading with
  | .error e => .error (.filesystem e)
  | .ok entries =>
    match extractEntries (extractTarEntry os dir) .filesystem ⟨tree, []⟩ entries with
    | .error e => .error e
    | .ok s => foundIn windows listing dir s

/-- `extract_zip`. -/
def extractZip (os : List String → String) (windows : Bool) (listing : List String) (dir : Place)
    (tree : FileTree) (reading : Reading ZipEntry) : Except UpdateError (List String × Writing) :=
  match reading with
  | .error e => .error (.install ("Failed to open ZIP archive: " ++ e))
  | .ok entries =>
    match extractEntries (extractZipEntry os dir)
        (fun e => .install ("Failed to read ZIP entry: " ++ e)) ⟨tree, []⟩ entries with
    | .error e => .error e
    | .ok s => foundIn windows listing dir s

/-- The archive is extracted into its folder. -/
def extract (os : List String → String) (windows : Bool) (listing : List String) (dir : Place)
    (tree : FileTree) : Archive → Except UpdateError (List String × Writing)
  | .tarGz reading => extractTarGz os windows listing dir tree reading
  | .zip reading => extractZip os windows listing dir tree reading

/-! ## The archive laid over the folder -/

/-- What is made of an entry that is accepted. -/
def TarEntry.pieces (entry : TarEntry) : List Piece :=
  match entry.path with
  | .error _ => []
  | .ok path =>
    if entry.entryType = .directory then
      [.folder (namesOf path).dropLast, .folder (namesOf path)]
    else [.folder (namesOf path).dropLast, .file (namesOf path) entry.bytes]

/-- What is made of an entry that is accepted. -/
def ZipEntry.pieces (entry : ZipEntry) : List Piece :=
  match entry.enclosedName with
  | none => []
  | some path =>
    if entry.name.toList.getLast? = some '/' then [.folder (namesOf path)]
    else [.folder (namesOf path).dropLast, .file (namesOf path) entry.bytes]

/-- The entries that can be read. -/
def Reading.entries {ε : Type} : Reading ε → List ε
  | .error _ => []
  | .ok entries => entries.filterMap Except.toOption

namespace Archive

/-- All there is to be made. -/
def pieces : Archive → List Piece
  | .tarGz reading => reading.entries.flatMap TarEntry.pieces
  | .zip reading => reading.entries.flatMap ZipEntry.pieces

/-- A file of a `.tar.gz` replaces a link that is in its place. -/
def replaces : Archive → Bool
  | .tarGz _ => true
  | .zip _ => false

/-- The archive laid over a folder as it was before. -/
def laidOver (archive : Archive) (before : FileTree) (dir : Place) : Writing :=
  overlay archive.replaces before dir archive.pieces

end Archive

/-- The path leads to a place that has been written. -/
def isOwn (s : Writing) (dir : Place) (names : List String) : Bool :=
  match follow s.tree dir names with
  | some place => decide (place ∈ s.written.map Prod.fst)
  | none => false

/-- A path is one to a file with the bytes of an entry, written at that place. -/
def FromArchive (s : Writing) (dir : Place) (names : List String) : Prop :=
  ∃ place bytes, follow s.tree dir names = some place ∧ s.tree place = some (.file bytes) ∧
    (place, bytes) ∈ s.written

/-- Every file written lies in the folder. -/
def Inside (s : Writing) (dir : Place) : Prop := ∀ place ∈ s.written.map Prod.fst, dir <+: place

/-- In the folder with the archive laid over it: no link leads a file out of the folder; what is
    called as the binary there, if anything, is a file of the archive; and if nothing is, then the
    first subfolder of the listing with the binary has the archive's. -/
structure OwnBinary (windows : Bool) (listing : List String) (dir : Place) (s : Writing) :
    Prop where
  inside : Inside s dir
  direct : existsAt s.tree dir [binaryNameFor windows] = true →
    isOwn s dir [binaryNameFor windows] = true
  first : existsAt s.tree dir [binaryNameFor windows] = false →
    ∀ name, listing.find? (fun name => existsAt s.tree dir [name, binaryNameFor windows] ||
        decide (name = binaryNameFor windows)) = some name →
      isOwn s dir [name, binaryNameFor windows] = true

/-! ## Extraction is laying over -/

theorem extractTarEntry_pieces {os : List String → String} {dir : Place} {s s' : Writing}
    {entry : TarEntry} (h : extractTarEntry os dir s entry = .ok s') :
    makeAll true dir s entry.pieces = some s' := by
  unfold extractTarEntry at h
  unfold TarEntry.pieces
  cases hpath : entry.path with
  | error e => simp only [hpath] at h; cases h
  | ok path =>
    simp only [hpath] at h ⊢
    split at h
    · cases h
    cases hparents : createDirAll s.tree dir (namesOf path).dropLast with
    | none => simp only [hparents] at h; cases h
    | some tree =>
      simp only [hparents] at h
      cases htype : entry.entryType with
      | other => simp only [htype] at h; cases h
      | directory =>
        simp only [htype] at h
        cases hmade : createDirAll tree dir (namesOf path) with
        | none => simp only [hmade] at h; cases h
        | some made =>
          simp only [hmade] at h
          cases h
          simp only [if_true, makeAll, make, hparents, Option.map_some, hmade]
      | regular =>
        simp only [htype] at h
        have hne : ¬ TarEntryType.regular = .directory := by decide
        cases hmade : unpack tree dir (namesOf path) entry.bytes with
        | none => simp only [hmade] at h; cases h
        | some made =>
          simp only [hmade] at h
          cases h
          simp only [if_neg hne, makeAll, make, hparents, Option.map_some, if_true, hmade]

/-- Extracting an entry makes its pieces. -/
theorem extractZipEntry_pieces {os : List String → String} {dir : Place} {s s' : Writing}
    {entry : ZipEntry} (h : extractZipEntry os dir s entry = .ok s') :
    makeAll false dir s entry.pieces = some s' := by
  unfold extractZipEntry at h
  unfold ZipEntry.pieces
  cases hpath : entry.enclosedName with
  | none => simp only [hpath] at h; cases h
  | some path =>
    simp only [hpath] at h ⊢
    split at h
    · cases h
    split at h
    · rename_i hdir
      cases hmade : createDirAll s.tree dir (namesOf path) with
      | none => simp only [hmade] at h; cases h
      | some made =>
        simp only [hmade] at h
        cases h
        simp only [if_pos hdir, makeAll, make, Option.map_some, hmade]
    · rename_i hfile
      split at h
      · cases h
      rename_i tree hparents
      cases hmade : create tree dir (namesOf path) entry.bytes with
      | none => simp only [hmade] at h; cases h
      | some made =>
        simp only [hmade] at h
        cases h
        -- where the folder is there already, making its path changes nothing
        have hfolders : createDirAll s.tree dir (namesOf path).dropLast = some tree := by
          split at hparents
          · cases hparents
            exact createDirAll_of_create (by rw [hmade]; exact Option.some_ne_none made)
          · exact hparents
        simp only [if_neg hfile, makeAll, make, hfolders, Option.map_some, Bool.false_eq_true,
          if_false, hmade]

/-- **Entries that are all accepted** are made one after the other. -/
theorem extractEntries_pieces {ε : Type} {extractEntry : Writing → ε → Except UpdateError Writing}
    {unreadable : String → UpdateError} {replaced : Bool} {dir : Place} {pieces : ε → List Piece}
    (hentry : ∀ s s' entry, extractEntry s entry = .ok s' →
      makeAll replaced dir s (pieces entry) = some s')
    {s s' : Writing} {entries : List (Except String ε)}
    (h : extractEntries extractEntry unreadable s entries = .ok s') :
    makeAll replaced dir s ((entries.filterMap Except.toOption).flatMap pieces) = some s' := by
  induction entries generalizing s with
  | nil =>
    cases h
    rfl
  | cons entry rest ih =>
    cases entry with
    | error e => cases h
    | ok entry =>
      rw [extractEntries] at h
      cases hnext : extractEntry s entry with
      | error e => rw [hnext] at h; cases h
      | ok next =>
        rw [hnext] at h
        show makeAll replaced dir s (pieces entry ++ _) = some s'
        rw [makeAll_append, hentry s next entry hnext, Option.bind_some]
        exact ih h

variable {names : List String}

/-- **What an accepted archive comes to**: it is laid over the folder, and the binary is looked up
    there. -/
theorem extract_eq {os : List String → String} {windows : Bool} {listing : List String}
    {dir : Place} {before : FileTree} {archive : Archive} {s : Writing}
    (h : extract os windows listing dir before archive = .ok (names, s)) :
    s = archive.laidOver before dir ∧
      findBinaryInDir (binaryNameFor windows) listing s.tree dir = .ok names := by
  have hfound {s' : Writing} (h : foundIn windows listing dir s' = .ok (names, s)) :
      s' = s ∧ findBinaryInDir (binaryNameFor windows) listing s.tree dir = .ok names := by
    unfold foundIn at h
    cases hfind : findBinaryInDir (binaryNameFor windows) listing s'.tree dir with
    | error e => rw [hfind] at h; cases h
    | ok found =>
      rw [hfind] at h
      cases h
      exact ⟨rfl, hfind⟩
  cases archive with
  | tarGz reading =>
    cases reading with
    | error e => cases h
    | ok entries =>
      simp only [extract, extractTarGz] at h
      split at h
      · cases h
      · rename_i s' hentries
        obtain ⟨rfl, hfind⟩ := hfound h
        have hmade := @extractEntries_pieces TarEntry (extractTarEntry os dir) .filesystem true dir
          TarEntry.pieces (fun _ _ _ hentry => extractTarEntry_pieces hentry) _ _ _ hentries
        exact ⟨makeAll_eq hmade, hfind⟩
  | zip reading =>
    cases reading with
    | error e => cases h
    | ok entries =>
      simp only [extract, extractZip] at h
      split at h
      · cases h
      · rename_i s' hentries
        obtain ⟨rfl, hfind⟩ := hfound h
        have hmade := @extractEntries_pieces ZipEntry (extractZipEntry os dir) _ false dir
          ZipEntry.pieces (fun _ _ _ hentry => extractZipEntry_pieces hentry) _ _ _ hentries
        exact ⟨makeAll_eq hmade, hfind⟩

/-! ## Lookup -/

variable {tree : FileTree} {dir : Place} {name binaryName : String}

/-- What is in a subfolder is in a folder. -/
theorem isFolderAt_of_existsAt (h : existsAt tree dir [name, binaryName] = true) :
    isFolderAt tree dir [name] = true := by
  unfold existsAt at h
  simp only [follow] at h
  unfold isFolderAt
  simp only [follow]
  split at h
  · rename_i place hfollow
    split at hfollow
    · rename_i hdir
      split at hfollow
      · rename_i hfolder
        simp only [if_pos hdir]
        exact decide_eq_true hfolder
      · cases hfollow
    · cases hfollow
  · cases h

theorem existsAt_of_isFolderAt (h : isFolderAt tree dir names = true) :
    existsAt tree dir names = true := by
  unfold isFolderAt at h
  unfold existsAt
  cases hfollow : follow tree dir names with
  | none => rw [hfollow] at h; cases h
  | some place =>
    rw [hfollow] at h
    simp only [of_decide_eq_true h, Option.isSome_some]

/-- **The loop over the listing**, where nothing is called as the binary in the folder itself: the
    first subfolder with the binary, or a link of that name which leads nowhere. -/
theorem searchListing_eq (hdirect : existsAt tree dir [binaryName] = false)
    (listing : List String) :
    searchListing tree dir binaryName listing =
      (listing.find? fun name => existsAt tree dir [name, binaryName] ||
          decide (name = binaryName)).map fun name =>
        if existsAt tree dir [name, binaryName] then [name, binaryName] else [name] := by
  induction listing with
  | nil => rfl
  | cons name rest ih =>
    rw [searchListing]
    cases hfolder : isFolderAt tree dir [name] with
    | true =>
      have hne : ¬ name = binaryName := by
        rintro rfl
        rw [existsAt_of_isFolderAt hfolder] at hdirect
        cases hdirect
      cases hsub : existsAt tree dir [name, binaryName] with
      | true => simp only [if_true, List.find?_cons, hsub, Bool.true_or, Option.map_some]
      | false =>
        simp only [if_true, Bool.false_eq_true, if_false, List.find?_cons, hsub, Bool.false_or,
          decide_eq_false hne]
        exact ih
    | false =>
      have hsub : existsAt tree dir [name, binaryName] = false := by
        cases hexists : existsAt tree dir [name, binaryName] with
        | false => rfl
        | true =>
          rw [isFolderAt_of_existsAt hexists] at hfolder
          cases hfolder
      by_cases heq : name = binaryName
      · simp only [Bool.false_eq_true, if_false, if_pos heq, List.find?_cons, hsub, Bool.false_or,
          decide_eq_true heq, Option.map_some]
      · simp only [Bool.false_eq_true, if_false, if_neg heq, List.find?_cons, hsub, Bool.false_or,
          decide_eq_false heq]
        exact ih

/-- What has been written exists. -/
theorem existsAt_of_isOwn {s : Writing} (hwritten : WrittenThere s) (h : isOwn s dir names = true) :
    existsAt s.tree dir names = true := by
  unfold isOwn at h
  unfold existsAt
  cases hfollow : follow s.tree dir names with
  | none => rw [hfollow] at h; cases h
  | some place =>
    rw [hfollow] at h
    obtain ⟨bytes, hnode, -⟩ := hwritten place (of_decide_eq_true h)
    simp only [hnode, Option.isSome_some]

/-- A path to a written place is one to a file of the archive. -/
theorem fromArchive_iff {s : Writing} (hwritten : WrittenThere s) :
    FromArchive s dir names ↔ isOwn s dir names = true := by
  unfold isOwn
  constructor
  · rintro ⟨place, bytes, hfollow, -, hmem⟩
    simp only [hfollow]
    exact decide_eq_true (List.mem_map_of_mem hmem)
  · intro h
    cases hfollow : follow s.tree dir names with
    | none => rw [hfollow] at h; cases h
    | some place =>
      rw [hfollow] at h
      obtain ⟨bytes, hnode, hmem⟩ := hwritten place (of_decide_eq_true h)
      exact ⟨place, bytes, hfollow, hnode, hmem⟩

/-! ## Where the binary is from -/

/-- **The installed binary comes from the archive**, and every file is written in the folder,
    exactly where, with the archive laid over what was there, no link leads a file out and the
    lookup meets a file of the archive first. -/
theorem extract_own_iff {os : List String → String} {windows : Bool} {listing : List String}
    {dir : Place} {before : FileTree} {archive : Archive} {names : List String} {s : Writing}
    (h : extract os windows listing dir before archive = .ok (names, s)) :
    (FromArchive s dir names ∧ Inside s dir) ↔
      OwnBinary windows listing dir (archive.laidOver before dir) := by
  obtain ⟨hover, hfind⟩ := extract_eq h
  have hwritten : WrittenThere s := by
    rw [hover]
    exact writtenThere_overlay _ _ _ _
  rw [fromArchive_iff hwritten, ← hover]
  unfold findBinaryInDir at hfind
  cases hdirect : existsAt s.tree dir [binaryNameFor windows] with
  | true =>
    -- the binary is looked up in the folder itself
    rw [hdirect, if_pos rfl] at hfind
    cases hfind
    constructor
    · rintro ⟨hown, hinside⟩
      refine ⟨hinside, fun _ => hown, fun hnot => ?_⟩
      rw [hdirect] at hnot
      cases hnot
    · intro hown
      exact ⟨hown.direct hdirect, hown.inside⟩
  | false =>
    have hnotOwn : ¬ isOwn s dir [binaryNameFor windows] = true := by
      intro hown
      rw [existsAt_of_isOwn hwritten hown] at hdirect
      cases hdirect
    rw [hdirect, if_neg Bool.false_ne_true, searchListing_eq hdirect] at hfind
    cases hsearch : listing.find? fun name =>
        existsAt s.tree dir [name, binaryNameFor windows] ||
          decide (name = binaryNameFor windows) with
    | none => rw [hsearch] at hfind; cases hfind
    | some name =>
      rw [hsearch, Option.map_some] at hfind
      have hfirst : isOwn s dir names = true ↔
          isOwn s dir [name, binaryNameFor windows] = true := by
        cases hsub : existsAt s.tree dir [name, binaryNameFor windows] with
        | true =>
          rw [hsub, if_pos rfl] at hfind
          cases hfind
          exact Iff.rfl
        | false =>
          -- a link that leads nowhere: it is no file, and has nothing in it
          rw [hsub, if_neg Bool.false_ne_true] at hfind
          cases hfind
          have hheld := List.find?_some hsearch
          rw [hsub, Bool.false_or] at hheld
          rw [of_decide_eq_true hheld] at hsub ⊢
          refine iff_of_false hnotOwn fun hown => ?_
          rw [existsAt_of_isOwn hwritten hown] at hsub
          cases hsub
      rw [hfirst]
      constructor
      · rintro ⟨hown, hinside⟩
        refine ⟨hinside, fun hthere => ?_, fun _ other hother => ?_⟩
        · rw [hdirect] at hthere
          cases hthere
        · rw [hsearch] at hother
          cases hother
          exact hown
      · intro hown
        exact ⟨hown.first hdirect name hsearch, hown.inside⟩

/-- Somebody else's `oneshim` lies in the folder; the binary of the archive is in a subfolder. -/
def plantedTree : FileTree :=
  put (put (fun _ => none) ["tmp"] .folder) ["tmp", "oneshim"] (.file [66])

/-- A folder with nothing in it. -/
def emptyTree : FileTree := put (fun _ => none) ["tmp"] .folder

def sampleArchive : Archive :=
  .tarGz (.ok [.ok ⟨.ok [.normal "oneshim-0.5.0", .normal "oneshim"], "oneshim-0.5.0/oneshim",
    .regular, [5]⟩])

/-- In an empty folder the lookup finds the binary of the archive. -/
theorem extract_own_iff_example :
    ∃ s, extract (fun _ => "") false ["oneshim-0.5.0"] ["tmp"] emptyTree sampleArchive =
        .ok (["oneshim-0.5.0", "oneshim"], s) ∧
      FromArchive s ["tmp"] ["oneshim-0.5.0", "oneshim"] ∧ Inside s ["tmp"] := by
  have hown : OwnBinary false ["oneshim-0.5.0"] ["tmp"]
      (sampleArchive.laidOver emptyTree ["tmp"]) := by
    refine ⟨?_, ?_, ?_⟩
    · intro place hplace
      have hone : place = ["tmp", "oneshim-0.5.0", "oneshim"] := List.mem_singleton.mp hplace
      rw [hone]
      exact ⟨["oneshim-0.5.0", "oneshim"], rfl⟩
    · intro hthere
      exact absurd hthere (by decide)
    · intro _ name hname
      have hone : some "oneshim-0.5.0" = some name := hname
      cases hone
      decide
  have hextract : extract (fun _ => "") false ["oneshim-0.5.0"] ["tmp"] emptyTree sampleArchive =
      .ok (["oneshim-0.5.0", "oneshim"], sampleArchive.laidOver emptyTree ["tmp"]) := rfl
  exact ⟨_, hextract, (extract_own_iff hextract).mpr hown⟩

/-- What lay in the folder is installed in the place of what was checked. -/
theorem planted_binary_found :
    ¬ ∀ (os : List String → String) (windows : Bool) (listing : List String) (dir : Place)
      (before : FileTree) (archive : Archive) (names : List String) (s : Writing),
      extract os windows listing dir before archive = .ok (names, s) →
      FromArchive s dir names ∧ Inside s dir := by
  intro hall
  obtain ⟨⟨place, bytes, hfollow, -, hmem⟩, -⟩ := hall (fun _ => "") false
    ["oneshim", "oneshim-0.5.0"] ["tmp"] plantedTree sampleArchive ["oneshim"] _ rfl
  have hplace : some ["tmp", "oneshim"] = some place := hfollow
  cases hplace
  have hwritten : ["tmp", "oneshim"] = ["tmp", "oneshim-0.5.0", "oneshim"] :=
    congrArg Prod.fst (List.mem_singleton.mp hmem)
  exact absurd hwritten (by decide)

/-! ## A folder of its own -/

/-- The archive has no folder that is called as the binary, and no file without a name. -/
structure PlainArchive (binaryName : String) (archive : Archive) : Prop where
  folders : ∀ names, .folder names ∈ archive.pieces → binaryName ∉ names
  files : ∀ names bytes, .file names bytes ∈ archive.pieces → names ≠ []

section

variable {before : FileTree} {archive : Archive}

/-- In a folder of its own there is what the archive has, and no link. -/
theorem laidOver_of_bare (h : Bare before dir) (harchive : PlainArchive binaryName archive)
    (hne : names ≠ []) :
    (archive.laidOver before dir).tree (dir ++ names) = none ∨
      dir ++ names ∈ (archive.laidOver before dir).written.map Prod.fst ∨
      (archive.laidOver before dir).tree (dir ++ names) = some .folder ∧ binaryName ∉ names := by
  rcases accounted_overlay archive.replaces before dir archive.pieces (dir ++ names) with
    hsame | hwritten | ⟨hfolder, full, part, hpiece, -, hpart, hplace⟩
  · exact .inl (hsame.trans (h.empty names hne))
  · exact .inr (.inl hwritten)
  · rw [h.lead_eq] at hplace
    have heq : names = part := List.append_cancel_left hplace
    refine .inr (.inr ⟨hfolder, fun hmem => harchive.folders full hpiece ?_⟩)
    rw [heq] at hmem
    exact hpart.subset hmem

theorem linkAt_laidOver_of_bare (h : Bare before dir) (harchive : PlainArchive binaryName archive)
    (hne : names ≠ []) :
    linkAt (archive.laidOver before dir).tree (dir ++ names) = none := by
  unfold linkAt
  rcases laidOver_of_bare h harchive hne with hnone | hwritten | ⟨hfolder, -⟩
  · simp only [hnone]
  · obtain ⟨bytes, hnode, -⟩ := writtenThere_overlay _ _ _ _ _ hwritten
    unfold Archive.laidOver
    simp only [hnode]
  · simp only [hfolder]

theorem root_laidOver_of_bare (h : Bare before dir) (harchive : PlainArchive binaryName archive) :
    (archive.laidOver before dir).tree dir = some .folder := by
  rcases accounted_overlay archive.replaces before dir archive.pieces dir with
    hsame | hwritten | ⟨hfolder, -⟩
  · exact hsame.trans h.root
  · obtain ⟨names, bytes, hpiece, hplace⟩ := written_overlay _ _ _ _ hwritten
    have hne := harchive.files names bytes hpiece
    rw [h.target_eq _ hne] at hplace
    exact absurd (List.self_eq_append_right.mp hplace) hne
  · exact hfolder

/-- **A folder of its own suffices**: where nothing was before, an archive without a folder called
    as the binary gives its own, in whatever order the folder is listed. -/
theorem ownBinary_of_bare {windows : Bool} {listing : List String} (h : Bare before dir)
    (harchive : PlainArchive (binaryNameFor windows) archive)
    (hlisting : ∀ name ∈ listing, (archive.laidOver before dir).tree (dir ++ [name]) ≠ none) :
    OwnBinary windows listing dir (archive.laidOver before dir) := by
  have henter (name : String) : enter (archive.laidOver before dir).tree dir name = dir ++ [name] := by
    unfold enter
    rw [linkAt_laidOver_of_bare h harchive (List.cons_ne_nil name [])]
    rfl
  have hsub (name : String) :
      enter (archive.laidOver before dir).tree (dir ++ [name]) (binaryNameFor windows) =
        dir ++ [name, binaryNameFor windows] := by
    unfold enter
    rw [List.append_assoc]
    exact congrArg (fun link => Option.getD link _)
      (linkAt_laidOver_of_bare h harchive (List.cons_ne_nil name [binaryNameFor windows]))
  have hroot := root_laidOver_of_bare h harchive
  -- what is there and called as the binary has been written
  have hwritten (names : List String) (hmem : binaryNameFor windows ∈ names)
      (hnode : ((archive.laidOver before dir).tree (dir ++ names)).isSome = true) :
      dir ++ names ∈ (archive.laidOver before dir).written.map Prod.fst := by
    have hne : names ≠ [] := List.ne_nil_of_mem hmem
    rcases laidOver_of_bare h harchive hne with hnone | hwritten | ⟨-, hnot⟩
    · rw [hnone] at hnode
      cases hnode
    · exact hwritten
    · exact absurd hmem hnot
  refine ⟨?_, ?_, ?_⟩
  · intro place hplace
    obtain ⟨names, bytes, hpiece, rfl⟩ := written_overlay _ _ _ _ hplace
    rw [h.target_eq _ (harchive.files names bytes hpiece)]
    exact List.prefix_append dir names
  · intro hthere
    unfold existsAt at hthere
    unfold isOwn
    simp only [follow, henter, hroot, if_true] at hthere ⊢
    exact decide_eq_true (hwritten _ List.mem_cons_self hthere)
  · intro hdirect name hname
    have hheld := List.find?_some hname
    simp only [Bool.or_eq_true, decide_eq_true_eq] at hheld
    rcases hheld with hthere | heq
    · unfold existsAt at hthere
      unfold isOwn
      simp only [follow, henter, hsub, hroot, if_true] at hthere ⊢
      by_cases hfolder : (archive.laidOver before dir).tree (dir ++ [name]) = some .folder
      · simp only [if_pos hfolder] at hthere ⊢
        exact decide_eq_true (hwritten _ (List.mem_cons_of_mem _ List.mem_cons_self) hthere)
      · simp only [if_neg hfolder] at hthere
        cases hthere
    · -- nothing that is listed is missing, so the name itself would have been found
      have hnode := hlisting name (List.mem_of_find?_eq_some hname)
      unfold existsAt at hdirect
      simp only [follow, henter, hroot, if_true] at hdirect
      rw [heq, ← Option.isSome_iff_ne_none, hdirect] at hnode
      cases hnode

/-- The sample archive has no such folder. -/
theorem ownBinary_of_bare_sample : OwnBinary false ["oneshim-0.5.0"] ["tmp"]
    (sampleArchive.laidOver emptyTree ["tmp"]) := by
  have hpieces : ∀ piece ∈ sampleArchive.pieces, piece = .folder ["oneshim-0.5.0"] ∨
      piece = .file ["oneshim-0.5.0", "oneshim"] [5] :=
    fun _ h => (List.mem_cons.mp h).imp_right List.mem_singleton.mp
  refine ownBinary_of_bare ⟨put_self _ _ _, fun names hne => ?_⟩
    ⟨fun names h => ?_, fun names bytes h => ?_⟩ (by decide)
  · exact @put_of_ne ["tmp"] _ (fun h => hne (List.cons.inj h).2) _ _
  · rcases hpieces _ h with h | h <;> cases h
    decide
  · rcases hpieces _ h with h | h <;> cases h
    decide

end

end Oneshim
