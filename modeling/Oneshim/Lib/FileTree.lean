/-
  Files, folders and symbolic links.

  A place is the list of names from the root.  A link is given by the place where it leads to in the
  end, so that the place a path leads to is found name by name (`enter`).

  1. **Operations** — following a path, making the folders of a path, and two ways to make a file:
     `create` writes through a link, `unpack` puts the file in the place of the link.

  2. **Laying over** — the same with all links as they were BEFORE (`layFolders`).  An operation may
     replace a link by a file, and by nothing else (`Kept`); a path that would lead through such a
     file is refused.

  3. **The crux** (`createDirAll_eq`, `place_of_follow`) — so an operation that succeeds does what
     laying over does, and leads where the path led before.
-/
import Mathlib.Data.List.Infix
import Mathlib.Logic.Function.Basic

namespace Lib

/-- The names from the root. -/
abbrev Place := List String

inductive FileNode where
  | file (bytes : List UInt8)
  | folder
  | link (target : Place)
deriving DecidableEq

/-- What there is at each place. -/
abbrev FileTree := Place → Option FileNode

namespace FileTree

/-! ## Following paths -/

def put (tree : FileTree) (place : Place) (node : FileNode) : FileTree :=
  Function.update tree place (some node)

/-- The link at a place. -/
def linkAt (tree : FileTree) (place : Place) : Option Place :=
  match tree place with
  | some (.link target) => some target
  | some (.file _) => none
  | some .folder => none
  | none => none

/-- Where a name in a folder leads. -/
def enter (tree : FileTree) (folder : Place) (name : String) : Place :=
  (linkAt tree (folder ++ [name])).getD (folder ++ [name])

/-- Where a path leads; what is passed on the way has to be a folder. -/
def follow (tree : FileTree) : Place → List String → Option Place
  | folder, [] => some folder
  | folder, name :: rest =>
    if tree folder = some .folder then follow tree (enter tree folder name) rest else none

/-- `exists`: something is at the place where the path leads. -/
def existsAt (tree : FileTree) (folder : Place) (names : List String) : Bool :=
  match follow tree folder names with
  | some place => (tree place).isSome
  | none => false

/-- `is_dir`. -/
def isFolderAt (tree : FileTree) (folder : Place) (names : List String) : Bool :=
  match follow tree folder names with
  | some place => decide (tree place = some .folder)
  | none => false

/-! ## Making folders and files -/

/-- `create_dir_all`: a link that leads nowhere is in the way, as a file is. -/
def createDirAll (tree : FileTree) : Place → List String → Option FileTree
  | _, [] => some tree
  | folder, name :: rest =>
    match tree (enter tree folder name) with
    | some .folder => createDirAll tree (enter tree folder name) rest
    | some (.file _) => none
    | some (.link _) => none
    | none =>
      if enter tree folder name = folder ++ [name] then
        createDirAll (put tree (folder ++ [name]) .folder) (folder ++ [name]) rest
      else none

/-- The folder a file is to be made in. -/
def parentOf (tree : FileTree) (folder : Place) (names : List String) : Option Place :=
  match follow tree folder names.dropLast with
  | some parent => if tree parent = some .folder then some parent else none
  | none => none

/-- A file that replaces what is there, be it a link. -/
def unpack (tree : FileTree) (folder : Place) (names : List String) (bytes : List UInt8) :
    Option (Place × FileTree) :=
  match parentOf tree folder names, names.getLast? with
  | some parent, some name =>
    if tree (parent ++ [name]) = some .folder then none
    else some (parent ++ [name], put tree (parent ++ [name]) (.file bytes))
  | _, _ => none

/-- A file that is made, or written anew, where its path leads. -/
def create (tree : FileTree) (folder : Place) (names : List String) (bytes : List UInt8) :
    Option (Place × FileTree) :=
  match parentOf tree folder names, names.getLast? with
  | some parent, some name =>
    let place := enter tree parent name
    match tree place with
    | some .folder => none
    | some (.link _) => none
    | some (.file _) => some (place, put tree place (.file bytes))
    | none =>
      if place = parent ++ [name] ∨ tree place.dropLast = some .folder then
        some (place, put tree place (.file bytes))
      else none
  | _, _ => none

/-! ## Laying over -/

/-- Where a path led before, whatever is passed on the way. -/
def lead (before : FileTree) (folder : Place) (names : List String) : Place :=
  names.foldl (enter before) folder

/-- The folders of a path, where nothing is yet. -/
def layFolders (before : FileTree) : FileTree → Place → List String → FileTree
  | tree, _, [] => tree
  | tree, folder, name :: rest =>
    layFolders before
      (if tree (enter before folder name) = none then put tree (enter before folder name) .folder
        else tree)
      (enter before folder name) rest

/-- The links are those there were before, but that `replaced` allows a file for one. -/
def Kept (replaced : Bool) (before tree : FileTree) : Prop :=
  ∀ place, linkAt tree place = linkAt before place ∨
    (replaced = true ∧ ∃ bytes, tree place = some (.file bytes))

variable {replaced : Bool} {before tree : FileTree}

theorem put_self (tree : FileTree) (place : Place) (node : FileNode) :
    put tree place node place = some node := by
  simp only [put, Function.update_self]

theorem put_of_ne {place other : Place} (h : other ≠ place) (tree : FileTree) (node : FileNode) :
    put tree place node other = tree other := by
  simp only [put, Function.update_of_ne h]

/-- The links of a tree are those at other places, and what is put. -/
theorem linkAt_put_of_ne {place other : Place} (h : other ≠ place) (tree : FileTree)
    (node : FileNode) : linkAt (put tree place node) other = linkAt tree other := by
  simp only [linkAt, put_of_ne h]

theorem Kept.refl (replaced : Bool) (before : FileTree) : Kept replaced before before :=
  fun _ => .inl rfl

/-- A folder where there was nothing changes no link. -/
theorem Kept.put_folder (h : Kept replaced before tree) {place : Place}
    (hnone : tree place = none) : Kept replaced before (put tree place .folder) := by
  intro other
  by_cases hother : other = place
  · subst hother
    rcases h other with hsame | ⟨-, bytes, hbytes⟩
    · left
      rw [← hsame]
      simp only [linkAt, put_self, hnone]
    · rw [hbytes] at hnone
      cases hnone
  · simp only [linkAt_put_of_ne hother, put_of_ne hother]
    exact h other

/-- A file changes no link but one that it replaces. -/
theorem Kept.put_file (h : Kept replaced before tree) {place : Place} {bytes : List UInt8}
    (hlink : replaced = true ∨ linkAt tree place = none) :
    Kept replaced before (put tree place (.file bytes)) := by
  intro other
  by_cases hother : other = place
  · subst hother
    rcases hlink with hreplaced | hnone
    · exact .inr ⟨hreplaced, bytes, put_self _ _ _⟩
    · rcases h other with hsame | ⟨hreplaced, -⟩
      · left
        rw [← hsame, hnone]
        simp only [linkAt, put_self]
      · exact .inr ⟨hreplaced, bytes, put_self _ _ _⟩
  · simp only [linkAt_put_of_ne hother, put_of_ne hother]
    exact h other

variable {folder : Place}

/-- A name leads where it led before, unless a file is in the place of a link. -/
theorem Kept.enter_eq (h : Kept replaced before tree) {name : String}
    (hfile : ∀ bytes, tree (enter tree folder name) ≠ some (.file bytes)) :
    enter tree folder name = enter before folder name := by
  rcases h (folder ++ [name]) with hsame | ⟨-, bytes, hbytes⟩
  · unfold enter
    rw [hsame]
  · have hhere : enter tree folder name = folder ++ [name] := by
      simp only [enter, linkAt, hbytes, Option.getD_none]
    rw [hhere] at hfile
    exact absurd hbytes (hfile bytes)

/-- Where nothing is replaced every name leads where it led before. -/
theorem Kept.enter_eq_of_false (h : Kept false before tree) (folder : Place) (name : String) :
    enter tree folder name = enter before folder name := by
  rcases h (folder ++ [name]) with hsame | ⟨hreplaced, -⟩
  · unfold enter
    rw [hsame]
  · cases hreplaced

/-! ## Operations that succeed -/

variable {names : List String}

/-- **Folders that are made are laid over.** -/
theorem createDirAll_eq {made : FileTree} (h : Kept replaced before tree)
    (hmade : createDirAll tree folder names = some made) :
    made = layFolders before tree folder names ∧ Kept replaced before made := by
  induction names generalizing tree folder with
  | nil =>
    cases hmade
    exact ⟨rfl, h⟩
  | cons name rest ih =>
    have henter : enter tree folder name = enter before folder name := by
      refine h.enter_eq fun bytes hbytes => ?_
      simp only [createDirAll, hbytes] at hmade
      cases hmade
    rw [createDirAll, henter] at hmade
    rw [layFolders]
    cases hnode : tree (enter before folder name) with
    | none =>
      simp only [hnode] at hmade
      split at hmade
      · rename_i hhere
        rw [if_pos rfl, hhere]
        rw [hhere] at hnode
        exact ih (h.put_folder hnode) hmade
      · cases hmade
    | some node =>
      have hsome : ¬ some node = none := Option.some_ne_none node
      rw [if_neg hsome]
      cases node with
      | folder =>
        simp only [hnode] at hmade
        exact ih h hmade
      | file bytes => simp only [hnode] at hmade; cases hmade
      | link target => simp only [hnode] at hmade; cases hmade

variable {folder place : Place}

/-- **A path that ends at a folder leads where it led before.** -/
theorem place_of_follow (h : Kept replaced before tree)
    (hfollow : follow tree folder names = some place) (hfolder : tree place = some .folder) :
    place = lead before folder names := by
  induction names generalizing folder with
  | nil => exact (Option.some.inj hfollow).symm
  | cons name rest ih =>
    rw [follow] at hfollow
    split at hfollow
    · have henter : enter tree folder name = enter before folder name := by
        refine h.enter_eq fun bytes hbytes => ?_
        -- a file on the way is neither the folder at the end nor one that is passed
        cases rest with
        | nil =>
          rw [follow, Option.some.injEq] at hfollow
          rw [hfollow, hfolder] at hbytes
          cases hbytes
        | cons next rest =>
          rw [follow, hbytes] at hfollow
          cases hfollow
      rw [henter] at hfollow
      exact ih hfollow
    · cases hfollow

/-- The folder at the end of a path has all its folders already. -/
theorem createDirAll_of_follow (hfollow : follow tree folder names = some place)
    (hfolder : tree place = some .folder) :
    createDirAll tree folder names = some tree := by
  induction names generalizing folder with
  | nil => rfl
  | cons name rest ih =>
    rw [follow] at hfollow
    split at hfollow
    · have hnext : tree (enter tree folder name) = some .folder := by
        cases rest with
        | nil =>
          rw [follow, Option.some.injEq] at hfollow
          rw [hfollow, hfolder]
        | cons next rest =>
          rw [follow] at hfollow
          split at hfollow
          · rename_i hpassed
            exact hpassed
          · cases hfollow
      simp only [createDirAll, hnext]
      exact ih hfollow
    · cases hfollow

theorem follow_of_parentOf {folder parent : Place}
    (hparent : parentOf tree folder names = some parent) :
    follow tree folder names.dropLast = some parent ∧ tree parent = some .folder := by
  unfold parentOf at hparent
  split at hparent
  · rename_i place hfollow
    split at hparent
    · rename_i hfolder
      cases hparent
      exact ⟨hfollow, hfolder⟩
    · cases hparent
  · cases hparent

/-- A file is made in the folder where its path led before. -/
theorem parentOf_eq {folder parent : Place} (h : Kept replaced before tree)
    (hparent : parentOf tree folder names = some parent) :
    parent = lead before folder names.dropLast := by
  obtain ⟨hfollow, hfolder⟩ := follow_of_parentOf hparent
  exact place_of_follow h hfollow hfolder

/-- Where a file can be made its folders are there. -/
theorem createDirAll_of_create {bytes : List UInt8} (h : create tree folder names bytes ≠ none) :
    createDirAll tree folder names.dropLast = some tree := by
  cases hparent : parentOf tree folder names with
  | none =>
    unfold create at h
    rw [hparent] at h
    exact absurd rfl h
  | some parent =>
    obtain ⟨hfollow, hfolder⟩ := follow_of_parentOf hparent
    exact createDirAll_of_follow hfollow hfolder

/-- Where a file comes to lie: in the place of its name, or where the name led before. -/
def target (replaced : Bool) (before : FileTree) (folder : Place) (names : List String) : Place :=
  match names.getLast? with
  | some name =>
    if replaced then lead before folder names.dropLast ++ [name]
    else enter before (lead before folder names.dropLast) name
  | none => folder

theorem unpack_eq {bytes : List UInt8} {made : FileTree} (h : Kept true before tree)
    (hmade : unpack tree folder names bytes = some (place, made)) :
    place = target true before folder names ∧ made = put tree place (.file bytes) := by
  unfold unpack at hmade
  split at hmade
  · rename_i parent name hparent hname
    split at hmade
    · cases hmade
    · cases hmade
      exact ⟨by simp only [target, hname, if_true, parentOf_eq h hparent], rfl⟩
  · cases hmade

/-- A file that is made lies where the folders lead, over no link. -/
theorem create_eq {bytes : List UInt8} {made : FileTree} (h : Kept false before tree)
    (hmade : create tree folder names bytes = some (place, made)) :
    place = target false before folder names ∧ made = put tree place (.file bytes) ∧
      linkAt tree place = none := by
  unfold create at hmade
  split at hmade
  · rename_i parent name hparent hname
    have hplace : enter tree parent name = target false before folder names := by
      simp only [target, hname, Bool.false_eq_true, if_false, h.enter_eq_of_false,
        parentOf_eq h hparent]
    simp only at hmade
    split at hmade
    · cases hmade
    · cases hmade
    · rename_i old hnode
      cases hmade
      exact ⟨hplace, rfl, by simp only [linkAt, hnode]⟩
    · rename_i hnode
      split at hmade
      · cases hmade
        exact ⟨hplace, rfl, by simp only [linkAt, hnode]⟩
      · cases hmade
  · cases hmade

/-! ## Many files and folders -/

/-- What is to be made: a folder, or a file with its content. -/
inductive Piece where
  | folder (names : List String)
  | file (names : List String) (bytes : List UInt8)

/-- A tree, and the files that have been written, with the place of each. -/
structure Writing where
  tree : FileTree
  written : List (Place × List UInt8)

/-- A piece is made; a file replaces a link, or is written through it. -/
def make (replaced : Bool) (folder : Place) (s : Writing) : Piece → Option Writing
  | .folder names => (createDirAll s.tree folder names).map fun tree => { s with tree }
  | .file names bytes =>
    (if replaced then unpack s.tree folder names bytes else create s.tree folder names bytes).map
      fun made => ⟨made.2, s.written ++ [(made.1, bytes)]⟩

/-- One after the other. -/
def makeAll (replaced : Bool) (folder : Place) : Writing → List Piece → Option Writing
  | s, [] => some s
  | s, piece :: pieces =>
    match make replaced folder s piece with
    | some s => makeAll replaced folder s pieces
    | none => none

theorem makeAll_append (replaced : Bool) (folder : Place) (s : Writing) (first later : List Piece) :
    makeAll replaced folder s (first ++ later) =
      (makeAll replaced folder s first).bind fun s => makeAll replaced folder s later := by
  induction first generalizing s with
  | nil => rfl
  | cons piece first ih =>
    rw [List.cons_append, makeAll, makeAll]
    cases make replaced folder s piece with
    | none => rfl
    | some next => exact ih next

/-- A piece is laid over the tree. -/
def lay (replaced : Bool) (before : FileTree) (folder : Place) (s : Writing) : Piece → Writing
  | .folder names => { s with tree := layFolders before s.tree folder names }
  | .file names bytes =>
    ⟨put s.tree (target replaced before folder names) (.file bytes),
      s.written ++ [(target replaced before folder names, bytes)]⟩

/-- All of them are laid over a tree as it was before. -/
def overlay (replaced : Bool) (before : FileTree) (folder : Place) (pieces : List Piece) :
    Writing :=
  pieces.foldl (lay replaced before folder) ⟨before, []⟩

/-- A piece that is made is laid over the tree. -/
theorem make_eq {s s' : Writing} {piece : Piece} (h : Kept replaced before s.tree)
    (hmade : make replaced folder s piece = some s') :
    s' = lay replaced before folder s piece ∧ Kept replaced before s'.tree := by
  cases piece with
  | folder names =>
    obtain ⟨tree, hdone, rfl⟩ := Option.map_eq_some_iff.mp hmade
    obtain ⟨rfl, hkept⟩ := createDirAll_eq h hdone
    exact ⟨rfl, hkept⟩
  | file names bytes =>
    obtain ⟨⟨place, tree⟩, hdone, rfl⟩ := Option.map_eq_some_iff.mp hmade
    cases replaced with
    | true =>
      obtain ⟨rfl, rfl⟩ := unpack_eq h hdone
      exact ⟨rfl, h.put_file (.inl rfl)⟩
    | false =>
      obtain ⟨rfl, rfl, hlink⟩ := create_eq h hdone
      exact ⟨rfl, h.put_file (.inr hlink)⟩

/-- So are pieces that are made one after the other. -/
theorem makeAll_foldl {s s' : Writing} {pieces : List Piece} (h : Kept replaced before s.tree)
    (hmade : makeAll replaced folder s pieces = some s') :
    s' = pieces.foldl (lay replaced before folder) s := by
  induction pieces generalizing s with
  | nil =>
    cases hmade
    rfl
  | cons piece pieces ih =>
    rw [makeAll] at hmade
    split at hmade
    · rename_i next hnext
      obtain ⟨rfl, hkept⟩ := make_eq h hnext
      exact ih hkept hmade
    · cases hmade

/-- **What is made is laid over**, as long as nothing fails. -/
theorem makeAll_eq {s : Writing} {pieces : List Piece}
    (hmade : makeAll replaced folder ⟨before, []⟩ pieces = some s) :
    s = overlay replaced before folder pieces :=
  makeAll_foldl (Kept.refl replaced before) hmade

/-! ## What is written is there -/

/-- At each place that was written lies the last file that was written there. -/
def WrittenThere (s : Writing) : Prop :=
  ∀ place ∈ s.written.map Prod.fst, ∃ bytes, s.tree place = some (.file bytes) ∧
    (place, bytes) ∈ s.written

/-- Folders are laid over nothing that is there. -/
theorem layFolders_of_some {node : FileNode} (h : tree place = some node) :
    layFolders before tree folder names place = some node := by
  induction names generalizing tree folder with
  | nil => exact h
  | cons name rest ih =>
    rw [layFolders]
    apply ih
    split
    · rename_i hnone
      have hne : place ≠ enter before folder name := by
        rintro rfl
        rw [h] at hnone
        cases hnone
      rw [put_of_ne hne]
      exact h
    · exact h

/-- What is laid down is where it was written. -/
theorem WrittenThere.lay {s : Writing} (h : WrittenThere s) (replaced : Bool) (before : FileTree)
    (folder : Place) (piece : Piece) : WrittenThere (lay replaced before folder s piece) := by
  intro place hplace
  cases piece with
  | folder names =>
    obtain ⟨bytes, hnode, hmem⟩ := h place hplace
    exact ⟨bytes, layFolders_of_some hnode, hmem⟩
  | file names bytes =>
    by_cases heq : place = target replaced before folder names
    · subst heq
      exact ⟨bytes, put_self _ _ _, List.mem_append_right _ (List.mem_singleton_self _)⟩
    · have hold : place ∈ s.written.map Prod.fst := by
        simp only [FileTree.lay, List.map_append, List.map_singleton, List.mem_append,
          List.mem_singleton] at hplace
        rcases hplace with hold | hnew
        · exact hold
        · exact absurd hnew heq
      obtain ⟨bytes, hnode, hmem⟩ := h place hold
      exact ⟨bytes, (put_of_ne heq _ _).trans hnode, List.mem_append_left _ hmem⟩

theorem writtenThere_overlay (replaced : Bool) (before : FileTree) (folder : Place)
    (pieces : List Piece) : WrittenThere (overlay replaced before folder pieces) := by
  have hrun (s : Writing) (h : WrittenThere s) :
      WrittenThere (pieces.foldl (FileTree.lay replaced before folder) s) := by
    induction pieces generalizing s with
    | nil => exact h
    | cons piece pieces ih => exact ih _ (h.lay replaced before folder piece)
  refine hrun ⟨before, []⟩ fun place hplace => ?_
  cases hplace

/-! ## What there is in the end -/

theorem layFolders_cases (before tree : FileTree) (folder : Place) (names : List String)
    (place : Place) :
    layFolders before tree folder names place = tree place ∨
      layFolders before tree folder names place = some .folder ∧
        ∃ part, part ≠ [] ∧ part <+: names ∧ place = lead before folder part := by
  induction names generalizing tree folder with
  | nil => exact .inl rfl
  | cons name rest ih =>
    rw [layFolders]
    rcases ih (if tree (enter before folder name) = none then
        put tree (enter before folder name) .folder else tree) (enter before folder name) with
      hsame | ⟨hfolder, part, -, hpart, rfl⟩
    · rw [hsame]
      split
      · by_cases hplace : place = enter before folder name
        · subst hplace
          refine .inr ⟨put_self _ _ _, [name], List.cons_ne_nil _ _, ?_, rfl⟩
          exact ⟨rest, rfl⟩
        · exact .inl (put_of_ne hplace _ _)
      · exact .inl rfl
    · refine .inr ⟨hfolder, name :: part, List.cons_ne_nil _ _, ?_, rfl⟩
      exact List.cons_prefix_cons.mpr ⟨rfl, hpart⟩

/-- A place is as before, or has been written, or is a folder of the path of one of the pieces. -/
def Accounted (before : FileTree) (folder : Place) (pieces : List Piece) (s : Writing)
    (place : Place) : Prop :=
  s.tree place = before place ∨ place ∈ s.written.map Prod.fst ∨
    s.tree place = some .folder ∧ ∃ names part, .folder names ∈ pieces ∧ part ≠ [] ∧
      part <+: names ∧ place = lead before folder part

/-- What a place holds comes from a piece, or was there before. -/
theorem Accounted.lay {pieces : List Piece} {s : Writing} {piece : Piece}
    (h : Accounted before folder pieces s place) (hpiece : piece ∈ pieces) :
    Accounted before folder pieces (lay replaced before folder s piece) place := by
  cases piece with
  | folder names =>
    rcases layFolders_cases before s.tree folder names place with
      hsame | ⟨hfolder, part, hne, hpart, hplace⟩
    · unfold Accounted
      simp only [FileTree.lay, hsame]
      exact h
    · exact .inr (.inr ⟨hfolder, names, part, hpiece, hne, hpart, hplace⟩)
  | file names bytes =>
    by_cases hplace : place = target replaced before folder names
    · refine .inr (.inl ?_)
      rw [FileTree.lay, List.map_append, hplace]
      exact List.mem_append_right _ (List.mem_singleton_self _)
    · unfold Accounted
      simp only [FileTree.lay, put_of_ne hplace, List.map_append]
      rcases h with hsame | hwritten | hfolder
      · exact .inl hsame
      · exact .inr (.inl (List.mem_append_left _ hwritten))
      · exact .inr (.inr hfolder)

/-- **After laying over** every place is accounted for. -/
theorem accounted_overlay (replaced : Bool) (before : FileTree) (folder : Place)
    (pieces : List Piece) (place : Place) :
    Accounted before folder pieces (overlay replaced before folder pieces) place := by
  have hrun (s : Writing) (rest : List Piece) (hrest : ∀ piece ∈ rest, piece ∈ pieces)
      (h : Accounted before folder pieces s place) :
      Accounted before folder pieces (rest.foldl (FileTree.lay replaced before folder) s)
        place := by
    induction rest generalizing s with
    | nil => exact h
    | cons piece rest ih =>
      exact ih _ (fun piece hpiece => hrest piece (List.mem_cons_of_mem _ hpiece))
        (h.lay (hrest piece List.mem_cons_self))
  exact hrun ⟨before, []⟩ pieces (fun _ hpiece => hpiece) (.inl rfl)

/-- What is written are the files of the pieces. -/
theorem written_overlay (replaced : Bool) (before : FileTree) (folder : Place)
    (pieces : List Piece) {place : Place}
    (h : place ∈ (overlay replaced before folder pieces).written.map Prod.fst) :
    ∃ names bytes, .file names bytes ∈ pieces ∧ place = target replaced before folder names := by
  have hrun (s : Writing) (rest : List Piece)
      (h : place ∈ (rest.foldl (lay replaced before folder) s).written.map Prod.fst) :
      place ∈ s.written.map Prod.fst ∨
        ∃ names bytes, .file names bytes ∈ rest ∧ place = target replaced before folder names := by
    induction rest generalizing s with
    | nil => exact .inl h
    | cons piece rest ih =>
      rcases ih (lay replaced before folder s piece) h with hold | ⟨names, bytes, hmem, hplace⟩
      · cases piece with
        | folder names => exact .inl hold
        | file names bytes =>
          rw [lay, List.map_append] at hold
          rcases List.mem_append.mp hold with hold | hnew
          · exact .inl hold
          · exact .inr ⟨names, bytes, List.mem_cons_self, List.mem_singleton.mp hnew⟩
      · exact .inr ⟨names, bytes, List.mem_cons_of_mem _ hmem, hplace⟩
  rcases hrun ⟨before, []⟩ pieces h with hnone | hfile
  · cases hnone
  · exact hfile

/-! ## An empty folder -/

/-- A folder with nothing in it. -/
structure Bare (before : FileTree) (folder : Place) : Prop where
  root : before folder = some .folder
  empty : ∀ names, names ≠ [] → before (folder ++ names) = none

variable {folder : Place}

/-- No path leads astray. -/
theorem Bare.enter_eq (h : Bare before folder) (names : List String) (name : String) :
    enter before (folder ++ names) name = folder ++ (names ++ [name]) := by
  have hnone : before (folder ++ (names ++ [name])) = none := by
    refine h.empty _ fun hnil => ?_
    cases (List.append_eq_nil_iff.mp hnil).2
  unfold enter linkAt
  rw [List.append_assoc, hnone]
  rfl

theorem Bare.lead_eq (h : Bare before folder) (names : List String) :
    lead before folder names = folder ++ names := by
  have hrun (done rest : List String) :
      lead before (folder ++ done) rest = folder ++ (done ++ rest) := by
    induction rest generalizing done with
    | nil =>
      rw [List.append_nil]
      rfl
    | cons name rest ih =>
      show lead before (enter before (folder ++ done) name) rest = _
      rw [h.enter_eq, ih, List.append_assoc, List.singleton_append]
  have hstart := hrun [] names
  rwa [List.append_nil, List.nil_append] at hstart

theorem Bare.target_eq (h : Bare before folder) (replaced : Bool) (hne : names ≠ []) :
    target replaced before folder names = folder ++ names := by
  have hsplit : names.dropLast ++ [names.getLast hne] = names := List.dropLast_append_getLast hne
  unfold target
  rw [List.getLast?_eq_some_getLast hne, h.lead_eq]
  cases replaced with
  | true =>
    simp only [if_true]
    rw [List.append_assoc, hsplit]
  | false =>
    simp only [Bool.false_eq_true, if_false]
    rw [h.enter_eq, hsplit]

end FileTree

end Lib
