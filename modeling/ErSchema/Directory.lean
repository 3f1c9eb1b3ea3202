import ErSchema.Files
import Std.Data.TreeMap.Lemmas

/-!
# Directories of files

A tree of folders and files in which a program works. Everything in it has an address, the names on
the way to it from the root. A path is walked step by step from the working folder, or from the root
if it starts with a slash: a point stays, two points go up, and a name leads to what lies there
under this name. Only the last name of a path may be missing, which is then that of a new file.
Repeated slashes count as one; a slash at the end asks for a folder.

* `walk_point`, `walk_name_of_folder`: steps that stay and steps into a folder.
* `walk_congr`: where a path leads does not depend on what files hold.
* `Directory.fileSystem`: what a file system may be relied on to do, a directory does.
-/

namespace ErSchema

/-! ## Paths -/

/-- The names on the way to a file or a folder from the root. -/
abbrev Address := List String

/-- The steps of a path, which slashes stand between. -/
def pathSteps (path : String) : List String :=
  ((path.toList.splitOn '/').filter (· ≠ [])).map String.ofList

/-- Whether a path is walked from the root. -/
def startsAtRoot (path : String) : Bool := path.toList.head? = some '/'

/-- Whether a path asks for a folder. -/
def endsInSlash (path : String) : Bool := path.toList.getLast? = some '/'

/-! ## Directories -/

/-- What lies at an address. -/
inductive Node where
  | folder
  | file (bytes : ByteArray)

/-- What lies at each address below the root, and the folder in which a program works. -/
structure Directory where
  working : Address
  nodes : Std.TreeMap Address Node

/-- What a path leads to: a folder, or a file that is there or may be made. -/
inductive Place where
  | folder
  | file (address : Address)
  deriving DecidableEq, Repr

namespace Directory

/-- What lies at an address. The root is a folder. -/
def node? (d : Directory) (address : Address) : Option Node :=
  if address = [] then some .folder else d.nodes[address]?

/-- Whether a folder lies at an address. -/
def isFolder (d : Directory) (address : Address) : Bool :=
  match d.node? address with
  | some .folder => true
  | _ => false

/-- The content of a file. -/
def content? (d : Directory) (address : Address) : Option ByteArray :=
  match d.node? address with
  | some (.file bytes) => some bytes
  | _ => none

/-- The directory with something at an address. -/
def insert (d : Directory) (address : Address) (node : Node) : Directory :=
  { d with nodes := d.nodes.insert address node }

/-- The directory with a file some steps below a folder, and folders on the way to it. -/
def place (d : Directory) (here : Address) : List String → ByteArray → Directory
  | [], _ => d
  | [name], bytes => d.insert (here ++ [name]) (.file bytes)
  | name :: rest, bytes => (d.insert (here ++ [name]) .folder).place (here ++ [name]) rest bytes

/-- A working folder with nothing in it. -/
def empty : Directory := ⟨["work"], .ofList [(["work"], Node.folder)]⟩

/-- A working folder with the given files, by their paths from there. -/
def ofList (files : List (String × ByteArray)) : Directory :=
  files.foldl (fun d f => d.place d.working (pathSteps f.1) f.2) empty

/-- Walks from a folder. -/
def walk (d : Directory) (here : Address) : List String → Except PathFault Place
  | [] => .ok .folder
  | step :: rest =>
    if step = "." then d.walk here rest
    else if step = ".." then d.walk here.dropLast rest
    else if d.isFolder (here ++ [step]) then d.walk (here ++ [step]) rest
    else if rest.isEmpty then .ok (.file (here ++ [step]))
    else if (d.node? (here ++ [step])).isSome then .error .notDirectory
    else .error .notFound

/-- What a path leads to. The empty path leads nowhere. -/
def resolve (d : Directory) (path : String) : Except PathFault Place :=
  if path = "" then .error .notFound
  else d.walk (if startsAtRoot path then [] else d.working) (pathSteps path)

/-- The file that a path leads to. -/
def fileAt? (d : Directory) (path : String) : Option Address :=
  match d.resolve path with
  | .ok (.file address) => some address
  | _ => none

/-! ## Files -/

/-- The bytes at a path. -/
def readBytes (d : Directory) (path : String) : Except PathFault ByteArray :=
  match d.resolve path with
  | .error e => .error e
  | .ok .folder => .error .isDirectory
  | .ok (.file address) =>
    match d.content? address with
    | none => .error .notFound
    | some bytes => if endsInSlash path then .error .notDirectory else .ok bytes

/-- Puts a text at a path. -/
def writeText (d : Directory) (path text : String) : Except PathFault Directory :=
  match d.resolve path with
  | .error e => .error e
  | .ok .folder => .error .isDirectory
  | .ok (.file address) =>
    if endsInSlash path then .error .isDirectory
    else .ok (d.insert address (.file text.toUTF8))

/-- Access to the files of a directory. -/
def access : FileAccess (StateM Directory) where
  readBytes path := fun d => (d.readBytes path, d)
  writeText path text := fun d =>
    match d.writeText path text with
    | .ok after => (.ok (), after)
    | .error e => (.error e, d)

/-- The files below the working folder that `after` holds and `before` does not hold with the same
content, by their paths from there. -/
def changes (before after : Directory) : List (String × ByteArray) :=
  after.nodes.toList.filterMap fun (address, node) =>
    match node with
    | .folder => none
    | .file bytes =>
      if after.working.isPrefixOf address && before.content? address != some bytes then
        some ("/".intercalate (address.drop after.working.length), bytes)
      else none

/-! ## Lemmas -/

variable {d d' : Directory} {here address a : Address} {steps : List String}
  {path text name : String}

theorem walk_point (rest : List String) : d.walk here ("." :: rest) = d.walk here rest := by
  simp [walk]

theorem walk_name (h : name ≠ ".") (h' : name ≠ "..") (rest : List String)
    (hf : d.isFolder (here ++ [name]) = true) :
    d.walk here (name :: rest) = d.walk (here ++ [name]) rest := by
  simp [walk, h, h', hf]

/-- A file lies below the root, and at no folder. -/
theorem of_walk_eq_file (h : d.walk here steps = .ok (.file address)) :
    address ≠ [] ∧ d.isFolder address = false := by
  fun_induction walk d here steps with
  | case1 => cases h
  | case2 here rest ih => exact ih h
  | case3 here rest _ ih => exact ih h
  | case4 here step rest _ _ _ ih => exact ih h
  | case5 here step rest _ _ hfolder _ =>
    cases h
    exact ⟨by simp, by simpa using hfolder⟩
  | case6 => cases h
  | case7 => cases h

/-- **Where a path leads depends on the folders**, and not on what files hold. -/
theorem walk_congr (hfolders : ∀ a, d'.isFolder a = d.isFolder a) {place : Place}
    (h : d.walk here steps = .ok place) : d'.walk here steps = .ok place := by
  fun_induction walk d here steps with
  | case1 => exact h
  | case2 here rest ih => rw [walk_point]; exact ih h
  | case3 here rest hpoint ih => simp only [walk, hpoint, if_true, if_false, ih h]
  | case4 here step rest hpoint hup hfolder ih =>
    rw [walk_name hpoint hup rest ((hfolders _).trans hfolder)]
    exact ih h
  | case5 here step rest hpoint hup hfolder hend =>
    simp only [walk, hpoint, hup, hfolders, hfolder, hend, if_true, if_false]
    exact h
  | case6 => cases h
  | case7 => cases h

theorem node?_insert (hne : address ≠ []) (node : Node) :
    (d.insert address node).node? a = if address = a then some node else d.node? a := by
  unfold node? insert
  by_cases ha : a = []
  · rw [if_pos ha, if_pos ha, if_neg (ha ▸ hne)]
  · rw [if_neg ha, if_neg ha]
    simp [Std.TreeMap.getElem?_insert]

/-- Folders stay where a file is put at no folder. -/
theorem isFolder_insert_file (hne : address ≠ []) (hfile : d.isFolder address = false)
    (bytes : ByteArray) : (d.insert address (.file bytes)).isFolder a = d.isFolder a := by
  by_cases ha : address = a
  · subst ha
    rw [hfile, isFolder, node?_insert hne, if_pos rfl]
  · rw [isFolder, node?_insert hne, if_neg ha, isFolder]

theorem content?_insert_file (hne : address ≠ []) (bytes : ByteArray) :
    (d.insert address (.file bytes)).content? a =
      if address = a then some bytes else d.content? a := by
  rw [content?, node?_insert hne]
  by_cases ha : address = a
  · rw [if_pos ha, if_pos ha]
  · rw [if_neg ha, if_neg ha, content?]

theorem of_fileAt? (h : d.fileAt? path = some address) :
    d.resolve path = .ok (.file address) := by
  unfold fileAt? at h
  split at h <;> cases h
  assumption

/-- A path to a file leads there also once the file is written. -/
theorem fileAt?_insert_file (h : d.fileAt? path = some address) (bytes : ByteArray) :
    (d.insert address (.file bytes)).fileAt? path = some address := by
  have hresolve := of_fileAt? h
  unfold fileAt?
  unfold resolve at hresolve ⊢
  split at hresolve
  · cases hresolve
  · obtain ⟨hne, hfile⟩ := of_walk_eq_file hresolve
    have hwalk := walk_congr (fun _ => isFolder_insert_file hne hfile bytes) hresolve
    rw [if_neg ‹_›]
    simp only [insert] at hwalk ⊢
    rw [hwalk]

/-- A text can be written where a path leads to a file, and the file holds it then. -/
theorem of_writeText (h : d.writeText path text = .ok d') :
    ∃ address, d.fileAt? path = some address ∧ address ≠ [] ∧
      d' = d.insert address (.file text.toUTF8) := by
  unfold writeText at h
  split at h
  · cases h
  · cases h
  · rename_i address hresolve
    split at h
    · cases h
    · cases h
      refine ⟨address, by simp [fileAt?, hresolve], ?_, rfl⟩
      unfold resolve at hresolve
      split at hresolve
      · cases hresolve
      · exact (of_walk_eq_file hresolve).1

theorem of_readBytes {bytes : ByteArray} (h : d.readBytes path = .ok bytes) :
    ∃ address, d.fileAt? path = some address ∧ d.content? address = some bytes := by
  unfold readBytes at h
  split at h
  · cases h
  · cases h
  · rename_i address hresolve
    refine ⟨address, by simp [fileAt?, hresolve], ?_⟩
    split at h
    · cases h
    · split at h <;> cases h
      assumption

/-- **A directory is a file system.** -/
def fileSystem : FileSystem Directory Address where
  toFileAccess := access
  fileAt? := fileAt?
  content? := content?
  read_state _ _ := rfl
  read_content h := by
    obtain ⟨address, haddress, hbytes⟩ := of_readBytes h
    rw [haddress, Option.bind_some, hbytes]
  write_fault {path text d e} h := by
    simp only [access, StateT.run] at h ⊢
    split at h
    · cases h
    · rfl
  write_content {path text d d'} h := by
    simp only [access, StateT.run] at h
    split at h
    · cases h
      rename_i hwrite
      obtain ⟨address, haddress, hne, rfl⟩ := of_writeText hwrite
      rw [fileAt?_insert_file haddress, Option.bind_some, content?_insert_file hne, if_pos rfl]
    · cases h
  write_frame {path text d d' a} h ha := by
    simp only [access, StateT.run] at h
    split at h
    · cases h
      rename_i hwrite
      obtain ⟨address, haddress, hne, rfl⟩ := of_writeText hwrite
      rw [content?_insert_file hne] at ha
      split at ha
      · rw [haddress, ‹address = a›]
      · exact absurd rfl ha
    · cases h

/-- A text is put where a path leads to a file and does not ask for a folder. -/
theorem run_writeText (h : d.resolve path = .ok (.file address)) (hslash : endsInSlash path = false)
    (text : String) :
    (fileSystem.writeText path text).run d =
      (.ok (), d.insert address (.file text.toUTF8)) := by
  simp [fileSystem, access, writeText, StateT.run, h, hslash]

end Directory

end ErSchema
