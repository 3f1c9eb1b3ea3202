/-!
# Access to files

A program reaches files by paths: it reads the bytes at a path or puts a text at one, and either may
fail. `FileAccess` is all that a run needs of files, in any monad. `FileSystem` gives this access in
a state, says which file a path leads to and what each file holds, and states what may be relied on:
reading changes nothing, and writing puts the whole text into one file or changes nothing. How paths
are walked, what a name may be and who may read or write is left to it.

* `decode_toUTF8`, `toUTF8_of_decode`: a text is read from the bytes that encode it and no others.
* `FileSystem.bytesAt?_of_textAt`: what is read is what the file holds.
* `FileSystem.readText_eq`: reading a text changes nothing.
-/

namespace ErSchema

/-- Why a path cannot be read or written. -/
inductive PathFault where
  | notFound
  | isDirectory
  | notDirectory
  | notText
  | other (text : String)
  deriving DecidableEq, Repr

/-- The message of a fault. -/
def PathFault.message : PathFault → String
  | notFound => "No such file or directory (os error 2)"
  | isDirectory => "Is a directory (os error 21)"
  | notDirectory => "Not a directory (os error 20)"
  | notText => "stream did not contain valid UTF-8"
  | other text => text

/-- The text that bytes encode. -/
def decode (bytes : ByteArray) : Except PathFault String :=
  match String.fromUTF8? bytes with
  | some text => .ok text
  | none => .error .notText

/-! ## Access -/

/-- Reading the bytes at a path, and putting a text at a path. -/
structure FileAccess (m : Type → Type) where
  readBytes (path : String) : m (Except PathFault ByteArray)
  writeText (path text : String) : m (Except PathFault Unit)

/-- Reads the text at a path. -/
def FileAccess.readText {m : Type → Type} [Monad m] (files : FileAccess m) (path : String) :
    m (Except PathFault String) := do
  let read ← files.readBytes path
  pure (read.bind decode)

/-- Files in states `σ`, which are known by `φ`. A path leads to a file that is there or, where
there is none, to the file that writing would make. -/
structure FileSystem (σ φ : Type) extends FileAccess (StateM σ) where
  /-- The file that a path leads to. -/
  fileAt? : σ → String → Option φ
  /-- The bytes that a file holds, if it is there. -/
  content? : σ → φ → Option ByteArray
  /-- Reading changes nothing. -/
  read_state (path : String) (s : σ) : ((readBytes path).run s).2 = s
  /-- What is read is what the file at the path holds. -/
  read_content {path : String} {s : σ} {bytes : ByteArray}
    (h : ((readBytes path).run s).1 = .ok bytes) :
    (fileAt? s path).bind (content? s) = some bytes
  /-- A write that fails changes nothing. -/
  write_fault {path text : String} {s : σ} {e : PathFault}
    (h : ((writeText path text).run s).1 = .error e) : ((writeText path text).run s).2 = s
  /-- A write that succeeds leaves the whole text in the file at the path. -/
  write_content {path text : String} {s s' : σ}
    (h : (writeText path text).run s = (.ok (), s')) :
    (fileAt? s' path).bind (content? s') = some text.toUTF8
  /-- A write changes no file but the one at the path. -/
  write_frame {path text : String} {s s' : σ} {f : φ}
    (h : (writeText path text).run s = (.ok (), s')) (hf : content? s' f ≠ content? s f) :
    fileAt? s path = some f

namespace FileSystem

variable {σ φ : Type}

/-- The bytes of the file that a path leads to. -/
def bytesAt? (fs : FileSystem σ φ) (s : σ) (path : String) : Option ByteArray :=
  (fs.fileAt? s path).bind (fs.content? s)

/-- What comes of reading the text at a path. -/
def textAt (fs : FileSystem σ φ) (s : σ) (path : String) : Except PathFault String :=
  ((fs.readBytes path).run s).1.bind decode

end FileSystem

/-! ## Lemmas -/

theorem decode_toUTF8 (text : String) : decode text.toUTF8 = .ok text := by
  unfold decode String.fromUTF8?
  rw [String.toUTF8_eq_toByteArray, dif_pos text.isValidUTF8]
  rfl

/-- Bytes that are a text are the bytes of that text. -/
theorem toUTF8_of_decode {bytes : ByteArray} {text : String} (h : decode bytes = .ok text) :
    text.toUTF8 = bytes := by
  unfold decode String.fromUTF8? at h
  split at h
  · rename_i s hs
    cases h
    split at hs
    · cases hs
      rfl
    · contradiction
  · contradiction

namespace FileSystem

variable {σ φ : Type} (fs : FileSystem σ φ)

/-- Reading a text changes nothing. -/
theorem readText_eq (path : String) (s : σ) :
    (fs.readText path).run s = (fs.textAt s path, s) := by
  have hstate : ((fs.readBytes path).run s).2 = s := fs.read_state path s
  exact Prod.ext rfl hstate

/-- What is read is what the file holds. -/
theorem bytesAt?_of_textAt {s : σ} {path text : String} (h : fs.textAt s path = .ok text) :
    fs.bytesAt? s path = some text.toUTF8 := by
  unfold textAt at h
  cases hread : ((fs.readBytes path).run s).1 with
  | error e =>
    rw [hread] at h
    contradiction
  | ok bytes =>
    rw [hread] at h
    rw [toUTF8_of_decode h]
    exact fs.read_content hread

end FileSystem

end ErSchema
