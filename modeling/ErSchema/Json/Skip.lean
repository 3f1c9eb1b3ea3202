import ErSchema.Json.Values

/-!
# Passing JSON values

`skipValue` passes a value whose content does not matter. It nests to any depth, so the brackets
that are open are kept in a list and no call is nested; its numbers may have any size and its `\u`
escapes need not pair. Behind a comma it asks for what comes next as at the start of a list or an
object.

* `skipStep_progress`: each step passes at least one character.
-/

namespace ErSchema.Json

open Reader

/-- A list or an object that is open. -/
inductive Frame where
  | list
  | object
  deriving DecidableEq, Repr

/-- The bracket that closes a frame. -/
def Frame.close : Frame → Char
  | .list => ']'
  | .object => '}'

/-- Why a text must not end inside a frame. -/
def Frame.atEnd : Frame → Cause
  | .list => .endInList
  | .object => .endInObject

/-- Why nothing but a comma or the closing bracket may follow inside a frame. -/
def Frame.unexpected : Frame → Cause
  | .list => .expectedItemEnd
  | .object => .expectedMemberEnd

/-- The passing of a scalar by its first character, which has been passed. -/
def skipScalarFrom? (first : Char) : Option (Reader Unit) :=
  if first = '\"' then some skipStringBody
  else if first = 't' then some (word ['r', 'u', 'e'])
  else if first = 'f' then some (word ['a', 'l', 's', 'e'])
  else if first = 'n' then some (word ['u', 'l', 'l'])
  else if first = '-' ∨ first.isDigit then some (skipNumberFrom first)
  else none

/-- Passes a key and its colon. -/
def skipKey : Reader Unit := do
  match ← peekToken with
  | none => fail .endInObject 1
  | some c =>
    if c = '\"' then
      advance
      skipStringBody
      colon
    else
      fail .keyNotString 1

/-- Passes what a frame asks for before its next value: a key in an object. -/
def skipLabel : Frame → Reader Unit
  | .list => pure ()
  | .object => skipKey

/-- Behind a value inside frames, the innermost first: closes those that end here, and gives the
frames of the next value if there is one. -/
def closeFrames : List Frame → Reader (List Frame ⊕ Unit)
  | [] => pure (.inr ())
  | f :: fs => do
    match ← peekToken with
    | none => fail f.atEnd 1
    | some c =>
      if c = ',' then
        advance
        skipLabel f
        pure (.inl (f :: fs))
      else if c = f.close then
        advance
        closeFrames fs
      else
        fail f.unexpected 1

/-- Opens a frame behind its bracket: closes it at once, or gives the frames of its first value. -/
def openFrame (f : Frame) (fs : List Frame) : Reader (List Frame ⊕ Unit) := do
  match ← peekToken with
  | none => fail f.atEnd 1
  | some c =>
    if c = f.close then
      advance
      closeFrames fs
    else
      skipLabel f
      pure (.inl (f :: fs))

/-- Passes a scalar and what closes behind it, or an opening bracket. -/
def skipStep (fs : List Frame) : Reader (List Frame ⊕ Unit) := do
  match ← peekToken with
  | none => fail .endInValue 1
  | some c =>
    match skipScalarFrom? c with
    | some scalar =>
      advance
      scalar
      closeFrames fs
    | none =>
      if c = '[' then
        advance
        openFrame .list fs
      else if c = '{' then
        advance
        openFrame .object fs
      else
        fail .expectedValue 1

theorem skipStep_progress {fs next : List Frame} {s r : List Char}
    (h : (skipStep fs).run s = .ok (.inl next, r)) : r.length < s.length := by
  obtain ⟨c?, r₁, hp, h⟩ := run_bind_eq_ok h
  cases c? with
  | none => contradiction
  | some c =>
    obtain ⟨t, rfl, ht⟩ := peekToken_eq_some hp
    simp only at h
    split at h
    · rw [run_advance_bind] at h
      exact Nat.lt_of_le_of_lt (Reader.rest_le _ h) ht
    · split at h
      · rw [run_advance_bind] at h
        exact Nat.lt_of_le_of_lt (Reader.rest_le _ h) ht
      · split at h
        · rw [run_advance_bind] at h
          exact Nat.lt_of_le_of_lt (Reader.rest_le _ h) ht
        · contradiction

/-- Passes a value. -/
def skipValue : Reader Unit := iterate skipStep skipStep_progress []

end ErSchema.Json
