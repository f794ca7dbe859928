/-!
Text handed over in byte buffers, and unit expressions taken from byte strings.
-/

namespace Dimensional.Handles

abbrev Bytes := List UInt8

def textBytes (text : String) : Bytes :=
  text.toUTF8.data.toList

/-- The buffer after a text is copied into it: cut off where it must, and always terminated. -/
def copyInto (text buffer : Bytes) : Bytes :=
  if buffer.isEmpty then []
  else
    let copied := text.take (buffer.length - 1)
    copied ++ 0 :: buffer.drop (copied.length + 1)

@[simp] theorem copyInto_nil (text : Bytes) : copyInto text [] = [] := rfl

theorem length_copyInto (text buffer : Bytes) : (copyInto text buffer).length = buffer.length := by
  cases buffer with
  | nil => rfl
  | cons byte rest =>
      simp [copyInto]
      omega

/-- The length that is reported for a text: that of the whole, however much was copied. -/
def reportedLength (text : Bytes) : Int :=
  min text.length 2147483647

/-- A byte string ends before its first zero byte. -/
def untilZero (bytes : Bytes) : Bytes :=
  bytes.takeWhile (· != 0)

def decodeText? (bytes : Bytes) : Option String :=
  String.fromUTF8? ⟨(untilZero bytes).toArray⟩

end Dimensional.Handles
