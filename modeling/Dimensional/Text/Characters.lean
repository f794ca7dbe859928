/-!
Characters: classes of them given as ascending ranges of code points, hexadecimal digits, and sizes
in UTF-8 bytes.
-/

namespace Dimensional.Text

abbrev CharTable := List (Nat × Nat)

namespace CharTable

def covers (table : CharTable) (code : Nat) : Bool :=
  table.any fun range => range.1 ≤ code && code ≤ range.2

/-- Each range is in order, and ends before the next begins. -/
def Ascending : CharTable → Prop
  | [] => True
  | [range] => range.1 ≤ range.2
  | range :: next :: rest => range.1 ≤ range.2 ∧ range.2 < next.1 ∧ Ascending (next :: rest)

instance decidableAscending : (table : CharTable) → Decidable table.Ascending
  | [] => .isTrue trivial
  | [range] => inferInstanceAs (Decidable (range.1 ≤ range.2))
  | range :: next :: rest =>
      have := decidableAscending (next :: rest)
      inferInstanceAs (Decidable (range.1 ≤ range.2 ∧ range.2 < next.1 ∧ Ascending (next :: rest)))

@[simp] theorem covers_nil (code : Nat) : covers [] code = false := rfl

@[simp] theorem covers_cons (range : Nat × Nat) (rest : CharTable) (code : Nat) :
    covers (range :: rest) code = ((range.1 ≤ code && code ≤ range.2) || covers rest code) := by
  simp [covers]

end CharTable

def hexValue? (c : Char) : Option Nat :=
  if c.isDigit then some (c.toNat - '0'.toNat)
  else if 'a' ≤ c ∧ c ≤ 'f' then some (c.toNat - 'a'.toNat + 10)
  else if 'A' ≤ c ∧ c ≤ 'F' then some (c.toNat - 'A'.toNat + 10)
  else none

def byteSize : List Char → Nat
  | [] => 0
  | c :: rest => c.utf8Size + byteSize rest

@[simp] theorem byteSize_nil : byteSize [] = 0 := rfl

@[simp] theorem byteSize_cons (c : Char) (rest : List Char) :
    byteSize (c :: rest) = c.utf8Size + byteSize rest := rfl

@[simp] theorem byteSize_append (front back : List Char) :
    byteSize (front ++ back) = byteSize front + byteSize back := by
  induction front with
  | nil => simp
  | cons c rest ih => simp [ih, Nat.add_assoc]

/-- The offset at which `rest` starts in a text that ends with it. -/
def offsetOf (text rest : List Char) : Nat :=
  byteSize text - byteSize rest

@[simp] theorem offsetOf_append (front rest : List Char) :
    offsetOf (front ++ rest) rest = byteSize front := by
  simp [offsetOf]

end Dimensional.Text
