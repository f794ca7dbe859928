import Dimensional.Units.Expression

/-!
The grammar of unit expressions as trees.  A tree holds everything that is written, white space and
leading zeros included, so that it has one text; what the text denotes is computed along the tree
from left to right.
-/

namespace Dimensional.Units.Grammar

open Text

/-- Characters of one class, possibly none. -/
structure Run (among : Char → Bool) where
  text : List Char
  mem_among : ∀ c ∈ text, among c = true

/-- At least one character of a class. -/
structure Word (among : Char → Bool) extends Run among where
  nonempty : text ≠ []

abbrev Blanks := Run isBlank

abbrev Digits := Word Char.isDigit

abbrev Name := Word isAlphabetic

namespace Digits

def value (digits : Digits) : Nat :=
  Number.natOfDigits digits.text

def Admissible (digits : Digits) : Prop :=
  digits.value ≤ Reader.maxLiteral

end Digits

inductive Sign where
  | absent
  | plus
  | minus

def Sign.text : Sign → List Char
  | absent => []
  | plus => ['+']
  | minus => ['-']

/-- No white space stands between the sign and the digits. -/
structure Integer where
  sign : Sign
  digits : Digits

namespace Integer

def text (n : Integer) : List Char :=
  n.sign.text ++ n.digits.text

def value (n : Integer) : Int :=
  match n.sign with
  | .minus => -(n.digits.value : Int)
  | _ => n.digits.value

end Integer

/-- What stands behind a `^`. -/
inductive Exponent where
  | bare (gap : Blanks) (n : Integer)
  | whole (gap inside : Blanks) (n : Integer) (last : Blanks)
  | fraction (gap inside : Blanks) (n : Integer) (before behind : Blanks) (d : Digits)
      (last : Blanks)

namespace Exponent

def text : Exponent → List Char
  | bare gap n => gap.text ++ n.text
  | whole gap inside n last => gap.text ++ '(' :: (inside.text ++ n.text ++ last.text ++ [')'])
  | fraction gap inside n before behind d last =>
      gap.text ++ '(' :: (inside.text ++ n.text ++ before.text ++ '/' ::
        (behind.text ++ d.text ++ last.text ++ [')']))

def value : Exponent → Rat
  | bare _ n => n.value
  | whole _ _ n _ => n.value
  | fraction _ _ n _ _ d _ => mkRat n.value d.value

/-- Every literal fits, and the denominator is not zero. -/
def Admissible : Exponent → Prop
  | bare _ n => n.digits.Admissible
  | whole _ _ n _ => n.digits.Admissible
  | fraction _ _ n _ _ d _ => n.digits.Admissible ∧ d.Admissible ∧ d.value ≠ 0

end Exponent

inductive Power where
  | absent
  | raised (gap : Blanks) (exponent : Exponent)

namespace Power

def text : Power → List Char
  | absent => []
  | raised gap exponent => gap.text ++ '^' :: exponent.text

def Admissible : Power → Prop
  | absent => True
  | raised _ exponent => exponent.Admissible

def applied? (power : Power) (m : Measure) : Option Measure :=
  match power with
  | absent => some m
  | raised _ exponent => m.power? exponent.value

end Power

/-- The digits of a power may stand right behind a symbol. -/
inductive SymbolPower where
  | glued (digits : Digits)
  | spaced (power : Power)

namespace SymbolPower

def text : SymbolPower → List Char
  | glued digits => digits.text
  | spaced power => power.text

def Admissible : SymbolPower → Prop
  | glued digits => digits.Admissible
  | spaced power => power.Admissible

def applied? (power : SymbolPower) (m : Measure) : Option Measure :=
  match power with
  | glued digits => m.power? digits.value
  | spaced power => power.applied? m

end SymbolPower

mutual
inductive Expression where
  | group (only : Group)
  | times (left : Expression) (gap : Blanks) (right : Group)
  | over (left : Expression) (gap : Blanks) (right : Group)

inductive Group where
  | factor (only : Factor)
  | hyphen (left : Group) (gap : Blanks) (right : Factor)

inductive Factor where
  | one (gap : Blanks) (power : Power)
  | symbol (gap : Blanks) (name : Name) (power : SymbolPower)
  | parenthesised (gap : Blanks) (inside : Expression) (last : Blanks) (power : Power)
end

mutual
def Expression.text : Expression → List Char
  | .group only => only.text
  | .times left gap right => left.text ++ gap.text ++ '*' :: right.text
  | .over left gap right => left.text ++ gap.text ++ '/' :: right.text

def Group.text : Group → List Char
  | .factor only => only.text
  | .hyphen left gap right => left.text ++ gap.text ++ '-' :: right.text

def Factor.text : Factor → List Char
  | .one gap power => gap.text ++ '1' :: power.text
  | .symbol gap name power => gap.text ++ name.text ++ power.text
  | .parenthesised gap inside last power =>
      gap.text ++ '(' :: (inside.text ++ last.text ++ ')' :: power.text)
end

/-! How many parentheses are open at once; those of exponents do not count. -/

mutual
def Expression.nesting : Expression → Nat
  | .group only => only.nesting
  | .times left _ right => max left.nesting right.nesting
  | .over left _ right => max left.nesting right.nesting

def Group.nesting : Group → Nat
  | .factor only => only.nesting
  | .hyphen left _ right => max left.nesting right.nesting

def Factor.nesting : Factor → Nat
  | .one _ _ => 0
  | .symbol _ _ _ => 0
  | .parenthesised _ inside _ _ => inside.nesting + 1
end

/-! Every symbol is known, every literal fits and no denominator is zero. -/

mutual
def Expression.Admissible (registry : Registry) : Expression → Prop
  | .group only => only.Admissible registry
  | .times left _ right => left.Admissible registry ∧ right.Admissible registry
  | .over left _ right => left.Admissible registry ∧ right.Admissible registry

def Group.Admissible (registry : Registry) : Group → Prop
  | .factor only => only.Admissible registry
  | .hyphen left _ right => left.Admissible registry ∧ right.Admissible registry

def Factor.Admissible (registry : Registry) : Factor → Prop
  | .one _ power => power.Admissible
  | .symbol _ name power =>
      (registry.resolve (String.ofList name.text)).isSome = true ∧ power.Admissible
  | .parenthesised _ inside _ power => inside.Admissible registry ∧ power.Admissible
end

/-! The measure, unless a symbol is unknown or a dimension on the way leaves its range. -/

mutual
def Expression.value? (registry : Registry) : Expression → Option Measure
  | .group only => only.value? registry
  | .times left _ right => do (← left.value? registry).mul? (← right.value? registry)
  | .over left _ right => do (← left.value? registry).div? (← right.value? registry)

def Group.value? (registry : Registry) : Group → Option Measure
  | .factor only => only.value? registry
  | .hyphen left _ right => do (← left.value? registry).mul? (← right.value? registry)

def Factor.value? (registry : Registry) : Factor → Option Measure
  | .one _ power => power.applied? .one
  | .symbol _ name power => do power.applied? (← registry.resolve (String.ofList name.text))
  | .parenthesised _ inside _ power => do power.applied? (← inside.value? registry)
end

/-!
A tree denotes a measure where at most so many parentheses are open at once.  The parts of a tree
that denotes something do so too, and what they denote is combined.
-/

def Expression.Denotes (registry : Registry) (depth : Nat) (tree : Expression) (m : Measure) :
    Prop :=
  tree.nesting ≤ depth ∧ tree.Admissible registry ∧ tree.value? registry = some m

def Group.Denotes (registry : Registry) (depth : Nat) (tree : Group) (m : Measure) : Prop :=
  tree.nesting ≤ depth ∧ tree.Admissible registry ∧ tree.value? registry = some m

def Factor.Denotes (registry : Registry) (depth : Nat) (tree : Factor) (m : Measure) : Prop :=
  tree.nesting ≤ depth ∧ tree.Admissible registry ∧ tree.value? registry = some m

variable {registry : Registry} {depth : Nat} {m : Measure}

/-- What an operator joins denotes something when both of its sides do and they combine. -/
theorem joined_iff {nestL nestR : Nat} {fitsL fitsR : Prop} {valueL valueR : Option Measure}
    {combine : Measure → Measure → Option Measure} :
    (max nestL nestR ≤ depth ∧ (fitsL ∧ fitsR) ∧
        (do combine (← valueL) (← valueR)) = some m) ↔
      ∃ a b, (nestL ≤ depth ∧ fitsL ∧ valueL = some a) ∧
        (nestR ≤ depth ∧ fitsR ∧ valueR = some b) ∧ combine a b = some m := by
  constructor
  · rintro ⟨nesting, ⟨hL, hR⟩, value⟩
    obtain ⟨leL, leR⟩ := Nat.max_le.mp nesting
    obtain ⟨a, foundL, value⟩ := Option.bind_eq_some_iff.mp value
    obtain ⟨b, foundR, value⟩ := Option.bind_eq_some_iff.mp value
    exact ⟨a, b, ⟨leL, hL, foundL⟩, ⟨leR, hR, foundR⟩, value⟩
  · rintro ⟨a, b, ⟨leL, hL, rfl⟩, ⟨leR, hR, rfl⟩, value⟩
    exact ⟨Nat.max_le.mpr ⟨leL, leR⟩, ⟨hL, hR⟩, value⟩

theorem Expression.denotes_group {only : Group} :
    (Expression.group only).Denotes registry depth m ↔ only.Denotes registry depth m :=
  Iff.rfl

theorem Expression.denotes_times {left : Expression} {gap : Blanks} {right : Group} :
    (Expression.times left gap right).Denotes registry depth m ↔
      ∃ a b, left.Denotes registry depth a ∧ right.Denotes registry depth b ∧
        a.mul? b = some m :=
  joined_iff

theorem Expression.denotes_over {left : Expression} {gap : Blanks} {right : Group} :
    (Expression.over left gap right).Denotes registry depth m ↔
      ∃ a b, left.Denotes registry depth a ∧ right.Denotes registry depth b ∧
        a.div? b = some m :=
  joined_iff

theorem Group.denotes_factor {only : Factor} :
    (Group.factor only).Denotes registry depth m ↔ only.Denotes registry depth m :=
  Iff.rfl

theorem Group.denotes_hyphen {left : Group} {gap : Blanks} {right : Factor} :
    (Group.hyphen left gap right).Denotes registry depth m ↔
      ∃ a b, left.Denotes registry depth a ∧ right.Denotes registry depth b ∧
        a.mul? b = some m :=
  joined_iff

theorem Factor.denotes_one {gap : Blanks} {power : Power} :
    (Factor.one gap power).Denotes registry depth m ↔
      power.Admissible ∧ power.applied? .one = some m := by
  constructor
  · rintro ⟨-, fits, value⟩
    exact ⟨fits, value⟩
  · rintro ⟨fits, value⟩
    exact ⟨Nat.zero_le depth, fits, value⟩

theorem Factor.denotes_symbol {gap : Blanks} {name : Name} {power : SymbolPower} :
    (Factor.symbol gap name power).Denotes registry depth m ↔
      power.Admissible ∧ ∃ a, registry.resolve (String.ofList name.text) = some a ∧
        power.applied? a = some m := by
  constructor
  · rintro ⟨-, ⟨-, fits⟩, value⟩
    exact ⟨fits, Option.bind_eq_some_iff.mp value⟩
  · rintro ⟨fits, a, known, value⟩
    refine ⟨Nat.zero_le depth, ⟨?_, fits⟩, Option.bind_eq_some_iff.mpr ⟨a, known, value⟩⟩
    rw [known]
    rfl

theorem Factor.denotes_parenthesised {gap last : Blanks} {inside : Expression} {power : Power} :
    (Factor.parenthesised gap inside last power).Denotes registry depth m ↔
      ∃ further a, depth = further + 1 ∧ inside.Denotes registry further a ∧
        power.Admissible ∧ power.applied? a = some m := by
  constructor
  · rintro ⟨nesting, ⟨fitsIn, fits⟩, value⟩
    obtain ⟨a, valueIn, value⟩ := Option.bind_eq_some_iff.mp value
    cases depth with
    | zero => exact absurd nesting (Nat.not_succ_le_zero _)
    | succ further =>
        have le : inside.nesting ≤ further := Nat.le_of_succ_le_succ nesting
        exact ⟨further, a, rfl, ⟨le, fitsIn, valueIn⟩, fits, value⟩
  · rintro ⟨further, a, rfl, ⟨le, fitsIn, valueIn⟩, fits, value⟩
    exact ⟨Nat.succ_le_succ le, ⟨fitsIn, fits⟩, Option.bind_eq_some_iff.mpr ⟨a, valueIn, value⟩⟩

end Dimensional.Units.Grammar
