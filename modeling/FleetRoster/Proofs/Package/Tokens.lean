import Mathlib.Data.List.Basic
import FleetRoster.Package.Version

/-!
# The tokens of a version

Read byte by byte, a version is a sequence of tokens: tildes, carets, numbers and runs of letters,
with whatever separates them left out and a last token where it ends. Tokens are ordered by their
kinds, numbers among themselves by value and runs of letters by their bytes, and sequences of tokens
by the first difference. That the end is a token of its own is what lets a tilde stand before it and
everything else after it.
-/

namespace FleetRoster.Package.Version

/-- A part of a version that counts. -/
inductive Token
  | tilde
  | finish
  | caret
  | letters (bytes : List UInt8)
  | number (value : Nat)
  deriving DecidableEq, Repr

namespace Token

/-- The place of a kind of token among the kinds. -/
def rank : Token → Nat
  | tilde => 0
  | finish => 1
  | caret => 2
  | letters _ => 3
  | number _ => 4

/-- The order of tokens: by their kinds, runs of letters by their bytes, numbers by value. -/
def order : Token → Token → Ordering
  | letters a, letters b => compare a b
  | number m, number n => compare m n
  | s, t => compare s.rank t.rank

end Token

/-- Whether a byte is a digit. -/
def isDigitByte (b : UInt8) : Bool :=
  48 ≤ b.toNat && b.toNat ≤ 57

/-- Whether a byte is a letter. -/
def isLetterByte (b : UInt8) : Bool :=
  (65 ≤ b.toNat && b.toNat ≤ 90) || (97 ≤ b.toNat && b.toNat ≤ 122)

/-- The number that digits stand for. -/
def decimal (digits : List UInt8) : Nat :=
  digits.foldl (fun n d => n * 10 + (d.toNat - 48)) 0

/-- The tokens of a sequence of bytes. A run of digits or letters goes as far as it can. -/
def tokens : List UInt8 → List Token
  | [] => [.finish]
  | b :: rest =>
    if b = 126 then .tilde :: tokens rest
    else if b = 94 then .caret :: tokens rest
    else if isDigitByte b then
      .number (decimal (b :: rest.takeWhile isDigitByte)) :: tokens (rest.dropWhile isDigitByte)
    else if isLetterByte b then
      .letters (b :: rest.takeWhile isLetterByte) :: tokens (rest.dropWhile isLetterByte)
    else tokens rest
termination_by bytes => bytes.length
decreasing_by
  all_goals have := (List.dropWhile_suffix isDigitByte (l := rest)).length_le
  all_goals have := (List.dropWhile_suffix isLetterByte (l := rest)).length_le
  all_goals simp only [List.length_cons]; omega

/-- The tokens of a text. -/
def tokensOf (text : String) : List Token :=
  tokens text.toUTF8.data.toList

/-- The order of sequences of tokens, by the first difference. -/
def compareTokens : List Token → List Token → Ordering :=
  List.compareLex Token.order

theorem compareTokens_cons (s t : Token) (ss ts : List Token) :
    compareTokens (s :: ss) (t :: ts) = (s.order t).then (compareTokens ss ts) :=
  List.compareLex_cons_cons

/-! ## Laws of the order -/

instance : Std.TransCmp Token.order where
  eq_swap {s t} := by
    cases s <;> cases t
    case letters.letters => exact Std.OrientedOrd.eq_swap
    case number.number => exact Std.OrientedOrd.eq_swap
    all_goals rfl
  isLE_trans {s t u} first second := by
    cases s <;> cases t <;> cases u
    case letters.letters.letters => exact Std.TransOrd.isLE_trans first second
    case number.number.number => exact Std.TransOrd.isLE_trans first second
    all_goals simp_all [Token.order, Token.rank, Nat.isLE_compare]

instance : Std.LawfulEqCmp Token.order where
  compare_self {s} := by
    cases s <;> simp [Token.order]
  eq_of_compare {s t} := by
    cases s <;> cases t <;> simp [Token.order, Token.rank]

instance : Std.TransCmp compareTokens :=
  inferInstanceAs (Std.TransCmp (List.compareLex Token.order))

instance : Std.LawfulEqCmp compareTokens :=
  inferInstanceAs (Std.LawfulEqCmp (List.compareLex Token.order))

end FleetRoster.Package.Version
