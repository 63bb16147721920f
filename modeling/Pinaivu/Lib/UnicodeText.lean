import Mathlib.Algebra.GroupWithZero.Nat

/-!
Text as lists of characters: white space, words, and cuts counted in UTF-8 bytes.
-/

namespace UnicodeText

/-- The characters with the property White_Space. -/
def isWhitespace (char : Char) : Bool :=
  let code := char.toNat
  (9 ≤ code && code ≤ 13) || code = 32 || code = 0x85 || code = 0xA0 || code = 0x1680 ||
    (0x2000 ≤ code && code ≤ 0x200A) || code = 0x2028 || code = 0x2029 || code = 0x202F ||
    code = 0x205F || code = 0x3000

def trim (text : String) : List Char :=
  ((text.toList.dropWhile isWhitespace).reverse.dropWhile isWhitespace).reverse

theorem dropWhile_visible {text : List Char} (visible : text.all (fun char => !isWhitespace char) = true) :
    text.dropWhile isWhitespace = text := by
  cases text with
  | nil => rfl
  | cons char text =>
      have first : isWhitespace char = false := by
        simp only [List.all_cons, Bool.and_eq_true, Bool.not_eq_true'] at visible
        exact visible.1
      simp [first]

theorem trim_visible {text : List Char} (visible : text.all (fun char => !isWhitespace char) = true) :
    trim (String.ofList text) = text := by
  have back : text.reverse.all (fun char => !isWhitespace char) = true := by rwa [List.all_reverse]
  rw [trim, String.toList_ofList, dropWhile_visible visible, dropWhile_visible back, List.reverse_reverse]

def byteLength (text : List Char) : Nat := (text.map Char.utf8Size).sum

/-- `&text[count..]`; `none` is the panic inside a character. -/
def byteDrop : Nat → List Char → Option (List Char)
  | 0, text => some text
  | _ + 1, [] => none
  | count + 1, char :: rest =>
      if char.utf8Size ≤ count + 1 then byteDrop (count + 1 - char.utf8Size) rest else none

def words (text : String) : List (List Char) :=
  (text.toList.splitOnP isWhitespace).filter fun piece => !piece.isEmpty

end UnicodeText
